import Mathlib.Logic.Relation
import ReverseComm.Proofs.Session.Lifecycle

/-!
# Sessions in the hands of a callback

The callback that reports iterations is handed the session, in the middle of a round of its loop.
It may carry out any operation of the session, finalizing it included, for which the stage of the
loop is a right one; it may write into the memory; and it may act on whatever else it knows of.
Where it is handed the library too, it may call the solver directly.  `Handling` is one such step,
and `Handles` a sequence of them.

Whatever it does, the session stays `Inside`: in the loop, or finalized.  What `Upheld` asks of a
property of sessions is what makes it survive that, and `Carried` collects what makes it survive a
loop with such a callback.  Two properties are carried.

* `Ledgered`: the calls are in order.  It takes a callback that does not call the solver directly,
  and that does not let the loop go on with a session which it has finalized.
* `SettledSince`: a solver that was initialized has allocated memory or has been released, and the
  library has not been closed since.  This is less than order, and it takes nothing else.
-/

namespace ReverseComm.Session

open ReverseComm.Action

variable {ω : Type}

/-! ## Operations other than the loop -/

/-- An operation that does not run the loop. -/
def Operation.Plain : Operation ω → Prop
  | .run _ _ _ _ => False
  | _ => True

lemma Operation.Plain.quiet {op : Operation ω} (h : op.Plain) : op.Quiet := by
  cases op with
  | run => exact h.elim
  | preInit | readParams | declare | init | seed | finalize | buffer | leave => trivial

section

variable {R : Session (Recorded ω) → Session (Recorded ω) → Prop}
  [IsPreorder (Session (Recorded ω)) R]

/-- What the calls of an operation keep, and what is kept by all that leaves the hidden state alone,
the operation keeps. -/
lemma keeps_perform {L : Library ω} (hcall : ∀ c, (call (Recorded.library L) c).Keeps R)
    (hown : ∀ s s', s'.hidden = s.hidden → R s s') {op : Operation ω} (plain : op.Plain)
    (screenOutput : Bool) : (op.perform L screenOutput).Keeps R := by
  have own : ∀ s s', Own s s' → R s s' := fun s s' h => hown s s' h.hidden
  cases op with
  | preInit => exact keeps_preInit own hcall
  | readParams host file =>
    exact (keeps_readParams own hcall host file).bind fun _ => keeps_pure _
  | declare n m => exact keeps_declare own n m
  | init => exact keeps_init own hcall
  | seed x f lower upper equalities => exact keeps_seed own _ x f lower upper equalities
  | run => exact plain.elim
  | finalize => exact keeps_finalize own hcall
  | buffer symbol =>
    exact keeps_get.bind fun s => (keeps_liftExcept _).bind fun _ => keeps_pure _
  | leave => exact keeps_leave own hcall

end

section

variable {direct : Prop} {L : Library ω} {screenOutput : Bool} {s s' : Session (Recorded ω)}

/-- No operation of a session closes the library. -/
lemma closings_perform {op : Operation ω} (plain : op.Plain) (screenOutput : Bool) :
    (op.perform L screenOutput).Keeps (Same fun s => s.hidden.closings) := by
  refine keeps_perform (fun c s => ?_) (fun s s' h => ?_) plain screenOutput
  · obtain ⟨m, w, hcall⟩ := call_recorded (Prod.eta ((call (Recorded.library L) c).runOn s)).symm
    rw [hcall]
    rfl
  · exact congrArg Recorded.closings h

/-! ## What a callback may do -/

/-- The session is in its loop, or has been finalized. -/
def Inside (s : Session (Recorded ω)) : Prop :=
  s.stage = some .running ∨ s.stage = some .finalized

/-- One thing that a callback may do with the session that it is handed.  Only if it is handed the
library as well it may call the solver directly. -/
inductive Handling (direct : Prop) (L : Library ω) (screenOutput : Bool) :
    Session (Recorded ω) → Session (Recorded ω) → Prop
  /-- Carry out an operation. -/
  | perform (op : Operation ω) (s) : Handling direct L screenOutput s
      ((op.perform L screenOutput).runOn s).2
  /-- Call the solver. -/
  | call (h : direct) (c : Call) (s) : Handling direct L screenOutput s
      ((Session.call (Recorded.library L) c).runOn s).2
  /-- Write into the memory. -/
  | write (memory : Memory) (s) : Handling direct L screenOutput s { s with memory := memory }
  /-- Give messages, and act on what is not the session's. -/
  | aside (messages : List Message) (w : ω) (s) : Handling direct L screenOutput s
      { s with messages := messages, hidden.hidden := w }

/-- Any number of such things, one after another. -/
def Handles (direct : Prop) (L : Library ω) (screenOutput : Bool) :
    Session (Recorded ω) → Session (Recorded ω) → Prop :=
  Relation.ReflTransGen (Handling direct L screenOutput)

/-- A callback that handles the sessions that it is handed.  It may raise a fault at any point. -/
def Handled (direct : Prop) (L : Library ω) (screenOutput : Bool)
    (a : Action (Session (Recorded ω)) Unit) : Prop :=
  ∀ s, Inside s → Handles direct L screenOutput s (a.runOn s).2

/-- Inside, a loop is refused, whatever its callback would do. -/
lemma perform_run_of_inside (inside : Inside s) {op : Operation ω} (loop : ¬ op.Plain) :
    ((op.perform L screenOutput).runOn s).2 = s := by
  cases op with
  | run fitness report memo budget =>
    have wrong : (Operation.run fitness report memo budget).admits s.stage = false := by
      rcases inside with h | h
      · rw [h]
        rfl
      · rw [h]
        rfl
    rw [perform_of_not_admits rfl wrong]
  | preInit | readParams | declare | init | seed | finalize | buffer | leave =>
    exact absurd trivial loop

/-- How far a session has come: its stage, and the record of what it has asked of the library. -/
def trace (s : Session (Recorded ω)) : Option Stage × List CallRecord × List ℕ :=
  (s.stage, s.hidden.entries)

lemma trace_call (c : Call) :
    ∃ record : CallRecord, record.toReply.call = c ∧
      trace ((call (Recorded.library L) c).runOn s).2 =
        (s.stage, s.hidden.calls ++ [record], s.hidden.closings) := by
  obtain ⟨m, w, hcall⟩ := call_recorded (Prod.eta ((call (Recorded.library L) c).runOn s)).symm
  rw [hcall]
  exact ⟨_, rfl, rfl⟩

/-- A property of how far a session has come that plain operations uphold, whatever they come to,
and that direct calls uphold where there are any. -/
structure Upheld (direct : Prop) (L : Library ω) (screenOutput : Bool)
    (Inv : Session (Recorded ω) → Prop) : Prop where
  perform : ∀ op : Operation ω, op.Plain → (op.perform L screenOutput).Keeps (Preserving Inv)
  call : direct → ∀ c s, Inside s → Inv s → Inv ((call (Recorded.library L) c).runOn s).2
  ofTrace : ∀ s s', trace s' = trace s → Inv s → Inv s'

lemma Handling.preserves {Inv : Session (Recorded ω) → Prop}
    (upheld : Upheld direct L screenOutput Inv) (inside : Inside s) (hs : Inv s)
    (h : Handling direct L screenOutput s s') : Inv s' := by
  cases h with
  | perform op =>
    by_cases plain : op.Plain
    · exact upheld.perform op plain s hs
    · rw [perform_run_of_inside inside plain]
      exact hs
  | call h c => exact upheld.call h c s inside hs
  | write m => exact upheld.ofTrace s _ rfl hs
  | aside messages w => exact upheld.ofTrace s _ rfl hs

lemma inside_iff : Inside s ↔ Stage.rankOf (some .running) ≤ Stage.rankOf s.stage := by
  unfold Inside
  rcases s.stage with _ | stage
  · simp [Stage.rankOf]
  · cases stage with
    | running | finalized => simp [Stage.rankOf, Stage.rank]
    | created | paramsLoaded | sized | initialized | seeded => simp [Stage.rankOf, Stage.rank]

lemma inside_of_trace (h : trace s' = trace s) (hs : Inside s) : Inside s' := by
  have hstage : s'.stage = s.stage := congrArg Prod.fst h
  rwa [Inside, hstage]

lemma upheld_inside : Upheld direct L screenOutput Inside where
  perform op plain s hs := by
    have hmoves := moves_perform plain.quiet (Prod.eta ((op.perform L screenOutput).runOn s)).symm
    exact inside_iff.mpr (Nat.le_trans (inside_iff.mp hs) hmoves.monotone)
  call _ c s inside _ := inside
  ofTrace _ _ := inside_of_trace

/-- What plain operations uphold is preserved by everything that a callback may do. -/
theorem Handles.preserves {Inv : Session (Recorded ω) → Prop}
    (upheld : Upheld direct L screenOutput Inv) (inside : Inside s) (hs : Inv s)
    (h : Handles direct L screenOutput s s') : Inside s' ∧ Inv s' := by
  induction h with
  | refl => exact ⟨inside, hs⟩
  | tail _ hstep ih =>
    exact ⟨hstep.preserves upheld_inside ih.1 ih.1, hstep.preserves upheld ih.1 ih.2⟩

/-! ## Loops with such a callback -/

/-- Properties of how far a session has come that its loop maintains, whatever is evaluated: `P` as
long as the loop goes on, and `E` once a fault has broken it off.  What is done at an iteration is
one of `reports`, though not the same every time. -/
structure Carried (L : Library ω) (reports : Set (Action (Session (Recorded ω)) Unit))
    (P E : Session (Recorded ω) → Prop) : Prop where
  call : ∀ c : Call, c.inLoop = true → (Session.call (Recorded.library L) c).Maintains P E
  ofTrace : ∀ s s', trace s' = trace s → P s → P s'
  report : ∀ a ∈ reports, a.Maintains P E
  fault : ∀ s, P s → E s

lemma Carried.maintains_of_trace {α : Type} {reports : Set (Action (Session (Recorded ω)) Unit)}
    {P E : Session (Recorded ω) → Prop} (carried : Carried L reports P E)
    {a : Action (Session (Recorded ω)) α} (ha : a.Keeps (Same trace)) : a.Maintains P E := by
  have hpreserving : a.Keeps (Preserving P) := ha.mono fun s s' h => carried.ofTrace s s' h
  exact hpreserving.maintains carried.fault

lemma Carried.guarded {report : Option (Action (Session (Recorded ω)) Unit)}
    {P E : Session (Recorded ω) → Prop} (carried : Carried L {a | a ∈ report} P E)
    (fitness : List Float → Action ω Tensor) :
    Loop.Guarded (Recorded.library L) (Operation.service fitness report) P E where
  call := carried.call
  memory s m hs := carried.ofTrace s _ rfl hs
  fitness x := by
    have hrecord := Recorded.keeps_aside (fitness x)
    exact carried.maintains_of_trace (hrecord.zoom fun s _ h => congrArg (Prod.mk s.stage) h)
  report := carried.report
  fault := carried.fault

/-- A property of how far a session has come that endures the whole of it: its operations, and a
loop that reports to a callback. -/
structure Endures (L : Library ω) (screenOutput : Bool)
    (reports : Set (Action (Session (Recorded ω)) Unit)) (Inv : Session (Recorded ω) → Prop) :
    Prop where
  perform : ∀ op : Operation ω, op.Plain → (op.perform L screenOutput).Keeps (Preserving Inv)
  ofTrace : ∀ s s', trace s' = trace s → Inv s → Inv s'
  loop : ∃ P E, Carried L reports P E ∧
    (∀ s, s.stage = some .seeded → Inv s → P { s with stage := some .running }) ∧ ∀ s, E s → Inv s

lemma Endures.keeps_run {report : Option (Action (Session (Recorded ω)) Unit)}
    {Inv : Session (Recorded ω) → Prop} (endures : Endures L screenOutput {a | a ∈ report} Inv)
    (fitness : List Float → Action ω Tensor) (memo : Memo) (budget : ℕ) :
    ((Operation.run fitness report memo budget).perform L screenOutput).Keeps (Preserving Inv) := by
  obtain ⟨P, E, carried, enter, leave⟩ := endures.loop
  refine Keeps.bind ?_ fun _ => keeps_pure _
  have hrun := (carried.guarded fitness).run enter leave budget
  exact hrun.zoom fun s r h => h

/-! ## What is preserved -/

/-- The stage goes with the calls, as it does without a callback. -/
def Ledgered (s : Session (Recorded ω)) : Prop := Ledger s.stage s.hidden.replies

lemma replies_of_trace (h : trace s' = trace s) : s'.hidden.replies = s.hidden.replies :=
  Recorded.replies_congr (congrArg (fun t => t.2.1) h)

lemma ledgered_of_trace (h : trace s' = trace s) (hs : Ledgered s) : Ledgered s' := by
  have hstage : s'.stage = s.stage := congrArg Prod.fst h
  rw [Ledgered, hstage, replies_of_trace h]
  exact hs

lemma upheld_ledgered : Upheld False L screenOutput (Ledgered (ω := ω)) where
  perform _ plain _ hs := ledger_perform plain.quiet hs
  call h := h.elim
  ofTrace _ _ := ledgered_of_trace

/-- A callback that finalizes a session, if it does, does not let the loop go on with it: it raises
a fault. -/
def Defers (a : Action (Session (Recorded ω)) Unit) : Prop :=
  ∀ s s', s.stage = some .running → a.runOn s = (.ok (), s') → s'.stage = some .running

/-- A loop leaves the calls in order, unless its callback lets it go on with a finalized session. -/
lemma carried_ledgered {reports : Set (Action (Session (Recorded ω)) Unit)}
    (handled : ∀ a ∈ reports, Handled False L screenOutput a) (defers : ∀ a ∈ reports, Defers a) :
    Carried L reports (fun s => s.stage = some .running ∧ Ledgered s) Ledgered where
  call c hc := by
    have hcall : (call (Recorded.library L) c).Keeps
        (Preserving fun s => s.stage = some .running ∧ Ledgered s) := by
      rintro s ⟨hstage, hs⟩
      have hrun := (Prod.eta ((call (Recorded.library L) c).runOn s)).symm
      refine ⟨(stage_call hrun).trans hstage, ?_⟩
      have halloc : Stage.allocated s.stage = true := by rw [hstage]; rfl
      rw [Ledgered, stage_call hrun, replies_call hrun]
      exact hs.loop halloc halloc fun r hr => by rwa [List.mem_singleton.mp hr]
    exact hcall.maintains fun s hs => hs.2
  ofTrace s s' h hs := ⟨(congrArg Prod.fst h : s'.stage = s.stage).trans hs.1,
    ledgered_of_trace h hs.2⟩
  report a ha := by
    rintro s ⟨hstage, hs⟩
    have hend := (handled a ha s (.inl hstage)).preserves upheld_ledgered (.inl hstage) hs
    refine ⟨fun x v hrun => ⟨defers a ha s v hstage hrun, ?_⟩, fun fault v hrun => ?_⟩
    · rw [hrun] at hend
      exact hend.2
    · rw [hrun] at hend
      exact hend.2
  fault _ hs := hs.2

lemma endures_ledgered {reports : Set (Action (Session (Recorded ω)) Unit)}
    (handled : ∀ a ∈ reports, Handled False L screenOutput a) (defers : ∀ a ∈ reports, Defers a) :
    Endures L screenOutput reports Ledgered where
  perform := upheld_ledgered.perform
  ofTrace _ _ := ledgered_of_trace
  loop := by
    refine ⟨_, _, carried_ledgered handled defers, fun s hstage hs => ⟨rfl, ?_⟩, fun _ => id⟩
    rw [Ledgered, hstage] at hs
    have hentered : Ledger (some .running) (s.hidden.replies ++ []) := hs.loop rfl rfl (by simp)
    rwa [List.append_nil] at hentered

/-- Where the solver has been initialized, the stage has come that far, and in the last stage the
memory has been released. -/
structure Settled (stage : Option Stage) (replies : List Reply) : Prop where
  initialized : (∃ r ∈ replies, r.initializes = true) →
    Stage.rankOf (some .initialized) ≤ Stage.rankOf stage
  released : stage = some .finalized → ∃ r ∈ replies, r.releases = true

/-- Only one of the first operations initializes the solver. -/
lemma Attempt.of_initializes {op : Operation ω} {outcome : Except Fault Unit} {added : List Reply}
    (h : Attempt op outcome added) (hinit : ∃ r ∈ added, r.initializes = true) :
    op.goal = some .initialized ∧ outcome = .ok () := by
  obtain ⟨r, hr, hinitializes⟩ := hinit
  cases h with
  | init call =>
    rw [List.mem_singleton.mp hr] at hinitializes
    cases call with
    | error fault => cases hinitializes
    | ok _ => exact ⟨rfl, rfl⟩
  | preInit | readParams =>
    rw [List.mem_singleton.mp hr] at hinitializes
    cases hinitializes
  | declare | seed | unread => cases hr

lemma Effect.of_initializes {op : Operation ω} {stage stage' : Option Stage}
    {outcome : Except Fault Unit} {added : List Reply} (h : Effect stage op outcome added stage')
    (hinit : ∃ r ∈ added, r.initializes = true) : stage' = some .initialized := by
  cases h with
  | advanced _ attempt => exact (attempt.of_initializes hinit).1
  | failed _ attempt => cases (attempt.of_initializes hinit).2
  | refused | looked | left =>
    obtain ⟨r, hr, -⟩ := hinit
    cases hr
  | looped _ calls =>
    obtain ⟨r, hr, hinitializes⟩ := hinit
    rw [initializes_of_inLoop (calls r hr)] at hinitializes
    cases hinitializes
  | released =>
    obtain ⟨r, hr, hinitializes⟩ := hinit
    simp only [closing, List.mem_cons, List.not_mem_nil, or_false] at hr
    rcases hr with rfl | rfl
    · cases hinitializes
    · cases hinitializes

lemma Attempt.goal_ne_finalized {op : Operation ω} {outcome : Except Fault Unit}
    {added : List Reply} (h : Attempt op outcome added) : op.goal ≠ some .finalized := by
  cases h with
  | preInit | unread | readParams | declare | init | seed => nofun

/-- The last stage is reached by a release. -/
lemma Effect.of_finalized {op : Operation ω} {stage stage' : Option Stage}
    {outcome : Except Fault Unit} {added : List Reply} (h : Effect stage op outcome added stage')
    (hstage : stage' = some .finalized) :
    stage = some .finalized ∨ ∃ r ∈ added, r.releases = true := by
  cases h with
  | refused | failed | looked | left => exact .inl hstage
  | advanced _ attempt => exact absurd hstage attempt.goal_ne_finalized
  | looped => cases hstage
  | @released _ report release =>
    exact .inr ⟨⟨.free, release⟩, by simp [closing], rfl⟩

lemma Settled.effect {op : Operation ω} {stage stage' : Option Stage}
    {outcome : Except Fault Unit} {replies added : List Reply} (h : Settled stage replies)
    (heffect : Effect stage op outcome added stage') : Settled stage' (replies ++ added) where
  initialized := by
    rintro ⟨r, hr, hinit⟩
    rcases List.mem_append.mp hr with hr | hr
    · exact Nat.le_trans (h.initialized ⟨r, hr, hinit⟩) heffect.rankOf_le
    · exact Nat.le_of_eq (congrArg _ (heffect.of_initializes ⟨r, hr, hinit⟩).symm)
  released hstage := by
    rcases heffect.of_finalized hstage with hstage | ⟨r, hr, hrelease⟩
    · obtain ⟨r, hr, hrelease⟩ := h.released hstage
      exact ⟨r, List.mem_append_left _ hr, hrelease⟩
    · exact ⟨r, List.mem_append_right _ hr, hrelease⟩

/-- A solver that is not allocated any more has been released. -/
lemma Settled.releases {stage : Option Stage} {replies : List Reply} (h : Settled stage replies)
    (hstage : Stage.allocated stage = false) (hinit : ∃ r ∈ replies, r.initializes = true) :
    ∃ r ∈ replies, r.releases = true := by
  have hle := h.initialized hinit
  have hlast : Stage.rankOf (some .finalized) ≤ Stage.rankOf stage := by
    by_contra hlt
    have halloc : Stage.allocated stage = true := Stage.allocated_iff.mpr ⟨hle, by omega⟩
    rw [halloc] at hstage
    cases hstage
  exact h.released (eq_finalized_of_rankOf_le hlast)

/-- The solver is settled, and the library has been closed when it had been closed before. -/
def SettledSince (closings : List ℕ) (s : Session (Recorded ω)) : Prop :=
  Settled s.stage s.hidden.replies ∧ s.hidden.closings = closings

/-- Inside, every call leaves the solver settled: the initialization has come before, and so has the
release if there has been one. -/
lemma settledSince_call {closings : List ℕ} (c : Call) (inside : Inside s)
    (hs : SettledSince closings s) :
    SettledSince closings ((call (Recorded.library L) c).runOn s).2 := by
  have hrun := (Prod.eta ((call (Recorded.library L) c).runOn s)).symm
  have hstage := stage_call hrun
  have hreplies := replies_call hrun
  obtain ⟨record, -, htrace⟩ := trace_call (L := L) (s := s) c
  have hclosings := congrArg (fun t => t.2.2) htrace
  refine ⟨⟨fun _ => ?_, fun hlast => ?_⟩, hclosings.trans hs.2⟩
  · rw [hstage]
    exact Nat.le_trans (by decide) (inside_iff.mp inside)
  · rw [hstage] at hlast
    obtain ⟨r, hr, hrelease⟩ := hs.1.released hlast
    rw [hreplies]
    exact ⟨r, List.mem_append_left _ hr, hrelease⟩

lemma settledSince_of_trace {closings : List ℕ} (h : trace s' = trace s)
    (hs : SettledSince closings s) : SettledSince closings s' := by
  have hstage : s'.stage = s.stage := congrArg Prod.fst h
  have hclosings : s'.hidden.closings = s.hidden.closings := congrArg (fun t => t.2.2) h
  rw [SettledSince, hstage, replies_of_trace h, hclosings]
  exact hs

lemma upheld_settledSince (closings : List ℕ) :
    Upheld direct L screenOutput (SettledSince (ω := ω) closings) where
  perform op plain s hs := by
    have hrun := (Prod.eta ((op.perform L screenOutput).runOn s)).symm
    obtain ⟨added, hadded, heffect⟩ := comes_perform plain.quiet hrun
    refine ⟨?_, (closings_perform plain screenOutput s).trans hs.2⟩
    rw [hadded]
    exact hs.1.effect heffect
  call _ c s inside hs := settledSince_call c inside hs
  ofTrace _ _ := settledSince_of_trace

/-- A loop leaves the solver settled, whatever its callback does. -/
lemma carried_settledSince {reports : Set (Action (Session (Recorded ω)) Unit)}
    (handled : ∀ a ∈ reports, Handled direct L screenOutput a) (closings : List ℕ) :
    Carried L reports (fun s => Inside s ∧ SettledSince closings s)
      fun s => Inside s ∧ SettledSince closings s where
  call c _ := by
    have hcall : (call (Recorded.library L) c).Keeps
        (Preserving fun s => Inside s ∧ SettledSince closings s) :=
      fun s hs => ⟨hs.1, settledSince_call c hs.1 hs.2⟩
    exact hcall.maintains fun _ => id
  ofTrace s s' h hs := ⟨inside_of_trace h hs.1, settledSince_of_trace h hs.2⟩
  report a ha := by
    have hreport : a.Keeps (Preserving fun s => Inside s ∧ SettledSince closings s) :=
      fun s hs => (handled a ha s hs.1).preserves (upheld_settledSince closings) hs.1 hs.2
    exact hreport.maintains fun _ => id
  fault _ := id

lemma endures_settledSince {reports : Set (Action (Session (Recorded ω)) Unit)}
    (handled : ∀ a ∈ reports, Handled direct L screenOutput a) (closings : List ℕ) :
    Endures L screenOutput reports (SettledSince closings) where
  perform := by
    have hupheld : Upheld direct L screenOutput (SettledSince closings) :=
      upheld_settledSince closings
    exact hupheld.perform
  ofTrace _ _ := settledSince_of_trace
  loop := by
    refine ⟨_, _, carried_settledSince handled closings, fun s hstage hs => ?_, fun _ hs => hs.2⟩
    refine ⟨.inl rfl, ⟨fun _ => ?_, nofun⟩, hs.2⟩
    show Stage.rankOf (some .initialized) ≤ Stage.rankOf (some .running)
    decide

/-- Leaving a session leaves it without memory. -/
lemma Effect.allocated_of_leave {stage stage' : Option Stage} {outcome : Except Fault Unit}
    {added : List Reply} (h : Effect stage (.leave : Operation ω) outcome added stage') :
    Stage.allocated stage' = false := by
  cases h with
  | refused hexpected => cases hexpected
  | advanced _ attempt => cases attempt.isSome_expected
  | failed _ attempt => cases attempt.isSome_expected
  | released => rfl
  | left wrong => exact wrong

end

end ReverseComm.Session
