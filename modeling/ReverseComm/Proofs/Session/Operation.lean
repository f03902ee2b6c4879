import ReverseComm.Proofs.Loop.Frame

/-!
# Operations of a session

A caller drives a session by its operations, in any order it likes and whatever has become of the
operations before.  `Operation` lists them, `Operation.perform` carries one out on a library that
is recorded, and `after` is the session after a sequence of them.

`Effect` says once what an operation can come to in a stage.

* Outside its stage it is refused.
* In its stage, an operation before the loop makes the call that it is for, if there is one, and
  reaches the next stage if the call and everything else it does succeed.
* The loop and the finalization have reached theirs before they make any call, so a fault does not
  lead back.
* The finalization makes two calls, the second one whatever came of the first.

`comes_perform` proves that every operation comes to one of its effects, and `moves_perform` reads
off them what an operation may do to the stage.  The calls are the matter of
`Proofs/Session/Lifecycle.lean`.

## What is asked of the caller

The fitness of a loop does not see the session, so nothing is asked of it.  The callback that
reports iterations does see it, and is asked not to call the session or the solver (`Quiet`); it may
change the memory and anything else.
-/

namespace ReverseComm.Session

open ReverseComm.Action

variable {ω : Type}

/-! ## Operations -/

/-- What a caller may do with a session. -/
inductive Operation (ω : Type) where
  | preInit
  | readParams (host : Host) (file : Option String)
  | declare (variableCount constraintCount : Except Fault Int)
  | init
  | seed (x f lower upper : Offer) (equalities : Except Fault Int)
  /-- Run the loop with a driver that remembers something from before. -/
  | run (fitness : List Float → Action ω Tensor)
      (report : Option (Action (Session (Recorded ω)) Unit)) (memo : Memo) (budget : Nat)
  | finalize
  /-- Look at a buffer. -/
  | buffer (symbol : String)
  /-- Leave the context of the session. -/
  | leave

namespace Operation

/-- The stage that an operation is refused outside of, as its refusal names it.  Looking at a buffer
and leaving are no operations of a stage. -/
def expected : Operation ω → Option (Option Stage)
  | .preInit => some none
  | .readParams _ _ => some (some .created)
  | .declare _ _ => some (some .paramsLoaded)
  | .init => some (some .sized)
  | .seed _ _ _ _ _ => some (some .initialized)
  | .run _ _ _ _ => some (some .seeded)
  | .finalize => some (some .initialized)
  | .buffer _ => none
  | .leave => none

/-- Is a stage the right one for an operation? -/
def admits : Operation ω → Option Stage → Bool
  | .finalize, stage => Stage.allocated stage
  | op, stage => op.expected.all (stage == ·)

/-- The stage that an operation leads to. -/
def goal : Operation ω → Option Stage
  | .preInit => some .created
  | .readParams _ _ => some .paramsLoaded
  | .declare _ _ => some .sized
  | .init => some .initialized
  | .seed _ _ _ _ _ => some .seeded
  | .run _ _ _ _ => some .running
  | .finalize => some .finalized
  | .buffer _ => none
  | .leave => none

/-- Does an operation reach its stage before it does its work? -/
def advancesFirst : Operation ω → Bool
  | .run _ _ _ _ | .finalize => true
  | _ => false

/-- An operation whose callback does not itself call the session or the solver. -/
def Quiet : Operation ω → Prop
  | .run _ report _ _ => ∀ a ∈ report, a.Keeps (Same fun s => (s.stage, s.hidden.calls))
  | _ => True

/-- The service of a loop whose fitness does not see the session. -/
def service (fitness : List Float → Action ω Tensor)
    (report : Option (Action (Session (Recorded ω)) Unit)) : Service (Recorded ω) where
  fitness x := aside ((fitness x).zoom Recorded.hidden fun w r => { r with hidden := w })
  report := report

/-- Carry out an operation, dropping its answer. -/
def perform (L : Library ω) (screenOutput : Bool) :
    Operation ω → Action (Session (Recorded ω)) Unit
  | .preInit => Session.preInit (Recorded.library L)
  | .readParams host file => do
    let _ ← Session.readParams (Recorded.library L) host file
  | .declare n m => Session.declare n m
  | .init => Session.init (Recorded.library L)
  | .seed x f lower upper equalities => Session.seed screenOutput x f lower upper equalities
  | .run fitness report memo budget => do
    let _ ← (Loop.run (Recorded.library L) (service fitness report) budget).zoom
      (fun s => ⟨s, memo⟩) fun r _ => r.session
  | .finalize => Session.finalize (Recorded.library L)
  | .buffer symbol => do
    let _ ← (← get).bufferOf symbol
  | .leave => Session.leave (Recorded.library L)

end Operation

/-- The session after some operations, each of which may have failed. -/
def after (L : Library ω) (screenOutput : Bool) (s : Session (Recorded ω)) :
    List (Operation ω) → Session (Recorded ω)
  | [] => s
  | op :: ops => after L screenOutput ((op.perform L screenOutput).runOn s).2 ops

lemma after_append (L : Library ω) (screenOutput : Bool) (s : Session (Recorded ω))
    (ops ops' : List (Operation ω)) :
    after L screenOutput s (ops ++ ops') =
      after L screenOutput (after L screenOutput s ops) ops' := by
  induction ops generalizing s with
  | nil => rfl
  | cons op ops ih => exact ih _

/-! ## What an operation comes to -/

/-- The call that an operation of one of the first stages makes, and what the operation makes of its
outcome.  Parameters are not read if the host fails to say whether their file is there. -/
inductive Attempt : Operation ω → Except Fault Unit → List Reply → Prop
  | preInit (r : Except Fault Unit) : Attempt .preInit (r.map fun _ => ()) [⟨.preInit, r⟩]
  | unread {host : Host} {file : Option String} {fault : OsFault}
      (h : host.isFile (.ofString (host.chooseParamFile file)) = .error fault) :
      Attempt (.readParams host file) (.error (.os fault)) []
  | readParams (host file name) (r : Except Fault Int) :
      Attempt (.readParams host file) (r.map fun _ => ()) [⟨.readParams name, r⟩]
  | declare (n m outcome) : Attempt (.declare n m) outcome []
  | init (r : Except Fault Unit) : Attempt .init (r.map fun _ => ()) [⟨.init, r⟩]
  | seed (x f lower upper equalities outcome) :
      Attempt (.seed x f lower upper equalities) outcome []

/-- The calls that release a session. -/
def closing (report release : Except Fault Unit) : List Reply :=
  [⟨.statusMessage, report⟩, ⟨.free, release⟩]

/-- What an operation comes to in a stage: its outcome, the calls it makes, and the stage it leaves
behind. -/
inductive Effect (stage : Option Stage) :
    Operation ω → Except Fault Unit → List Reply → Option Stage → Prop
  | refused {op expected} (h : op.expected = some expected) (wrong : op.admits stage = false) :
      Effect stage op (.error (.stage expected stage)) [] stage
  | advanced {op replies} (right : op.admits stage = true)
      (attempt : Attempt op (.ok ()) replies) : Effect stage op (.ok ()) replies op.goal
  | failed {op fault replies} (right : op.admits stage = true)
      (attempt : Attempt op (.error fault) replies) :
      Effect stage op (.error fault) replies stage
  | looped {fitness report memo budget outcome replies} (right : stage = some .seeded)
      (calls : ∀ r ∈ replies, r.call.inLoop = true) :
      Effect stage (.run fitness report memo budget) outcome replies (some .running)
  | released {op} {report release : Except Fault Unit} (h : op = .finalize ∨ op = .leave)
      (right : Stage.allocated stage = true) :
      Effect stage op (release >>= fun _ => report) (closing report release) (some .finalized)
  | looked {symbol outcome} : Effect stage (.buffer symbol) outcome [] stage
  | left (wrong : Stage.allocated stage = false) : Effect stage .leave (.ok ()) [] stage

section

variable {L : Library ω} {screenOutput : Bool} {s s' : Session (Recorded ω)}
  {outcome : Except Fault Unit}

/-- Outside its stage an operation is refused, and nothing else happens. -/
lemma perform_of_not_admits {op : Operation ω} {expected : Option Stage}
    (h : op.expected = some expected) (wrong : op.admits s.stage = false) :
    (op.perform L screenOutput).runOn s = (.error (.stage expected s.stage), s) := by
  have hne (hop : op.admits s.stage = (s.stage == expected)) : s.stage ≠ expected := by
    rw [hop] at wrong
    exact beq_eq_false_iff_ne.mp wrong
  cases op with
  | preInit =>
    cases h
    rw [Operation.perform, Session.preInit, runOn_require_bind, if_neg (hne rfl)]
  | readParams host file =>
    cases h
    rw [Operation.perform, Session.readParams, runOn_bind, runOn_require_bind, if_neg (hne rfl)]
  | declare n m =>
    cases h
    rw [Operation.perform, Session.declare, runOn_require_bind, if_neg (hne rfl)]
  | init =>
    cases h
    rw [Operation.perform, Session.init, runOn_require_bind, if_neg (hne rfl)]
  | seed x f lower upper equalities =>
    cases h
    rw [Operation.perform, Session.seed, runOn_require_bind, if_neg (hne rfl)]
  | run fitness report memo budget =>
    cases h
    rw [Operation.perform, runOn_bind, runOn_zoom, Loop.run, runOn_bind, Loop.onSession, runOn_zoom,
      enterLoop, runOn_require_bind, if_neg (hne rfl)]
  | finalize =>
    cases h
    have hnot : Stage.allocated s.stage = false := wrong
    simp only [Operation.perform, Session.finalize, runOn_bind, runOn_get, hnot]
    rfl
  | buffer symbol => cases h
  | leave => cases h

/-- An operation comes to an outcome and a session: they are those of an effect whose calls are the
ones that the record has grown by. -/
def Comes (op : Operation ω) (s : Session (Recorded ω)) (outcome : Except Fault Unit)
    (s' : Session (Recorded ω)) : Prop :=
  ∃ replies, s'.hidden.replies = s.hidden.replies ++ replies ∧
    Effect s.stage op outcome replies s'.stage

/-- An operation that is there for a call fails where the call does; where the call answers, it
reaches its stage. -/
lemma comes_of_call {α : Type} {op : Operation ω} {c : Call}
    {rest : c.Answer → Action (Session (Recorded ω)) α} {r : Except Fault α}
    (right : op.admits s.stage = true)
    (attempt : ∀ r : Except Fault c.Answer, Attempt op (r.map fun _ => ()) [⟨c, r⟩])
    (finish : ∀ x v, ∃ y u, (rest x).runOn v = (.ok y, u) ∧ u.stage = op.goal ∧
      u.hidden = v.hidden)
    (h : (call (Recorded.library L) c >>= rest).runOn s = (r, s')) :
    Comes op s (r.map fun _ => ()) s' := by
  rcases runOn_bind_cases h with ⟨fault, hcall, rfl⟩ | ⟨x, v, hcall, h⟩
  · refine ⟨_, replies_call hcall, ?_⟩
    rw [stage_call hcall]
    exact .failed right (attempt (.error fault))
  · have hreplies := replies_call hcall
    obtain ⟨y, u, hfinish, hstage, hhidden⟩ := finish x v
    rw [hfinish] at h
    cases h
    refine ⟨_, hhidden ▸ hreplies, ?_⟩
    rw [hstage]
    exact .advanced right (attempt (.ok x))

lemma map_unit (r : Except Fault Unit) : (r.map fun _ => ()) = r := by
  cases r with
  | error fault => rfl
  | ok _ => rfl

lemma comes_preInit (right : s.stage = none)
    (h : (Session.preInit (Recorded.library L)).runOn s = (outcome, s')) :
    Comes .preInit s outcome s' := by
  have hright : (Operation.preInit (ω := ω)).admits s.stage = true := by rw [right]; rfl
  rw [Session.preInit, runOn_require_bind, if_pos right] at h
  rw [← map_unit outcome]
  refine comes_of_call hright ?_ ?_ h
  · exact .preInit
  · exact fun _ v => ⟨(), _, rfl, rfl, rfl⟩

/-- Reading parameters may give a message first, which shows neither in the stage nor in the
calls. -/
lemma comes_readParams {host : Host} {file : Option String} {r : Except Fault Int}
    (right : s.stage = some .created)
    (h : (Session.readParams (Recorded.library L) host file).runOn s = (r, s')) :
    Comes (.readParams host file) s (r.map fun _ => ()) s' := by
  have hright : ∀ v : Session (Recorded ω), v.stage = s.stage →
      (Operation.readParams (ω := ω) host file).admits v.stage = true := by
    intro v hv
    rw [hv, right]
    rfl
  rw [Session.readParams, runOn_require_bind, if_pos right] at h
  dsimp only at h
  rw [runOn_bind, runOn_probe] at h
  rcases hfile : host.isFile (.ofString (host.chooseParamFile file)) with fault | _ | _
  · rw [hfile] at h
    cases h
    exact ⟨[], (List.append_nil _).symm, .failed (hright s rfl) (.unread hfile)⟩
  · rw [hfile] at h
    have hsaid : Comes (.readParams host file)
        (say (missingParamFile (host.chooseParamFile file)) s) (r.map fun _ => ()) s' := by
      refine comes_of_call (hright _ rfl) ?_ ?_ h
      · exact .readParams host file _
      · exact fun count v => ⟨count, _, rfl, rfl, rfl⟩
    exact hsaid
  · rw [hfile] at h
    refine comes_of_call (hright s rfl) ?_ ?_ h
    · exact .readParams host file _
    · exact fun count v => ⟨count, _, rfl, rfl, rfl⟩

lemma comes_declare {n m : Except Fault Int} (right : s.stage = some .paramsLoaded)
    (h : (Session.declare n m).runOn s = (outcome, s')) : Comes (.declare n m) s outcome s' := by
  have hright : (Operation.declare (ω := ω) n m).admits s.stage = true := by rw [right]; rfl
  rw [Session.declare, runOn_require_bind, if_pos right] at h
  cases n with
  | error fault =>
    cases h
    exact ⟨[], (List.append_nil _).symm, .failed hright (.declare ..)⟩
  | ok n =>
    cases m with
    | error fault =>
      cases h
      exact ⟨[], (List.append_nil _).symm, .failed hright (.declare ..)⟩
    | ok m =>
      cases h
      exact ⟨[], (List.append_nil _).symm, .advanced hright (.declare ..)⟩

lemma comes_init (right : s.stage = some .sized)
    (h : (Session.init (Recorded.library L)).runOn s = (outcome, s')) :
    Comes .init s outcome s' := by
  have hright : (Operation.init (ω := ω)).admits s.stage = true := by rw [right]; rfl
  rw [Session.init, runOn_require_bind, if_pos right] at h
  rw [← map_unit outcome]
  refine comes_of_call hright ?_ ?_ h
  · exact .init
  · exact fun _ v => ⟨(), _, rfl, rfl, rfl⟩

lemma comes_seed {x f lower upper : Offer} {equalities : Except Fault Int}
    (right : s.stage = some .initialized)
    (h : (Session.seed screenOutput x f lower upper equalities).runOn s = (outcome, s')) :
    Comes (.seed x f lower upper equalities) s outcome s' := by
  have hright : (Operation.seed (ω := ω) x f lower upper equalities).admits s.stage = true := by
    rw [right]; rfl
  have hmemory : ∀ (s : Session (Recorded ω)) m,
      Same (fun s => (s.stage, s.hidden)) s { s with memory := m } := fun _ _ => rfl
  have hparameters : (modify fun s =>
      { s with memory.parameters := seedParameters screenOutput s.memory.parameters } :
      Action (Session (Recorded ω)) Unit).Keeps (Same fun s => (s.stage, s.hidden)) :=
    keeps_modify fun _ => rfl
  have hcandidate := keeps_writeCandidate (fun s _ _ _ => hmemory s _) (fun s _ => hmemory s _) x f
  have hbounds := keeps_writeBounds (fun s _ _ _ => hmemory s _) lower upper equalities
  have hwriting := (hparameters.bind fun _ => hcandidate).bind fun _ => hbounds
  rw [Session.seed, runOn_require_bind, if_pos right] at h
  simp only [← bind_assoc] at h
  rcases runOn_bind_cases h with ⟨fault, hbody, rfl⟩ | ⟨_, v, hbody, h⟩
  · obtain ⟨hstage, hhidden⟩ := Prod.mk.inj (hwriting.run hbody)
    refine ⟨[], by rw [hhidden, List.append_nil], ?_⟩
    rw [hstage]
    exact .failed hright (.seed ..)
  · obtain ⟨-, hhidden⟩ := Prod.mk.inj (hwriting.run hbody)
    cases h
    exact ⟨[], by rw [hhidden, List.append_nil], .advanced hright (.seed ..)⟩

/-- A session grows: it stays in its stage, and the calls it has made since are calls of the
loop. -/
def Grows (s s' : Session (Recorded ω)) : Prop :=
  s'.stage = s.stage ∧ ∃ replies, s'.hidden.replies = s.hidden.replies ++ replies ∧
    ∀ r ∈ replies, r.call.inLoop = true

instance : IsPreorder (Session (Recorded ω)) Grows where
  refl _ := ⟨rfl, [], (List.append_nil _).symm, by simp⟩
  trans s t u h₁ h₂ := by
    obtain ⟨hstage, first, hfirst, hloop⟩ := h₁
    obtain ⟨hstage', second, hsecond, hloop'⟩ := h₂
    refine ⟨hstage'.trans hstage, first ++ second, ?_, ?_⟩
    · rw [hsecond, hfirst, List.append_assoc]
    · intro r hr
      rcases List.mem_append.mp hr with hr | hr
      · exact hloop r hr
      · exact hloop' r hr

lemma grows_of_same (h : (s'.stage, s'.hidden.calls) = (s.stage, s.hidden.calls)) :
    Grows s s' := by
  obtain ⟨hstage, hcalls⟩ := Prod.mk.inj h
  refine ⟨hstage, [], ?_, by simp⟩
  rw [Recorded.replies, Recorded.replies, hcalls, List.append_nil]

/-- The loop of a quiet operation only makes calls of its own, and stays in its stage. -/
lemma framed_of_quiet {fitness : List Float → Action ω Tensor}
    {report : Option (Action (Session (Recorded ω)) Unit)} {memo : Memo} {budget : Nat}
    (quiet : (Operation.run fitness report memo budget).Quiet) :
    Loop.Framed (Recorded.library L) (Operation.service fitness report) Grows where
  call c hc s := by
    have hrun := (Prod.eta ((call (Recorded.library L) c).runOn s)).symm
    refine ⟨stage_call hrun, _, replies_call hrun, ?_⟩
    intro r hr
    rw [List.mem_singleton.mp hr]
    exact hc
  memory s m := grows_of_same rfl
  service :=
    { fitness x := by
        have hcalls : ((fitness x).zoom Recorded.hidden fun w r => { r with hidden := w }).Keeps
            (Same Recorded.calls) := keeps_zoom_same _ fun _ _ => rfl
        exact hcalls.zoom fun s r h => grows_of_same (Prod.ext rfl h)
      report a ha := (quiet a ha).mono fun _ _ => grows_of_same }

lemma comes_run {fitness : List Float → Action ω Tensor}
    {report : Option (Action (Session (Recorded ω)) Unit)} {memo : Memo} {budget : Nat}
    {r : Except Fault Int} {ended : Running (Recorded ω)}
    (quiet : (Operation.run fitness report memo budget).Quiet) (right : s.stage = some .seeded)
    (h : (Loop.run (Recorded.library L) (Operation.service fitness report) budget).runOn ⟨s, memo⟩ =
      (r, ended)) :
    Comes (.run fitness report memo budget) s (r.map fun _ => ()) ended.session := by
  have henter : (Loop.onSession enterLoop).runOn ⟨s, memo⟩ =
      (.ok (), ⟨{ s with stage := some .running }, memo⟩) := by
    rw [Loop.onSession, runOn_zoom, enterLoop, runOn_require_bind, if_pos right]
    rfl
  rw [Loop.run, runOn_bind, henter] at h
  obtain ⟨hstage, replies, hreplies, hloop⟩ := ((framed_of_quiet quiet).drive budget).run h
  refine ⟨replies, hreplies, ?_⟩
  rw [hstage]
  exact .looped right hloop

lemma comes_finalize {op : Operation ω} (hop : op = .finalize ∨ op = .leave)
    (right : Stage.allocated s.stage = true)
    (h : (Session.finalize (Recorded.library L)).runOn s = (outcome, s')) :
    Comes op s outcome s' := by
  rw [Session.finalize, runOn_bind, runOn_get] at h
  dsimp only at h
  rw [if_pos right, runOn_bind, runOn_reach] at h
  dsimp only at h
  rcases hreport : (call (Recorded.library L) .statusMessage).runOn
    { s with stage := some .finalized } with ⟨report, v⟩
  rcases hrelease : (call (Recorded.library L) .free).runOn v with ⟨release, u⟩
  have hend : outcome = (release >>= fun _ => report) ∧ s' = u := by
    rw [ensuring, runOn_of, hreport] at h
    dsimp only at h
    rw [hrelease] at h
    cases release with
    | error fault =>
      cases h
      exact ⟨rfl, rfl⟩
    | ok _ =>
      cases h
      exact ⟨rfl, rfl⟩
  obtain ⟨rfl, rfl⟩ := hend
  refine ⟨closing report release, ?_, ?_⟩
  · rw [replies_call hrelease, replies_call hreport, List.append_assoc]
    rfl
  · rw [stage_call hrelease, stage_call hreport]
    exact .released hop right

lemma comes_leave (h : (Session.leave (Recorded.library L)).runOn s = (outcome, s')) :
    Comes .leave s outcome s' := by
  rw [Session.leave, runOn_bind, runOn_get] at h
  dsimp only at h
  split at h
  · rename_i right
    exact comes_finalize (.inr rfl) right h
  · rename_i wrong
    cases h
    exact ⟨[], (List.append_nil _).symm, .left (by simpa using wrong)⟩

/-- Every operation comes to one of its effects. -/
theorem comes_perform {op : Operation ω} (quiet : op.Quiet)
    (h : (op.perform L screenOutput).runOn s = (outcome, s')) : Comes op s outcome s' := by
  by_cases hop : ∃ expected, op.expected = some expected ∧ op.admits s.stage = false
  · obtain ⟨expected, hexpected, wrong⟩ := hop
    rw [perform_of_not_admits hexpected wrong] at h
    cases h
    exact ⟨[], (List.append_nil _).symm, .refused hexpected wrong⟩
  have right : ∀ expected, op.expected = some expected → op.admits s.stage = true := by
    intro expected hexpected
    by_contra hnot
    exact hop ⟨expected, hexpected, by simpa using hnot⟩
  cases op with
  | preInit => exact comes_preInit (beq_iff_eq.mp (right _ rfl)) h
  | readParams host file =>
    obtain ⟨r, hr, rfl⟩ := runOn_drop_cases h
    exact comes_readParams (beq_iff_eq.mp (right _ rfl)) hr
  | declare n m => exact comes_declare (beq_iff_eq.mp (right _ rfl)) h
  | init => exact comes_init (beq_iff_eq.mp (right _ rfl)) h
  | seed x f lower upper equalities => exact comes_seed (beq_iff_eq.mp (right _ rfl)) h
  | run fitness report memo budget =>
    obtain ⟨r, hr, rfl⟩ := runOn_drop_cases h
    obtain ⟨ended, hended, rfl⟩ := runOn_zoom_eq_iff.mp hr
    exact comes_run quiet (beq_iff_eq.mp (right _ rfl)) hended
  | finalize => exact comes_finalize (.inl rfl) (right _ rfl) h
  | buffer symbol =>
    rw [Operation.perform, runOn_bind, runOn_get] at h
    obtain ⟨r, hr, rfl⟩ := runOn_drop_cases h
    rw [runOn_liftExcept] at hr
    obtain ⟨-, rfl⟩ := Prod.mk.inj hr
    exact ⟨[], (List.append_nil _).symm, .looked⟩
  | leave => exact comes_leave h

/-! ## What an operation does to the stage -/

/-- What an operation may do to the stage of a session. -/
structure Moves (op : Operation ω) (s : Session (Recorded ω)) (outcome : Except Fault Unit)
    (s' : Session (Recorded ω)) : Prop where
  /-- The stage never goes back. -/
  monotone : Stage.rankOf s.stage ≤ Stage.rankOf s'.stage
  /-- An operation of a stage that succeeds leads one stage on, or it finalizes a session whose memory
  is allocated. -/
  success : op.expected.isSome → outcome = .ok () →
    Stage.rankOf s'.stage = Stage.rankOf s.stage + 1 ∨
      op = .finalize ∧ Stage.allocated s.stage = true ∧ s'.stage = some .finalized
  /-- One that fails leaves the stage, unless it is in its right stage and advances first. -/
  failure : op.expected.isSome → ∀ fault, outcome = .error fault →
    s'.stage = if op.advancesFirst && op.admits s.stage then op.goal else s.stage
  /-- One in a wrong stage is refused, and changes nothing. -/
  refusal : ∀ expected, op.expected = some expected → op.admits s.stage = false →
    outcome = .error (.stage expected s.stage) ∧ s' = s
  /-- Other operations leave the stage, unless leaving finalizes. -/
  others : op.expected = none → s'.stage = s.stage ∨
    op = .leave ∧ Stage.allocated s.stage = true ∧ s'.stage = some .finalized

lemma Attempt.rankOf_goal {op : Operation ω} {stage : Option Stage} {replies : List Reply}
    (h : Attempt op outcome replies) (right : op.admits stage = true) :
    Stage.rankOf op.goal = Stage.rankOf stage + 1 := by
  cases h with
  | preInit | unread | readParams | declare | init | seed =>
    cases (beq_iff_eq.mp right)
    rfl

lemma Attempt.isSome_expected {op : Operation ω} {replies : List Reply}
    (h : Attempt op outcome replies) : op.expected.isSome = true := by
  cases h with
  | preInit | unread | readParams | declare | init | seed => rfl

lemma Attempt.advancesFirst {op : Operation ω} {replies : List Reply}
    (h : Attempt op outcome replies) : op.advancesFirst = false := by
  cases h with
  | preInit | unread | readParams | declare | init | seed => rfl

section

variable {op : Operation ω} {stage stage' : Option Stage} {replies : List Reply}
  (h : Effect stage op outcome replies stage')
include h

lemma Effect.rankOf_le : Stage.rankOf stage ≤ Stage.rankOf stage' := by
  cases h with
  | refused => exact Nat.le_refl _
  | advanced right attempt =>
    rw [attempt.rankOf_goal right]
    omega
  | failed => exact Nat.le_refl _
  | looped right =>
    rw [right]
    decide
  | released _ right => exact Nat.le_of_lt (Stage.allocated_iff.mp right).2
  | looked => exact Nat.le_refl _
  | left => exact Nat.le_refl _

lemma Effect.success (hop : op.expected.isSome) (hok : outcome = .ok ()) :
    Stage.rankOf stage' = Stage.rankOf stage + 1 ∨
      op = .finalize ∧ Stage.allocated stage = true ∧ stage' = some .finalized := by
  cases h with
  | refused => cases hok
  | advanced right attempt => exact .inl (attempt.rankOf_goal right)
  | failed => cases hok
  | looped right =>
    rw [right]
    exact .inl rfl
  | released hwhich right =>
    rcases hwhich with rfl | rfl
    · exact .inr ⟨rfl, right, rfl⟩
    · cases hop
  | looked => cases hop
  | left => cases hop

lemma Effect.failure (hop : op.expected.isSome) {fault : Fault} (herror : outcome = .error fault) :
    stage' = if op.advancesFirst && op.admits stage then op.goal else stage := by
  cases h with
  | refused _ wrong => simp [wrong]
  | advanced => cases herror
  | failed _ attempt => simp [attempt.advancesFirst]
  | looped right =>
    rw [right]
    rfl
  | released hwhich right =>
    rcases hwhich with rfl | rfl
    · have hadmits : (Operation.finalize (ω := ω)).admits stage = true := right
      rw [hadmits]
      rfl
    · cases hop
  | looked => cases hop
  | left => cases herror

lemma Effect.others (hop : op.expected = none) :
    stage' = stage ∨ op = .leave ∧ Stage.allocated stage = true ∧ stage' = some .finalized := by
  cases h with
  | refused hexpected =>
    rw [hop] at hexpected
    cases hexpected
  | advanced _ attempt =>
    have hsome := attempt.isSome_expected
    rw [hop] at hsome
    cases hsome
  | failed => exact .inl rfl
  | looped => cases hop
  | released hwhich right =>
    rcases hwhich with rfl | rfl
    · cases hop
    · exact .inr ⟨rfl, right, rfl⟩
  | looked => exact .inl rfl
  | left => exact .inl rfl

end

/-- Every operation moves the stage as it may. -/
theorem moves_perform {op : Operation ω} (quiet : op.Quiet)
    (h : (op.perform L screenOutput).runOn s = (outcome, s')) : Moves op s outcome s' := by
  obtain ⟨replies, -, heffect⟩ := comes_perform quiet h
  refine ⟨heffect.rankOf_le, fun hop hok => heffect.success hop hok,
    fun hop fault herror => heffect.failure hop herror, ?_, fun hop => heffect.others hop⟩
  intro expected hexpected wrong
  rw [perform_of_not_admits hexpected wrong] at h
  cases h
  exact ⟨rfl, rfl⟩

end

end ReverseComm.Session
