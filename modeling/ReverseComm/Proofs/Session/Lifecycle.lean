import ReverseComm.Proofs.Session.Operation

/-!
# The lifecycle of a session

Whatever a caller does with a session and whatever fails on the way, the stage goes forward only,
the solver is initialized once at most, and what has been initialized is released once and for all.

The stage alone does not say what has been called, and the calls alone do not say what may come
next, so the invariant ties them to each other.  `Ledger` gives the form of the record in each stage:

* up to the initialization, calls that prepare it, and initializations that failed;
* while the memory is allocated, one initialization after those, and then calls of the loop;
* in the last stage the same, and at the end the report of the status and the release.

`Ledger.effect` is the step, over the effects of an operation, and `ledger_after` the run, over a
sequence of operations.  `Ledger.orderly` reads off the invariant how often and in which order the
calls come; `lifecycle` puts it together with the moves of the stage.
-/

namespace ReverseComm.Session

open ReverseComm.Action

variable {ω : Type}

/-! ## The ledger of calls -/

/-- A call from before the solver has been initialized. -/
inductive Early : Reply → Prop
  | preInit (outcome) : Early ⟨.preInit, outcome⟩
  | readParams (name outcome) : Early ⟨.readParams name, outcome⟩
  | init (fault) : Early ⟨.init, .error fault⟩

/-- How the calls that have been made go with the stage.  The solver is initialized between the early
calls and those of the loop, and it is released by the last two calls. -/
inductive Ledger : Option Stage → List Reply → Prop
  | early {stage replies} (h : Stage.rankOf stage < Stage.rankOf (some .initialized))
      (early : ∀ r ∈ replies, Early r) : Ledger stage replies
  | allocated {stage first last} (h : Stage.allocated stage = true)
      (early : ∀ r ∈ first, Early r) (loop : ∀ r ∈ last, r.call.inLoop = true) :
      Ledger stage (first ++ ⟨.init, .ok ()⟩ :: last)
  | released {first last report release} (early : ∀ r ∈ first, Early r)
      (loop : ∀ r ∈ last, r.call.inLoop = true) :
      Ledger (some .finalized) (first ++ ⟨.init, .ok ()⟩ :: (last ++ closing report release))

lemma Ledger.early_of_rankOf_lt {stage : Option Stage} {replies : List Reply}
    (h : Ledger stage replies) (hlt : Stage.rankOf stage < Stage.rankOf (some .initialized)) :
    ∀ r ∈ replies, Early r := by
  cases h with
  | early _ early => exact early
  | allocated halloc =>
    have hle := (Stage.allocated_iff.mp halloc).1
    omega
  | released => exact absurd hlt (by decide)

lemma Ledger.exists_of_allocated {stage : Option Stage} {replies : List Reply}
    (h : Ledger stage replies) (halloc : Stage.allocated stage = true) :
    ∃ first last, replies = first ++ ⟨.init, .ok ()⟩ :: last ∧ (∀ r ∈ first, Early r) ∧
      ∀ r ∈ last, r.call.inLoop = true := by
  cases h with
  | early hlt =>
    have hle := (Stage.allocated_iff.mp halloc).1
    omega
  | allocated _ early loop => exact ⟨_, _, rfl, early, loop⟩
  | released => cases halloc

lemma early_append {replies : List Reply} {r : Reply} (h : ∀ r ∈ replies, Early r)
    (hr : Early r) : ∀ q ∈ replies ++ [r], Early q := by
  intro q hq
  rcases List.mem_append.mp hq with hq | hq
  · exact h q hq
  · rw [List.mem_singleton.mp hq]
    exact hr

/-- An operation of one of the first stages leads one stage on at most. -/
lemma Attempt.rankOf_le {op : Operation ω} {stage : Option Stage} {outcome : Except Fault Unit}
    {replies : List Reply} (attempt : Attempt op outcome replies) (right : op.admits stage = true) :
    Stage.rankOf (if outcome.isOk then op.goal else stage) ≤ Stage.rankOf stage + 1 := by
  split
  · exact Nat.le_of_eq (attempt.rankOf_goal right)
  · omega

/-- The stage that an operation of one of the first stages leaves goes with the calls it has
made. -/
lemma Ledger.attempt {op : Operation ω} {stage : Option Stage} {outcome : Except Fault Unit}
    {replies added : List Reply} (h : Ledger stage replies) (right : op.admits stage = true)
    (attempt : Attempt op outcome added) :
    Ledger (if outcome.isOk then op.goal else stage) (replies ++ added) := by
  have hle := attempt.rankOf_le right
  cases attempt with
  | preInit r =>
    cases (beq_iff_eq.mp right)
    have hearly := h.early_of_rankOf_lt (by decide)
    exact .early (Nat.lt_of_le_of_lt hle (by decide)) (early_append hearly (.preInit r))
  | readParams host file name r =>
    cases (beq_iff_eq.mp right)
    have hearly := h.early_of_rankOf_lt (by decide)
    exact .early (Nat.lt_of_le_of_lt hle (by decide)) (early_append hearly (.readParams name r))
  | declare | unread =>
    cases (beq_iff_eq.mp right)
    have hearly := h.early_of_rankOf_lt (by decide)
    rw [List.append_nil]
    exact .early (Nat.lt_of_le_of_lt hle (by decide)) hearly
  | init r =>
    cases (beq_iff_eq.mp right)
    have hearly := h.early_of_rankOf_lt (by decide)
    cases r with
    | error fault =>
      have hlt : Stage.rankOf (some .sized) < Stage.rankOf (some .initialized) := by decide
      exact .early hlt (early_append hearly (.init fault))
    | ok _ => exact .allocated rfl hearly (by simp)
  | seed =>
    -- Both ends of this step are stages in which the memory is allocated.
    cases (beq_iff_eq.mp right)
    obtain ⟨first, last, rfl, hearly, hloop⟩ := h.exists_of_allocated rfl
    rw [List.append_nil]
    refine .allocated ?_ hearly hloop
    split
    · rfl
    · rfl

/-- Calls of the loop go with every stage in which the memory is allocated. -/
lemma Ledger.loop {stage stage' : Option Stage} {replies added : List Reply}
    (h : Ledger stage replies) (halloc : Stage.allocated stage = true)
    (halloc' : Stage.allocated stage' = true) (hadded : ∀ r ∈ added, r.call.inLoop = true) :
    Ledger stage' (replies ++ added) := by
  obtain ⟨first, last, rfl, hearly, hloop⟩ := h.exists_of_allocated halloc
  rw [List.append_assoc, List.cons_append]
  refine .allocated halloc' hearly fun r hr => ?_
  rcases List.mem_append.mp hr with hr | hr
  · exact hloop r hr
  · exact hadded r hr

/-- The stage goes with the calls after an operation as it did before. -/
lemma Ledger.effect {op : Operation ω} {stage stage' : Option Stage}
    {outcome : Except Fault Unit} {replies added : List Reply} (h : Ledger stage replies)
    (heffect : Effect stage op outcome added stage') : Ledger stage' (replies ++ added) := by
  cases heffect with
  | refused => rwa [List.append_nil]
  | advanced right attempt => exact h.attempt right attempt
  | failed right attempt => exact h.attempt right attempt
  | looped right calls =>
    rw [right] at h
    exact h.loop rfl rfl calls
  | released _ right =>
    obtain ⟨first, last, rfl, hearly, hloop⟩ := h.exists_of_allocated right
    rw [List.append_assoc, List.cons_append]
    exact .released hearly hloop
  | looked => rwa [List.append_nil]
  | left => rwa [List.append_nil]

/-! ## Sequences of operations -/

section

variable {L : Library ω} {screenOutput : Bool} {s : Session (Recorded ω)}
  {ops : List (Operation ω)}

lemma ledger_perform {op : Operation ω} (quiet : op.Quiet)
    (h : Ledger s.stage s.hidden.replies) :
    Ledger ((op.perform L screenOutput).runOn s).2.stage
      ((op.perform L screenOutput).runOn s).2.hidden.replies := by
  have hrun := (Prod.eta ((op.perform L screenOutput).runOn s)).symm
  obtain ⟨added, hadded, heffect⟩ := comes_perform quiet hrun
  rw [hadded]
  exact h.effect heffect

lemma ledger_after (quiet : ∀ op ∈ ops, op.Quiet) (h : Ledger s.stage s.hidden.replies) :
    Ledger (after L screenOutput s ops).stage (after L screenOutput s ops).hidden.replies := by
  induction ops generalizing s with
  | nil => exact h
  | cons op ops ih =>
    refine ih (fun op hop => quiet op (List.mem_cons_of_mem _ hop)) ?_
    exact ledger_perform (quiet op List.mem_cons_self) h

lemma rankOf_le_after (quiet : ∀ op ∈ ops, op.Quiet) :
    Stage.rankOf s.stage ≤ Stage.rankOf (after L screenOutput s ops).stage := by
  induction ops generalizing s with
  | nil => exact Nat.le_refl _
  | cons op ops ih =>
    have hrun := (Prod.eta ((op.perform L screenOutput).runOn s)).symm
    have hop := (moves_perform (quiet op List.mem_cons_self) hrun).monotone
    exact Nat.le_trans hop (ih fun op hop => quiet op (List.mem_cons_of_mem _ hop))

end

/-! ## What the calls of a session amount to -/

/-- Is a call one of the two that release a session? -/
def closes (r : Reply) : Bool := r.reports || r.releases

/-- What is to be said of the calls of a session. -/
structure Orderly (replies : List Reply) : Prop where
  /-- The solver is initialized once at most. -/
  initializedOnce : replies.countP Reply.initializes ≤ 1
  /-- The status is reported once at most. -/
  reportedOnce : replies.countP Reply.reports ≤ 1
  /-- The memory is released once at most. -/
  releasedOnce : replies.countP Reply.releases ≤ 1
  /-- Both come after an initialization. -/
  afterInit : ∀ before r rest, replies = before ++ r :: rest → closes r = true →
    ∃ q ∈ before, q.initializes = true
  /-- A report is followed by the release, whatever came of it, and by nothing else. -/
  reportThenRelease : ∀ before r rest, replies = before ++ r :: rest → r.reports = true →
    ∃ release, rest = [⟨.free, release⟩]
  /-- A release follows the report, and nothing follows it. -/
  releaseAtEnd : ∀ before r rest, replies = before ++ r :: rest → r.releases = true →
    rest = [] ∧ ∃ first report, before = first ++ [⟨.statusMessage, report⟩]

lemma Early.initializes_eq_false {r : Reply} (h : Early r) : r.initializes = false := by
  cases h with
  | preInit | readParams | init => rfl

lemma Early.closes_eq_false {r : Reply} (h : Early r) : closes r = false := by
  cases h with
  | preInit | readParams | init => rfl

lemma initializes_of_inLoop {r : Reply} (h : r.call.inLoop = true) : r.initializes = false := by
  obtain ⟨c, outcome⟩ := r
  cases c with
  | init => cases h
  | preInit | readParams | getUserAction | doneUserAction | iterationOutput | step | statusMessage
  | free | finiteDifference => rfl

lemma closes_of_inLoop {r : Reply} (h : r.call.inLoop = true) : closes r = false := by
  obtain ⟨c, outcome⟩ := r
  cases c with
  | statusMessage | free => cases h
  | preInit | readParams | init | getUserAction | doneUserAction | iterationOutput | step
  | finiteDifference => rfl

/-- The two last of some entries, none of which is like the ones before them. -/
lemma eq_of_append_pair {front before rest : List Reply} {r p q : Reply}
    (h : front ++ [p, q] = before ++ r :: rest) (hr : ∀ x ∈ front, x ≠ r) :
    before = front ∧ r = p ∧ rest = [q] ∨ before = front ++ [p] ∧ r = q ∧ rest = [] := by
  induction front generalizing before with
  | nil =>
    cases before with
    | nil =>
      cases h
      exact .inl ⟨rfl, rfl, rfl⟩
    | cons b before =>
      cases before with
      | nil =>
        cases h
        exact .inr ⟨rfl, rfl, rfl⟩
      | cons c before =>
        have hlength := congrArg List.length h
        simp only [List.nil_append, List.length_cons, List.length_nil, List.length_append] at hlength
        omega
  | cons x front ih =>
    cases before with
    | nil =>
      have hx : x = r := (List.cons.inj h).1
      exact absurd hx (hr x List.mem_cons_self)
    | cons b before =>
      obtain ⟨rfl, htail⟩ := List.cons.inj h
      rcases ih htail fun y hy => hr y (List.mem_cons_of_mem _ hy) with
        ⟨rfl, hp, hq⟩ | ⟨rfl, hp, hq⟩
      · exact .inl ⟨rfl, hp, hq⟩
      · exact .inr ⟨rfl, hp, hq⟩

section

variable {first last front replies : List Reply}

lemma closes_of_open (hearly : ∀ r ∈ first, Early r) (hloop : ∀ r ∈ last, r.call.inLoop = true) :
    ∀ r ∈ first ++ ⟨.init, .ok ()⟩ :: last, closes r = false := by
  intro r hr
  rcases List.mem_append.mp hr with hr | hr
  · exact (hearly r hr).closes_eq_false
  · rcases List.mem_cons.mp hr with rfl | hr
    · rfl
    · exact closes_of_inLoop (hloop r hr)

lemma countP_initializes_of_early (hearly : ∀ r ∈ first, Early r) :
    first.countP Reply.initializes = 0 := by
  rw [List.countP_eq_zero]
  intro r hr
  simp [(hearly r hr).initializes_eq_false]

lemma countP_initializes_of_open (hearly : ∀ r ∈ first, Early r)
    (hloop : ∀ r ∈ last, r.call.inLoop = true) :
    (first ++ ⟨.init, .ok ()⟩ :: last).countP Reply.initializes = 1 := by
  have hlast : last.countP Reply.initializes = 0 := by
    rw [List.countP_eq_zero]
    intro r hr
    simp [initializes_of_inLoop (hloop r hr)]
  rw [List.countP_append, countP_initializes_of_early hearly, List.countP_cons, hlast]
  rfl

lemma countP_reports_eq_zero (hclose : ∀ r ∈ replies, closes r = false) :
    replies.countP Reply.reports = 0 := by
  rw [List.countP_eq_zero]
  intro r hr hcall
  have hfalse := hclose r hr
  simp [closes, hcall] at hfalse

lemma countP_releases_eq_zero (hclose : ∀ r ∈ replies, closes r = false) :
    replies.countP Reply.releases = 0 := by
  rw [List.countP_eq_zero]
  intro r hr hcall
  have hfalse := hclose r hr
  simp [closes, hcall] at hfalse

/-- The two last calls of a session report and release once each. -/
lemma countP_of_released {report release : Except Fault Unit}
    (hclose : ∀ r ∈ front, closes r = false) :
    (front ++ closing report release).countP Reply.reports = 1 ∧
      (front ++ closing report release).countP Reply.releases = 1 := by
  constructor
  · rw [List.countP_append, countP_reports_eq_zero hclose]
    rfl
  · rw [List.countP_append, countP_releases_eq_zero hclose]
    rfl

/-- Calls among which no session is released. -/
lemma orderly_of_open (hinit : replies.countP Reply.initializes ≤ 1)
    (hclose : ∀ r ∈ replies, closes r = false) : Orderly replies := by
  have hnot : ∀ before r rest, replies = before ++ r :: rest → closes r = false := by
    rintro before r rest rfl
    exact hclose r (by simp)
  refine ⟨hinit, ?_, ?_, ?_, ?_, ?_⟩
  · rw [countP_reports_eq_zero hclose]
    omega
  · rw [countP_releases_eq_zero hclose]
    omega
  · intro before r rest h hr
    rw [hnot before r rest h] at hr
    cases hr
  · intro before r rest h hr
    have hfalse := hnot before r rest h
    simp [closes, hr] at hfalse
  · intro before r rest h hr
    have hfalse := hnot before r rest h
    simp [closes, hr] at hfalse

/-- Calls that end with the release of a session that had been initialized. -/
lemma orderly_of_released {report release : Except Fault Unit}
    (hinit : front.countP Reply.initializes = 1) (hclose : ∀ r ∈ front, closes r = false) :
    Orderly (front ++ closing report release) := by
  have hlast : ∀ before r rest,
      front ++ closing report release = before ++ r :: rest →
      closes r = true →
      before = front ∧ r = ⟨.statusMessage, report⟩ ∧ rest = [⟨.free, release⟩] ∨
        before = front ++ [⟨.statusMessage, report⟩] ∧ r = ⟨.free, release⟩ ∧ rest = [] := by
    intro before r rest h hr
    refine eq_of_append_pair h fun x hx hxr => ?_
    have hfalse := hclose x hx
    rw [hxr, hr] at hfalse
    cases hfalse
  refine ⟨?_, ?_, ?_, ?_, ?_, ?_⟩
  · rw [List.countP_append, hinit]
    exact Nat.le_refl 1
  · exact Nat.le_of_eq (countP_of_released hclose).1
  · exact Nat.le_of_eq (countP_of_released hclose).2
  · intro before r rest h hr
    have hpos : 0 < front.countP Reply.initializes := by omega
    obtain ⟨q, hq, hinitializes⟩ := List.countP_pos_iff.mp hpos
    rcases hlast before r rest h hr with ⟨rfl, -⟩ | ⟨rfl, -⟩
    · exact ⟨q, hq, hinitializes⟩
    · exact ⟨q, List.mem_append_left _ hq, hinitializes⟩
  · intro before r rest h hr
    rcases hlast before r rest h (by simp [closes, hr]) with ⟨-, -, rfl⟩ | ⟨-, rfl, -⟩
    · exact ⟨release, rfl⟩
    · cases hr
  · intro before r rest h hr
    rcases hlast before r rest h (by simp [closes, hr]) with ⟨-, rfl, -⟩ | ⟨rfl, -, rfl⟩
    · cases hr
    · exact ⟨rfl, front, report, rfl⟩

end

lemma Ledger.orderly {stage : Option Stage} {replies : List Reply} (h : Ledger stage replies) :
    Orderly replies := by
  cases h with
  | early _ hearly =>
    refine orderly_of_open ?_ fun r hr => (hearly r hr).closes_eq_false
    rw [countP_initializes_of_early hearly]
    omega
  | allocated _ hearly hloop =>
    have hinit := countP_initializes_of_open hearly hloop
    exact orderly_of_open (Nat.le_of_eq hinit) (closes_of_open hearly hloop)
  | @released first last report release hearly hloop =>
    rw [← List.cons_append, ← List.append_assoc]
    exact orderly_of_released (countP_initializes_of_open hearly hloop)
      (closes_of_open hearly hloop)

/-- A finalized session has reported its status and released its memory. -/
lemma Ledger.countP_of_finalized {replies : List Reply} (h : Ledger (some .finalized) replies) :
    replies.countP Reply.reports = 1 ∧
      replies.countP Reply.releases = 1 := by
  cases h with
  | early hlt => exact absurd hlt (by decide)
  | allocated halloc => cases halloc
  | @released first last report release hearly hloop =>
    rw [← List.cons_append, ← List.append_assoc]
    exact countP_of_released (closes_of_open hearly hloop)

/-- Where the solver has been initialized, its memory is allocated or the session is finalized. -/
lemma Ledger.stage_of_initializes {stage : Option Stage} {replies : List Reply}
    (h : Ledger stage replies) (hinit : ∃ r ∈ replies, r.initializes = true) :
    Stage.allocated stage = true ∨ stage = some .finalized := by
  cases h with
  | early _ hearly =>
    obtain ⟨r, hr, hinitializes⟩ := hinit
    rw [(hearly r hr).initializes_eq_false] at hinitializes
    cases hinitializes
  | allocated halloc => exact .inl halloc
  | released => exact .inr rfl

/-! ## The lifecycle -/

/-- Finalizing and leaving finalize a session whose solver has been initialized. -/
lemma Effect.finalized {op : Operation ω} {stage stage' : Option Stage}
    {outcome : Except Fault Unit} {replies : List Reply}
    (h : Effect stage op outcome replies stage') (hop : op = .finalize ∨ op = .leave)
    (hstage : Stage.allocated stage = true ∨ stage = some .finalized) :
    stage' = some .finalized := by
  cases h with
  | refused hexpected wrong =>
    rcases hop with rfl | rfl
    · have hnot : Stage.allocated stage = false := wrong
      exact hstage.resolve_left (by simp [hnot])
    · cases hexpected
  | advanced _ attempt =>
    rcases hop with rfl | rfl
    · rfl
    · cases attempt.isSome_expected
  | failed _ attempt =>
    rcases hop with rfl | rfl
    · cases attempt.advancesFirst
    · cases attempt.isSome_expected
  | looped => rcases hop with h | h <;> cases h
  | released => rfl
  | looked => rcases hop with h | h <;> cases h
  | left wrong => exact hstage.resolve_left (by simp [wrong])

lemma eq_finalized_of_rankOf_le {stage : Option Stage}
    (h : Stage.rankOf (some .finalized) ≤ Stage.rankOf stage) : stage = some .finalized := by
  rcases stage with _ | stage
  · exact absurd h (by decide)
  · cases stage with
    | finalized => rfl
    | created | paramsLoaded | sized | initialized | seeded | running =>
      exact absurd h (by decide)

lemma finalized_after {L : Library ω} {screenOutput : Bool} {s : Session (Recorded ω)}
    {ops : List (Operation ω)} (quiet : ∀ op ∈ ops, op.Quiet) (h : s.stage = some .finalized) :
    (after L screenOutput s ops).stage = some .finalized := by
  have hle : Stage.rankOf s.stage ≤ Stage.rankOf (after L screenOutput s ops).stage :=
    rankOf_le_after quiet
  rw [h] at hle
  exact eq_finalized_of_rankOf_le hle

/-- A session in which nothing has been done, with an empty record. -/
def fresh (messages : List Message) (w : ω) : Session (Recorded ω) :=
  start messages (Recorded.start w)

lemma ledger_fresh (messages : List Message) (w : ω) :
    Ledger (fresh messages w).stage (fresh messages w).hidden.replies := by
  refine .early ?_ (by simp [fresh, start, Recorded.start, Recorded.replies])
  show 0 < 4
  decide

/-- The lifecycle of a session, for every sequence of operations in any order, any of which may fail.
Every operation moves the stage as it may; the calls of the solver are in order; and a session that
is finalized or left after the solver has been initialized ends in the last stage and has reported
its status and released its memory exactly once, whatever else is done before or after. -/
theorem lifecycle (L : Library ω) (screenOutput : Bool) (messages : List Message) (w : ω)
    (ops : List (Operation ω)) (quiet : ∀ op ∈ ops, op.Quiet) :
    (∀ before op rest, ops = before ++ op :: rest →
      Moves op (after L screenOutput (fresh messages w) before)
        ((op.perform L screenOutput).runOn (after L screenOutput (fresh messages w) before)).1
        (after L screenOutput (fresh messages w) (before ++ [op]))) ∧
    Orderly (after L screenOutput (fresh messages w) ops).hidden.replies ∧
    (∀ before op rest, ops = before ++ op :: rest → op = .finalize ∨ op = .leave →
      (∃ r ∈ (after L screenOutput (fresh messages w) before).hidden.replies,
        r.initializes = true) →
      (after L screenOutput (fresh messages w) ops).stage = some .finalized ∧
        (after L screenOutput (fresh messages w) ops).hidden.replies.countP Reply.reports = 1 ∧
        (after L screenOutput (fresh messages w) ops).hidden.replies.countP Reply.releases = 1) := by
  have hstart := ledger_fresh messages w
  refine ⟨?_, (ledger_after quiet hstart).orderly, ?_⟩
  · rintro before op rest rfl
    rw [after_append]
    exact moves_perform (quiet op (by simp)) (Prod.eta _).symm
  · rintro before op rest rfl hop hinit
    have hbefore : ∀ op ∈ before, op.Quiet := fun op hop => quiet op (by simp [hop])
    have hrest : ∀ op ∈ rest, op.Quiet := fun op hop => quiet op (by simp [hop])
    have hopened := (ledger_after hbefore hstart).stage_of_initializes hinit
    obtain ⟨replies, -, heffect⟩ := comes_perform (quiet op (by simp)) (Prod.eta
      ((op.perform L screenOutput).runOn (after L screenOutput (fresh messages w) before))).symm
    have hend : (after L screenOutput (fresh messages w) (before ++ op :: rest)).stage =
        some .finalized := by
      rw [after_append, after]
      exact finalized_after hrest (heffect.finalized hop hopened)
    have hledger : Ledger (after L screenOutput (fresh messages w) (before ++ op :: rest)).stage _ :=
      ledger_after quiet hstart
    rw [hend] at hledger
    exact ⟨hend, hledger.countP_of_finalized⟩

/-- A machine without files. -/
def briefHost : Host := ⟨fun _ => .ok false, none⟩

/-- A whole course of a session, and an attempt to finalize it once more. -/
def briefCourse : List (Operation Unit) :=
  [.preInit, .readParams briefHost none, .declare (.ok 0) (.ok 0), .init,
    .seed (.vector []) (.vector [2]) (.vector []) (.vector []) (.ok 0),
    .run (fun _ => pure (.vector [2])) (some (modify (say "iteration"))) .blank 1, .leave, .finalize]

lemma quiet_briefCourse : ∀ op ∈ briefCourse, op.Quiet := by
  intro op hop
  simp only [briefCourse, List.mem_cons, List.not_mem_nil, or_false] at hop
  rcases hop with rfl | rfl | rfl | rfl | rfl | rfl | rfl | rfl
  case inr.inr.inr.inr.inr.inl =>
    rintro a ⟨⟩
    exact keeps_modify fun _ => rfl
  all_goals trivial

/-- That course makes the calls up to the loop, those of its one round, and the two of the release; the
attempt to finalize once more makes none. -/
theorem lifecycle_brief :
    (∀ op ∈ briefCourse, op.Quiet) ∧
    (after .brief false (fresh [] ()) briefCourse).hidden.replies.map Reply.call =
      [.preInit, .readParams defaultParamFile, .init, .getUserAction .solverStep, .step,
        .getUserAction .reportIteration, .getUserAction .objective, .doneUserAction .objective,
        .getUserAction .constraints, .getUserAction .finiteDifference, .statusMessage, .free] ∧
    Orderly (after .brief false (fresh [] ()) briefCourse).hidden.replies :=
  ⟨quiet_briefCourse, by decide +kernel,
    (lifecycle .brief false [] () briefCourse quiet_briefCourse).2.1⟩

end ReverseComm.Session
