import ReverseComm.Proofs.Recording
import ReverseComm.Proofs.Session.Nested

/-!
# Loops that come to the same

Two loops may differ in their library, in what serves it and in how a fitness comes about, and still
come to the same.  They do if a relation between their states is kept by everything that a round
is made of: the calls, the reporting, the evaluations, and writing what was evaluated.
`Corresponds` collects these conditions, and `Corresponds.drive` is the result for whole loops, by
one induction for all of them.

`E` is what is left of the relation once a fault has broken a loop off.

The first use is for loops whose hidden state is part of a larger one (`Serves`).  In particular
recording does not show: a loop on a recorded library, once its record is dropped, is the loop on the
library itself (`drive_erase`).  What is proved of recorded calls is therefore proved of the calls
that are made.
-/

namespace ReverseComm.Loop

open ReverseComm.Action

variable {ω ω' : Type}

/-- The parts of two loops correspond. -/
structure Corresponds (R E : Running ω → Running ω' → Prop) (L : Library ω) (L' : Library ω')
    (service : Service ω) (service' : Service ω') (evaluation : Action (Running ω) Tensor)
    (evaluation' : Action (Running ω') Tensor) : Prop where
  call : ∀ c, (onSession (Session.call L c)).Matches R E (onSession (Session.call L' c))
  report : (onSession (service.report.getD (Session.call L .iterationOutput))).Matches R E
    (onSession (service'.report.getD (Session.call L' .iterationOutput)))
  evaluation : evaluation.Matches R E evaluation'
  objective : ∀ value, (onSession (Session.writeObjective value)).Matches R E
    (onSession (Session.writeObjective value))
  constraints : ∀ values, (onSession (Session.writeConstraints values)).Matches R E
    (onSession (Session.writeConstraints values))
  status : ∀ r p, R r p → r.session.memory.status = p.session.memory.status
  termination : ∀ r p, R r p → r.session.termination L = p.session.termination L'
  count : ∀ r p, R r p → R { r with memo.rounds := r.memo.rounds + 1 }
    { p with memo.rounds := p.memo.rounds + 1 }
  fault : ∀ r p, R r p → E r p

namespace Corresponds

variable {R E : Running ω → Running ω' → Prop} {L : Library ω} {L' : Library ω'}
  {service : Service ω} {service' : Service ω'} {evaluation : Action (Running ω) Tensor}
  {evaluation' : Action (Running ω') Tensor}
  (h : Corresponds R E L L' service service' evaluation evaluation')
include h

lemma serve (a : Request) :
    (serve L service evaluation a).Matches R E (serve L' service' evaluation' a) := by
  cases a with
  | solverStep => exact h.call .step
  | reportIteration => exact h.report
  | objective => exact h.evaluation.bind fun f => h.objective _
  | constraints =>
    refine h.evaluation.bind fun f => ?_
    exact (matches_liftExcept h.fault f.rest).bind fun values => h.constraints _
  | finiteDifference => exact h.call .finiteDifference

lemma poll (a : Request) :
    (poll L service evaluation a).Matches R E (poll L' service' evaluation' a) := by
  refine (h.call (.getUserAction a)).bind fun raised => ?_
  split
  · refine (h.serve a).bind fun _ => ?_
    split
    · exact h.call (.doneUserAction a)
    · exact matches_pure _
  · exact matches_pure _

lemma rounds (budget : Nat) :
    (rounds L service evaluation budget).Matches R E (rounds L' service' evaluation' budget) := by
  induction budget with
  | zero =>
    intro r p hrp
    unfold Loop.rounds
    rw [runOn_bind, runOn_bind, runOn_get, runOn_get]
    dsimp only
    rw [h.termination r p hrp]
    split
    · exact .error _ (h.fault r p hrp)
    · exact .ok () hrp
  | succ budget ih =>
    intro r p hrp
    unfold Loop.rounds
    rw [runOn_bind, runOn_bind, runOn_get, runOn_get]
    dsimp only
    rw [h.termination r p hrp]
    split
    · refine Matches.bind ?_ (fun _ => ih) r p hrp
      exact (matches_forM fun a => h.poll a).bind fun _ => matches_modify h.count
    · exact .ok () hrp

/-- Loops whose parts correspond come to the same, from states that do once their memories are
blank. -/
theorem drive (budget : Nat) {r : Running ω} {p : Running ω'}
    (hstart : R { r with memo := .blank } { p with memo := .blank }) :
    Alike R E ((drive L service evaluation budget).runOn r)
      ((drive L' service' evaluation' budget).runOn p) := by
  refine Matches.bind (h.rounds budget) (fun _ => ?_) _ _ hstart
  intro r p hrp
  rw [runOn_bind, runOn_bind, runOn_get, runOn_get]
  dsimp only
  rw [h.status r p hrp]
  exact .ok _ hrp

end Corresponds

/-! ## Loops whose state is part of a larger one -/

section Inner

variable {σ α : Type} {part : σ → ω}

/-- The state of a loop with a part of the hidden state only. -/
def inner (part : σ → ω) (r : Running σ) : Running ω := ⟨Session.inner part r.session, r.memo⟩

/-- The second state is the first one with a part of the hidden state only. -/
def Inner (part : σ → ω) (r : Running σ) (p : Running ω) : Prop := p = inner part r

lemma matches_onSession {a : Action (Session σ) α} {b : Action (Session ω) α}
    (h : Session.Agrees part a b) :
    (onSession a).Matches (Inner part) (Inner part) (onSession b) := by
  refine h.zoom ?_ ?_
  · rintro r _ rfl
    rfl
  · rintro r _ s _ rfl rfl
    rfl

lemma matches_modify_inner {f : Running σ → Running σ} {g : Running ω → Running ω}
    (h : ∀ r, g (inner part r) = inner part (f r)) :
    (modify f : Action (Running σ) Unit).Matches (Inner part) (Inner part) (modify g) := by
  refine matches_modify ?_
  rintro r _ rfl
  exact h r

/-- What serves a loop, and its library, do to a part of the hidden state what others do that have
no more than the part. -/
structure Serves (part : σ → ω) (N : Library σ) (L : Library ω) (service : Service σ)
    (service' : Service ω) : Prop where
  call : ∀ c, Session.Agrees part (Session.call N c) (Session.call L c)
  termination : N.termination = L.termination
  fitness : ∀ x, Session.Agrees part (service.fitness x) (service'.fitness x)
  report : Session.Agrees part (service.report.getD (Session.call N .iterationOutput))
    (service'.report.getD (Session.call L .iterationOutput))

namespace Serves

variable {N : Library σ} {L : Library ω} {service : Service σ} {service' : Service ω}
  (h : Serves part N L service service')
include h

lemma evaluate :
    (evaluate service).Matches (Inner part) (Inner part) (Loop.evaluate service') := by
  refine (matches_onSession Session.agrees_readDecision).bind fun x => ?_
  rintro r _ rfl
  rw [runOn_bind, runOn_bind, runOn_get, runOn_get]
  dsimp only [inner]
  split
  · exact .ok _ rfl
  · refine Matches.bind (matches_modify_inner ?_) (fun _ => ?_) r (inner part r) rfl
    · exact fun _ => rfl
    refine (matches_onSession (h.fitness x)).bind fun f => ?_
    refine Matches.bind (matches_modify_inner ?_) fun _ => matches_pure f
    exact fun _ => rfl

lemma corresponds : Corresponds (Inner part) (Inner part) N L service service'
    (Loop.evaluate service) (Loop.evaluate service') where
  call c := matches_onSession (h.call c)
  report := matches_onSession h.report
  evaluation := h.evaluate
  objective value := matches_onSession (Session.agrees_writeObjective value)
  constraints values := matches_onSession (Session.agrees_fill .constraints values)
  status := by
    rintro r _ rfl
    rfl
  termination := by
    rintro r _ rfl
    exact congrFun h.termination _
  count := by
    rintro r _ rfl
    rfl
  fault _ _ h := h

/-- A loop does what it does on the part alone. -/
lemma drive (budget : Nat) :
    (drive N service (Loop.evaluate service) budget).Matches (Inner part) (Inner part)
      (Loop.drive L service' (Loop.evaluate service') budget) := by
  rintro r _ rfl
  exact h.corresponds.drive budget rfl

/-- So does the loop of a session that has been seeded. -/
lemma run (budget : Nat) :
    (run N service budget).Matches (Inner part) (Inner part) (Loop.run L service' budget) :=
  (matches_onSession Session.agrees_enterLoop).bind fun _ => h.drive budget

end Serves

end Inner

/-! ## Recording does not show -/

/-- The state of a loop without the record. -/
abbrev erase (r : Running (Recorded ω)) : Running ω := inner Recorded.hidden r

/-- What serves a loop, next to a record that it does not see. -/
def recordedService (service : Service ω) : Service (Recorded ω) where
  fitness x := Session.within Recorded.hidden Recorded.put (service.fitness x)
  report := service.report.map (Session.within Recorded.hidden Recorded.put)

lemma serves_recorded (L : Library ω) (service : Service ω) :
    Serves Recorded.hidden (Recorded.library L) L (recordedService service) service where
  call c := Session.agrees_of_runOn fun s => rfl
  termination := rfl
  fitness x := Session.agrees_within (fun _ _ => rfl) (service.fitness x)
  report := by
    rw [recordedService]
    cases service.report with
    | none => exact Session.agrees_of_runOn fun s => rfl
    | some report => exact Session.agrees_within (fun _ _ => rfl) report

/-- A loop does what it does whether it is recorded or not. -/
theorem drive_erase (L : Library ω) (service : Service ω) (budget : Nat)
    (r : Running (Recorded ω)) :
    (drive L service (evaluate service) budget).runOn (erase r) =
      (((drive (Recorded.library L) (recordedService service)
          (evaluate (recordedService service)) budget).runOn r).1,
        erase ((drive (Recorded.library L) (recordedService service)
          (evaluate (recordedService service)) budget).runOn r).2) := by
  have halike := (serves_recorded L service).drive budget r (erase r) rfl
  exact Prod.ext halike.fst_eq.symm (halike.snd fun _ _ h => h)

end ReverseComm.Loop
