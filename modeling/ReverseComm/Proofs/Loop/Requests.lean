import ReverseComm.Loop
import ReverseComm.Proofs.Session.Frame

/-!
# What the loop is asked for

By its requests for the objective and for the constraints the solver asks for the fitness of a
decision vector: the one that stands in its buffer when the loop comes to serve the request.  `asked`
lists these decision vectors for a whole loop, one for each such request that is served, in their
order.  It follows the loop through its rounds and their requests, and takes nothing from what is
remembered of evaluations.

What is true of the state of a loop may depend on that list.  If all parts of a round track such a
property, then so does the loop (`Tracked.rounds`), up to a weaker one at a fault.  The frames of the
loop are the case in which the list does not matter.
-/

namespace ReverseComm

open ReverseComm.Action

variable {ω α : Type}

/-- Is a request served with the fitness of the decision vector? -/
def Request.evaluates : Request → Bool
  | .objective | .constraints => true
  | .solverStep | .reportIteration | .finiteDifference => false

/-- Does a call belong to the loop? -/
def Call.inLoop : Call → Bool
  | .getUserAction _ | .doneUserAction _ | .iterationOutput | .step | .finiteDifference => true
  | .preInit | .readParams _ | .init | .statusMessage | .free => false

namespace Loop

/-- The decision vector in its buffer, if it can be read there. -/
def point (r : Running ω) : List (List Float) :=
  match r.session.buffer .decision with
  | .ok x => [x]
  | .error _ => []

section

variable (L : Library ω) (service : Service ω) (evaluation : Action (Running ω) Tensor)

/-- The decision vector that a request asks for, if it is raised and asks for one. -/
def askedBy (a : Request) : Running ω → List (List Float) :=
  (onSession (Session.call L (.getUserAction a))).afterwards fun raised r =>
    if raised && a.evaluates then point r else []

/-- The decision vectors that some requests in turn ask for. -/
def askedIn : List Request → Running ω → List (List Float)
  | [], _ => []
  | a :: requests, r =>
    askedBy L a r ++ (poll L service evaluation a).afterwards (fun _ => askedIn requests) r

/-- The decision vectors that are asked for in rounds, as many as a budget allows. -/
def askedWithin : ℕ → Running ω → List (List Float)
  | 0, _ => []
  | budget + 1, r =>
    if r.session.termination L = .running then
      askedIn L service evaluation Request.all r ++
        (round L service evaluation).afterwards (fun _ => askedWithin budget) r
    else []

/-- The decision vectors that are asked for in a loop. -/
def asked (budget : ℕ) : Running ω → List (List Float) :=
  (onSession Session.enterLoop).afterwards fun _ r =>
    askedWithin L service (evaluate service) budget { r with memo := .blank }

end

/-- An evaluation reads the decision vector; then it knows the fitness, or evaluates it. -/
lemma runOn_evaluate (service : Service ω) (r : Running ω) :
    (evaluate service).runOn r =
      match r.session.buffer .decision with
      | .error fault => (.error fault, r)
      | .ok x =>
        match r.memo.find? x with
        | some f => (.ok f, r)
        | none =>
          match (service.fitness x).runOn r.session with
          | (.error fault, s) => (.error fault, ⟨s, { r.memo with point := some x }⟩)
          | (.ok f, s) => (.ok f, ⟨s, ⟨some x, some f, r.memo.rounds⟩⟩) := by
  rw [evaluate, runOn_bind]
  cases h : r.session.buffer .decision with
  | error fault => simp [onSession, Session.readDecision, runOn_bind, h]
  | ok x =>
    simp only [onSession, Session.readDecision, runOn_bind, h, runOn_zoom, runOn_get,
      runOn_liftExcept]
    cases r.memo.find? x with
    | some f => rfl
    | none =>
      simp only [runOn_bind, runOn_modify, runOn_zoom]
      rcases (service.fitness x).runOn r.session with ⟨fault | f, s⟩
      · rfl
      · rfl

/-- Acting on the session preserves what it preserves next to anything that is remembered. -/
lemma preserves_onSession {P : Running ω → Prop} {a : Action (Session ω) α}
    (ha : ∀ memo, a.Keeps (Preserving fun s => P ⟨s, memo⟩)) :
    (onSession a).Keeps (Preserving P) :=
  fun r hr => ha r.memo r.session hr

/-- Properties that the parts of a loop track: `P` as long as the loop goes on, and `E` once a fault
has broken it off.  Only an evaluation adds to what they depend on. -/
structure Tracked (L : Library ω) (service : Service ω) (evaluation : Action (Running ω) Tensor)
    (P E : List (List Float) → Running ω → Prop) : Prop where
  call : ∀ c : Call, c.inLoop = true → ∀ past,
    (onSession (Session.call L c)).Maintains (P past) (E past)
  memory : ∀ past r m, P past r → P past { r with session.memory := m }
  report : ∀ a ∈ service.report, ∀ past, (onSession a).Maintains (P past) (E past)
  evaluation : evaluation.Tracks P E point
  count : ∀ past r, P past r → P past { r with memo.rounds := r.memo.rounds + 1 }
  fault : ∀ past r, P past r → E past r

namespace Tracked

variable {L : Library ω} {service : Service ω} {evaluation : Action (Running ω) Tensor}
  {P E : List (List Float) → Running ω → Prop} (tracked : Tracked L service evaluation P E)
include tracked

lemma serve (a : Request) :
    (serve L service evaluation a).Tracks P E fun r => if a.evaluates then point r else [] := by
  cases a with
  | solverStep => exact tracks_of_maintains (tracked.call .step rfl)
  | reportIteration =>
    refine tracks_of_maintains ?_
    cases hreport : service.report with
    | none =>
      simp only [Loop.serve, hreport, Option.getD_none]
      exact tracked.call .iterationOutput rfl
    | some a =>
      simp only [Loop.serve, hreport, Option.getD_some]
      exact tracked.report a hreport
  | objective =>
    refine tracked.evaluation.bind_maintains fun f past => Keeps.maintains ?_ (tracked.fault past)
    refine preserves_onSession fun memo => Session.keeps_writeObjective (fun s y => ?_) _
    exact tracked.memory past ⟨s, memo⟩ _
  | constraints =>
    refine tracked.evaluation.bind_maintains fun f past => Keeps.maintains ?_ (tracked.fault past)
    refine (keeps_liftExcept _).bind fun values => ?_
    refine preserves_onSession fun memo => Session.keeps_fill (fun s xs => ?_) _
    exact tracked.memory past ⟨s, memo⟩ _
  | finiteDifference => exact tracks_of_maintains (tracked.call .finiteDifference rfl)

lemma poll (a : Request) : (poll L service evaluation a).Tracks P E (askedBy L a) := by
  have hnone : (pure () : Action (Running ω) Unit).Tracks P E fun _ => [] :=
    tracks_of_maintains fun past => maintains_pure (tracked.fault past) ()
  refine Maintains.bind_tracks (tracked.call (.getUserAction a) rfl) fun raised => ?_
  cases raised with
  | false => exact hnone
  | true =>
    refine (tracked.serve a).bind_maintains fun _ past => ?_
    split
    · exact tracked.call (.doneUserAction a) rfl past
    · exact maintains_pure (tracked.fault past) ()

lemma forM_poll (requests : List Request) :
    (requests.forM (Loop.poll L service evaluation)).Tracks P E
      (askedIn L service evaluation requests) := by
  induction requests with
  | nil => exact tracks_of_maintains fun past => maintains_pure (tracked.fault past) ()
  | cons a requests ih => exact (tracked.poll a).bind fun _ => ih

lemma round :
    (round L service evaluation).Tracks P E (askedIn L service evaluation Request.all) :=
  (tracked.forM_poll Request.all).bind_maintains fun _ past => maintains_modify (tracked.count past)

/-- The rounds of a loop track what all of its parts track. -/
theorem rounds (budget : ℕ) :
    (rounds L service evaluation budget).Tracks P E (askedWithin L service evaluation budget) := by
  induction budget with
  | zero =>
    refine tracks_of_maintains fun past => ?_
    unfold Loop.rounds
    refine (maintains_get (tracked.fault past)).bind fun r => ?_
    dsimp only
    split
    · exact maintains_throw (tracked.fault past) _
    · exact maintains_pure (tracked.fault past) ()
  | succ budget ih =>
    intro past r hr
    unfold Loop.rounds askedWithin
    rw [runOn_bind, runOn_get]
    dsimp only
    by_cases running : r.session.termination L = .running
    · simp only [if_pos running]
      exact (tracked.round.bind fun _ => ih) past r hr
    · simp only [if_neg running, List.append_nil]
      exact maintains_pure (tracked.fault past) () r hr

/-- A loop starts with nothing remembered, and nothing asked for. -/
theorem drive (budget : ℕ) {r : Running ω} (start : P [] { r with memo := .blank }) :
    (∀ status v, (drive L service evaluation budget).runOn r = (.ok status, v) →
      P (askedWithin L service evaluation budget { r with memo := .blank }) v) ∧
    ∀ fault v, (drive L service evaluation budget).runOn r = (.error fault, v) →
      E (askedWithin L service evaluation budget { r with memo := .blank }) v := by
  have hanswer : (do
      Loop.rounds L service evaluation budget
      return (← get).session.memory.status.toInt : Action (Running ω) Int).Tracks P E
        (askedWithin L service evaluation budget) := by
    refine (tracked.rounds budget).bind_maintains fun _ past => ?_
    exact (maintains_get (tracked.fault past)).bind fun v =>
      maintains_pure (tracked.fault past) _
  exact hanswer [] { r with memo := .blank } start

end Tracked

end Loop

end ReverseComm
