import ReverseComm.Session

/-!
# The loop

The solver never calls its caller; the caller asks what the solver wants and does it.  A round
polls for every request in order, serves the ones that are raised, and acknowledges those that the
solver does not clear itself.  Rounds follow each other until the status says that the solver has
terminated, which is looked at between rounds only.

Objective and constraints come from one fitness vector, so a fitness that was evaluated is
remembered with its decision vector, and used again as long as the decision vector stays equal to
it.

What a round does is independent of how a fitness comes about, so the evaluation is a parameter
of it.

The number of rounds is the solver's choice.  Here it is bounded by a budget, and running out of
it is a fault of its own.
-/

namespace ReverseComm

/-- What a loop remembers. -/
structure Memo where
  /-- The decision vector that was evaluated last. -/
  point : Option (List Float)
  /-- The fitness that was evaluated last. -/
  fitness : Option Tensor
  /-- How many rounds were finished. -/
  rounds : Nat
  deriving DecidableEq, Repr

namespace Memo

/-- Nothing is remembered. -/
def blank : Memo := ⟨none, none, 0⟩

/-- Are two decision vectors equal as numbers?  Zeros of both signs are, and NaN equals nothing. -/
def sameNumbers (xs ys : List Float) : Bool :=
  xs.length == ys.length && (xs.zip ys).all fun p => p.1 == p.2

/-- What is remembered of a decision vector. -/
def find? (r : Memo) (x : List Float) : Option Tensor :=
  match r.point, r.fitness with
  | some y, some f => if sameNumbers x y then some f else none
  | _, _ => none

/-- What is remembered is the fitness that was evaluated last, and only for an equal decision
vector. -/
theorem find?_eq_some_iff {m : Memo} {x : List Float} {f : Tensor} :
    m.find? x = some f ↔ ∃ y, m.point = some y ∧ m.fitness = some f ∧ sameNumbers x y = true := by
  obtain ⟨point, fitness, rounds⟩ := m
  cases point <;> cases fitness <;> simp [find?, and_comm]

end Memo

/-- A session next to what its loop remembers. -/
structure Running (ω : Type) where
  session : Session ω
  memo : Memo

/-- What serves the requests of the solver. -/
structure Service (ω : Type) where
  /-- Evaluate the fitness of a decision vector. -/
  fitness : List Float → Action (Session ω) Tensor
  /-- Report an iteration; the solver does it where nobody else does. -/
  report : Option (Action (Session ω) Unit)

namespace Loop

variable {ω : Type}

/-- Act on the session. -/
def onSession {α : Type} (a : Action (Session ω) α) : Action (Running ω) α :=
  a.zoom Running.session fun s r => { r with session := s }

/-- Evaluate the fitness of the solver's decision vector, unless it is remembered. -/
def evaluate (service : Service ω) : Action (Running ω) Tensor := do
  let x ← onSession Session.readDecision
  match (← get).memo.find? x with
  | some f => return f
  | none =>
    modify fun r => { r with memo.point := some x }
    let f ← onSession (service.fitness x)
    modify fun r => { r with memo.fitness := some f }
    return f

/-- Serve a request; `evaluation` answers the fitness of the solver's decision vector. -/
def serve (L : Library ω) (service : Service ω) (evaluation : Action (Running ω) Tensor) :
    Request → Action (Running ω) Unit
  | .solverStep => onSession (Session.call L .step)
  | .reportIteration => onSession (service.report.getD (Session.call L .iterationOutput))
  | .objective => do
    let f ← evaluation
    onSession (Session.writeObjective (f.first >>= Tensor.toNumber))
  | .constraints => do
    let f ← evaluation
    let values ← f.rest
    onSession (Session.writeConstraints (.ok values))
  | .finiteDifference => onSession (Session.call L .finiteDifference)

/-- Poll for a request, and serve it if it is raised. -/
def poll (L : Library ω) (service : Service ω) (evaluation : Action (Running ω) Tensor)
    (request : Request) : Action (Running ω) Unit := do
  let raised ← onSession (Session.call L (.getUserAction request))
  if raised then
    serve L service evaluation request
    if request.acknowledged then onSession (Session.call L (.doneUserAction request))

/-- Poll for all requests, and count the round. -/
def round (L : Library ω) (service : Service ω) (evaluation : Action (Running ω) Tensor) :
    Action (Running ω) Unit := do
  Request.all.forM (poll L service evaluation)
  modify fun r => { r with memo.rounds := r.memo.rounds + 1 }

/-- Run rounds until the solver has terminated. -/
def rounds (L : Library ω) (service : Service ω) (evaluation : Action (Running ω) Tensor)
    (budget : Nat) : Action (Running ω) Unit := do
  if (← get).session.termination L = .running then
    match budget with
    | 0 => throw (.run .roundsExhausted)
    | budget + 1 =>
      round L service evaluation
      rounds L service evaluation budget

/-- Forget what is remembered, run rounds until the solver has terminated, and answer the last
status. -/
def drive (L : Library ω) (service : Service ω) (evaluation : Action (Running ω) Tensor)
    (budget : Nat) : Action (Running ω) Int := do
  modify fun r => { r with memo := .blank }
  rounds L service evaluation budget
  return (← get).session.memory.status.toInt

/-- Run the loop of a session that has been seeded, and answer the last status. -/
def run (L : Library ω) (service : Service ω) (budget : Nat) : Action (Running ω) Int := do
  onSession Session.enterLoop
  drive L service (evaluate service) budget

end Loop

end ReverseComm
