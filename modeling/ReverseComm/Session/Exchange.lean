import ReverseComm.Problem
import ReverseComm.Session.State

/-!
# Exchange with the solver

Candidates and bounds enter the solver's buffers, and candidates come back.  The objective is
stored multiplied by the scale of the session.  Constraints are values that ought to be zero
(equalities, which come first) or at most zero (inequalities), so an equality is bounded by zero
on both sides and an inequality by zero above and by minus infinity below.

A vector must have the length of the buffer it goes into.  What was written before a fault stays
written.
-/

namespace ReverseComm.Session

variable {ω : Type}

/-- Copy a vector into a buffer. -/
def fill (name : BufferName) (values : Offer) : Action (Session ω) Unit := do
  let xs ← (← get).buffer name
  let t ← values
  if t.shape = [xs.length] then
    modify fun s => { s with memory := s.memory.write name t.entries }
  else throw (.value (.bufferSize t.size name.symbol xs.length))

/-- Lay values over a buffer; a single one is repeated. -/
def cover (name : BufferName) (values : Offer) : Action (Session ω) Unit := do
  let xs ← (← get).buffer name
  match (← values).stretch [xs.length] with
  | none => throw (.value .unmatchedShapes)
  | some ys => modify fun s => { s with memory := s.memory.write name ys }

/-- Write the decision vector. -/
def writeDecision (x : Offer) : Action (Session ω) Unit := fill .decision x

/-- Write the objective, scaled. -/
def writeObjective (objective : Except Fault Float) : Action (Session ω) Unit := do
  let value ← objective
  modify fun s => { s with memory.objective := s.objectiveScale * value }

/-- Write the values of the constraints. -/
def writeConstraints (values : Offer) : Action (Session ω) Unit := fill .constraints values

/-- Write a candidate: the decision vector, and the fitness vector, objective first. -/
def writeCandidate (x f : Offer) : Action (Session ω) Unit := do
  let f ← f
  writeDecision x
  writeObjective (f.first >>= Tensor.toNumber)
  writeConstraints f.rest

/-- The lower bounds of constraints, equalities first. -/
def constraintLowerBounds (infinity : Float) (equalities count : Nat) : List Float :=
  List.replicate equalities 0 ++ List.replicate (count - equalities) (-infinity)

/-- Write the bounds of the variables and of the constraints. -/
def writeBounds (lower upper : Offer) (equalities : Except Fault Int) :
    Action (Session ω) Unit := do
  fill .decisionLower lower
  fill .decisionUpper upper
  let below ← (← get).buffer .constraintLower
  let above ← (← get).buffer .constraintUpper
  let equalities ← equalities
  if equalities < 0 ∨ (below.length : Int) < equalities then
    throw (.value (.equalityCount equalities))
  modify fun s =>
    let infinity := s.memory.parameters.infinity
    { s with
      memory := (s.memory.write .constraintLower
          (constraintLowerBounds infinity equalities.toNat below.length)).write .constraintUpper
          (List.replicate above.length 0) }

/-- A copy of the decision vector. -/
def readDecision : Action (Session ω) (List Float) := do
  (← get).buffer .decision

/-- The candidate that the solver has arrived at.  Its fitness is evaluated anew: the solver's own
values are scaled, and may belong to a point it only tried. -/
def readCandidate (fitness : List Float → Action ω Tensor) : Action (Session ω) Candidate := do
  let x ← readDecision
  let f ← aside (fitness x)
  return ⟨.vector x, f⟩

end ReverseComm.Session
