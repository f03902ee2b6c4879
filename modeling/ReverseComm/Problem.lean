import ReverseComm.Tensor

/-!
# Problems

An optimisation problem comes from outside.  Its fitness vector holds the objectives, then the
equality constraints, then the inequality constraints.  An equality is met at zero and an inequality
at zero or below, each up to its tolerance.

A problem answers questions about itself and evaluates fitness; either may raise a fault.
Evaluating may also change the state `ω` that the problem keeps to itself, and may answer a tensor
of any shape.
-/

namespace ReverseComm

/-- The bounds of the decision variables. -/
structure Bounds where
  lower : Tensor
  upper : Tensor

/-- An optimisation problem with a state of its own. -/
structure Problem (ω : Type) where
  name : Except Fault String
  /-- The number of decision variables. -/
  dimension : Except Fault Int
  objectiveCount : Except Fault Int
  /-- The number of constraints of both kinds. -/
  constraintCount : Except Fault Int
  /-- The number of equality constraints, which come first. -/
  equalityCount : Except Fault Int
  /-- Does the fitness depend on chance? -/
  stochastic : Except Fault Bool
  bounds : Except Fault Bounds
  /-- One tolerance per constraint. -/
  tolerances : Except Fault Offer
  fitness : List Float → Action ω Tensor

namespace Problem

variable {ω : Type}

/-- A problem is deterministic if its fitness, whenever it answers, answers a function of the
decision vector. -/
def Deterministic (p : Problem ω) (φ : List Float → Tensor) : Prop :=
  ∀ x w t, ((p.fitness x).runOn w).1 = .ok t → t = φ x

end Problem

/-- A decision vector with its fitness vector. -/
structure Candidate where
  x : Tensor
  f : Tensor
  deriving DecidableEq, Repr

/-- Candidates cannot be changed: assigning a field is refused. -/
def Candidate.assign (_ : Candidate) : Except Fault Candidate := .error .immutable

end ReverseComm
