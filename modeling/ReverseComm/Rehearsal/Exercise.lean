import ReverseComm.Problem
import ReverseComm.Rehearsal.Record

/-!
# Problems given by expressions

A problem of a rehearsal has one expression per entry of its fitness vector.  Each evaluation is
counted and recorded, and can be told to fail by its number.
-/

namespace ReverseComm.Rehearsal

/-- An expression in the decision variables. -/
inductive Expression where
  | number (x : Except Fault Float)
  /-- A decision variable; a negative index counts from the end. -/
  | coordinate (i : Int)
  | add (a b : Expression)
  | sub (a b : Expression)
  | mul (a b : Expression)
  | div (a b : Expression)
  | neg (a : Expression)
  | abs (a : Expression)
  | sqrt (a : Expression)
  deriving Inhabited

namespace Expression

/-- The decision variable at an index. -/
def coordinateOf (x : List Float) (i : Int) : Except Fault Float :=
  let j := if i < 0 then i + x.length else i
  if j < 0 then .error (.index .element)
  else match x[j.toNat]? with
    | some v => .ok v
    | none => .error (.index .element)

/-- The value of an expression. -/
def value (x : List Float) : Expression → Except Fault Float
  | .number v => v
  | .coordinate i => coordinateOf x i
  | .add a b => return (← a.value x) + (← b.value x)
  | .sub a b => return (← a.value x) - (← b.value x)
  | .mul a b => return (← a.value x) * (← b.value x)
  | .div a b => return (← a.value x) / (← b.value x)
  | .neg a => return -(← a.value x)
  | .abs a => return (← a.value x).abs
  | .sqrt a => return (← a.value x).sqrt

end Expression

/-- A problem given by expressions.  Its bounds have been read when it is there. -/
structure Exercise where
  name : String
  fitness : List Expression
  lower : Tensor
  upper : Tensor
  dimension : Except Fault Int
  objectiveCount : Int
  constraintCount : Int
  equalityCount : Int
  tolerances : Offer
  stochastic : Bool
  /-- The numbers of the evaluations that fail. -/
  failing : List Nat

namespace Exercise

/-- Evaluate the fitness of a decision vector. -/
def evaluate (e : Exercise) (number : Nat) (x : List Float) : Action Record Tensor := do
  let n ← Record.count number
  modify (Record.add (.evaluated x))
  if e.failing.contains n then throw (.run (.external s!"fitness failed on call {n}"))
  let values : Except Fault (List Float) := e.fitness.mapM (Expression.value x)
  return .vector (← values)

/-- The problem that an exercise poses; its evaluations are counted under a number. -/
def problem (e : Exercise) (number : Nat) : Problem Record where
  name := .ok e.name
  dimension := e.dimension
  objectiveCount := .ok e.objectiveCount
  constraintCount := .ok e.constraintCount
  equalityCount := .ok e.equalityCount
  stochastic := .ok e.stochastic
  bounds := .ok ⟨e.lower, e.upper⟩
  tolerances := .ok e.tolerances
  fitness := e.evaluate number

end Exercise

end ReverseComm.Rehearsal
