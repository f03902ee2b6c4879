import ReverseComm.Solver.EntryPoint

/-!
# The solver's memory

The solver and its caller share the memory in which a solve takes place: the dimensions, the
buffers of the optimisation variables, the objective, a few entries of the workspace, the
parameters, and the control block with the status and the raised requests.

Whole numbers in this memory have 32 bits and wrap.  A buffer that is not allocated is missing;
the solver allocates buffers and releases them, and their lengths follow the dimensions declared
by then.
-/

namespace ReverseComm

/-- The buffers of the optimisation variables. -/
inductive BufferName where
  /-- The decision vector. -/
  | decision
  /-- The multipliers of the bounds of the variables. -/
  | decisionMultipliers
  | decisionLower
  | decisionUpper
  /-- The values of the constraints. -/
  | constraints
  /-- The multipliers of the constraints. -/
  | constraintMultipliers
  | constraintLower
  | constraintUpper
  deriving DecidableEq, Repr

namespace BufferName

/-- The buffers in the order of the memory. -/
def all : List BufferName :=
  [.decision, .decisionMultipliers, .decisionLower, .decisionUpper, .constraints,
   .constraintMultipliers, .constraintLower, .constraintUpper]

/-- The symbol of a buffer in the solver's interface. -/
def symbol : BufferName → String
  | .decision => "X"
  | .decisionMultipliers => "Lambda"
  | .decisionLower => "XL"
  | .decisionUpper => "XU"
  | .constraints => "G"
  | .constraintMultipliers => "Mu"
  | .constraintLower => "GL"
  | .constraintUpper => "GU"

/-- The buffer with a symbol. -/
def ofSymbol? (s : String) : Option BufferName := all.find? fun b => b.symbol == s

/-- Does a buffer have one entry per variable?  The others have one per constraint. -/
def perVariable : BufferName → Bool
  | .decision | .decisionMultipliers | .decisionLower | .decisionUpper => true
  | .constraints | .constraintMultipliers | .constraintLower | .constraintUpper => false

@[simp] theorem ofSymbol?_symbol (b : BufferName) : ofSymbol? b.symbol = some b := by
  cases b <;> simp [ofSymbol?, all, symbol]

end BufferName

/-- The buffers, each of them allocated or missing. -/
structure Buffers where
  decision : Option (List Float)
  decisionMultipliers : Option (List Float)
  decisionLower : Option (List Float)
  decisionUpper : Option (List Float)
  constraints : Option (List Float)
  constraintMultipliers : Option (List Float)
  constraintLower : Option (List Float)
  constraintUpper : Option (List Float)
  deriving DecidableEq, Repr

namespace Buffers

/-- No buffer is allocated. -/
def none : Buffers :=
  ⟨.none, .none, .none, .none, .none, .none, .none, .none⟩

/-- The content of a buffer. -/
def get (bs : Buffers) : BufferName → Option (List Float)
  | .decision => bs.decision
  | .decisionMultipliers => bs.decisionMultipliers
  | .decisionLower => bs.decisionLower
  | .decisionUpper => bs.decisionUpper
  | .constraints => bs.constraints
  | .constraintMultipliers => bs.constraintMultipliers
  | .constraintLower => bs.constraintLower
  | .constraintUpper => bs.constraintUpper

/-- Put a content into a buffer. -/
def put (bs : Buffers) (name : BufferName) (xs : Option (List Float)) : Buffers :=
  match name with
  | .decision => { bs with decision := xs }
  | .decisionMultipliers => { bs with decisionMultipliers := xs }
  | .decisionLower => { bs with decisionLower := xs }
  | .decisionUpper => { bs with decisionUpper := xs }
  | .constraints => { bs with constraints := xs }
  | .constraintMultipliers => { bs with constraintMultipliers := xs }
  | .constraintLower => { bs with constraintLower := xs }
  | .constraintUpper => { bs with constraintUpper := xs }

@[simp] theorem get_put_self (bs : Buffers) (name : BufferName) (xs : Option (List Float)) :
    (bs.put name xs).get name = xs := by cases name <;> rfl

theorem get_put_of_ne (bs : Buffers) {a b : BufferName} (h : a ≠ b) (xs : Option (List Float)) :
    (bs.put a xs).get b = bs.get b := by cases a <;> cases b <;> simp_all [put, get]

end Buffers

/-- The parameters of the solver. -/
structure Parameters where
  /-- The number that stands for infinity in bounds. -/
  infinity : Float
  maxIterations : Int32
  /-- How much the solver prints. -/
  printLevel : Int32
  feasibilityTolerance : Float
  optimalityTolerance : Float
  /-- Does the caller supply the gradient of the objective? -/
  suppliesGradient : Bool
  /-- Does the caller supply the derivatives of the constraints? -/
  suppliesJacobian : Bool
  /-- Does the caller supply the second derivatives? -/
  suppliesHessian : Bool
  /-- Does the caller supply the structure of the second derivatives? -/
  suppliesHessianStructure : Bool
  /-- Does the solver estimate the first multipliers? -/
  estimatesMultipliers : Bool
  deriving DecidableEq, Repr

/-- How many entries of a derivative matrix are stored. -/
structure EntryCounts where
  gradient : Int32
  jacobian : Int32
  hessian : Int32
  deriving DecidableEq, Repr

/-- The number of entries that declares a matrix dense. -/
def denseMatrix : Int32 := -1

/-- The print level at which the solver prints nothing. -/
def silentPrintLevel : Int32 := -1

/-- The memory shared with the solver. -/
structure Memory where
  /-- The number of variables. -/
  variableCount : Int32
  /-- The number of constraints. -/
  constraintCount : Int32
  buffers : Buffers
  /-- The scaled objective. -/
  objective : Float
  entryCounts : EntryCounts
  /-- The factor by which the solver wants the objective scaled. -/
  objectiveScale : Float
  parameters : Parameters
  status : Int32
  /-- The numbers of the requests that are raised. -/
  raised : List Nat
  deriving DecidableEq, Repr

namespace Memory

/-- Memory in which nothing has been written. -/
def blank : Memory where
  variableCount := 0
  constraintCount := 0
  buffers := .none
  objective := 0
  entryCounts := ⟨0, 0, 0⟩
  objectiveScale := 0
  parameters :=
    { infinity := 0, maxIterations := 0, printLevel := 0, feasibilityTolerance := 0,
      optimalityTolerance := 0, suppliesGradient := false, suppliesJacobian := false,
      suppliesHessian := false, suppliesHessianStructure := false, estimatesMultipliers := false }
  status := 0
  raised := []

/-- How many entries a buffer has by the declared dimensions. -/
def lengthOf (m : Memory) (name : BufferName) : Int :=
  if name.perVariable then m.variableCount.toInt else m.constraintCount.toInt

/-- Write into a buffer; one that is not allocated stays missing. -/
def write (m : Memory) (name : BufferName) (xs : List Float) : Memory :=
  { m with buffers := m.buffers.put name ((m.buffers.get name).map fun _ => xs) }

/-- Is a request raised? -/
def isRaised (m : Memory) (code : Nat) : Bool := m.raised.contains code

/-- Raise a request. -/
def raise (m : Memory) (code : Nat) : Memory :=
  if m.isRaised code then m else { m with raised := code :: m.raised }

/-- Clear a request. -/
def clear (m : Memory) (code : Nat) : Memory :=
  { m with raised := m.raised.filter (· != code) }

/-- Raising a request raises that one and leaves the others. -/
@[simp] theorem isRaised_raise (m : Memory) (code other : Nat) :
    (m.raise code).isRaised other = (other == code || m.isRaised other) := by
  unfold raise
  split
  · rename_i h
    by_cases e : other = code <;> simp [e, h]
  · by_cases e : other = code <;> simp [isRaised, e]

/-- Clearing a request clears that one and leaves the others. -/
@[simp] theorem isRaised_clear (m : Memory) (code other : Nat) :
    (m.clear code).isRaised other = (other != code && m.isRaised other) := by
  simp only [isRaised, clear]
  by_cases h : other = code
  · simp [h]
  · by_cases hm : other ∈ m.raised <;> simp [h, hm]

end Memory

end ReverseComm
