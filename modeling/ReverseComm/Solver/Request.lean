/-!
# Requests of the solver

The solver never calls its caller.  It raises flags, one per request, and the caller polls for
them.  `Request.code` is the number a request goes by in the solver's interface.  The codes
between the constraints and the finite differences belong to derivatives supplied by the caller,
which the solver is never asked to request.
-/

namespace ReverseComm

/-- What the solver may ask its caller to do. -/
inductive Request where
  /-- Run one internal step of the solver. -/
  | solverStep
  /-- Report the current iteration. -/
  | reportIteration
  /-- Evaluate the objective at the current decision vector. -/
  | objective
  /-- Evaluate the constraints at the current decision vector. -/
  | constraints
  /-- Run the solver's finite-difference routine. -/
  | finiteDifference
  deriving DecidableEq, Repr

namespace Request

/-- The requests in the order in which a round polls for them. -/
def all : List Request :=
  [.solverStep, .reportIteration, .objective, .constraints, .finiteDifference]

/-- The number of a request in the solver's interface. -/
def code : Request → Nat
  | .solverStep => 0
  | .reportIteration => 1
  | .objective => 2
  | .constraints => 3
  | .finiteDifference => 7

/-- The name of a request in the solver's interface. -/
def name : Request → String
  | .solverStep => "RUN_SOLVER_STEP"
  | .reportIteration => "REPORT_ITERATION"
  | .objective => "EVALUATE_OBJECTIVE"
  | .constraints => "EVALUATE_CONSTRAINTS"
  | .finiteDifference => "COMPUTE_FINITE_DIFFERENCE"

/-- Does the caller acknowledge the request after serving it?  The solver clears the flags of its
own step and of its finite-difference routine itself. -/
def acknowledged : Request → Bool
  | .reportIteration | .objective | .constraints => true
  | .solverStep | .finiteDifference => false

theorem mem_all (r : Request) : r ∈ all := by cases r <;> decide

end Request

end ReverseComm
