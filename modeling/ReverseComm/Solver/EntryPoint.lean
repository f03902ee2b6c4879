import ReverseComm.Solver.Request

/-!
# Entry points

A solver library exports ten entry points under fixed symbols.  A `Call` is a call of one of them
with its arguments, and `Call.Answer` is the type of what it returns.
-/

namespace ReverseComm

/-- The entry points that a solver library must export. -/
inductive EntryPoint where
  | preInit
  | readParams
  | init
  | getUserAction
  | doneUserAction
  | iterationOutput
  | step
  | statusMessage
  | free
  | finiteDifference
  deriving DecidableEq, Repr

namespace EntryPoint

/-- The entry points in the order in which they are bound. -/
def all : List EntryPoint :=
  [.preInit, .readParams, .init, .getUserAction, .doneUserAction, .iterationOutput, .step,
   .statusMessage, .free, .finiteDifference]

/-- The symbol under which a library exports an entry point. -/
def symbol : EntryPoint → String
  | .preInit => "WorhpPreInit"
  | .readParams => "ReadParams"
  | .init => "WorhpInit"
  | .getUserAction => "GetUserAction"
  | .doneUserAction => "DoneUserAction"
  | .iterationOutput => "IterationOutput"
  | .step => "Worhp"
  | .statusMessage => "StatusMsg"
  | .free => "WorhpFree"
  | .finiteDifference => "WorhpFidif"

/-- How many arguments an entry point takes. -/
def arity : EntryPoint → Nat
  | .readParams => 3
  | .getUserAction | .doneUserAction => 2
  | _ => 4

/-- Does an entry point return something? -/
def returns : EntryPoint → Bool
  | .getUserAction | .doneUserAction => true
  | _ => false

theorem mem_all (e : EntryPoint) : e ∈ all := by cases e <;> decide

end EntryPoint

/-- A call into a solver library. -/
inductive Call where
  | preInit
  | readParams (file : String)
  | init
  | getUserAction (request : Request)
  | doneUserAction (request : Request)
  | iterationOutput
  | step
  | statusMessage
  | free
  | finiteDifference
  deriving DecidableEq, Repr

namespace Call

/-- The entry point that is called. -/
def entryPoint : Call → EntryPoint
  | .preInit => .preInit
  | .readParams _ => .readParams
  | .init => .init
  | .getUserAction _ => .getUserAction
  | .doneUserAction _ => .doneUserAction
  | .iterationOutput => .iterationOutput
  | .step => .step
  | .statusMessage => .statusMessage
  | .free => .free
  | .finiteDifference => .finiteDifference

/-- What a call answers: the number of parameters read, whether a request is raised, or nothing. -/
@[reducible] def Answer : Call → Type
  | .readParams _ => Int
  | .getUserAction _ => Bool
  | _ => Unit

end Call

end ReverseComm
