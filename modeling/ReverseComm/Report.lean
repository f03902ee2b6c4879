import ReverseComm.Fault

/-!
# The evaluation log

While a solve runs, the algorithm keeps a line for every so many fitness evaluations.  A `LogLine`
holds what is reported of one of them, and `frame` arranges a log by columns, with the number of
evaluations as the index.

The frame and the table are parts of the report that an installation may lack; asking for a part
that is not there is a fault.
-/

namespace ReverseComm

/-- What is reported of one fitness evaluation. -/
structure LogLine where
  /-- How many evaluations there were, this one included. -/
  evaluations : Int
  objective : Float
  /-- How many constraints are violated. -/
  violated : Int
  /-- The norm of the violations. -/
  norm : Float
  feasible : Bool
  deriving DecidableEq, Repr

namespace Report

/-- The name of the column that counts the evaluations. -/
def indexName : String := "objevals"

/-- The names of the columns. -/
def columns : List String := [indexName, "objval", "violated", "viol. norm", "feasible"]

/-- A log by columns, with the numbers of evaluations as the index. -/
structure Frame where
  indexName : String
  index : List Int
  /-- The names of the columns beside the index. -/
  columns : List String
  lines : List LogLine
  deriving DecidableEq, Repr

/-- Ask for a part of the report. -/
def require (part : ReportPart) (installed : Bool) : Except Fault Unit :=
  if installed then .ok () else .error (.unavailable part)

/-- A log as a frame. -/
def frame (installed : Bool) (log : List LogLine) : Except Fault Frame := do
  require .frame installed
  return { indexName, index := log.map (·.evaluations), columns := columns.tail, lines := log }

end Report

end ReverseComm
