import ReverseComm.Loading.Failure
import ReverseComm.Session.Stage
import ReverseComm.Settings.Issue

/-!
# Faults

Whatever can go wrong, as causes.  The kinds follow who is at fault: a configuration that cannot
be run, a library that does not load, a session driven out of order, a value, index, key or
number that an operation cannot use, or a question that the operating system does not answer.
`external` is what a problem, a solver or a callback raises on its own account.

`Fault.message?` gives the wording of the causes that have one.  The others arise within
arithmetic on arrays and numbers or in the operating system, and are told apart by their kind
alone.
-/

namespace ReverseComm

/-- The name under which the algorithm speaks of itself. -/
def algorithmName : String := "WORHP"

/-- A configuration that the algorithm cannot run with. -/
inductive ConfigFault where
  | severalObjectives (problem : String)
  | stochastic
  | emptyPopulation
  | indexOutOfRange (index size : Nat)
  | unknownPolicy (written : String)
  | outputConflict
  | unknownBinder (name : String)
  | unsupportedLibrary (path : Path)
  deriving DecidableEq, Repr

/-- The wording of a configuration fault. -/
def ConfigFault.message : ConfigFault → String
  | .severalObjectives problem =>
    s!"Multiple objectives detected in {problem} instance. {algorithmName} cannot deal with them"
  | .stochastic =>
    s!"The problem appears to be stochastic. {algorithmName} cannot deal with it"
  | .emptyPopulation => s!"{algorithmName} does not work on an empty population"
  | .indexOutOfRange index size =>
    s!"The index {index} is not valid for a population of size {size}"
  | .unknownPolicy written => s!"Invalid policy: {written}"
  | .outputConflict =>
    "Cannot set verbosity to a >0 value if WORHP screen output is chosen upon construction."
  | .unknownBinder name => s!"Binder not found: {name}"
  | .unsupportedLibrary path => s!"No binder supports the library: {path.text}"

/-- A value that an operation cannot use. -/
inductive ValueFault where
  | differentSizes (first second : Nat)
  | decisionSize (given expected : Nat)
  | fitnessSize (given expected : Nat)
  | emptyRanking
  | severalObjectives
  | bufferSize (given : Nat) (buffer : String) (size : Nat)
  | equalityCount (count : Int)
  | duplicateBinder (name : String)
  /-- A text where a number is needed. -/
  | notANumber
  /-- A nested list whose parts have different shapes, or one that is too deep. -/
  | ragged
  /-- Two shapes that do not fit together. -/
  | unmatchedShapes
  /-- Several truth values where one is needed. -/
  | severalTruths
  /-- A length below zero. -/
  | negativeLength
  /-- A seed below zero. -/
  | negativeSeed
  /-- A draw from nothing. -/
  | emptyDraw
  /-- A draw between bounds in the wrong order. -/
  | reversedRange
  deriving DecidableEq, Repr

/-- The wording of a value fault, where it has one. -/
def ValueFault.message? : ValueFault → Option String
  | .differentSizes first second => s!"fitness vectors of different sizes: {first} and {second}"
  | .decisionSize given expected => s!"decision vector of size {given}, expected {expected}"
  | .fitnessSize given expected => s!"fitness vector of size {given}, expected {expected}"
  | .emptyRanking => some "cannot rank the individuals of an empty population"
  | .severalObjectives => some "ranking is only supported for single-objective problems"
  | .bufferSize given buffer size =>
    s!"cannot write {given} values into buffer {buffer} of size {size}"
  | .equalityCount count => s!"invalid number of equality constraints: {count}"
  | .duplicateBinder name => s!"Duplicate plugin name: {name}"
  | .notANumber | .ragged | .unmatchedShapes | .severalTruths | .negativeLength | .negativeSeed
  | .emptyDraw | .reversedRange => none

/-- An index outside what it indexes. -/
inductive IndexFault where
  | member (index : Int) (size : Nat)
  /-- An element that an array does not have. -/
  | element
  deriving DecidableEq, Repr

/-- The wording of an index fault, where it has one. -/
def IndexFault.message? : IndexFault → Option String
  | .member index size => s!"invalid individual index {index} for a population of size {size}"
  | .element => none

/-- A key that names nothing. -/
inductive KeyFault where
  | unknownBuffer (name : String)
  /-- An entry point that is not bound, or no longer. -/
  | unboundEntryPoint
  deriving DecidableEq, Repr

/-- The wording of a key fault, where it has one. -/
def KeyFault.message? : KeyFault → Option String
  | .unknownBuffer name => s!"Unknown solver buffer: {name}"
  | .unboundEntryPoint => none

/-- A number too large for its place. -/
inductive OverflowFault where
  /-- A whole number beyond the doubles. -/
  | wholeNumber
  /-- A range to draw from that is not finite. -/
  | infiniteRange
  deriving DecidableEq, Repr

/-- A value of the wrong kind. -/
inductive KindFault where
  /-- A registered binder that is something else. -/
  | notABinder (name written : String)
  /-- A registered binder that is not even a type. -/
  | notAType
  /-- A value that is no number at all. -/
  | notNumeric
  /-- A value that is no whole number. -/
  | notWhole
  deriving DecidableEq, Repr

/-- The wording of a kind fault, where it has one. -/
def KindFault.message? : KindFault → Option String
  | .notABinder name written =>
    some ("Incorrect type for binder plugin `" ++ name ++ "`: " ++ written)
  | .notAType | .notNumeric | .notWhole => none

/-- Something that fails while it runs. -/
inductive RunFault where
  | unallocatedBuffer (name : String)
  /-- Raised by a problem, a solver, a callback or the body of a session. -/
  | external (text : String)
  /-- The loop was given fewer rounds than the solver asked for. -/
  | roundsExhausted
  deriving DecidableEq, Repr

/-- The wording of a run fault, where it has one. -/
def RunFault.message? : RunFault → Option String
  | .unallocatedBuffer name => s!"Solver buffer {name} is not allocated"
  | .external text => some text
  | .roundsExhausted => none

/-- A part of the report that the installation lacks. -/
inductive ReportPart where
  | frame
  | table
  deriving DecidableEq, Repr

/-- The wording for a part of the report that the installation lacks. -/
def ReportPart.message : ReportPart → String
  | .frame => "log_to_frame requires the `pandas` module"
  | .table => "log_to_table requires the `tabulate` module"

/-- What the operating system raises where it is asked for something. -/
inductive OsFault where
  /-- A path, or a name in it, longer than the system takes. -/
  | nameTooLong
  /-- A directory on the way that may not be searched. -/
  | accessDenied
  /-- Any other error, by its number. -/
  | other (number : Nat)
  deriving DecidableEq, Repr

/-- Whatever can go wrong. -/
inductive Fault where
  | config (fault : ConfigFault)
  | load (failure : LoadFailure)
  | stage (expected actual : Option Stage)
  | value (fault : ValueFault)
  | index (fault : IndexFault)
  | key (fault : KeyFault)
  | overflow (fault : OverflowFault)
  | kind (fault : KindFault)
  | run (fault : RunFault)
  | os (fault : OsFault)
  | invalid (issues : List Issue)
  | unavailable (part : ReportPart)
  /-- A field of an immutable record was assigned. -/
  | immutable
  deriving DecidableEq, Repr

/-- The wording of a fault, where it has one. -/
def Fault.message? : Fault → Option String
  | .config fault => fault.message
  | .load failure => failure.message
  | .stage expected actual =>
    some ("Solver session is in stage " ++ Stage.nameOf actual ++ ", expected " ++
      Stage.nameOf expected)
  | .value fault => fault.message?
  | .index fault => fault.message?
  | .key fault => fault.message?
  | .kind fault => fault.message?
  | .run fault => fault.message?
  | .unavailable part => some part.message
  | .overflow _ | .os _ | .invalid _ | .immutable => none

end ReverseComm
