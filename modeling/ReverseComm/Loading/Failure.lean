import ReverseComm.Path

/-!
# Load failures

Loading a solver library can fail at four checks.  A `LoadFailure` keeps which file was tried, which
check failed, the text that the platform gave, and the entry point that was missing, if one was; its
message lists the likely causes in front of the platform's text.
-/

namespace ReverseComm

/-- The checks that can fail while a library is loaded. -/
inductive LoadCheck where
  | notAFile
  | openFailed
  | symbolNotFound
  | dependencyFailed
  deriving DecidableEq, Repr

namespace LoadCheck

/-- The checks in the order in which they are listed. -/
def all : List LoadCheck := [.notAFile, .openFailed, .symbolNotFound, .dependencyFailed]

/-- The name of a check. -/
def name : LoadCheck → String
  | .notAFile => "NOT_A_FILE"
  | .openFailed => "OPEN_FAILED"
  | .symbolNotFound => "SYMBOL_NOT_FOUND"
  | .dependencyFailed => "DEPENDENCY_FAILED"

/-- What went wrong, in words. -/
def text : LoadCheck → String
  | .notAFile => "not a regular file"
  | .openFailed => "library open failure"
  | .symbolNotFound => "symbol not found"
  | .dependencyFailed => "link/dependency failure"

end LoadCheck

/-- A library that could not be loaded. -/
structure LoadFailure where
  path : Path
  check : LoadCheck
  detail : String
  symbol : Option String
  deriving DecidableEq, Repr

namespace LoadFailure

/-- The failed check, with the missing entry point if there is one. -/
def summary (f : LoadFailure) : String :=
  match f.symbol with
  | none => f.check.text
  | some symbol => f.check.text ++ ": `" ++ symbol ++ "`"

/-- The message of a load failure. -/
def message (f : LoadFailure) : String :=
  "An error occurred while loading the WORHP library at run-time (" ++ f.summary ++ ").\n" ++
  "This is typically caused by one of the following reasons:\n\n" ++
  "- The file declared to be the WORHP library, i.e. " ++ f.path.text ++ ", is not found, " ++
  "or it is found but it is not a shared library containing the necessary symbols " ++
  "(is the file path really pointing to a valid shared library?).\n" ++
  "- The library is found and it does contain the symbols, but it needs linking to some " ++
  "additional libraries that are not found at run-time.\n\n" ++
  "We report the exact text of the original error:\n\n " ++ f.detail

end LoadFailure

end ReverseComm
