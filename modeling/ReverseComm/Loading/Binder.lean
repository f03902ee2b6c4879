import ReverseComm.Loading.Blame
import ReverseComm.Loading.Platform
import ReverseComm.Solver.Library

/-!
# Binders

A binder makes a solver library of a file.  It says which paths it supports, and creates the
library or refuses to.

The system binder opens the file on the platform and binds the entry points one by one; the first one
that is missing is reported.  It supports every path, and counts the entry points of its libraries,
so that a closed one has none.  What goes in and out of them is held to the conventions of the
platform.
-/

namespace ReverseComm

/-- What makes a solver library of a file. -/
structure Binder (ω : Type) where
  /-- How the binder calls itself. -/
  label : String
  supports : Path → Bool
  create : Path → Action ω (Library ω)

namespace Loading

variable {ω : Type}

/-- The name of the system binder. -/
def systemBinderName : String := "ctypes"

/-- The failure of a library that does not open. -/
def openFailure (path : Path) (report : String) : LoadFailure where
  path := path
  check := if blamesDependency path report then .dependencyFailed else .openFailed
  detail := report
  symbol := none

/-- The failure of a library that lacks an entry point. -/
def symbolFailure (path : Path) (e : EntryPoint) : LoadFailure where
  path := path
  check := .symbolNotFound
  detail := path.text ++ ": undefined symbol: " ++ e.symbol
  symbol := some e.symbol

/-- Bind an entry point next to those that are bound already; it is refused if it is missing. -/
def bind (exports : List String) (bound : List EntryPoint) (e : EntryPoint) :
    Except EntryPoint (List EntryPoint) :=
  if exports.contains e.symbol then .ok (bound ++ [e]) else .error e

/-- Bind all entry points, up to the first one that is missing. -/
def bindAll (exports : List String) : Except EntryPoint (List EntryPoint) :=
  EntryPoint.all.foldlM (bind exports) []

/-- A text as the platform hands it over: it ends at its first null character. -/
def terminated (s : String) : String := String.ofList (s.toList.takeWhile (· != '\x00'))

/-- A machine behind the conventions of the platform: texts are `terminated`, and a count comes back
in 32 bits. -/
def conventional (machine : Machine ω) : Machine ω
  | .readParams file => do
    let count : Int ← machine (.readParams (terminated file))
    return (Int32.ofInt count).toInt
  | c => machine c

/-- Open a file and bind its entry points. -/
def openAndBind (platform : Platform) (machine : Machine ω) (release : Action ω Unit)
    (path : Path) : Except LoadFailure (Library ω) :=
  match platform.openLibrary path.text with
  | .error report => .error (openFailure path report)
  | .ok exports =>
    match bindAll exports with
    | .error e => .error (symbolFailure path e)
    | .ok bound =>
      .ok { path, successThreshold, errorThreshold, bound := some bound
            machine := conventional machine, release }

/-- The binder for the libraries of a platform; `machine` is what their entry points do. -/
def systemBinder (platform : Platform) (machine : Machine ω) (release : Action ω Unit) :
    Binder ω where
  label := systemBinderName
  supports _ := true
  create path := liftM ((openAndBind platform machine release path).mapError Fault.load)

end Loading

end ReverseComm
