import ReverseComm.Host
import ReverseComm.Loading.Registry
import ReverseComm.Message

/-!
# Loading a library

The platform's loader is not to be used by two solves at once, so a coordinator is held while a
library is loaded, and counts the attempts.  Loading asks, in this order, whether the path is a
regular file, which binder is in charge, and the binder for the library.  Whatever goes wrong, the
coordinator is free again afterwards.
-/

namespace ReverseComm.Loading

variable {ω α : Type}

/-- What keeps loads apart. -/
structure Coordinator where
  /-- How many loads were attempted. -/
  loads : Nat
  /-- Is a load under way? -/
  held : Bool
  deriving DecidableEq, Repr

/-- A coordinator that has seen no load. -/
def Coordinator.fresh : Coordinator := ⟨0, false⟩

/-- Where loading takes place. -/
structure Loader (ω : Type) where
  coordinator : Coordinator
  messages : List Message
  hidden : ω

/-- Hold the coordinator during an action. -/
def locked (body : Action (Loader ω) α) : Action (Loader ω) α := do
  modify fun l => { l with coordinator := ⟨l.coordinator.loads + 1, true⟩ }
  body.ensuring (modify fun l => { l with coordinator.held := false })

/-- The failure of a path that names no regular file. -/
def notAFile (path : Path) : LoadFailure where
  path := path
  check := .notAFile
  detail := "The WORHP library path was constructed to be: " ++ path.text ++
    " and it does not appear to be a file"
  symbol := none

/-- Load a library, by the binder of a name if one is given. -/
def load (isFile : Path → Except OsFault Bool) (registry : Except Fault (Registry ω))
    (path : Path) (binder : Option String) : Action (Loader ω) (Library ω) := do
  let library ← locked do
    if !(← probe isFile path) then throw (.load (notAFile path))
    let chosen ← (← registry).choose path binder
    (chosen.create path).zoom Loader.hidden fun w l => { l with hidden := w }
  modify fun l =>
    { l with
      messages := l.messages ++ [⟨.loader, .debug, "Loaded solver library " ++ path.text⟩] }
  return library

end ReverseComm.Loading
