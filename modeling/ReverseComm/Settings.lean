import ReverseComm.Policy

/-!
# Settings

The settings of the algorithm.  They are immutable: changed settings are read anew from the record
of the old ones with the changed field put in.

`Settings.ofValue` reads settings from a value of any kind, `Settings.toValue` writes the record,
and `Settings.update` replaces a field.  That the solver's own output excludes a verbosity is not
a rule of this reading; the algorithm checks it where it takes settings over.
-/

namespace ReverseComm

/-- The settings of the algorithm. -/
structure Settings where
  /-- The solver library. -/
  library : Path
  /-- Let the solver write to the screen. -/
  screenOutput : Bool
  /-- Log every so many evaluations; zero for none. -/
  verbosity : Nat
  /-- The member that is optimised. -/
  selection : Policy
  /-- The member that is replaced. -/
  replacement : Policy
  /-- The seed of the random policies. -/
  seed : Option Nat
  /-- The solver's parameter file. -/
  paramFile : Option Path
  /-- The binder of the library, by name. -/
  binder : Option String
  deriving DecidableEq, Repr

namespace Settings

/-- The settings where nothing else is said. -/
def default : Settings where
  library := Path.ofString "/usr/local/lib/libworhp.so"
  screenOutput := false
  verbosity := 0
  selection := .strategy .best
  replacement := .strategy .best
  seed := none
  paramFile := none
  binder := none

/-- The keys of the record. -/
def keys : List String :=
  ["library", "screen_output", "verbosity", "selection", "replacement", "seed", "param_file",
   "binder"]

/-- Read settings. -/
def ofValue : Value → Checked Settings
  | .record fields =>
    let library := field fields "library" (.ok default.library) (checked path)
    let screenOutput := field fields "screen_output" (.ok default.screenOutput) (checked truth)
    let verbosity := field fields "verbosity" (.ok default.verbosity) (checked natural)
    let selection := field fields "selection" (.ok default.selection) Policy.ofValue
    let replacement := field fields "replacement" (.ok default.replacement) Policy.ofValue
    let seed := field fields "seed" (.ok default.seed) (checked (optional natural))
    let paramFile := field fields "param_file" (.ok default.paramFile) (checked (optional path))
    let binder := field fields "binder" (.ok default.binder) (checked (optional text))
    match issues library ++ issues screenOutput ++ issues verbosity ++ issues selection ++
        issues replacement ++ issues seed ++ issues paramFile ++ issues binder ++
        strangers keys fields with
    | [] => do
      return { library := ← library, screenOutput := ← screenOutput, verbosity := ← verbosity,
               selection := ← selection, replacement := ← replacement, seed := ← seed,
               paramFile := ← paramFile, binder := ← binder }
    | is => .error is
  | _ => .error [⟨[], .record⟩]

/-- Settings from a value of any kind. -/
def validate (v : Value) : Except Fault Settings := (ofValue v).mapError .invalid

/-- A value that may be missing, in a record. -/
def optionValue {α : Type} (write : α → Value) : Option α → Value
  | none => .none
  | some a => write a

/-- The fields of the record. -/
def toFields (s : Settings) : List (String × Value) :=
  [("library", .text s.library.text),
   ("screen_output", .bool s.screenOutput),
   ("verbosity", .int s.verbosity),
   ("selection", s.selection.toValue),
   ("replacement", s.replacement.toValue),
   ("seed", optionValue (fun n : Nat => .int n) s.seed),
   ("param_file", optionValue (fun p : Path => .text p.text) s.paramFile),
   ("binder", optionValue Value.text s.binder)]

/-- Settings as a record. -/
def toValue (s : Settings) : Value := .record s.toFields

/-- Put a value in place of a field. -/
def replaceField (key : String) (v : Value) (fields : List (String × Value)) :
    List (String × Value) :=
  fields.map fun f => if f.1 == key then (key, v) else f

/-- The settings with one field replaced by an unvalidated value. -/
def update (s : Settings) (key : String) (v : Value) : Except Fault Settings :=
  validate (.record (replaceField key v s.toFields))

/-- Settings cannot be changed: assigning any field is refused. -/
def assign (_ : Settings) (key : String) (_ : Value) : Except Fault Settings :=
  .error (.invalid [⟨[key], .frozen⟩])

/-- Does writing and reading again give the same settings? -/
def roundTrips (s : Settings) : Bool := decide ((ofValue s.toValue).toOption = some s)

/-- The solver's own output and a verbosity exclude each other.  The verbosity is looked at before
it is validated: whatever differs from zero counts. -/
def checkOutput (screenOutput : Bool) (verbosity : Value) : Except Fault Unit :=
  if screenOutput && verbosity.differsFromZero then .error (.config .outputConflict) else .ok ()

end Settings

end ReverseComm
