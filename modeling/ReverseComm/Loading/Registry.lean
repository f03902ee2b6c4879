import ReverseComm.Loading.Binder
import ReverseComm.Text.Case

/-!
# The registry of binders

Binders are registered under names without regard to case, each name once, and asked for by name
or by the path they are to support.  A path goes to the first registered binder that supports it,
the system binder coming last wherever it was registered.

A registry is built from what an installation offers.  Whatever is offered has to be a binder.
-/

namespace ReverseComm.Loading

variable {ω : Type}

/-- The registered binders, each under its name in lower case. -/
structure Registry (ω : Type) where
  entries : List (String × Binder ω)

/-- What an installation offers as a binder. -/
inductive Offered (ω : Type) where
  | binder (b : Binder ω)
  /-- A type that is no binder, and how it is written. -/
  | otherType (written : String)
  /-- Something that is not even a type. -/
  | noType

namespace Registry

/-- No binder is registered. -/
def empty : Registry ω := ⟨[]⟩

/-- The registered names in order. -/
def names (r : Registry ω) : List String := r.entries.map (·.1)

/-- The binder under a name in lower case. -/
def lookup? (r : Registry ω) (key : String) : Option (Binder ω) :=
  (r.entries.find? fun e => e.1 == key).map (·.2)

/-- Register a binder, in front of the others or behind them. -/
def register (name : String) (b : Binder ω) (first : Bool) (r : Registry ω) :
    Except Fault (Registry ω) :=
  let key := Text.lower name
  if r.names.contains key then .error (.value (.duplicateBinder key))
  else if first then .ok ⟨(key, b) :: r.entries⟩
  else .ok ⟨r.entries ++ [(key, b)]⟩

/-- Registering is refused exactly under a name that is taken. -/
theorem register_eq_error_iff {name : String} {b : Binder ω} {first : Bool} {r : Registry ω}
    {fault : Fault} :
    r.register name b first = .error fault ↔
      Text.lower name ∈ r.names ∧ fault = .value (.duplicateBinder (Text.lower name)) := by
  by_cases hn : Text.lower name ∈ r.names
  · simp [register, hn, eq_comm]
  · cases first <;> simp [register, hn]

/-- The binders in the order in which they are asked: the system binder's name comes last. -/
def order (r : Registry ω) : List (String × Binder ω) :=
  r.entries.filter (fun e => e.1 != systemBinderName) ++
    r.entries.filter fun e => e.1 == systemBinderName

/-- The binder for a path, by name if one is given. -/
def choose (r : Registry ω) (path : Path) : Option String → Except Fault (Binder ω)
  | some name =>
    match r.lookup? (Text.lower name) with
    | some b => .ok b
    | none => .error (.config (.unknownBinder name))
  | none =>
    match r.order.find? fun e => e.2.supports path with
    | some e => .ok e.2
    | none => .error (.config (.unsupportedLibrary path))

/-- Put a binder under a name as it is offered; a name offered again keeps its place. -/
def put (name : String) (b : Binder ω) : List (String × Binder ω) → List (String × Binder ω)
  | [] => [(name, b)]
  | e :: rest => if e.1 == name then (name, b) :: rest else e :: put name b rest

/-- The binders that an installation offers. -/
def collect (offered : List (String × Offered ω)) : Except Fault (List (String × Binder ω)) :=
  offered.foldlM (fun found o =>
    match o.2 with
    | .binder b => .ok (put o.1 b found)
    | .otherType written => .error (.kind (.notABinder o.1 written))
    | .noType => .error (.kind .notAType)) []

/-- The registry of what an installation offers. -/
def ofOffered (offered : List (String × Offered ω)) : Except Fault (Registry ω) := do
  (← collect offered).foldlM (fun r e => r.register e.1 e.2 false) empty

end Registry

end ReverseComm.Loading
