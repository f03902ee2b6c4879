import ReverseComm.Settings.Reading

/-!
# Reading records

A record is read field by field, and every issue of every field is reported, together with the keys
that the record must not have.  `Checked` is a result with all its issues; `field` reads one field,
`strangers` lists the keys that are not known.
-/

namespace ReverseComm.Settings

/-- A result, or all the issues that stand in its way. -/
abbrev Checked (α : Type) := Except (List Issue) α

/-- The issues of a result. -/
def issues {α : Type} : Checked α → List Issue
  | .ok _ => []
  | .error is => is

/-- A single reading as a result: its broken rule is an issue of the value itself. -/
def checked {α : Type} (read : Value → Reading α) (v : Value) : Checked α :=
  match read v with
  | .ok a => .ok a
  | .error rule => .error [⟨[], rule⟩]

/-- A result seen from the record whose field `key` it comes from. -/
def under {α : Type} (key : String) : Checked α → Checked α
  | .ok a => .ok a
  | .error is => .error (is.map (Issue.under key))

/-- Read the field `key` of a record; a missing field has the value `default`. -/
def field {α : Type} (fields : List (String × Value)) (key : String) (default : Checked α)
    (read : Value → Checked α) : Checked α :=
  under key (match Value.field? key fields with
    | none => default
    | some v => read v)

/-- The issue of a required field that is missing. -/
def missing {α : Type} : Checked α := .error [⟨[], .missingKey⟩]

/-- Read one of the listed texts. -/
def oneOf {α : Type} (table : List (String × α)) : Value → Checked α
  | .text s =>
    match table.find? fun w => w.1 == s with
    | some w => .ok w.2
    | none => .error [⟨[], .literal⟩]
  | _ => .error [⟨[], .literal⟩]

/-- The issues of the keys that a record must not have. -/
def strangers (known : List String) (fields : List (String × Value)) : List Issue :=
  (fields.filter fun f => !known.contains f.1).map fun f => ⟨[f.1], .unknownKey⟩

@[simp] theorem issues_ok {α : Type} (a : α) : issues (.ok a : Checked α) = [] := rfl

@[simp] theorem under_ok {α : Type} (key : String) (a : α) :
    under key (.ok a : Checked α) = .ok a := rfl

end ReverseComm.Settings
