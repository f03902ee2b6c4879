/-!
# Unvalidated values

Settings arrive as values of unknown kind, and so does whatever a caller offers as a policy.
`Value` is such a value: a tree of texts, numbers, truth values, lists and records.  Validation
turns it into the types of the rest of the library, and nothing else inspects it.
-/

namespace ReverseComm

/-- A value as it is offered to the settings, before validation. -/
inductive Value where
  | none
  | bool (b : Bool)
  | int (n : Int)
  | real (x : Float)
  | text (s : String)
  | list (items : List Value)
  | record (fields : List (String × Value))
  deriving Inhabited

namespace Value

/-- The field of a record, if it has one of that name. -/
def field? (name : String) (fields : List (String × Value)) : Option Value :=
  (fields.find? fun f => f.1 == name).map (·.2)

@[simp] theorem field?_nil (name : String) : field? name [] = Option.none := rfl

@[simp] theorem field?_cons_self (name : String) (v : Value) (fields : List (String × Value)) :
    field? name ((name, v) :: fields) = some v := by
  simp [field?]

theorem field?_cons_of_ne {name key : String} (h : key ≠ name) (v : Value)
    (fields : List (String × Value)) : field? name ((key, v) :: fields) = field? name fields := by
  simp [field?, h]

/-- Does the value differ from zero?  Only the two numbers and the truth values can equal it, so a
text, a list, a record or no value at all differs. -/
def differsFromZero : Value → Bool
  | .int n => n != 0
  | .real x => x != 0
  | .bool b => b
  | .none | .text _ | .list _ | .record _ => true

end Value

end ReverseComm
