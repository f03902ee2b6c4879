/-!
# Issues of validation

Validating a value reports every issue it has, not only the first.  An issue says where it is, as
the keys that lead to the place, and which rule was broken; the issues of a value are listed by
place and then by rule.
-/

namespace ReverseComm

/-- The rules of validation. -/
inductive Rule where
  /-- The value must be a record. -/
  | record
  /-- A key that the record must not have. -/
  | unknownKey
  /-- A key that the record must have. -/
  | missingKey
  /-- The value must be one of the listed texts. -/
  | literal
  /-- The value must be a whole number. -/
  | whole
  /-- The text must read as a whole number. -/
  | wholeText
  /-- The whole number must not have too many digits. -/
  | wholeTextSize
  /-- The real must be a whole number. -/
  | wholeReal
  /-- The real must be finite. -/
  | finite
  /-- The number must not be negative. -/
  | nonNegative
  /-- The value must be a truth value. -/
  | truth
  /-- The value must read as a truth value. -/
  | truthText
  /-- The value must be a path. -/
  | path
  /-- The value must be a text. -/
  | text
  /-- The record cannot be changed. -/
  | frozen
  /-- A rule of the settings' own, with its wording. -/
  | custom (reason : String)
  deriving DecidableEq, Repr

/-- The name under which a rule is reported. -/
def Rule.name : Rule → String
  | .record => "model_type"
  | .unknownKey => "extra_forbidden"
  | .missingKey => "missing"
  | .literal => "literal_error"
  | .whole => "int_type"
  | .wholeText => "int_parsing"
  | .wholeTextSize => "int_parsing_size"
  | .wholeReal => "int_from_float"
  | .finite => "finite_number"
  | .nonNegative => "greater_than_equal"
  | .truth => "bool_type"
  | .truthText => "bool_parsing"
  | .path => "path_type"
  | .text => "string_type"
  | .frozen => "frozen_instance"
  | .custom _ => "value_error"

/-- The wording of a rule of the settings' own. -/
def Rule.wording? : Rule → Option String
  | .custom reason => some ("Value error, " ++ reason)
  | _ => none

/-- A broken rule and its place. -/
structure Issue where
  place : List String
  rule : Rule
  deriving DecidableEq, Repr

namespace Issue

/-- The order in which issues are listed: by place, then by the name of the rule. -/
def le (a b : Issue) : Bool :=
  if a.place == b.place then a.rule.name ≤ b.rule.name else decide (a.place < b.place)

/-- Issues in the order in which they are listed. -/
def sorted (issues : List Issue) : List Issue := issues.mergeSort le

/-- The issue seen from the record whose field `key` holds the place. -/
def under (key : String) (i : Issue) : Issue := { i with place := key :: i.place }

end Issue

end ReverseComm
