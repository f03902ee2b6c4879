import ReverseComm.Value
import ReverseComm.Decimal.Shortest
import ReverseComm.Text.Quoted

/-!
# Written form of unvalidated values

How an unvalidated value appears in a message: a text stands as it is, and within a list or a record
between quotes; reals are written in their shortest form.
-/

namespace ReverseComm.Value

mutual
/-- The written form of a value inside a list or a record. -/
def literal : Value → String
  | .none => "None"
  | .bool b => if b then "True" else "False"
  | .int n => toString n
  | .real x => Decimal.shortest x
  | .text s => Text.quoted s
  | .list items => "[" ++ ", ".intercalate (literals items) ++ "]"
  | .record fields => "\x7b" ++ ", ".intercalate (literalFields fields) ++ "\x7d"

/-- The written forms of list items. -/
def literals : List Value → List String
  | [] => []
  | v :: vs => literal v :: literals vs

/-- The written forms of record fields. -/
def literalFields : List (String × Value) → List String
  | [] => []
  | (k, v) :: fs => (Text.quoted k ++ ": " ++ literal v) :: literalFields fs
end

/-- The written form of a value that stands alone. -/
def written : Value → String
  | .text s => s
  | v => literal v

end ReverseComm.Value
