import ReverseComm.Decimal.Numeral
import ReverseComm.Tensor

/-!
# Reading tensors

Callers hand in numbers in nested lists.  `Nested` is such a list, and `Nested.toTensor` reads it:
the nesting must be rectangular and not too deep, whole numbers are rounded to the nearest double,
truth values count as one and zero, a text is a real in writing, and a missing value is NaN.
`Nested.toRow` reads a single number or a vector only.

A ragged or too deep nesting is found before any entry is looked at; among the entries the first bad
one counts.
-/

namespace ReverseComm

/-- Numbers in nested lists, as a caller hands them in. -/
inductive Nested where
  | int (n : Int)
  | real (x : Float)
  | bool (b : Bool)
  | missing
  | text (s : String)
  | record
  | list (items : List Nested)
  deriving Inhabited

namespace Nested

/-- A whole number as a double. -/
def wholeNumber (n : Int) : Except Fault Float :=
  let x := Float.ofInt n
  if x.isFinite then .ok x else .error (.overflow .wholeNumber)

/-- One entry as a double. -/
def entry : Nested → Except Fault Float
  | .int n => wholeNumber n
  | .real x => .ok x
  | .bool b => .ok (if b then 1 else 0)
  | .missing => .ok (0 / 0)
  | .text s =>
    match Decimal.real? s with
    | some x => .ok x
    | none => .error (.value .notANumber)
  | .record => .error (.kind .notNumeric)
  | .list _ => .error (.value .ragged)

/-- A single number; a missing value is none here. -/
def number : Nested → Except Fault Float
  | .missing | .record | .list _ => .error (.kind .notNumeric)
  | s => s.entry

mutual
/-- The shape of a rectangular nesting; none for a ragged one. -/
def shape? : Nested → Option (List Nat)
  | .list items => do
    match ← shapes? items with
    | [] => return [0]
    | s :: rest => if rest.all (· == s) then return (rest.length + 1) :: s else none
  | _ => some []

/-- The shapes of list items. -/
def shapes? : List Nested → Option (List (List Nat))
  | [] => some []
  | s :: rest => do return (← shape? s) :: (← shapes? rest)
end

mutual
/-- The entries in order. -/
def leaves : Nested → List Nested
  | .list items => leavesOf items
  | s => [s]

/-- The entries of list items in order. -/
def leavesOf : List Nested → List Nested
  | [] => []
  | s :: rest => leaves s ++ leavesOf rest
end

/-- The most axes that a tensor has. -/
def maxAxes : Nat := 64

/-- Read a tensor of at most so many axes. -/
def read (axes : Nat) (s : Nested) : Except Fault Tensor :=
  match s.shape? with
  | none => .error (.value .ragged)
  | some shape =>
    if axes < shape.length then .error (.value .ragged)
    else do Tensor.build shape (← s.leaves.mapM entry)

/-- Read a tensor. -/
def toTensor (s : Nested) : Except Fault Tensor := s.read maxAxes

/-- Read a single number or a vector. -/
def toRow (s : Nested) : Except Fault Tensor := s.read 1

end Nested

end ReverseComm
