/-!
# Scalars

Rating a fitness vector needs little arithmetic: a comparison, the magnitude of a number, and the
square root of a sum of squares.  `Scalar` lists it, so that the same definitions run on doubles and
can be reasoned about over the reals.
-/

namespace ReverseComm

/-- The arithmetic that rates fitness vectors. -/
class Scalar (R : Type) where
  zero : R
  lt : R → R → Bool
  abs : R → R
  add : R → R → R
  mul : R → R → R
  sqrt : R → R

namespace Scalar

/-- Doubles.  A comparison with NaN is false. -/
instance : Scalar Float where
  zero := 0
  lt x y := x < y
  abs := Float.abs
  add := Float.add
  mul := Float.mul
  sqrt := Float.sqrt

variable {R : Type} [Scalar R]

/-- The number where it is not below zero, and zero elsewhere; NaN stays NaN. -/
def positivePart (x : R) : R := if lt x zero then zero else x

/-- The sum of the squares, from the left. -/
def sumSquares (xs : List R) : R := xs.foldl (fun s x => add s (mul x x)) zero

/-- The Euclidean norm. -/
def norm (xs : List R) : R := sqrt (sumSquares xs)

end Scalar

end ReverseComm
