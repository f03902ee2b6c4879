/-!
# Exact values of doubles

A finite double is `± significand · 2 ^ exponent`.  Everything that prints a double or asks whether
it is a whole number works on this exact form, so that no decision depends on a second rounding.

`Exact.ofFloat?` reads the form off the bits, `Exact.ratio` turns it into a quotient of naturals,
and `Exact.toInt?` is the whole number it denotes, if it denotes one.
-/

namespace ReverseComm

/-- The exact value `± significand · 2 ^ exponent` of a finite double. -/
structure Exact where
  negative : Bool
  significand : Nat
  exponent : Int
  deriving DecidableEq, Repr

namespace Exact

/-- The exact value of a double; infinities and NaN have none. -/
def ofFloat? (x : Float) : Option Exact :=
  let bits : Nat := x.toBits.toNat
  let negative := bits / Nat.pow 2 63 == 1
  let biased : Nat := bits / Nat.pow 2 52 % Nat.pow 2 11
  let fraction : Nat := bits % Nat.pow 2 52
  if biased == 2047 then none
  else if biased == 0 then some ⟨negative, fraction, -1074⟩
  else some ⟨negative, fraction + Nat.pow 2 52, (biased : Int) - 1075⟩

/-- The magnitude as a quotient of naturals; the denominator is a power of two. -/
def ratio (e : Exact) : Nat × Nat :=
  if 0 ≤ e.exponent then (e.significand * Nat.pow 2 e.exponent.toNat, 1)
  else (e.significand, Nat.pow 2 (-e.exponent).toNat)

/-- The whole number denoted, if the value is one. -/
def toInt? (e : Exact) : Option Int :=
  let (num, den) := e.ratio
  if num % den == 0 then
    let n : Int := (num / den : Nat)
    some (if e.negative then -n else n)
  else none

end Exact

end ReverseComm
