/-!
# Decimal grids

Writing a number with `p` significant digits means choosing a point of the decimal grid whose step
is the place of the last digit.  `roundDiv` picks the nearest grid point, and a tie goes to the even
one; `decade` finds the place of the first digit; `significant` puts the two together.
-/

namespace ReverseComm.Decimal

/-- The whole number nearest to `num / den`; a tie goes to the even neighbour. -/
def roundDiv (num den : Nat) : Nat :=
  let q := num / den
  let r := num % den
  if 2 * r < den then q
  else if den < 2 * r then q + 1
  else if q % 2 == 0 then q else q + 1

/-- How many decimal digits a natural number has; zero has one. -/
def digitCount (n : Nat) : Nat := (Nat.toDigits 10 n).length

/-- Scale a quotient by a power of ten. -/
def scale (num den : Nat) (e : Int) : Nat × Nat :=
  if 0 ≤ e then (num * Nat.pow 10 e.toNat, den) else (num, den * Nat.pow 10 (-e).toNat)

/-- The place of the first digit: the `e` with `10 ^ e ≤ num / den < 10 ^ (e + 1)`, for a positive
quotient. -/
def decade (num den : Nat) : Int :=
  let e : Int := digitCount num - digitCount den
  let (a, b) := scale num den (-e)
  if b ≤ a then e else e - 1

/-- A positive quotient on the grid of `p` significant digits: the digits as a number with exactly
`p` digits, and the place of the first one. -/
def significant (p : Nat) (num den : Nat) : Nat × Int :=
  let e := decade num den
  let (a, b) := scale num den (p - 1 - e)
  let digits := roundDiv a b
  if digits == Nat.pow 10 p then (Nat.pow 10 (p - 1), e + 1) else (digits, e)

/-- `roundDiv` is never further than half a step from the quotient. -/
theorem roundDiv_within (num den : Nat) (h : 0 < den) :
    2 * num ≤ 2 * (roundDiv num den * den) + den ∧
      2 * (roundDiv num den * den) ≤ 2 * num + den := by
  have hdm : den * (num / den) + num % den = num := Nat.div_add_mod num den
  have hlt : num % den < den := Nat.mod_lt _ h
  have hc : num / den * den = den * (num / den) := Nat.mul_comm _ _
  have hs : (num / den + 1) * den = den * (num / den) + den := by rw [Nat.add_mul, hc, Nat.one_mul]
  unfold roundDiv
  simp only
  split
  · omega
  · split
    · rw [hs]; omega
    · split
      · omega
      · rw [hs]; omega

end ReverseComm.Decimal
