import ReverseComm.Decimal.Exact
import ReverseComm.Decimal.Grid

/-!
# General notation

The notation for reals in log lines and tables: a fixed number of significant digits, positional
where the place of the first digit lies between `10 ^ -4` and the precision, with an exponent of at
least two digits elsewhere, and without trailing zeros in the fraction.
-/

namespace ReverseComm.Decimal

/-- Drop trailing zeros. -/
def dropTrailingZeros (ds : List Char) : List Char :=
  (ds.reverse.dropWhile (· == '0')).reverse

/-- Put a decimal point in front of a fraction; an empty fraction has none. -/
def withFraction (whole fraction : List Char) : List Char :=
  if fraction.isEmpty then whole else whole ++ '.' :: fraction

/-- The digits of `n`, filled with zeros on the left to at least `width`. -/
def paddedDigits (width n : Nat) : List Char :=
  let ds := Nat.toDigits 10 n
  List.replicate (width - ds.length) '0' ++ ds

/-- Digits `d₀d₁d₂…` whose first one has place `10 ^ e`, written positionally. -/
def positional (ds : List Char) (e : Int) : List Char × List Char :=
  if e < 0 then (['0'], List.replicate (-e - 1).toNat '0' ++ ds)
  else
    let n := e.toNat + 1
    (ds.take n ++ List.replicate (n - ds.length) '0', ds.drop n)

/-- An exponent: the mark, the sign always written, and at least two digits. -/
def exponentText (e : Int) : List Char :=
  'e' :: (if e < 0 then '-' else '+') :: paddedDigits 2 e.natAbs

/-- A real in general notation with `precision` significant digits. -/
def general (precision : Nat) (x : Float) : String :=
  match Exact.ofFloat? x with
  | none => if x.isNaN then "nan" else if x < 0 then "-inf" else "inf"
  | some v =>
    let sign := if v.negative then "-" else ""
    if v.significand == 0 then sign ++ "0"
    else
      let (num, den) := v.ratio
      let (n, e) := significant precision num den
      let ds := Nat.toDigits 10 n
      let body :=
        if -4 ≤ e ∧ e < precision then
          let (whole, fraction) := positional ds e
          withFraction whole (dropTrailingZeros fraction)
        else
          withFraction (ds.take 1) (dropTrailingZeros (ds.drop 1)) ++ exponentText e
      sign ++ String.ofList body

/-- Reals in reports have six significant digits. -/
def report (x : Float) : String := general 6 x

/-- Fill with blanks on the left up to a width. -/
def padLeft (width : Nat) (s : String) : String :=
  String.ofList (List.replicate (width - s.length) ' ') ++ s

/-- Fill with blanks on the right up to a width. -/
def padRight (width : Nat) (s : String) : String :=
  s ++ String.ofList (List.replicate (width - s.length) ' ')

end ReverseComm.Decimal
