import ReverseComm.Decimal.General

/-!
# Shortest decimals

The fewest significant digits that still read back as the same double, and of those the ones nearest
to it.  A decimal reads back exactly when it lies in the interval of reals that round to the double;
the ends belong to the interval when the significand is even.

`candidate` tries one grid: of the two grid points around the value it keeps those inside the
interval and takes the nearer.  `digits` takes the first grid with a hit; seventeen digits always
hit.
-/

namespace ReverseComm.Decimal

/-- The reals that round to a double, scaled to whole numbers: the value is `value / unit`, and the
interval reaches from `low / unit` to `high / unit`. -/
structure Interval where
  low : Nat
  value : Nat
  high : Nat
  unit : Nat
  closed : Bool

/-- The rounding interval of a positive exact value.  Below a power of two the spacing halves. -/
def Interval.ofExact (v : Exact) : Interval :=
  let up := if 0 ≤ v.exponent then Nat.pow 2 v.exponent.toNat else 1
  let unit := if 0 ≤ v.exponent then 4 else 4 * Nat.pow 2 (-v.exponent).toNat
  let below := if v.significand == Nat.pow 2 52 && v.exponent != -1074 then 1 else 2
  { low := (4 * v.significand - below) * up
    value := 4 * v.significand * up
    high := (4 * v.significand + 2) * up
    unit
    closed := v.significand % 2 == 0 }

/-- Does the decimal `n / 10 ^ places` lie in the interval? -/
def Interval.contains (i : Interval) (n : Nat) (places : Int) : Bool :=
  let (a, b) := scale n 1 (-places)
  let x := a * i.unit
  if i.closed then i.low * b ≤ x && x ≤ i.high * b else i.low * b < x && x < i.high * b

/-- The nearest point that reads back on the grid of `p` digits, if there is one. -/
def candidate (i : Interval) (p : Nat) : Option (Nat × Int) :=
  let e := decade i.value i.unit
  let places : Int := p - 1 - e
  let (a, b) := scale i.value i.unit places
  let n := a / b
  let r := a % b
  let lower := i.contains n places
  let upper := i.contains (n + 1) places
  let pick := fun (m : Nat) => if m == Nat.pow 10 p then (Nat.pow 10 (p - 1), e + 1) else (m, e)
  if lower && upper then some (pick (roundDiv (n * b + r) b))
  else if lower then some (n, e)
  else if upper then some (pick (n + 1))
  else none

/-- The shortest digits that read back, and the place of the first. -/
def digits (v : Exact) : Nat × Int :=
  let i := Interval.ofExact v
  match (List.range 17).findSome? fun p => candidate i (p + 1) with
  | some r => r
  | none => significant 17 i.value i.unit

/-- A double in its shortest form: positional where the place of the first digit lies between
`10 ^ -4` and `10 ^ 15`, always with a fraction there; elsewhere with an exponent. -/
def shortest (x : Float) : String :=
  match Exact.ofFloat? x with
  | none => if x.isNaN then "nan" else if x < 0 then "-inf" else "inf"
  | some v =>
    let sign := if v.negative then "-" else ""
    if v.significand == 0 then sign ++ "0.0"
    else
      let (n, e) := digits v
      let ds := dropTrailingZeros (Nat.toDigits 10 n)
      let body :=
        if -4 ≤ e ∧ e < 16 then
          let (whole, fraction) := positional ds e
          withFraction whole (if fraction.isEmpty then ['0'] else fraction)
        else withFraction (ds.take 1) (ds.drop 1) ++ exponentText e
      sign ++ String.ofList body

end ReverseComm.Decimal
