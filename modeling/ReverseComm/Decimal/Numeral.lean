import ReverseComm.Text.Blank

/-!
# Numerals

Reading numbers from their digits.  `natural` is the number that digits denote, `ofDecimal` the
double nearest to digits with a power of ten, and `real?` reads a real in writing: blanks around it,
an optional sign, digits with an optional point and an optional exponent, or a word for infinity or
for no number.  Single underscores may stand between two digits.
-/

namespace ReverseComm.Decimal

/-- The value of a digit. -/
def digitValue (c : Char) : Nat := c.toNat - '0'.toNat

/-- The number that digits denote. -/
def natural (ds : List Char) : Nat := ds.foldl (fun n c => 10 * n + digitValue c) 0

/-- Digits in front, and what follows them. -/
def spanDigits (cs : List Char) : List Char × List Char :=
  (cs.takeWhile Char.isDigit, cs.dropWhile Char.isDigit)

/-- A sign in front, which says whether the number is negative, and what follows it. -/
def takeSign : List Char → Bool × List Char
  | '-' :: cs => (true, cs)
  | '+' :: cs => (false, cs)
  | cs => (false, cs)

/-- From here on, powers of ten are beyond the doubles; below its negative they round to zero. -/
def farPlace : Int := 400

/-- The double nearest to `n * 10 ^ e`. -/
def ofDecimal (n : Nat) (e : Int) : Float :=
  let place : Int := (Nat.toDigits 10 n).length + e
  if n == 0 || place < -farPlace then 0
  else if farPlace < place then 1 / 0
  else Float.ofScientific n (e < 0) e.natAbs

/-- Remove underscores; each has to stand between two digits.  `afterDigit` says whether a digit
came before. -/
def ungroup? (afterDigit : Bool) : List Char → Option (List Char)
  | [] => some []
  | '_' :: c :: cs => if afterDigit && c.isDigit then (c :: ·) <$> ungroup? true cs else none
  | c :: cs => if c == '_' then none else (c :: ·) <$> ungroup? c.isDigit cs

/-- An exponent, or nothing. -/
def exponent? : List Char → Option Int
  | [] => some 0
  | c :: cs =>
    if c == 'e' || c == 'E' then
      let (negative, cs) := takeSign cs
      match spanDigits cs with
      | (d :: ds, []) => some (if negative then -(natural (d :: ds) : Int) else natural (d :: ds))
      | _ => none
    else none

/-- The words for numbers that have no digits. -/
def words : List (String × Float) := [("inf", 1 / 0), ("infinity", 1 / 0), ("nan", 0 / 0)]

/-- A real in writing, without blanks, sign and underscores. -/
def magnitude? (cs : List Char) : Option Float :=
  match words.find? fun w => w.1 == (String.ofList cs).toLower with
  | some w => some w.2
  | none =>
    let (whole, rest) := spanDigits cs
    let (fraction, rest) := match rest with
      | '.' :: rest => spanDigits rest
      | _ => ([], rest)
    if whole.isEmpty && fraction.isEmpty then none
    else (exponent? rest).map fun e => ofDecimal (natural (whole ++ fraction)) (e - fraction.length)

/-- A real in writing. -/
def real? (s : String) : Option Float := do
  let cs ← ungroup? false (Text.stripWith Text.isNumeralBlank s.toList)
  let (negative, body) := takeSign cs
  let x ← magnitude? body
  return if negative then -x else x

end ReverseComm.Decimal
