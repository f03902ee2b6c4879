import ReverseComm.Decimal.Exact
import ReverseComm.Decimal.Numeral
import ReverseComm.Path
import ReverseComm.Settings.Issue
import ReverseComm.Value

/-!
# Reading unvalidated values

The rules by which a `Value` is read as a whole number, a truth value, a path or a text.  They are
lenient: a number may be written as a text, a truth value as a number or as one of a few words.
Each rule that is broken is named; a reader names at most one.

A whole number in writing has a plain form, and a free one that is brought into the plain form by
dropping what does not count.

`natural` reads a whole number that is not negative, in two steps, so that a text which does not
read is reported as such and only a number that reads is reported as negative.
-/

namespace ReverseComm.Settings

/-- The outcome of reading a single value. -/
abbrev Reading (α : Type) := Except Rule α

/-! ## Whole numbers in writing -/

/-- The most characters of a whole number in writing, its sign among them. -/
def numeralLimit : Nat := 4300

/-- Read the plain form: an optional minus, and digits without a leading zero.  Digits in excess are
reported before what follows them is looked at. -/
def plainNumeral (cs : List Char) : Reading Int :=
  let (negative, body) := match cs with
    | '-' :: rest => (true, rest)
    | _ => (false, cs)
  match Decimal.spanDigits body with
  | (['0'], []) => .ok 0
  | ([], _) | ('0' :: _, _) => .error .wholeText
  | (digits, rest) =>
    if numeralLimit < digits.length + (if negative then 1 else 0) then .error .wholeTextSize
    else if !rest.isEmpty then .error .wholeText
    else .ok (if negative then -(Decimal.natural digits : Int) else Decimal.natural digits)

/-- Drop zeros and underscores after `last`, which is one of them.  It stays where nothing or a
point follows; a digit or a minus ends the run, and anything else does not read. -/
def afterZeros? (last : Char) : List Char → Option (List Char)
  | [] => some [last]
  | c :: cs =>
    if c == '0' || c == '_' then afterZeros? c cs
    else if c == '-' || c.isDigit then some (c :: cs)
    else if c == '.' then some (last :: c :: cs)
    else none

/-- Drop leading zeros and the underscores among them. -/
def dropLeadingZeros? : List Char → Option (List Char)
  | c :: cs => if c == '0' then afterZeros? c cs else if c.isDigit then some (c :: cs) else none
  | [] => none

/-- Drop a fraction of one or more zeros. -/
def dropZeroFraction (cs : List Char) : List Char :=
  match cs.dropWhile (· != '.') with
  | '.' :: '0' :: zeros => if zeros.all (· == '0') then cs.takeWhile (· != '.') else cs
  | _ => cs

/-- Does an underscore follow directly on another one? -/
def hasDoubleUnderscore : List Char → Bool
  | '_' :: '_' :: _ => true
  | _ :: cs => hasDoubleUnderscore cs
  | [] => false

/-- Drop underscores that stand singly, neither first nor last. -/
def dropUnderscores (cs : List Char) : List Char :=
  if cs.head? == some '_' || cs.getLast? == some '_' || hasDoubleUnderscore cs then cs
  else cs.filter (· != '_')

/-- The plain form of a free one, which may have blanks around it, a plus, leading zeros, a fraction
of zeros, and underscores. -/
def plainForm? (cs : List Char) : Option (List Char) := do
  let (negative, body) := Decimal.takeSign (Text.stripWith Text.isNumeralBlank cs)
  let digits := dropUnderscores (dropZeroFraction (← dropLeadingZeros? body))
  return if negative then '-' :: digits else digits

/-- Read a whole number in writing: as it stands, or else by its plain form.  Only a number that is
plain as it stands can be reported as too long. -/
def wholeText (s : String) : Reading Int :=
  match plainNumeral s.toList with
  | .error .wholeText =>
    match (plainForm? s.toList).map plainNumeral with
    | some (.ok n) => .ok n
    | _ => .error .wholeText
  | r => r

/-! ## Values -/

/-- Is a whole number one of 64 bits? -/
def isWord (n : Int) : Bool := -(Nat.pow 2 63 : Nat) ≤ n && n < (Nat.pow 2 63 : Nat)

/-- Read a real as a whole number of 64 bits.  The least of them does not count. -/
def wholeReal (x : Float) : Reading Int :=
  match Exact.ofFloat? x with
  | none => .error .finite
  | some v =>
    match v.toInt? with
    | none => .error .wholeReal
    | some n => if isWord n && isWord (-n) then .ok n else .error .wholeTextSize

/-- Read a whole number. -/
def whole : Value → Reading Int
  | .int n => .ok n
  | .bool b => .ok (if b then 1 else 0)
  | .real x => wholeReal x
  | .text s => wholeText s
  | .none | .list _ | .record _ => .error .whole

/-- Read a whole number that is not negative. -/
def natural (v : Value) : Reading Nat := do
  let n ← whole v
  if 0 ≤ n then return n.toNat else .error .nonNegative

/-- The words for truth and falsehood. -/
def truthWords : List (String × Bool) :=
  [("true", true), ("t", true), ("yes", true), ("y", true), ("on", true), ("1", true),
   ("false", false), ("f", false), ("no", false), ("n", false), ("off", false), ("0", false)]

/-- A whole number as a truth value. -/
def truthOfInt (n : Int) : Reading Bool :=
  if n == 0 then .ok false else if n == 1 then .ok true else .error .truthText

/-- Read a truth value.  A number has to be a whole one of 64 bits to be looked at.  Words are read
without regard to case; none of their letters has a lower-case form outside ASCII. -/
def truth : Value → Reading Bool
  | .bool b => .ok b
  | .int n => if isWord n then truthOfInt n else .error .truth
  | .real x =>
    match wholeReal x with
    | .ok n => truthOfInt n
    | .error _ => .error .truth
  | .text s =>
    match truthWords.find? fun w => w.1 == s.toLower with
    | some w => .ok w.2
    | none => .error .truthText
  | .none | .list _ | .record _ => .error .truth

/-- Read a path. -/
def path : Value → Reading Path
  | .text s => .ok (Path.ofString s)
  | _ => .error .path

/-- Read a text. -/
def text : Value → Reading String
  | .text s => .ok s
  | _ => .error .text

/-- Read a value that may be missing. -/
def optional {α : Type} (read : Value → Reading α) : Value → Reading (Option α)
  | .none => .ok none
  | v => some <$> read v

/-! ## Reading back what was written -/

theorem natural_int (n : Nat) : natural (.int n) = .ok n := by
  simp [natural, whole, bind, Except.bind, pure, Except.pure]

end ReverseComm.Settings
