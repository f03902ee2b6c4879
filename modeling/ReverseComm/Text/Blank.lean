/-!
# Blanks

Two sets of blanks.  `isBlank` is what surrounds a name and is stripped from it; `isNumeralBlank` is
what may surround a numeral.  They differ in the four information separators, which only the first
contains.
-/

namespace ReverseComm.Text

/-- The blanks that may surround a numeral: the Unicode property White_Space. -/
def isNumeralBlank (c : Char) : Bool :=
  let n := c.toNat
  (9 ≤ n && n ≤ 13) || n == 0x20 || n == 0x85 || n == 0xa0 || n == 0x1680 ||
    (0x2000 ≤ n && n ≤ 0x200a) || n == 0x2028 || n == 0x2029 || n == 0x202f || n == 0x205f ||
    n == 0x3000

/-- The blanks stripped from names: White_Space and the information separators. -/
def isBlank (c : Char) : Bool :=
  isNumeralBlank c || (0x1c ≤ c.toNat && c.toNat ≤ 0x1f)

/-- Drop the characters of a class at both ends. -/
def stripWith (drop : Char → Bool) (cs : List Char) : List Char :=
  ((cs.dropWhile drop).reverse.dropWhile drop).reverse

/-- Strip the blanks around a name. -/
def strip (s : String) : String := String.ofList (stripWith isBlank s.toList)

end ReverseComm.Text
