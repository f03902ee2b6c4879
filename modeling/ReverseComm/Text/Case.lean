import ReverseComm.Text.CaseTable

/-!
# Lower case

`lower` maps a text to lower case by the full Unicode mapping.  Two characters need more than a
table of single letters: the dotted capital I becomes two characters, and the capital sigma
becomes the final form at the end of a word, that is after a letter and not before one, with marks
skipped.
-/

namespace ReverseComm.Text

/-- Does a list of runs contain a code point? -/
def inRuns (runs : List (Nat × Nat)) (n : Nat) : Bool :=
  runs.any fun r => r.1 ≤ n && n ≤ r.2

/-- The displacement from a capital to its small letter. -/
def lowerShift (n : Nat) : Int :=
  match lowerRuns.find? fun r => r.1 ≤ n && n ≤ r.2.1 && (n - r.1) % r.2.2.1 == 0 with
  | some r => r.2.2.2
  | none => 0

/-- The lower case of one character, without regard to what surrounds it. -/
def lowerChar (c : Char) : List Char :=
  if c.toNat == 0x130 then ['i', '\u0307']
  else [Char.ofNat (c.toNat + lowerShift c.toNat).toNat]

/-- Does the nearest character that counts have a case?  Marks are skipped. -/
def nextIsCased (cs : List Char) : Bool :=
  match cs.dropWhile fun c => inRuns ignorableRuns c.toNat with
  | [] => false
  | c :: _ => inRuns casedRuns c.toNat

/-- Lower case of the rest of a text; `before` holds what precedes it, nearest character first. -/
def lowerFrom (before : List Char) : List Char → List Char
  | [] => []
  | c :: rest =>
    let small :=
      if c.toNat == 0x3a3 then
        [if nextIsCased before && !nextIsCased rest then '\u03c2' else '\u03c3']
      else lowerChar c
    small ++ lowerFrom (c :: before) rest

/-- A text in lower case. -/
def lower (s : String) : String := String.ofList (lowerFrom [] s.toList)

end ReverseComm.Text
