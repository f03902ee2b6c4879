import ReverseComm.Text.Case
import ReverseComm.Text.PrintTable

/-!
# Quoted text

A text between quotes, as it stands inside a written list or record.  The quote is the single one,
unless the text holds a single quote and no double one.  The quote in use, the backslash, line ends
and tabs are escaped by a backslash, unprintable characters by their code point.
-/

namespace ReverseComm.Text

/-- `n` in base sixteen, filled with zeros to a width. -/
def hexDigits (width n : Nat) : List Char :=
  let ds := Nat.toDigits 16 n
  List.replicate (width - ds.length) '0' ++ ds

/-- One character inside quotes. -/
def quotedChar (quote c : Char) : List Char :=
  let n := c.toNat
  if c == quote || c == '\\' then ['\\', c]
  else if c == '\n' then ['\\', 'n']
  else if c == '\r' then ['\\', 'r']
  else if c == '\t' then ['\\', 't']
  else if !inRuns unprintableRuns n then [c]
  else if n < 0x100 then '\\' :: 'x' :: hexDigits 2 n
  else if n < 0x10000 then '\\' :: 'u' :: hexDigits 4 n
  else '\\' :: 'U' :: hexDigits 8 n

/-- A text between quotes. -/
def quoted (s : String) : String :=
  let cs := s.toList
  let quote := if cs.contains '\'' && !cs.contains '"' then '"' else '\''
  String.ofList (quote :: cs.flatMap (quotedChar quote) ++ [quote])

end ReverseComm.Text
