import ReverseComm.Decimal.General
import ReverseComm.Report

/-!
# The log as a table

A log is written as a table in plain text: a line of headers, a line of dashes, and a line for each
evaluation.  Every column is as wide as its longest text, and at least two wider than its header.
Numbers stand to the right and texts to the left.  In a column of reals the decimal points stand
below each other; the last column marks the infeasible lines.

A column without texts has no numbers to align, so the headers of an empty log stand to the left.
-/

namespace ReverseComm.Report

open Decimal

/-- How the texts of a column are aligned. -/
inductive Align where
  | left
  | right
  deriving DecidableEq, Repr

/-- A column of a table. -/
structure Column where
  header : String
  align : Align
  texts : List String
  deriving DecidableEq, Repr

namespace Column

/-- How much wider than its header a column is at least. -/
def headerMargin : Nat := 2

/-- The width of a column. -/
def width (c : Column) : Nat :=
  c.texts.foldl (fun w s => max w s.length) (c.header.length + headerMargin)

/-- A text in its column. -/
def place (c : Column) (s : String) : String :=
  match c.align with
  | .left => padRight c.width s
  | .right => padLeft c.width s

/-- A column of texts. -/
def words (header : String) (texts : List String) : Column := ⟨header, .left, texts⟩

/-- A column of numbers in writing; without any it is aligned as texts are. -/
def numerals (header : String) (texts : List String) : Column :=
  ⟨header, if texts.isEmpty then .left else .right, texts⟩

end Column

/-- The part of a numeral after a mark. -/
def after? (mark : Char) (cs : List Char) : Option Nat :=
  if cs.contains mark then some (cs.reverse.takeWhile (· != mark)).length else none

/-- How many characters of a real in writing stand to the right of where a decimal point is or would
be.  Without a point the exponent counts as the fraction, and whole numbers and what is not finite
have not even a place for the point. -/
def fractionWidth (s : String) : Int :=
  let cs := s.toList
  if cs.any Char.isDigit then
    match after? '.' cs, after? 'e' cs with
    | some n, _ => n
    | none, some n => n
    | none, none => -1
  else -1

/-- Fill numerals on the right so that their decimal points stand below each other. -/
def alignPoints (texts : List String) : List String :=
  let widest := texts.foldl (fun w s => max w (fractionWidth s)) (-1)
  texts.map fun s => s ++ String.ofList (List.replicate (widest - fractionWidth s).toNat ' ')

/-- A column of whole numbers. -/
def wholeColumn (header : String) (ns : List Int) : Column := .numerals header (ns.map toString)

/-- A column of reals. -/
def realColumn (header : String) (xs : List Float) : Column :=
  .numerals header (alignPoints (xs.map Decimal.report))

/-- The mark of an infeasible line. -/
def infeasibleMark (feasible : Bool) : String := if feasible then "" else "i"

/-- A log as the columns of a table; the column of marks has no header. -/
def tableColumns (log : List LogLine) : List Column :=
  [wholeColumn indexName (log.map (·.evaluations)),
   realColumn "objval" (log.map (·.objective)),
   wholeColumn "violated" (log.map (·.violated)),
   realColumn "viol. norm" (log.map (·.norm)),
   .words "" (log.map fun l => infeasibleMark l.feasible)]

/-- Drop the blanks at the end of a line. -/
def trimRight (s : String) : String :=
  String.ofList (s.toList.reverse.dropWhile (· == ' ')).reverse

/-- A line of a table from one text per column. -/
def tableLine (texts : List String) : String := trimRight ("  ".intercalate texts)

/-- The texts of a row, each in its column. -/
def rowTexts (columns : List Column) (i : Nat) : List String :=
  columns.map fun c => c.place (c.texts[i]?.getD "")

/-- Columns as a table of a number of rows. -/
def render (columns : List Column) (rows : Nat) : String :=
  "\n".intercalate
    (tableLine (columns.map fun c => c.place c.header) ::
     tableLine (columns.map fun c => String.ofList (List.replicate c.width '-')) ::
     (List.range rows).map fun i => tableLine (rowTexts columns i))

/-- A log as a table. -/
def table (installed : Bool) (log : List LogLine) : Except Fault String := do
  require .table installed
  return render (tableColumns log) log.length

end ReverseComm.Report
