/-!
# Memory layout

The solver keeps its state in four structures that it shares with its caller, so their layout in
memory is part of its interface.  Every field has a natural size and alignment; a field starts at
the next multiple of its alignment, and a structure ends at the next multiple of its largest one.
-/

namespace ReverseComm.Layout

/-- The kinds of fields. -/
inductive FieldKind where
  | int
  | truth
  | real
  | pointer
  | truths (count : Nat)
  | nested (size align : Nat)
  deriving DecidableEq, Repr

namespace FieldKind

/-- The size of a field in bytes. -/
def size : FieldKind → Nat
  | .int => 4
  | .truth => 1
  | .real | .pointer => 8
  | .truths count => count
  | .nested size _ => size

/-- The alignment of a field in bytes. -/
def align : FieldKind → Nat
  | .int => 4
  | .truth | .truths _ => 1
  | .real | .pointer => 8
  | .nested _ align => align

end FieldKind

/-- The next multiple of an alignment. -/
def roundUp (n align : Nat) : Nat := (n + align - 1) / align * align

/-- A field in its place. -/
structure Placed where
  name : String
  offset : Nat
  size : Nat
  deriving DecidableEq, Repr

/-- A structure in memory. -/
structure Block where
  name : String
  fields : List Placed
  size : Nat
  align : Nat
  deriving Repr

/-- Lay out fields one after the other, from an offset on; the last answer is where they end. -/
def place (offset : Nat) : List (String × FieldKind) → List Placed × Nat
  | [] => ([], offset)
  | (name, kind) :: rest =>
    let start := roundUp offset kind.align
    let (placed, stop) := place (start + kind.size) rest
    (⟨name, start, kind.size⟩ :: placed, stop)

/-- Lay out a structure. -/
def block (name : String) (fields : List (String × FieldKind)) : Block :=
  let align := fields.foldl (fun a f => max a f.2.align) 1
  let (placed, stop) := place 0 fields
  ⟨name, placed, roundUp stop align, align⟩

/-- A sparse matrix. -/
def matrix : Block := block "WorhpMatrix"
  [("nnz", .int), ("nRow", .int), ("nCol", .int), ("val", .pointer), ("row", .pointer),
   ("col", .pointer)]

/-- The optimisation variables. -/
def optimisation : Block := block "OptVar"
  [("n", .int), ("m", .int), ("X", .pointer), ("Lambda", .pointer), ("XL", .pointer),
   ("XU", .pointer), ("F", .real), ("G", .pointer), ("Mu", .pointer), ("GL", .pointer),
   ("GU", .pointer), ("initialised", .truth)]

/-- The workspace. -/
def workspace : Block := block "Workspace"
  [("DF", .nested matrix.size matrix.align), ("DG", .nested matrix.size matrix.align),
   ("HM", .nested matrix.size matrix.align), ("ScaleObj", .real), ("MajorIter", .int),
   ("initialised", .truth)]

/-- The parameters. -/
def parameters : Block := block "Params"
  [("Infty", .real), ("MaxIter", .int), ("NLPprint", .int), ("TolFeas", .real),
   ("TolOpti", .real), ("UserDF", .truth), ("UserDG", .truth), ("UserHM", .truth),
   ("UserHMstructure", .truth), ("InitialLMest", .truth), ("initialised", .truth)]

/-- The control flags. -/
def control : Block := block "Control"
  [("status", .int), ("userAction", .truths 16), ("initialised", .truth)]

/-- The structures. -/
def all : List Block := [matrix, optimisation, workspace, parameters, control]

end ReverseComm.Layout
