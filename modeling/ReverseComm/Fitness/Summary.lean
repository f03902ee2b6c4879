import ReverseComm.Fitness.Scalar

/-!
# Summaries of constraint values

The constraint values of a fitness vector come as equalities first and inequalities after them.  An
equality is violated by its magnitude, an inequality by its positive part, and a violation counts
where it exceeds the tolerance of its constraint.  The summary keeps how many count and their norm.

`Rating.better` is the order that everything else is built on: feasible vectors come first and are
ordered by objective, the others by the number of violations and then by their norm.
-/

namespace ReverseComm

open Scalar

variable {R : Type} [Scalar R]

/-- What the constraint values of a fitness vector amount to. -/
structure Summary (R : Type) where
  violated : Nat
  norm : R
  deriving DecidableEq, Repr

namespace Summary

/-- No constraint is violated. -/
def feasible (s : Summary R) : Bool := s.violated == 0

omit [Scalar R] in
theorem feasible_iff {s : Summary R} : s.feasible = true ↔ s.violated = 0 := beq_iff_eq

/-- How far each constraint is from being met; the first `equalities` are equalities. -/
def violations (equalities : Nat) (values : List R) : List R :=
  (values.take equalities).map Scalar.abs ++ (values.drop equalities).map positivePart

/-- The violations that exceed their tolerances. -/
def excess (violations tolerances : List R) : List R :=
  ((violations.zip tolerances).filter fun p => lt p.2 p.1).map (·.1)

/-- The summary of constraint values, one tolerance each. -/
def of (equalities : Nat) (values tolerances : List R) : Summary R :=
  let counted := excess (violations equalities values) tolerances
  ⟨counted.length, Scalar.norm counted⟩

end Summary

/-- A fitness vector as it is compared: its objective and the summary of its constraints. -/
structure Rating (R : Type) where
  objective : R
  summary : Summary R
  deriving DecidableEq, Repr

namespace Rating

/-- Is the first strictly better than the second? -/
def better (a b : Rating R) : Bool :=
  if a.summary.feasible && b.summary.feasible then lt a.objective b.objective
  else if a.summary.feasible || b.summary.feasible then a.summary.feasible
  else if a.summary.violated == b.summary.violated then lt a.summary.norm b.summary.norm
  else decide (a.summary.violated < b.summary.violated)

end Rating

end ReverseComm
