import ReverseComm.Fitness.Summary
import ReverseComm.Tensor

/-!
# Checking and comparing fitness vectors

`Fitness.check` summarises constraint values against tolerances, `Fitness.better` compares two
fitness vectors, and both take what callers hand in: tensors of any shape, tolerances that are
read and stretched to the constraints, and a number of equalities that cuts the values as a
position does.

What does not fit is a fault.  Of several, the first one met counts, in the order: two fitness
vectors of different shapes, a plain number, tolerances that do not read or do not stretch, an
empty vector.
-/

namespace ReverseComm.Fitness

/-- The tolerances as one number for each entry of a shape. -/
def tolerancesFor (tolerances : Offer) (shape : List Nat) : Except Fault (List Float) := do
  match (← tolerances).stretch shape with
  | none => .error (.value .unmatchedShapes)
  | some ts => return ts

/-- Summarise constraint values against their tolerances. -/
def check (values : Tensor) (equalities : Int) (tolerances : Offer) :
    Except Fault (Summary Float) := do
  let ts ← tolerancesFor tolerances values.shape
  match values.shape with
  | [] => .error (.index .element)
  | n :: shape => return Summary.of (Tensor.cut n equalities * volume shape) values.entries ts

/-- Is one number below another?  Tensors of several entries have no single answer. -/
def below (a b : Tensor) : Except Fault Bool :=
  match a.entries, b.entries with
  | [x], [y] => .ok (x < y)
  | _, _ => .error (.value .severalTruths)

/-- Is the first fitness vector strictly better than the second? -/
def better (f g : Tensor) (equalities : Int) (tolerances : Offer) : Except Fault Bool :=
  if f.shape != g.shape then .error (.value (.differentSizes f.size g.size))
  else do
    let a ← check (← f.rest) equalities tolerances
    let b ← check (← g.rest) equalities tolerances
    if a.feasible && b.feasible then below (← f.first) (← g.first)
    else if a.feasible || b.feasible then return a.feasible
    else if a.violated == b.violated then return decide (a.norm < b.norm)
    else return decide (a.violated < b.violated)

/-- The rating of a fitness vector given by its objective and its constraints, one tolerance each.
-/
def rating (equalities : Int) (tolerances : List Float) (objective : Float)
    (constraints : List Float) : Rating Float :=
  ⟨objective, Summary.of (Tensor.cut constraints.length equalities) constraints tolerances⟩

/-- Tolerances that are as many as the constraints stretch to them. -/
theorem tolerancesFor_vector (ts : List Float) :
    tolerancesFor (.vector ts) [ts.length] = .ok ts := by
  simp [tolerancesFor, Offer.vector, Tensor.stretch_vector, bind, Except.bind, pure, Except.pure]

/-- A single tolerance is the tolerance of every constraint. -/
theorem tolerancesFor_number (t : Float) (n : Nat) :
    tolerancesFor (.ok (.number t)) [n] = .ok (List.replicate n t) := by
  simp [tolerancesFor, Tensor.stretch_number, bind, Except.bind, pure, Except.pure]

/-- There is one tolerance for each constraint. -/
theorem length_of_tolerancesFor {tolerances : Offer} {n : Nat} {ts : List Float}
    (h : tolerancesFor tolerances [n] = .ok ts) : ts.length = n := by
  cases tolerances with
  | error fault => cases h
  | ok t =>
    cases hs : t.stretch [n] with
    | none => simp [tolerancesFor, hs, bind, Except.bind] at h
    | some xs =>
      simp only [tolerancesFor, hs, bind, Except.bind, pure, Except.pure, Except.ok.injEq] at h
      exact h ▸ Tensor.length_of_stretch hs

theorem check_vector {xs : List Float} {equalities : Int} {tolerances : Offer} {ts : List Float}
    (ht : tolerancesFor tolerances [xs.length] = .ok ts) :
    check (.vector xs) equalities tolerances =
      .ok (Summary.of (Tensor.cut xs.length equalities) xs ts) := by
  simp only [check, Tensor.shape_vector, ht, volume, Nat.mul_one, Tensor.entries_vector]
  rfl

/-- As many equalities as there are constraints, at most, are taken as they are given. -/
theorem check_vector_of_le {xs : List Float} {equalities : Nat} {tolerances : Offer}
    {ts : List Float} (hle : equalities ≤ xs.length)
    (ht : tolerancesFor tolerances [xs.length] = .ok ts) :
    check (.vector xs) equalities tolerances = .ok (Summary.of equalities xs ts) := by
  rw [check_vector ht, Tensor.cut_of_le hle]

/-- Vectors are compared by their ratings. -/
theorem better_vector {x y : Float} {xs ys : List Float} (hl : xs.length = ys.length)
    {equalities : Int} {tolerances : Offer} {ts : List Float}
    (ht : tolerancesFor tolerances [xs.length] = .ok ts) :
    better (.vector (x :: xs)) (.vector (y :: ys)) equalities tolerances =
      .ok ((rating equalities ts x xs).better (rating equalities ts y ys)) := by
  have hx := @check_vector xs equalities _ _ ht
  have hy := @check_vector ys equalities _ _ (hl ▸ ht)
  simp only [better, Tensor.shape_vector, List.length_cons, hl, bne_self_eq_false,
    Bool.false_eq_true, if_false, Tensor.rest_vector, List.tail_cons, Tensor.first_vector_cons,
    hx, hy, below, Tensor.number, bind, Except.bind, pure, Except.pure, rating, Rating.better]
  split
  · rfl
  · split
    · rfl
    · split <;> rfl

end ReverseComm.Fitness
