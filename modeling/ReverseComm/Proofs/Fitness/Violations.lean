import ReverseComm.Fitness.Check
import ReverseComm.Proofs.Fitness.Exactness

/-!
# Counting violations

Which constraints count as violated, and what the norm of a summary is a norm of.  An equality
counts if its magnitude exceeds its tolerance.  An inequality should count if its value does, but it
is the positive part that is compared.  With a tolerance that is not below zero this makes no
difference.  A positive part exceeds every tolerance below zero, so there an inequality also counts
if its value does not exceed its tolerance (`heldBelowZero`).  Such a row adds nothing to the norm.

The rows are filtered twice, as they are counted and as one would expect, and the two filters are
compared row by row (`lt_positivePart_eq`).  The norm is computed again in exact arithmetic, from
what the doubles stand for.
-/

namespace ReverseComm

open Scalar

namespace Summary

/-! ## The rows that count -/

section

variable {R S : Type} [Scalar R] [Scalar S]

/-- The equalities whose magnitudes exceed their tolerances, as pairs of value and tolerance. -/
def violatedEqualities (n : ℕ) (values tolerances : List R) : List (R × R) :=
  ((values.zip tolerances).take n).filter fun r => lt r.2 (Scalar.abs r.1)

/-- The inequalities whose values exceed their tolerances, as pairs of value and tolerance. -/
def violatedInequalities (n : ℕ) (values tolerances : List R) : List (R × R) :=
  ((values.zip tolerances).drop n).filter fun r => lt r.2 r.1

/-- The inequalities that are counted, which are those whose positive parts exceed their
tolerances. -/
def countedInequalities (n : ℕ) (values tolerances : List R) : List (R × R) :=
  ((values.zip tolerances).drop n).filter fun r => lt r.2 (positivePart r.1)

lemma take_zip {α β : Type} (xs : List α) (ys : List β) (n : ℕ) :
    (xs.zip ys).take n = (xs.take n).zip (ys.take n) := by
  rw [List.zip_eq_zipWith, List.take_zipWith, List.zip_eq_zipWith]

lemma drop_zip {α β : Type} (xs : List α) (ys : List β) (n : ℕ) :
    (xs.zip ys).drop n = (xs.drop n).zip (ys.drop n) := by
  rw [List.zip_eq_zipWith, List.drop_zipWith, List.zip_eq_zipWith]

/-- The violations that exceed their tolerances come from the equalities first. -/
lemma excess_violations (n : ℕ) {values tolerances : List R}
    (h : tolerances.length = values.length) : excess (violations n values) tolerances =
      (violatedEqualities n values tolerances).map (fun r => Scalar.abs r.1) ++
        (countedInequalities n values tolerances).map fun r => positivePart r.1 := by
  have hlength : ((values.take n).map Scalar.abs).length = (tolerances.take n).length := by
    rw [List.length_map, List.length_take, List.length_take, h]
  have hzip : (violations n values).zip tolerances =
      ((values.zip tolerances).take n).map (Prod.map Scalar.abs id) ++
        ((values.zip tolerances).drop n).map (Prod.map positivePart id) := by
    conv_lhs => rw [← List.take_append_drop n tolerances]
    rw [violations, List.zip_append hlength, List.zip_map_left, List.zip_map_left, take_zip,
      drop_zip]
  rw [excess, hzip, List.filter_append, List.map_append, List.filter_map, List.filter_map,
    List.map_map, List.map_map]
  rfl

/-! ## The same summary of other numbers -/

variable {f : R → S}

lemma violations_map (habs : ∀ x, f (Scalar.abs x) = Scalar.abs (f x))
    (hpos : ∀ x, f (positivePart x) = positivePart (f x)) (n : ℕ) (values : List R) :
    violations n (values.map f) = (violations n values).map f := by
  rw [violations, violations, ← List.map_take, ← List.map_drop, List.map_append, List.map_map,
    List.map_map, List.map_map, List.map_map]
  refine congrArg₂ _ (List.map_congr_left fun x _ => ?_) (List.map_congr_left fun x _ => ?_)
  · exact (habs x).symm
  · exact (hpos x).symm

lemma excess_map (hlt : ∀ x y, lt (f x) (f y) = lt x y) (violations tolerances : List R) :
    excess (violations.map f) (tolerances.map f) = (excess violations tolerances).map f := by
  have hzip : (violations.map f).zip (tolerances.map f) =
      (violations.zip tolerances).map (Prod.map f f) := List.zip_map ..
  rw [excess, excess, hzip, List.filter_map, List.map_map, List.map_map]
  refine congrArg (List.map _) (List.filter_congr fun p _ => ?_)
  exact hlt p.2 p.1

end

/-! ## Tolerances below zero -/

open Double

/-- The inequalities whose values do not exceed their tolerances, but whose tolerances are below
zero. -/
def heldBelowZero (n : ℕ) (values tolerances : List Float) : List (Float × Float) :=
  ((values.zip tolerances).drop n).filter fun r => decide (r.1 ≤ r.2 ∧ r.2 < 0)

/-- A positive part exceeds a tolerance if the number does, or if the tolerance is below zero. -/
lemma lt_positivePart_eq (x t : Float) :
    lt t (positivePart x) = (lt t x || decide (x ≤ t ∧ t < 0)) := by
  rw [Bool.eq_iff_iff, Bool.or_eq_true, decide_eq_true_iff]
  by_cases hx : lt x zero = true
  · rw [positivePart, if_pos hx]
    constructor
    · intro ht
      by_cases hlt : lt t x = true
      · exact .inl hlt
      · have hle : x ≤ t :=
          le_iff.mpr ⟨(isNaN_of_lt hx).1, (isNaN_of_lt ht).1, Bool.not_eq_true _ ▸ hlt⟩
        exact .inr ⟨hle, of_decide_eq_true ht⟩
    · rintro (hlt | ⟨-, ht⟩)
      · exact lt_of_lt_lt hlt hx
      · exact decide_eq_true ht
  · rw [positivePart, if_neg hx]
    constructor
    · exact .inl
    · rintro (hlt | ⟨hle, ht⟩)
      · exact hlt
      · exact absurd (lt_of_le_lt hle (decide_eq_true ht)) hx

lemma filter_or_perm {α : Type} {p q : α → Bool} (l : List α)
    (h : ∀ a, p a = true → q a = false) :
    (l.filter fun a => p a || q a).Perm (l.filter p ++ l.filter q) := by
  have hp : (l.filter fun a => p a || q a).filter p = l.filter p := by
    rw [List.filter_filter]
    refine List.filter_congr fun a _ => ?_
    cases p a with
    | false | true => rfl
  have hq : ((l.filter fun a => p a || q a).filter fun a => !p a) = l.filter q := by
    rw [List.filter_filter]
    refine List.filter_congr fun a _ => ?_
    cases hpa : p a with
    | false => rfl
    | true => exact (h a hpa).symm
  have hperm := List.filter_append_perm p (l.filter fun a => p a || q a)
  rw [hp, hq] at hperm
  exact hperm.symm

/-- The inequalities that are counted are those that are violated and those that are held below
zero. -/
lemma countedInequalities_perm (n : ℕ) (values tolerances : List Float) :
    (countedInequalities n values tolerances).Perm
      (violatedInequalities n values tolerances ++ heldBelowZero n values tolerances) := by
  have hfilter : countedInequalities n values tolerances =
      ((values.zip tolerances).drop n).filter fun r =>
        lt r.2 r.1 || decide (r.1 ≤ r.2 ∧ r.2 < 0) :=
    List.filter_congr fun r _ => lt_positivePart_eq r.1 r.2
  rw [hfilter]
  refine filter_or_perm _ fun r hlt => decide_eq_false fun hheld => ?_
  have hnot := (le_iff.mp hheld.1).2.2
  rw [hlt] at hnot
  cases hnot

/-- What is held below zero is below zero. -/
lemma positivePart_of_held {n : ℕ} {values tolerances : List Float} {r : Float × Float}
    (hr : r ∈ heldBelowZero n values tolerances) : positivePart r.1 = zero := by
  obtain ⟨hle, hlt⟩ := of_decide_eq_true (List.mem_filter.mp hr).2
  exact if_pos (lt_of_le_lt hle (decide_eq_true hlt))

/-! ## Exact summaries -/

/-- The summary of what doubles stand for. -/
noncomputable def exactly (n : ℕ) (values tolerances : List Float) : Summary (Option EReal) :=
  .of n (values.map exact) (tolerances.map exact)

lemma exactly_eq (n : ℕ) (values tolerances : List Float) :
    exactly n values tolerances = ⟨(excess (violations n values) tolerances).length,
      Scalar.norm ((excess (violations n values) tolerances).map exact)⟩ := by
  rw [exactly, Summary.of, violations_map exact_abs exact_positivePart, excess_map exact_lt,
    List.length_map]

/-- What exceeds a tolerance stands for something. -/
lemma map_exact_excess (violations tolerances : List Float) :
    (excess violations tolerances).map exact =
      ((excess violations tolerances).map value).map some := by
  rw [List.map_map]
  refine List.map_congr_left fun v hv => ?_
  obtain ⟨p, hp, rfl⟩ := List.mem_map.mp hv
  exact exact_eq_some (isNaN_of_lt (List.mem_filter.mp hp).2).2

lemma mul_self_norm_exactly (n : ℕ) (values tolerances : List Float) :
    mul (exactly n values tolerances).norm (exactly n values tolerances).norm =
      some (((excess (violations n values) tolerances).map fun v => value v ^ 2).sum) := by
  rw [exactly_eq, map_exact_excess, Exactly.mul_self_norm, List.map_map]
  simp only [Function.comp_def, ← sq]

section

variable {n : ℕ} {values tolerances : List Float}

lemma length_excess (h : tolerances.length = values.length) :
    (excess (violations n values) tolerances).length =
      (violatedEqualities n values tolerances).length +
        (violatedInequalities n values tolerances).length +
        (heldBelowZero n values tolerances).length := by
  rw [excess_violations n h, List.length_append, List.length_map, List.length_map,
    (countedInequalities_perm ..).length_eq, List.length_append, add_assoc]

lemma sum_heldBelowZero :
    ((heldBelowZero n values tolerances).map fun r => value (positivePart r.1) ^ 2).sum = 0 := by
  refine List.sum_eq_zero fun s hs => ?_
  obtain ⟨r, hr, rfl⟩ := List.mem_map.mp hs
  have hzero : value zero = 0 := rfl
  rw [positivePart_of_held hr, hzero, sq, mul_zero]

/-- What is held below zero does not show in the sum of the squares. -/
lemma sum_excess (h : tolerances.length = values.length) :
    ((excess (violations n values) tolerances).map fun v => value v ^ 2).sum =
      ((violatedEqualities n values tolerances).map fun r => value r.1 ^ 2).sum +
        ((violatedInequalities n values tolerances).map fun r => max (value r.1) 0 ^ 2).sum := by
  have hcounted :
      ((countedInequalities n values tolerances).map fun r => value (positivePart r.1) ^ 2).sum =
        ((violatedInequalities n values tolerances).map fun r => max (value r.1) 0 ^ 2).sum := by
    rw [((countedInequalities_perm ..).map _).sum_eq, List.map_append, List.sum_append,
      sum_heldBelowZero, add_zero]
    simp only [value_positivePart]
  rw [excess_violations n h, List.map_append, List.sum_append, List.map_map, List.map_map]
  simp only [Function.comp_def, value_abs_sq]
  rw [hcounted]

lemma heldBelowZero_eq_nil (h : ∀ t ∈ tolerances.drop n, ¬ t < 0) :
    heldBelowZero n values tolerances = [] := by
  refine List.filter_eq_nil_iff.mpr fun r hr hheld => ?_
  rw [drop_zip] at hr
  exact h r.2 (List.of_mem_zip hr).2 (of_decide_eq_true hheld).2

end

end Summary

namespace Fitness

open Summary Double

/-- A summary counts the equalities whose magnitudes exceed their tolerances, the inequalities whose
values do, and the inequalities that are held below zero, of which there are none if no inequality
has a tolerance below zero.  In exact arithmetic its count is the same, and the square of its norm
is the sum over the former two of the squares of the magnitudes and of the positive parts. -/
theorem check_counts_violations {values : List Float} {n : ℕ} {tolerances : Offer}
    {ts : List Float} (hn : n ≤ values.length)
    (ht : tolerancesFor tolerances [values.length] = .ok ts) :
    ∃ s, check (.vector values) n tolerances = .ok s ∧ s = .of n values ts ∧
      s.violated = (violatedEqualities n values ts).length +
        (violatedInequalities n values ts).length + (heldBelowZero n values ts).length ∧
      (s.feasible = true ↔ violatedEqualities n values ts = [] ∧
        violatedInequalities n values ts = [] ∧ heldBelowZero n values ts = []) ∧
      ((∀ t ∈ ts.drop n, ¬ t < 0) → heldBelowZero n values ts = []) ∧
      (exactly n values ts).violated = s.violated ∧
      mul (exactly n values ts).norm (exactly n values ts).norm =
        some (((violatedEqualities n values ts).map fun r => value r.1 ^ 2).sum +
          ((violatedInequalities n values ts).map fun r => max (value r.1) 0 ^ 2).sum) := by
  have hlength : ts.length = values.length := length_of_tolerancesFor ht
  have hcount : (Summary.of n values ts).violated = (violatedEqualities n values ts).length +
      (violatedInequalities n values ts).length + (heldBelowZero n values ts).length :=
    length_excess hlength
  refine ⟨_, check_vector_of_le hn ht, rfl, hcount, ?_, heldBelowZero_eq_nil, ?_, ?_⟩
  · rw [Summary.feasible_iff, hcount, ← List.length_eq_zero_iff, ← List.length_eq_zero_iff,
      ← List.length_eq_zero_iff]
    omega
  · rw [exactly_eq]
    rfl
  · rw [mul_self_norm_exactly, sum_excess hlength]

/-- One equality and two inequalities, of which the last is held below zero. -/
theorem check_counts_held_below_zero :
    1 ≤ [(-2 : Float), 3, -1].length ∧
    tolerancesFor (.vector [1, 0, -0.5]) [3] = .ok [1, 0, -0.5] ∧
    ∃ s, check (.vector [-2, 3, -1]) 1 (.vector [1, 0, -0.5]) = .ok s ∧ s.violated = 3 ∧
      mul (exactly 1 [-2, 3, -1] [1, 0, -0.5]).norm (exactly 1 [-2, 3, -1] [1, 0, -0.5]).norm =
        some (value (-2) ^ 2 + max (value 3) 0 ^ 2) := by
  have hn : 1 ≤ [(-2 : Float), 3, -1].length := by decide
  have ht : tolerancesFor (.vector [1, 0, -0.5]) [3] = .ok [1, 0, -0.5] := tolerancesFor_vector _
  have hequalities : violatedEqualities 1 [(-2 : Float), 3, -1] [1, 0, -0.5] = [(-2, 1)] := by
    decide +kernel
  have hinequalities : violatedInequalities 1 [(-2 : Float), 3, -1] [1, 0, -0.5] = [(3, 0)] := by
    decide +kernel
  have hheld : heldBelowZero 1 [-2, 3, -1] [1, 0, -0.5] = [(-1, -0.5)] := by decide +kernel
  obtain ⟨s, hs, -, hviolated, -, -, -, hnorm⟩ := check_counts_violations hn ht
  rw [hequalities, hinequalities, hheld] at hviolated
  rw [hequalities, hinequalities] at hnorm
  simp only [List.map_cons, List.map_nil, List.sum_singleton] at hnorm
  exact ⟨hn, ht, s, hs, hviolated, hnorm⟩

/-- With a tolerance below zero, an inequality counts although its value is below its tolerance. -/
theorem counted_below_tolerance :
    ∃ s, check (.vector [-1]) 0 (.ok (.number (-0.5))) = .ok s ∧
      tolerancesFor (.ok (.number (-0.5))) [1] = .ok [-0.5] ∧
      (violatedEqualities 0 [(-1 : Float)] [-0.5]).length +
        (violatedInequalities 0 [(-1 : Float)] [-0.5]).length = 0 ∧
      s.violated = 1 ∧ s.feasible = false := by
  have ht : tolerancesFor (.ok (.number (-0.5))) [1] = .ok [-0.5] := tolerancesFor_number ..
  exact ⟨_, check_vector ht, ht, by decide +kernel, by decide +kernel, by decide +kernel⟩

end Fitness

end ReverseComm
