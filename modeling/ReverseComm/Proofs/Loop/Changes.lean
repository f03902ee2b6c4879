import ReverseComm.Loop
import ReverseComm.Proofs.Fitness.Doubles

/-!
# When a decision vector is new

The loop remembers the fitness of the decision vector that it evaluated last, and a decision vector
may have been asked for several times since.  What is remembered nevertheless tells whether a
decision vector is equal, as numbers, to the one that was asked for before it (`Memo.Remembers`):
equality of numbers is symmetric and transitive, though it is not reflexive at NaN.

So the decision vectors that are evaluated are those that differ from the one before (`changes`).
-/

namespace ReverseComm.Memo

open Double (NaNFree place)

/-! ## Equal as numbers -/

/-- Decision vectors are equal as numbers if they are free of NaN and share their places. -/
lemma sameNumbers_iff {xs ys : List Float} :
    sameNumbers xs ys = true ↔ NaNFree xs ∧ NaNFree ys ∧ xs.map place = ys.map place := by
  induction xs generalizing ys with
  | nil => cases ys <;> simp [sameNumbers, NaNFree]
  | cons x xs ih =>
    cases ys with
    | nil => simp [sameNumbers]
    | cons y ys =>
      have hcons : sameNumbers (x :: xs) (y :: ys) = ((x == y) && sameNumbers xs ys) := by
        simp [sameNumbers, Bool.and_left_comm]
      rw [hcons, Bool.and_eq_true, ih, Double.beq_iff_place_eq]
      simp only [NaNFree, List.forall_mem_cons, List.map_cons, List.cons.injEq]
      tauto

/-- Of two decision vectors that are equal as numbers, either will do to compare others with. -/
lemma sameNumbers_congr {x y : List Float} (h : sameNumbers x y = true) (z : List Float) :
    sameNumbers z x = sameNumbers z y := by
  obtain ⟨hx, hy, hplace⟩ := sameNumbers_iff.mp h
  rw [Bool.eq_iff_iff, sameNumbers_iff, sameNumbers_iff, hplace]
  simp [hx, hy]

/-! ## Changes -/

/-- Is a decision vector equal as numbers to the last one in a list? -/
def repeats (past : List (List Float)) (x : List Float) : Bool := past.getLast?.any (sameNumbers x)

/-- The decision vectors in a list that are not equal as numbers to the one before them, the first
one being compared with one that may come before the list. -/
def changesAfter : Option (List Float) → List (List Float) → List (List Float)
  | _, [] => []
  | before, x :: xs =>
    if before.any (sameNumbers x) then changesAfter (some x) xs
    else x :: changesAfter (some x) xs

/-- The first decision vector in a list, and every one that is not equal as numbers to the one before
it. -/
def changes (xs : List (List Float)) : List (List Float) := changesAfter none xs

/-- One more decision vector adds itself to the changes, unless it repeats the last one. -/
lemma changes_concat (past : List (List Float)) (x : List Float) :
    changes (past ++ [x]) = if repeats past x then changes past else changes past ++ [x] := by
  have hafter : ∀ before, changesAfter before (past ++ [x]) =
      if (past.getLast?.or before).any (sameNumbers x) then changesAfter before past
      else changesAfter before past ++ [x] := by
    induction past with
    | nil =>
      intro before
      by_cases hx : before.any (sameNumbers x) = true
      · simp [changesAfter, hx]
      · simp [changesAfter, hx]
    | cons y past ih =>
      intro before
      have hlast : (y :: past).getLast?.or before = past.getLast?.or (some y) := by
        cases h : past.getLast? <;> simp [List.getLast?_cons, h]
      rw [List.cons_append, changesAfter, changesAfter, ih, hlast]
      split
      · rfl
      · split <;> simp
  have hchanges := hafter none
  rwa [Option.or_none] at hchanges

/-! ## What is remembered -/

/-- A fitness is remembered for exactly the decision vectors that repeat the last one that was asked
for. -/
def Remembers (m : Memo) (past : List (List Float)) : Prop :=
  ∀ x, (m.find? x).isSome = repeats past x

lemma remembers_blank : blank.Remembers [] := fun _ => rfl

lemma Remembers.congr {m m' : Memo} {past : List (List Float)} (h : m.Remembers past)
    (hpoint : m'.point = m.point) (hfitness : m'.fitness = m.fitness) : m'.Remembers past := by
  intro x
  rw [← h x, find?, find?, hpoint, hfitness]

/-- What has been evaluated is remembered. -/
lemma remembers_evaluated (past : List (List Float)) (x : List Float) (f : Tensor) (n : ℕ) :
    Remembers ⟨some x, some f, n⟩ (past ++ [x]) := by
  intro z
  simp only [find?, repeats, List.getLast?_concat, Option.any_some]
  split <;> simp_all

/-- A decision vector that repeats the last one changes nothing. -/
lemma Remembers.concat {m : Memo} {past : List (List Float)} {x : List Float}
    (h : m.Remembers past) (hx : repeats past x = true) : m.Remembers (past ++ [x]) := by
  intro z
  obtain ⟨y, hy, hxy⟩ : ∃ y, past.getLast? = some y ∧ sameNumbers x y = true := by
    simpa [repeats, Option.any_eq_true] using hx
  rw [h z]
  simp only [repeats, hy, List.getLast?_concat, Option.any_some]
  exact (sameNumbers_congr hxy z).symm

end ReverseComm.Memo
