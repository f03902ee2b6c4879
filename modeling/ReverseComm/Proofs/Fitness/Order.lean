import ReverseComm.Fitness.Ranking
import ReverseComm.Problem
import ReverseComm.Proofs.Action
import ReverseComm.Proofs.Fitness.Doubles

/-!
# The order of fitness vectors

Fewer violated constraints are better.  Vectors that violate equally many go by a key, which is the
objective if the constraints are met and the norm of the violations otherwise (`Rating.better_iff`).
With keys that are numbers, that is a linear order, and being better is being strictly below
(`Rating.better_iff_rank_lt`), so "not better" is transitive.

Only the objective of a vector that meets its constraints has to be a number.  A constraint value
that is NaN exceeds no tolerance, and the norm is a norm of what does.  Being better is a strict
order even where an objective is NaN, because such a vector is not comparable with others like it
(`strictWeakOrder_of_tolerances`).

A comparison of vectors may raise a fault.  Whether it does is a matter of their lengths and of the
tolerances alone, so among vectors of one length either all comparisons raise the same fault, or
they all follow the ranks (`better_eq`).
-/

namespace ReverseComm

open ReverseComm.Action
open Double (NaNFree)

namespace Rating

open Summary (feasible_iff)

section

variable {R : Type} {a b : Rating R}

/-- What decides between ratings that violate equally many constraints. -/
def key (a : Rating R) : R := if a.summary.feasible then a.objective else a.summary.norm

lemma key_of_feasible (h : a.summary.feasible = true) : a.key = a.objective := if_pos h

lemma key_of_infeasible (h : ¬ a.summary.feasible = true) : a.key = a.summary.norm := if_neg h

variable [Scalar R]

/-- Fewer violations are better, and between equally many the keys decide. -/
theorem better_iff : a.better b = true ↔
    a.summary.violated < b.summary.violated ∨
      a.summary.violated = b.summary.violated ∧ Scalar.lt a.key b.key = true := by
  unfold better
  by_cases hfa : a.summary.feasible = true
  · have hva : a.summary.violated = 0 := feasible_iff.mp hfa
    by_cases hfb : b.summary.feasible = true
    · have hvb : b.summary.violated = 0 := feasible_iff.mp hfb
      simp [hfa, hfb, hva, hvb, key_of_feasible]
    · have hvb : b.summary.violated ≠ 0 := fun h => hfb (feasible_iff.mpr h)
      simp [hfa, hfb, hva, Nat.pos_of_ne_zero hvb]
  · have hva : a.summary.violated ≠ 0 := fun h => hfa (feasible_iff.mpr h)
    by_cases hfb : b.summary.feasible = true
    · have hvb : b.summary.violated = 0 := feasible_iff.mp hfb
      simp [hfa, hfb, hva, hvb]
    · by_cases hv : a.summary.violated = b.summary.violated
      · simp [hfa, hfb, hv, key_of_infeasible]
      · simp [hfa, hfb, hv]

/-- What is better violates no more constraints, whatever its objective and its norm are. -/
lemma violated_le_of_better (h : a.better b = true) :
    a.summary.violated ≤ b.summary.violated := by
  rcases better_iff.mp h with hlt | ⟨heq, -⟩
  · exact hlt.le
  · exact heq.le

/-- What is not better violates no fewer constraints. -/
lemma violated_le_of_not_better (h : a.better b = false) :
    b.summary.violated ≤ a.summary.violated := by
  by_contra hlt
  have hbetter : a.better b = true := better_iff.mpr (.inl (not_le.mp hlt))
  simp [hbetter] at h

/-- What is better than a feasible rating is feasible, and has the lower objective. -/
lemma lt_of_better_feasible (h : a.better b = true) (hb : b.summary.feasible = true) :
    a.summary.feasible = true ∧ Scalar.lt a.objective b.objective = true := by
  have hvb : b.summary.violated = 0 := feasible_iff.mp hb
  rcases better_iff.mp h with hlt | ⟨heq, hkey⟩
  · omega
  · have ha : a.summary.feasible = true := feasible_iff.mpr (heq.trans hvb)
    rw [key_of_feasible ha, key_of_feasible hb] at hkey
    exact ⟨ha, hkey⟩

end

/-- Where a rating stands among the ratings whose keys are numbers. -/
def rank (a : Rating Float) : ℕ ×ₗ ℤ ×ₗ ℤ ×ₗ ℤ :=
  toLex (a.summary.violated,
    if a.summary.feasible then Double.place a.objective else Double.place a.summary.norm)

lemma rank_eq (a : Rating Float) : a.rank = toLex (a.summary.violated, Double.place a.key) := by
  unfold rank key
  split
  · rfl
  · rfl

/-- Being better is being below in the order of the ranks. -/
theorem better_iff_rank_lt {a b : Rating Float} (ha : a.key.isNaN = false)
    (hb : b.key.isNaN = false) : a.better b = true ↔ a.rank < b.rank := by
  rw [better_iff, Double.lt_iff_place_lt ha hb, rank_eq, rank_eq, Prod.Lex.toLex_lt_toLex]

/-- No rating is better than itself. -/
lemma better_self (a : Rating Float) : a.better a = false := by
  by_contra h
  have hself : a.better a = true := by simpa using h
  rcases better_iff.mp hself with hlt | ⟨-, hkey⟩
  · exact lt_irrefl _ hlt
  · simp [Double.lt_self] at hkey

/-- What is better than a rating is better than all that the rating is better than. -/
lemma better_of_better_better {a b c : Rating Float} (hab : a.better b = true)
    (hbc : b.better c = true) : a.better c = true := by
  rw [better_iff] at hab hbc ⊢
  rcases hab with hab | ⟨hab, hkab⟩
  · have hle : b.summary.violated ≤ c.summary.violated := by
      rcases hbc with hbc | ⟨hbc, -⟩
      · exact hbc.le
      · exact hbc.le
    exact .inl (hab.trans_le hle)
  · rcases hbc with hbc | ⟨hbc, hkbc⟩
    · exact .inl (hab.trans_lt hbc)
    · exact .inr ⟨hab.trans hbc, Double.lt_of_lt_lt hkab hkbc⟩

end Rating

namespace Fitness

/-! ## Comparing vectors -/

/-- Without tolerances for them, constraints are not compared. -/
lemma better_of_tolerancesFor_error {f g : List Float} (hl : f.length = g.length) {fault : Fault}
    {equalities : ℤ} {tolerances : Offer}
    (ht : tolerancesFor tolerances [f.length - 1] = .error fault) :
    better (.vector f) (.vector g) equalities tolerances = .error fault := by
  have hcheck : check (.vector f.tail) equalities tolerances = .error fault := by
    simp [check, ht, bind, Except.bind]
  simp [better, hl, hcheck, bind, Except.bind]

/-- A vector without entries has no objective to compare. -/
lemma better_nil {equalities : ℤ} {tolerances : Offer} {ts : List Float}
    (ht : tolerancesFor tolerances [0] = .ok ts) :
    better (.vector []) (.vector []) equalities tolerances = .error (.index .element) := by
  have hcheck := @check_vector [] equalities tolerances ts ht
  have hfeasible : (Summary.of (Tensor.cut 0 equalities) [] ts).feasible = true := by
    simp [Summary.of, Summary.feasible, Summary.violations, Summary.excess]
  have hfirst : (Tensor.vector []).first = .error (.index .element) := rfl
  simp [better, hcheck, hfeasible, hfirst, bind, Except.bind]

lemma length_eq_of_better {f g : List Float} {equalities : ℤ} {tolerances : Offer} {b : Bool}
    (h : better (.vector f) (.vector g) equalities tolerances = .ok b) : f.length = g.length := by
  by_contra hne
  simp [better, hne] at h

/-- Vectors that have been compared have objectives, and were compared by their ratings. -/
theorem better_eq_ok {f g : List Float} {equalities : ℤ} {tolerances : Offer} {b : Bool}
    (h : better (.vector f) (.vector g) equalities tolerances = .ok b) :
    ∃ ts x xs y ys, tolerancesFor tolerances [f.length - 1] = .ok ts ∧
      f = x :: xs ∧ g = y :: ys ∧ xs.length = ys.length ∧
      (rating equalities ts x xs).better (rating equalities ts y ys) = b := by
  have hl := length_eq_of_better h
  cases ht : tolerancesFor tolerances [f.length - 1] with
  | error fault =>
    rw [better_of_tolerancesFor_error hl ht] at h
    cases h
  | ok ts =>
    cases f with
    | nil =>
      obtain rfl := List.eq_nil_of_length_eq_zero hl.symm
      rw [better_nil ht] at h
      cases h
    | cons x xs =>
      obtain ⟨y, ys, rfl⟩ := List.exists_cons_of_length_eq_add_one hl.symm
      have hl' : xs.length = ys.length := Nat.succ.inj hl
      rw [better_vector hl' ht] at h
      exact ⟨ts, x, xs, y, ys, rfl, rfl, rfl, hl', Except.ok.inj h⟩

/-- The rating of a fitness vector.  One without entries is never compared, and gets any. -/
def ratingOf (equalities : ℤ) (tolerances : List Float) : List Float → Rating Float
  | [] => rating equalities tolerances 0 []
  | x :: xs => rating equalities tolerances x xs

section

variable {f g : List Float} {equalities : ℤ} {tolerances : Offer} {ts : List Float} {n : ℕ}

/-- The constraints of a vector are summarised as they are for its rating. -/
lemma check_tail (ht : tolerancesFor tolerances [n] = .ok ts) (hf : f.length = n + 1) :
    check (.vector f.tail) equalities tolerances =
      .ok (ratingOf equalities ts f).summary := by
  obtain ⟨x, xs, rfl⟩ := List.exists_cons_of_length_eq_add_one hf
  obtain rfl : xs.length = n := Nat.succ.inj hf
  exact check_vector ht

/-- Vectors of one length are compared by their ratings, once there are tolerances for them. -/
theorem better_of_length (ht : tolerancesFor tolerances [n] = .ok ts) (hf : f.length = n + 1)
    (hg : g.length = n + 1) :
    better (.vector f) (.vector g) equalities tolerances =
      .ok ((ratingOf equalities ts f).better (ratingOf equalities ts g)) := by
  obtain ⟨x, xs, rfl⟩ := List.exists_cons_of_length_eq_add_one hf
  obtain ⟨y, ys, rfl⟩ := List.exists_cons_of_length_eq_add_one hg
  have hxs : xs.length = n := Nat.succ.inj hf
  have hl : xs.length = ys.length := hxs.trans (Nat.succ.inj hg).symm
  exact better_vector hl (hxs ▸ ht)

lemma isNaN_norm_ratingOf (equalities : ℤ) (ts f : List Float) :
    (ratingOf equalities ts f).summary.norm.isNaN = false := by
  cases f with
  | nil | cons => exact Double.isNaN_norm_summary ..

/-- The key of a rating is a number, unless it is the objective and that is none. -/
lemma isNaN_key (h : (ratingOf equalities ts f).summary.feasible = true →
    (ratingOf equalities ts f).objective.isNaN = false) :
    (ratingOf equalities ts f).key.isNaN = false := by
  by_cases hfeasible : (ratingOf equalities ts f).summary.feasible = true
  · rw [Rating.key_of_feasible hfeasible]
    exact h hfeasible
  · rw [Rating.key_of_infeasible hfeasible]
    exact isNaN_norm_ratingOf equalities ts f

end

/-- The rank of a fitness vector. -/
def rank (equalities : ℤ) (tolerances : List Float) : List Float → ℕ ×ₗ ℤ ×ₗ ℤ ×ₗ ℤ
  | [] => (rating equalities tolerances 0 []).rank
  | x :: xs => (rating equalities tolerances x xs).rank

lemma rank_eq (equalities : ℤ) (tolerances f : List Float) :
    rank equalities tolerances f = (ratingOf equalities tolerances f).rank := by
  cases f with
  | nil | cons => rfl

/-- A fitness vector of a length, without NaN. -/
def Numeric (n : ℕ) (f : List Float) : Prop := f.length = n ∧ NaNFree f

lemma Numeric.isNaN_key {n : ℕ} {f : List Float} (h : Numeric (n + 1) f) (equalities : ℤ)
    (tolerances : List Float) : (ratingOf equalities tolerances f).key.isNaN = false := by
  obtain ⟨x, xs, rfl⟩ := List.exists_cons_of_length_eq_add_one h.1
  exact Fitness.isNaN_key fun _ => h.2 x List.mem_cons_self

/-- Vectors whose keys are numbers are compared by their ranks. -/
lemma better_eq_decide_rank {f g : List Float} {equalities : ℤ} {tolerances : Offer}
    {ts : List Float} {n : ℕ} (ht : tolerancesFor tolerances [n] = .ok ts)
    (hf : f.length = n + 1) (hg : g.length = n + 1)
    (hkf : (ratingOf equalities ts f).key.isNaN = false)
    (hkg : (ratingOf equalities ts g).key.isNaN = false) :
    better (.vector f) (.vector g) equalities tolerances =
      .ok (decide (rank equalities ts f < rank equalities ts g)) := by
  rw [better_of_length ht hf hg, rank_eq, rank_eq, Except.ok.injEq, Bool.eq_iff_iff,
    decide_eq_true_iff]
  exact Rating.better_iff_rank_lt hkf hkg

/-- Vectors of one length are compared by ranks, or not at all. -/
theorem better_eq (equalities : ℤ) (tolerances : Offer) (n : ℕ) :
    (∃ fault, ∀ f g, Numeric n f → Numeric n g →
      better (.vector f) (.vector g) equalities tolerances = .error fault) ∨
    ∃ ts, ∀ f g, Numeric n f → Numeric n g →
      better (.vector f) (.vector g) equalities tolerances =
        .ok (decide (rank equalities ts f < rank equalities ts g)) := by
  cases ht : tolerancesFor tolerances [n - 1] with
  | error fault =>
    refine .inl ⟨fault, fun f g hf hg => ?_⟩
    exact better_of_tolerancesFor_error (hf.1.trans hg.1.symm) (by rw [hf.1, ht])
  | ok ts =>
    cases n with
    | zero =>
      refine .inl ⟨.index .element, fun f g hf hg => ?_⟩
      obtain rfl := List.eq_nil_of_length_eq_zero hf.1
      obtain rfl := List.eq_nil_of_length_eq_zero hg.1
      exact better_nil ht
    | succ n =>
      refine .inr ⟨ts, fun f g hf hg => ?_⟩
      exact better_eq_decide_rank ht hf.1 hg.1 (hf.isNaN_key ..) (hg.isNaN_key ..)

/-! ## A strict weak order -/

/-- If the constraints of a vector are met, its objective is a number. -/
def Sound (equalities : ℤ) (tolerances : Offer) (f : List Float) : Prop :=
  ∀ s x, check (.vector f.tail) equalities tolerances = .ok s → s.feasible = true →
    f.head? = some x → x.isNaN = false

/-- Is the first of two vectors strictly better? -/
def Beats (equalities : ℤ) (tolerances : Offer) (f g : List Float) : Prop :=
  better (.vector f) (.vector g) equalities tolerances = .ok true

section

variable {f g : List Float} {equalities : ℤ} {tolerances : Offer} {ts : List Float} {n : ℕ}

/-- Whether a vector is sound can be seen from its rating. -/
lemma sound_iff (ht : tolerancesFor tolerances [n] = .ok ts) (hf : f.length = n + 1) :
    Sound equalities tolerances f ↔ ((ratingOf equalities ts f).summary.feasible = true →
      (ratingOf equalities ts f).objective.isNaN = false) := by
  have hcheck : check (.vector f.tail) equalities tolerances =
      .ok (ratingOf equalities ts f).summary := check_tail ht hf
  obtain ⟨x, xs, rfl⟩ := List.exists_cons_of_length_eq_add_one hf
  constructor
  · intro h hfeasible
    exact h _ x hcheck hfeasible rfl
  · intro h s y hs hfeasible hy
    rw [hcheck, Except.ok.injEq] at hs
    cases hy
    exact h (hs ▸ hfeasible)

lemma Sound.isNaN_key (h : Sound equalities tolerances f)
    (ht : tolerancesFor tolerances [n] = .ok ts) (hf : f.length = n + 1) :
    (ratingOf equalities ts f).key.isNaN = false :=
  Fitness.isNaN_key ((sound_iff ht hf).mp h)

lemma beats_iff (ht : tolerancesFor tolerances [n] = .ok ts) (hf : f.length = n + 1)
    (hg : g.length = n + 1) : Beats equalities tolerances f g ↔
      (ratingOf equalities ts f).better (ratingOf equalities ts g) = true := by
  rw [Beats, better_of_length ht hf hg, Except.ok.injEq]

/-- Vectors that are sound are compared by their ranks. -/
lemma Sound.better_eq (hsf : Sound equalities tolerances f) (hsg : Sound equalities tolerances g)
    (ht : tolerancesFor tolerances [n] = .ok ts) (hf : f.length = n + 1) (hg : g.length = n + 1) :
    better (.vector f) (.vector g) equalities tolerances =
      .ok (decide (rank equalities ts f < rank equalities ts g)) :=
  better_eq_decide_rank ht hf hg (hsf.isNaN_key ht hf) (hsg.isNaN_key ht hg)

lemma Sound.not_beats_iff (hsf : Sound equalities tolerances f)
    (hsg : Sound equalities tolerances g) (ht : tolerancesFor tolerances [n] = .ok ts)
    (hf : f.length = n + 1) (hg : g.length = n + 1) : ¬ Beats equalities tolerances f g ↔
      rank equalities ts g ≤ rank equalities ts f := by
  rw [Beats, hsf.better_eq hsg ht hf hg, Except.ok.injEq, decide_eq_true_iff, not_lt]

end

/-- The vectors of a length are strictly ordered, and weakly so if their objectives allow it. -/
structure StrictWeakOrder (n : ℕ) (equalities : ℤ) (tolerances : Offer) : Prop where
  compared : ∀ f g : List Float, f.length = n → g.length = n →
    ∃ b, better (.vector f) (.vector g) equalities tolerances = .ok b
  irreflexive : ∀ f : List Float, f.length = n → ¬ Beats equalities tolerances f f
  asymmetric : ∀ f g : List Float, f.length = n → g.length = n →
    Beats equalities tolerances f g → ¬ Beats equalities tolerances g f
  transitive : ∀ f g h : List Float, f.length = n → g.length = n → h.length = n →
    Beats equalities tolerances f g → Beats equalities tolerances g h →
      Beats equalities tolerances f h
  /-- The norm of the violations is a number. -/
  normed : ∀ f : List Float, f.length = n →
    ∃ s, check (.vector f.tail) equalities tolerances = .ok s ∧ s.norm.isNaN = false
  /-- What is as good as something is as good as all that the latter is as good as. -/
  weak : ∀ f g h : List Float, f.length = n → g.length = n → h.length = n →
    Sound equalities tolerances f → Sound equalities tolerances g → Sound equalities tolerances h →
    ¬ Beats equalities tolerances f g → ¬ Beats equalities tolerances g f →
    ¬ Beats equalities tolerances g h → ¬ Beats equalities tolerances h g →
      ¬ Beats equalities tolerances f h ∧ ¬ Beats equalities tolerances h f

/-- Whatever the vectors hold, being better is a strict order on them, and a strict weak order if no
vector whose constraints are met has NaN for an objective. -/
theorem strictWeakOrder_of_tolerances {n : ℕ} {tolerances : Offer}
    (ht : ∃ ts, tolerancesFor tolerances [n] = .ok ts) (equalities : ℤ) :
    StrictWeakOrder (n + 1) equalities tolerances := by
  obtain ⟨ts, ht⟩ := ht
  have hirreflexive : ∀ f : List Float, f.length = n + 1 → ¬ Beats equalities tolerances f f := by
    intro f hf
    simp [beats_iff ht hf hf, Rating.better_self]
  have htransitive : ∀ f g h : List Float, f.length = n + 1 → g.length = n + 1 →
      h.length = n + 1 → Beats equalities tolerances f g → Beats equalities tolerances g h →
        Beats equalities tolerances f h := by
    intro f g h hf hg hh hfg hgh
    rw [beats_iff ht hf hg] at hfg
    rw [beats_iff ht hg hh] at hgh
    rw [beats_iff ht hf hh]
    exact Rating.better_of_better_better hfg hgh
  refine ⟨fun f g hf hg => ⟨_, better_of_length ht hf hg⟩, hirreflexive, ?_, htransitive,
    fun f hf => ⟨_, check_tail ht hf, isNaN_norm_ratingOf ..⟩, ?_⟩
  · intro f g hf hg hfg hgf
    exact hirreflexive f hf (htransitive f g f hf hg hf hfg hgf)
  · intro f g h hf hg hh hsf hsg hsh hfg hgf hgh hhg
    rw [hsf.not_beats_iff hsg ht hf hg] at hfg
    rw [hsg.not_beats_iff hsf ht hg hf] at hgf
    rw [hsg.not_beats_iff hsh ht hg hh] at hgh
    rw [hsh.not_beats_iff hsg ht hh hg] at hhg
    rw [hsf.not_beats_iff hsh ht hf hh, hsh.not_beats_iff hsf ht hh hf]
    exact ⟨hgh.trans hfg, hgf.trans hhg⟩

/-- One equality and one inequality, the latter with a tolerance below zero. -/
theorem strictWeakOrder_negative_tolerance :
    (∃ ts, tolerancesFor (.vector [0, -1]) [2] = .ok ts) ∧ StrictWeakOrder 3 1 (.vector [0, -1]) :=
  have ht : ∃ ts, tolerancesFor (.vector [0, -1]) [2] = .ok ts := ⟨_, tolerancesFor_vector [0, -1]⟩
  ⟨ht, strictWeakOrder_of_tolerances ht 1⟩

end Fitness

/-! ## Comparing as a problem does -/

variable {ω : Type}

/-- Is the first of two fitness vectors better, with the equalities and tolerances of a problem? -/
def Problem.better (problem : Problem ω) (f g : List Float) : Except Fault Bool := do
  Fitness.better (.vector f) (.vector g) (← problem.equalityCount) (← problem.tolerances)

namespace Problem

/-- The problem's comparison, once its equalities and tolerances are known. -/
lemma better_eq_of_ok {problem : Problem ω} {n : ℤ} {tolerances : Offer}
    (hn : problem.equalityCount = .ok n) (ht : problem.tolerances = .ok tolerances)
    (f g : List Float) :
    problem.better f g = Fitness.better (.vector f) (.vector g) n tolerances := by
  simp [better, hn, ht, bind, Except.bind]

lemma length_eq_of_better {problem : Problem ω} {f g : List Float} {b : Bool}
    (h : problem.better f g = .ok b) : f.length = g.length := by
  simp only [better, outcome_bind_eq_ok_iff] at h
  obtain ⟨n, -, tolerances, -, h⟩ := h
  exact Fitness.length_eq_of_better h

/-- Vectors of one length are compared by ranks, or not at all. -/
lemma better_eq (problem : Problem ω) (n : ℕ) :
    (∃ fault, ∀ f g, Fitness.Numeric n f → Fitness.Numeric n g →
      problem.better f g = .error fault) ∨
    ∃ rank : List Float → ℕ ×ₗ ℤ ×ₗ ℤ ×ₗ ℤ, ∀ f g, Fitness.Numeric n f → Fitness.Numeric n g →
      problem.better f g = .ok (decide (rank f < rank g)) := by
  unfold better
  cases problem.equalityCount with
  | error fault => exact .inl ⟨fault, fun _ _ _ _ => rfl⟩
  | ok equalities =>
    cases problem.tolerances with
    | error fault => exact .inl ⟨fault, fun _ _ _ _ => rfl⟩
    | ok tolerances =>
      rcases Fitness.better_eq equalities tolerances n with ⟨fault, h⟩ | ⟨ts, h⟩
      · exact .inl ⟨fault, h⟩
      · exact .inr ⟨Fitness.rank equalities ts, h⟩

/-- A vector `f` is not better than `g`.  Where the two cannot be compared, that is because `f`
cannot be compared with anything, not even with itself. -/
def NotBetter (problem : Problem ω) (f g : List Float) : Prop :=
  problem.better f g = .ok false ∨
    ∃ fault, problem.better f f = .error fault ∧ problem.better f g = .error fault

section

variable {problem : Problem ω} {n : ℕ} {f g h : List Float}

lemma notBetter_iff (hf : Fitness.Numeric n f) (hg : Fitness.Numeric n g) :
    problem.NotBetter f g ↔ problem.better f g ≠ .ok true := by
  constructor
  · rintro (h | ⟨fault, -, h⟩)
    · simp [h]
    · simp [h]
  · intro h
    rcases problem.better_eq n with ⟨fault, hfault⟩ | ⟨rank, hrank⟩
    · exact .inr ⟨fault, hfault f f hf hf, hfault f g hf hg⟩
    · rw [hrank f g hf hg] at h
      refine .inl ?_
      rw [hrank f g hf hg]
      simpa using h

lemma notBetter_self (hf : Fitness.Numeric n f) : problem.NotBetter f f := by
  rw [notBetter_iff hf hf]
  rcases problem.better_eq n with ⟨fault, hfault⟩ | ⟨rank, hrank⟩
  · simp [hfault f f hf hf]
  · simp [hrank f f hf hf]

lemma NotBetter.trans (hf : Fitness.Numeric n f) (hg : Fitness.Numeric n g)
    (hh : Fitness.Numeric n h) (hfg : problem.NotBetter f g) (hgh : problem.NotBetter g h) :
    problem.NotBetter f h := by
  rw [notBetter_iff hf hg] at hfg
  rw [notBetter_iff hg hh] at hgh
  rw [notBetter_iff hf hh]
  rcases problem.better_eq n with ⟨fault, hfault⟩ | ⟨rank, hrank⟩
  · simp [hfault f h hf hh]
  · have hfg' : rank g ≤ rank f := by simpa [hrank f g hf hg] using hfg
    have hgh' : rank h ≤ rank g := by simpa [hrank g h hg hh] using hgh
    simpa [hrank f h hf hh] using hgh'.trans hfg'

end

end Problem

end ReverseComm
