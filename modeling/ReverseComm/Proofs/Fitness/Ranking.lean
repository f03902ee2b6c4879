import Mathlib.Data.List.Sort
import Mathlib.Order.Bounds.Basic
import ReverseComm.Population
import ReverseComm.Proofs.Fitness.Order

/-!
# Ranking fitness vectors

Rows of one length are ranked by sorting their indices (`ranking_eq_order`).  Where the rows are
compared by a key, the indices go by the key, and from the front where the keys agree
(`pairwise_order`), because the sorting is stable.  So the first of a ranking is the least index
among the rows that no row beats, and the last one is the greatest index among the rows that beat no
row.  `Population.best` and `Population.worst` are these two.

Fewer than two rows are never compared, so a single row is the best and the worst one even if its
tolerances do not fit.
-/

namespace ReverseComm

open ReverseComm.Action

variable {ω : Type}

namespace Fitness

/-! ## Sorting -/

/-- Sorting is stable: numbers are sorted by a key, and by themselves where the keys agree. -/
lemma pairwise_mergeSort_range {α : Type} [LinearOrder α] (key : ℕ → α) (n : ℕ) :
    ((List.range n).mergeSort fun i j => decide (key i ≤ key j)).Pairwise
      fun i j => toLex (key i, i) < toLex (key j, j) := by
  have htrans : ∀ i j k, decide (key i ≤ key j) = true → decide (key j ≤ key k) = true →
      decide (key i ≤ key k) = true := by
    intro i j k hij hjk
    exact decide_eq_true ((of_decide_eq_true hij).trans (of_decide_eq_true hjk))
  have htotal : ∀ i j, (decide (key i ≤ key j) || decide (key j ≤ key i)) = true := by
    intro i j
    simpa using le_total (key i) (key j)
  -- Every number is sorted together with its position, which is the number itself.
  have hpositions : ∀ p ∈ (List.range n).zipIdx, p.2 = p.1 := by
    intro p hp
    have hget := List.mem_zipIdx_iff_getElem?.mp hp
    rw [List.getElem?_eq_some_iff] at hget
    obtain ⟨_, hget⟩ := hget
    rwa [List.getElem_range] at hget
  have hle : ((List.range n).mergeSort fun i j => decide (key i ≤ key j)).Pairwise
      fun i j => toLex (key i, i) ≤ toLex (key j, j) := by
    rw [← List.mergeSort_zipIdx, List.pairwise_map]
    refine (List.pairwise_mergeSort (List.zipIdxLE_trans htrans) (List.zipIdxLE_total htotal)
      (List.range n).zipIdx).imp_of_mem fun {p q} hp hq hpq => ?_
    have hp' := hpositions p ((List.mergeSort_perm ..).mem_iff.mp hp)
    have hq' := hpositions q ((List.mergeSort_perm ..).mem_iff.mp hq)
    rw [Prod.Lex.toLex_le_toLex]
    simp only [List.zipIdxLE, hp', hq'] at hpq
    split at hpq
    · rename_i hkey
      have hkey' := of_decide_eq_true hkey
      split at hpq
      · rename_i hback
        exact .inr ⟨le_antisymm hkey' (of_decide_eq_true hback), of_decide_eq_true hpq⟩
      · rename_i hback
        exact .inl (lt_of_le_not_ge hkey' fun h => hback (decide_eq_true h))
    · cases hpq
  have hnodup : ((List.range n).mergeSort fun i j => decide (key i ≤ key j)).Nodup :=
    (List.mergeSort_perm ..).nodup_iff.mpr List.nodup_range
  refine (hle.and hnodup).imp fun {i j} h => lt_of_le_of_ne h.1 fun heq => h.2 ?_
  exact congrArg (fun p => (ofLex p).2) heq

section

variable {rows : List (List Float)} {equalities : ℤ} {tolerances : Offer}

/-- A ranking names every row once. -/
lemma perm_order (rows : List (List Float)) (equalities : ℤ) (tolerances : Offer) :
    (order rows equalities tolerances).Perm (List.range rows.length) :=
  List.mergeSort_perm ..

lemma mem_order {i : ℕ} : i ∈ order rows equalities tolerances ↔ i < rows.length := by
  rw [(perm_order ..).mem_iff, List.mem_range]

lemma order_ne_nil (hne : rows ≠ []) : order rows equalities tolerances ≠ [] :=
  List.ne_nil_of_mem (mem_order.mpr (List.length_pos_iff.mpr hne))

/-- Where the rows are compared by a key, the ranking goes by the key, and from the front of the
rows where the keys agree. -/
lemma pairwise_order {α : Type} [LinearOrder α] {key : ℕ → α}
    (hkey : ∀ i < rows.length, ∀ j < rows.length,
      rowBetter rows equalities tolerances i j = decide (key i < key j)) :
    (order rows equalities tolerances).Pairwise
      fun i j => toLex (key i, i) < toLex (key j, j) := by
  have hsort : order rows equalities tolerances =
      (List.range rows.length).mergeSort fun i j => decide (key i ≤ key j) := by
    have hmap := List.map_mergeSort (f := id) (l := List.range rows.length)
      (r := fun i j => !rowBetter rows equalities tolerances j i)
      (s := fun i j => decide (key i ≤ key j)) fun i hi j hj => by
        rw [hkey j (List.mem_range.mp hj) i (List.mem_range.mp hi), ← decide_not]
        exact decide_eq_decide.mpr not_lt
    simpa [order] using hmap
  rw [hsort]
  exact pairwise_mergeSort_range key rows.length

/-! ## Ranking rows -/

/-- Rows that can be compared are ranked in the order of their indices. -/
lemma ranking_eq_order (h : ∀ f ∈ rows, ∀ g ∈ rows,
      ∃ b, better (.vector f) (.vector g) equalities tolerances = .ok b) :
    ranking rows equalities tolerances = .ok (order rows equalities tolerances) := by
  match rows, h with
  | [], _ => simp [ranking, order]
  | [f], _ => simp [ranking, order, List.range_succ]
  | f :: g :: rows, h =>
    obtain ⟨b, hb⟩ := h g (by simp) f (by simp)
    simp [ranking, hb, bind, Except.bind, pure, Except.pure]

lemma rowBetter_eq {b : Bool} {f g : List Float} {i j : ℕ} (hf : rows[i]? = some f)
    (hg : rows[j]? = some g) (h : better (.vector f) (.vector g) equalities tolerances = .ok b) :
    rowBetter rows equalities tolerances i j = b := by
  simp [rowBetter, hf, hg, h]

/-- The rows are compared by a key of their indices. -/
def ComparedBy {α : Type} [LinearOrder α] (rows : List (List Float)) (equalities : ℤ)
    (tolerances : Offer) (key : ℕ → α) : Prop :=
  ∀ (i j : ℕ) (f g : List Float), rows[i]? = some f → rows[j]? = some g →
    better (.vector f) (.vector g) equalities tolerances = .ok (decide (key i < key j))

section

variable {α : Type} [LinearOrder α] {key : ℕ → α}

lemma comparedBy_of_rank {rank : List Float → α} (h : ∀ f ∈ rows, ∀ g ∈ rows,
      better (.vector f) (.vector g) equalities tolerances = .ok (decide (rank f < rank g))) :
    ComparedBy rows equalities tolerances fun i => rank (rows[i]?.getD []) := by
  intro i j f g hf hg
  simp only [hf, hg, Option.getD_some]
  exact h f (List.mem_of_getElem? hf) g (List.mem_of_getElem? hg)

lemma ComparedBy.pairwise (h : ComparedBy rows equalities tolerances key) :
    (order rows equalities tolerances).Pairwise fun i j => toLex (key i, i) < toLex (key j, j) :=
  pairwise_order fun i hi j hj => rowBetter_eq (List.getElem?_eq_getElem hi)
    (List.getElem?_eq_getElem hj)
    (h i j _ _ (List.getElem?_eq_getElem hi) (List.getElem?_eq_getElem hj))

lemma ComparedBy.ranking_eq (h : ComparedBy rows equalities tolerances key) :
    ranking rows equalities tolerances = .ok (order rows equalities tolerances) := by
  refine ranking_eq_order fun f hf g hg => ?_
  obtain ⟨i, hf⟩ := List.mem_iff_getElem?.mp hf
  obtain ⟨j, hg⟩ := List.mem_iff_getElem?.mp hg
  exact ⟨_, h i j f g hf hg⟩

/-- The first of the ranking has the least key, and is the first with it. -/
lemma ComparedBy.le_of_order (h : ComparedBy rows equalities tolerances key) {b : ℕ}
    {bs : List ℕ} (hb : order rows equalities tolerances = b :: bs) {j : ℕ}
    (hj : j < rows.length) : toLex (key b, b) ≤ toLex (key j, j) := by
  have hpairwise := h.pairwise
  have hmem : j ∈ order rows equalities tolerances := mem_order.mpr hj
  rw [hb] at hpairwise hmem
  rcases List.mem_cons.mp hmem with rfl | hmem
  · exact le_refl _
  · exact ((List.pairwise_cons.mp hpairwise).1 j hmem).le

/-- The last of the ranking has the greatest key, and is the last with it. -/
lemma ComparedBy.le_of_reverse_order (h : ComparedBy rows equalities tolerances key) {w : ℕ}
    {ws : List ℕ} (hw : (order rows equalities tolerances).reverse = w :: ws) {j : ℕ}
    (hj : j < rows.length) : toLex (key j, j) ≤ toLex (key w, w) := by
  have hpairwise := List.pairwise_reverse.mpr h.pairwise
  have hmem : j ∈ (order rows equalities tolerances).reverse :=
    List.mem_reverse.mpr (mem_order.mpr hj)
  rw [hw] at hpairwise hmem
  rcases List.mem_cons.mp hmem with rfl | hmem
  · exact le_refl _
  · exact ((List.pairwise_cons.mp hpairwise).1 j hmem).le

end

/-- Where the rows are compared by ranks, the first of the ranking has the least rank. -/
lemma ranking_eq_ok {α : Type} [LinearOrder α] {rank : List Float → α} (hne : rows ≠ [])
    (h : ∀ f ∈ rows, ∀ g ∈ rows,
      better (.vector f) (.vector g) equalities tolerances = .ok (decide (rank f < rank g))) :
    ∃ i is f, ranking rows equalities tolerances = .ok (i :: is) ∧ rows[i]? = some f ∧
      ∀ g ∈ rows, rank f ≤ rank g := by
  have hcompared := comparedBy_of_rank h
  have hsome : order rows equalities tolerances ≠ [] := order_ne_nil hne
  obtain ⟨i, is, horder⟩ := List.exists_cons_of_ne_nil hsome
  have hi : i < rows.length := mem_order.mp (horder ▸ List.mem_cons_self)
  have hf := List.getElem?_eq_getElem hi
  refine ⟨i, is, _, by rw [hcompared.ranking_eq, horder], hf, fun g hg => ?_⟩
  obtain ⟨j, hg⟩ := List.mem_iff_getElem?.mp hg
  have hle := hcompared.le_of_order horder (List.getElem?_eq_some_iff.mp hg).1
  simp only [hf, hg, Option.getD_some, Prod.Lex.toLex_le_toLex] at hle
  rcases hle with hlt | ⟨heq, -⟩
  · exact hlt.le
  · exact heq.le

/-- Rows with an objective, and constraints that there are tolerances for, are ranked, whether there
is NaN in them or not. -/
lemma exists_ranking {n : ℕ} {ts : List Float} (hrows : ∀ f ∈ rows, f.length = n + 1)
    (ht : tolerancesFor tolerances [n] = .ok ts) :
    ∃ is, ranking rows equalities tolerances = .ok is ∧ ∀ i, i ∈ is ↔ i < rows.length :=
  ⟨_, ranking_eq_order fun f hf g hg => ⟨_, better_of_length ht (hrows f hf) (hrows g hg)⟩,
    fun _ => mem_order⟩

/-! ## Best and worst rows -/

/-- The rows that no row beats. -/
def unbeaten (rows : List (List Float)) (equalities : ℤ) (tolerances : Offer) : Set ℕ :=
  {i | ∃ f, rows[i]? = some f ∧
    ∀ g ∈ rows, better (.vector g) (.vector f) equalities tolerances = .ok false}

/-- The rows that beat no row. -/
def beatingNone (rows : List (List Float)) (equalities : ℤ) (tolerances : Offer) : Set ℕ :=
  {i | ∃ f, rows[i]? = some f ∧
    ∀ g ∈ rows, better (.vector f) (.vector g) equalities tolerances = .ok false}

section

variable {α : Type} [LinearOrder α] {key : ℕ → α}

/-- The first of the ranking is the first row that no row beats. -/
lemma ComparedBy.isLeast (h : ComparedBy rows equalities tolerances key) {b : ℕ} {bs : List ℕ}
    (hb : order rows equalities tolerances = b :: bs) :
    IsLeast (unbeaten rows equalities tolerances) b := by
  have hlength : b < rows.length := mem_order.mp (hb ▸ List.mem_cons_self)
  have hrow := List.getElem?_eq_getElem hlength
  refine ⟨⟨_, hrow, fun g hg => ?_⟩, fun i ⟨f, hf, hunbeaten⟩ => ?_⟩
  · obtain ⟨j, hg⟩ := List.mem_iff_getElem?.mp hg
    have hle := h.le_of_order hb (List.getElem?_eq_some_iff.mp hg).1
    have hkey : key b ≤ key j := Prod.Lex.monotone_fst _ _ hle
    rw [h j b _ _ hg hrow, decide_eq_false (not_lt.mpr hkey)]
  · have hbeats := hunbeaten _ (List.mem_of_getElem? hrow)
    rw [h b i _ _ hrow hf, Except.ok.injEq, decide_eq_false_iff_not, not_lt] at hbeats
    have hle := h.le_of_order hb (List.getElem?_eq_some_iff.mp hf).1
    rcases Prod.Lex.toLex_le_toLex.mp hle with hlt | ⟨-, hle⟩
    · exact absurd hlt (not_lt.mpr hbeats)
    · exact hle

/-- The last of the ranking is the last row that beats no row. -/
lemma ComparedBy.isGreatest (h : ComparedBy rows equalities tolerances key) {w : ℕ} {ws : List ℕ}
    (hw : (order rows equalities tolerances).reverse = w :: ws) :
    IsGreatest (beatingNone rows equalities tolerances) w := by
  have hmem : w ∈ (order rows equalities tolerances).reverse := hw ▸ List.mem_cons_self
  have hlength : w < rows.length := mem_order.mp (List.mem_reverse.mp hmem)
  have hrow := List.getElem?_eq_getElem hlength
  refine ⟨⟨_, hrow, fun g hg => ?_⟩, fun i ⟨f, hf, hnone⟩ => ?_⟩
  · obtain ⟨j, hg⟩ := List.mem_iff_getElem?.mp hg
    have hle := h.le_of_reverse_order hw (List.getElem?_eq_some_iff.mp hg).1
    have hkey : key j ≤ key w := Prod.Lex.monotone_fst _ _ hle
    rw [h w j _ _ hrow hg, decide_eq_false (not_lt.mpr hkey)]
  · have hbeats := hnone _ (List.mem_of_getElem? hrow)
    rw [h i w _ _ hf hrow, Except.ok.injEq, decide_eq_false_iff_not, not_lt] at hbeats
    have hle := h.le_of_reverse_order hw (List.getElem?_eq_some_iff.mp hf).1
    rcases Prod.Lex.toLex_le_toLex.mp hle with hlt | ⟨-, hle⟩
    · exact absurd hlt (not_lt.mpr hbeats)
    · exact hle

end

end

/-- Two rows that cannot be compared are not ranked. -/
lemma ranking_eq_error {rows : List (List Float)} {equalities : ℤ} {tolerances : Offer} {n : ℕ}
    {fault : Fault} (hrows : ∀ f ∈ rows, Numeric n f) (hmany : 1 < rows.length)
    (h : ∀ f g, Numeric n f → Numeric n g →
      better (.vector f) (.vector g) equalities tolerances = .error fault) :
    ranking rows equalities tolerances = .error fault := by
  match rows, hmany with
  | f :: g :: rows, _ =>
    have hfirst := h g f (hrows g (by simp)) (hrows f (by simp))
    simp [ranking, hfirst, bind, Except.bind]

/-- Rows of one length are ranked with a best one first, unless there are two or more and they
cannot be compared. -/
lemma ranking_cases {rows : List (List Float)} {n : ℕ} (hne : rows ≠ [])
    (hrows : ∀ f ∈ rows, Numeric n f) (equalities : ℤ) (tolerances : Offer) :
    (1 < rows.length ∧ ∃ fault, ∀ f g, Numeric n f → Numeric n g →
      better (.vector f) (.vector g) equalities tolerances = .error fault) ∨
    ∃ i is f, ranking rows equalities tolerances = .ok (i :: is) ∧ rows[i]? = some f ∧
      ∀ g ∈ rows, better (.vector g) (.vector f) equalities tolerances ≠ .ok true := by
  rcases better_eq equalities tolerances n with ⟨fault, hfault⟩ | ⟨ts, hrank⟩
  · match rows, hne with
    | [f], _ =>
      have hf := hrows f List.mem_cons_self
      refine .inr ⟨0, [], f, rfl, rfl, fun g hg => ?_⟩
      rw [List.mem_singleton.mp hg, hfault f f hf hf]
      exact nofun
    | f :: g :: rows, _ => exact .inl ⟨by simp, fault, hfault⟩
  · obtain ⟨i, is, f, hranking, hf, hleast⟩ := ranking_eq_ok hne fun f hf g hg =>
      hrank f g (hrows f hf) (hrows g hg)
    refine .inr ⟨i, is, f, hranking, hf, fun g hg => ?_⟩
    rw [hrank g f (hrows g hg) (hrows f (List.mem_of_getElem? hf)),
      decide_eq_false (not_lt.mpr (hleast g hg))]
    exact nofun

end Fitness

namespace Population

/-- A population whose fitness vectors all have the length that it fixes, and no NaN in them. -/
def Numeric (p : Population) : Prop := ∀ m ∈ p.members, Fitness.Numeric p.fitnessWidth m.f

/-- The members are ranked by their fitness vectors. -/
lemma ranking_eq_ok_iff {problem : Problem ω} {p : Population} {is : List ℕ} :
    p.ranking problem = .ok is ↔ p.size ≠ 0 ∧ problem.objectiveCount = .ok 1 ∧
      ∃ n tolerances, problem.equalityCount = .ok n ∧ problem.tolerances = .ok tolerances ∧
        Fitness.ranking p.fitnesses n tolerances = .ok is := by
  unfold ranking
  by_cases hsize : p.size = 0
  · simp [hsize, bind, Except.bind]
  · rw [if_neg hsize]
    cases problem.objectiveCount with
    | error fault => simp [bind, Except.bind]
    | ok objectives =>
      by_cases hone : objectives = 1
      · subst hone
        cases problem.equalityCount with
        | error fault => simp [bind, Except.bind]
        | ok n =>
          cases problem.tolerances with
          | error fault => simp [bind, Except.bind]
          | ok tolerances => simp [hsize, bind, Except.bind]
      · simp [hone, bind, Except.bind]

lemma firstOf_eq_ok_iff {is : List ℕ} {i : ℕ} : firstOf is = .ok i ↔ ∃ js, is = i :: js := by
  cases is with
  | nil => simp [firstOf]
  | cons j js => simp [firstOf]

/-- The worst member is the last of the ranking. -/
lemma worst_eq_ok_iff {problem : Problem ω} {p : Population} {w : ℕ} :
    p.worst problem = .ok w ↔ ∃ is ws, p.ranking problem = .ok is ∧ is.reverse = w :: ws := by
  simp only [worst, outcome_bind_eq_ok_iff, firstOf_eq_ok_iff]
  constructor
  · rintro ⟨is, his, ws, hws⟩
    exact ⟨is, ws, his, hws⟩
  · rintro ⟨is, ws, his, hws⟩
    exact ⟨is, his, ws, hws⟩

/-- The best member is the first of the ranking of the fitness vectors. -/
lemma best_eq_ok_iff {problem : Problem ω} {p : Population} {b : ℕ} :
    p.best problem = .ok b ↔ p.size ≠ 0 ∧ problem.objectiveCount = .ok 1 ∧
      ∃ n tolerances is, problem.equalityCount = .ok n ∧ problem.tolerances = .ok tolerances ∧
        Fitness.ranking p.fitnesses n tolerances = .ok (b :: is) := by
  simp only [best, outcome_bind_eq_ok_iff, ranking_eq_ok_iff, firstOf_eq_ok_iff]
  constructor
  · rintro ⟨is, ⟨hsize, hone, n, tolerances, hn, ht, hranking⟩, js, rfl⟩
    exact ⟨hsize, hone, n, tolerances, js, hn, ht, hranking⟩
  · rintro ⟨hsize, hone, n, tolerances, js, hn, ht, hranking⟩
    exact ⟨_, ⟨hsize, hone, n, tolerances, hn, ht, hranking⟩, js, rfl⟩

section

variable {problem : Problem ω} {p : Population} {b : ℕ}

lemma numeric_fitnesses (hp : p.Numeric) : ∀ f ∈ p.fitnesses, Fitness.Numeric p.fitnessWidth f := by
  intro f hf
  obtain ⟨m, hm, rfl⟩ := List.mem_map.mp hf
  exact hp m hm

lemma fitnesses_ne_nil (hsize : p.size ≠ 0) : p.fitnesses ≠ [] := by
  intro hnil
  exact hsize (by simpa [fitnesses, size] using hnil)

/-- No member is better than the best one. -/
theorem notBetter_best (hp : p.Numeric) (h : p.best problem = .ok b) :
    ∃ m, p.members[b]? = some m ∧ ∀ m' ∈ p.members, problem.NotBetter m'.f m.f := by
  obtain ⟨hsize, -, n, tolerances, is, hn, ht, hr⟩ := best_eq_ok_iff.mp h
  have hrows := numeric_fitnesses hp
  rcases Fitness.ranking_cases (fitnesses_ne_nil hsize) hrows n tolerances with
    ⟨hmany, fault, hfault⟩ | ⟨i, is', f, hranking, hf, hleast⟩
  · rw [Fitness.ranking_eq_error hrows hmany hfault] at hr
    cases hr
  · rw [hr] at hranking
    cases hranking
    rw [fitnesses, List.getElem?_map, Option.map_eq_some_iff] at hf
    obtain ⟨m, hm, rfl⟩ := hf
    refine ⟨m, hm, fun m' hm' => ?_⟩
    rw [Problem.notBetter_iff (hp m' hm') (hp m (List.mem_of_getElem? hm)),
      Problem.better_eq_of_ok hn ht]
    exact hleast m'.f (List.mem_map_of_mem hm')

/-- Whether there is a best member depends on the number and the length of the fitness vectors. -/
theorem exists_best {p' : Population} (hp : p.Numeric) (hp' : p'.Numeric)
    (hsize : p'.size = p.size) (hwidth : p'.fitnessWidth = p.fitnessWidth)
    (h : p.best problem = .ok b) : ∃ b', p'.best problem = .ok b' := by
  obtain ⟨hne, hone, n, tolerances, is, hn, ht, hr⟩ := best_eq_ok_iff.mp h
  have hne' : p'.size ≠ 0 := hsize ▸ hne
  rcases Fitness.ranking_cases (fitnesses_ne_nil hne') (numeric_fitnesses hp') n tolerances with
    ⟨hmany, fault, hfault⟩ | ⟨i, is', f, hranking, -⟩
  · have hmany' : 1 < p.fitnesses.length := by
      rw [fitnesses, List.length_map] at hmany ⊢
      exact lt_of_lt_of_eq hmany hsize
    rw [hwidth] at hfault
    rw [Fitness.ranking_eq_error (numeric_fitnesses hp) hmany' hfault] at hr
    cases hr
  · exact ⟨i, best_eq_ok_iff.mpr ⟨hne', hone, n, tolerances, is', hn, ht, hranking⟩⟩

end

end Population

/-! ## From the best to the worst -/

namespace Fitness

/-- Rows of one length, with tolerances that fit and with a number for an objective wherever the
constraints are met, are ranked from the best to the worst one: every row once, none of them better
than one before it, and those that are equally good in the order they come in.  In a population, the
best member is the first that no member beats, and the worst member is the last that beats none. -/
theorem ranked_from_best_to_worst {rows : List (List Float)} {n : ℕ} {equalities : ℤ}
    {tolerances : Offer} (hrows : ∀ f ∈ rows, f.length = n + 1)
    (ht : ∃ ts, tolerancesFor tolerances [n] = .ok ts)
    (hsound : ∀ f ∈ rows, Sound equalities tolerances f) :
    (∃ is, ranking rows equalities tolerances = .ok is ∧ is.Perm (List.range rows.length) ∧
      is.Pairwise fun i j => ∃ f g, rows[i]? = some f ∧ rows[j]? = some g ∧
        better (.vector g) (.vector f) equalities tolerances = .ok false ∧
        (better (.vector f) (.vector g) equalities tolerances = .ok false → i < j)) ∧
    ∀ (problem : Problem ω) (p : Population), p.fitnesses = rows → p.size ≠ 0 →
      problem.objectiveCount = .ok 1 → problem.equalityCount = .ok equalities →
      problem.tolerances = .ok tolerances →
      (∃ b, p.best problem = .ok b ∧ IsLeast (unbeaten rows equalities tolerances) b) ∧
      ∃ w, p.worst problem = .ok w ∧ IsGreatest (beatingNone rows equalities tolerances) w := by
  obtain ⟨ts, ht⟩ := ht
  have hcompared := comparedBy_of_rank fun f hf g hg =>
    (hsound f hf).better_eq (hsound g hg) ht (hrows f hf) (hrows g hg)
  refine ⟨⟨_, hcompared.ranking_eq, perm_order .., ?_⟩, fun problem p hp hsize hone hn htol => ?_⟩
  · refine hcompared.pairwise.imp_of_mem fun {i j} hi hj hij => ?_
    have hf := List.getElem?_eq_getElem (mem_order.mp hi)
    have hg := List.getElem?_eq_getElem (mem_order.mp hj)
    rw [Prod.Lex.toLex_lt_toLex] at hij
    refine ⟨_, _, hf, hg, ?_, fun h => ?_⟩
    · rw [hcompared j i _ _ hg hf, Except.ok.injEq, decide_eq_false_iff_not, not_lt]
      rcases hij with hlt | ⟨heq, -⟩
      · exact hlt.le
      · exact heq.le
    · rw [hcompared i j _ _ hf hg, Except.ok.injEq, decide_eq_false_iff_not] at h
      exact (hij.resolve_left h).2
  · have hranking : p.ranking problem = .ok (order rows equalities tolerances) :=
      Population.ranking_eq_ok_iff.mpr
        ⟨hsize, hone, equalities, tolerances, hn, htol, hp ▸ hcompared.ranking_eq⟩
    have hne : order rows equalities tolerances ≠ [] :=
      order_ne_nil (hp ▸ Population.fitnesses_ne_nil hsize)
    obtain ⟨b, bs, hb⟩ := List.exists_cons_of_ne_nil hne
    obtain ⟨w, ws, hw⟩ := List.exists_cons_of_ne_nil (List.reverse_ne_nil_iff.mpr hne)
    refine ⟨⟨b, ?_, hcompared.isLeast hb⟩, w, ?_, hcompared.isGreatest hw⟩
    · exact Population.best_eq_ok_iff.mpr
        ⟨hsize, hone, equalities, tolerances, bs, hn, htol, by rw [hp, hcompared.ranking_eq, hb]⟩
    · exact Population.worst_eq_ok_iff.mpr ⟨_, ws, hranking, hw⟩

/-- The left half of a line, with one objective on all of it and none beyond it. -/
def halfLine : Problem Unit where
  name := .ok "half line"
  dimension := .ok 1
  objectiveCount := .ok 1
  constraintCount := .ok 1
  equalityCount := .ok 0
  stochastic := .ok false
  bounds := .ok ⟨.vector [-10], .vector [10]⟩
  tolerances := .ok (.ok (.number 0))
  fitness x := pure (.vector [if x.headD 0 ≤ 0 then 1 else 0 / 0, x.headD 0])

/-- Two points beyond the half line around two points on it. -/
def halfLinePopulation : Population :=
  ⟨1, 2, [⟨[2], [0 / 0, 2]⟩, ⟨[-1], [1, -1]⟩, ⟨[-2], [1, -2]⟩, ⟨[2], [0 / 0, 2]⟩], 4⟩

/-- The points on the half line are equally good, and so are the points beyond it. -/
theorem ranked_halfLine :
    (∀ f ∈ halfLinePopulation.fitnesses, f.length = 2) ∧
    (∃ ts, tolerancesFor (.ok (.number 0)) [1] = .ok ts) ∧
    (∀ f ∈ halfLinePopulation.fitnesses, Sound 0 (.ok (.number 0)) f) ∧
    (∃ is, ranking halfLinePopulation.fitnesses 0 (.ok (.number 0)) = .ok is ∧
      is.Perm [0, 1, 2, 3]) ∧
    (∃ b, halfLinePopulation.best halfLine = .ok b ∧
      IsLeast (unbeaten halfLinePopulation.fitnesses 0 (.ok (.number 0))) b) ∧
    ∃ w, halfLinePopulation.worst halfLine = .ok w ∧
      IsGreatest (beatingNone halfLinePopulation.fitnesses 0 (.ok (.number 0))) w := by
  have hrows : ∀ f ∈ halfLinePopulation.fitnesses, f.length = 2 := by decide +kernel
  have ht : tolerancesFor (.ok (.number 0)) [1] = .ok [0] := tolerancesFor_number 0 1
  have hratings : ∀ f ∈ halfLinePopulation.fitnesses,
      (ratingOf 0 [0] f).summary.feasible = true → (ratingOf 0 [0] f).objective.isNaN = false := by
    decide +kernel
  have hsound : ∀ f ∈ halfLinePopulation.fitnesses, Sound 0 (.ok (.number 0)) f :=
    fun f hf => (sound_iff ht (hrows f hf)).mpr (hratings f hf)
  obtain ⟨⟨is, his, hperm, -⟩, hpopulation⟩ :=
    ranked_from_best_to_worst (ω := Unit) hrows ⟨_, ht⟩ hsound
  obtain ⟨hbest, hworst⟩ :=
    hpopulation halfLine halfLinePopulation rfl (by decide) rfl rfl rfl
  exact ⟨hrows, ⟨_, ht⟩, hsound, ⟨is, his, hperm⟩, hbest, hworst⟩

end Fitness

end ReverseComm
