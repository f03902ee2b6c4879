import ReverseComm.Proofs.Fitness.Violations
import ReverseComm.Proofs.Session.Frame

/-!
# Bounds and checks

What the constraints have to be is said twice.  The solver learns it from the bounds in its buffers,
and fitness vectors are rated by what they violate.  Both put equalities first, and they agree
(`bounds_agree_with_check`): without tolerance, the constraints that are not between their bounds
are as many as those that are violated.  The values have to be numbers, and none may be below the
number that stands for minus infinity in bounds.

A session whose buffers are allocated has `k` entries in the buffers of the variables and `m` in
those of the constraints (`Holds`), and writing into a buffer keeps it so.
-/

namespace ReverseComm.Session

open ReverseComm.Action

variable {ω : Type} {s s' : Session ω} {k m : ℕ}

/-! ## Buffers -/

/-- The buffers are there, for `k` variables and `m` constraints. -/
def Holds (s : Session ω) (k m : ℕ) : Prop :=
  ∀ name, ∃ xs, s.buffer name = .ok xs ∧ xs.length = if name.perVariable then k else m

/-- The session once a buffer has been written. -/
def wrote (s : Session ω) (name : BufferName) (xs : List Float) : Session ω :=
  { s with memory := s.memory.write name xs }

lemma buffer_eq_ok_iff {name : BufferName} {xs : List Float} :
    s.buffer name = .ok xs ↔ Stage.allocated s.stage ∧
      (s.memory.lengthOf name = 0 ∧ xs = [] ∨
        0 < s.memory.lengthOf name ∧ s.memory.buffers.get name = some xs) := by
  unfold buffer
  by_cases hallocated : Stage.allocated s.stage
  · rw [if_pos hallocated]
    by_cases hzero : s.memory.lengthOf name = 0
    · simp [hallocated, hzero, eq_comm]
    · rw [if_neg hzero]
      cases s.memory.buffers.get name with
      | none => simp [hzero]
      | some ys =>
        by_cases hneg : s.memory.lengthOf name < 0
        · simp [hzero, hneg, hneg.not_gt]
        · have hpos : 0 < s.memory.lengthOf name := by omega
          simp [hallocated, hzero, hneg, hpos]
  · simp [hallocated]

/-- A buffer holds what has been written into it, if that fits. -/
lemma buffer_wrote_self {name : BufferName} {xs ys : List Float} (h : s.buffer name = .ok ys)
    (hlength : xs.length = ys.length) : (s.wrote name xs).buffer name = .ok xs := by
  obtain ⟨hallocated, ⟨hzero, rfl⟩ | ⟨hpos, hget⟩⟩ := buffer_eq_ok_iff.mp h
  · exact buffer_eq_ok_iff.mpr ⟨hallocated, .inl ⟨hzero, List.length_eq_zero_iff.mp hlength⟩⟩
  · have hput : (s.wrote name xs).memory.buffers.get name = some xs := by
      rw [Session.wrote, Memory.write, Buffers.get_put_self, hget, Option.map_some]
    exact buffer_eq_ok_iff.mpr ⟨hallocated, .inr ⟨hpos, hput⟩⟩

lemma buffer_wrote_of_ne {a b : BufferName} (h : a ≠ b) (xs : List Float) :
    (s.wrote a xs).buffer b = s.buffer b := by
  have hget : (s.wrote a xs).memory.buffers.get b = s.memory.buffers.get b :=
    Buffers.get_put_of_ne _ h _
  unfold buffer
  rw [hget]
  rfl

lemma Holds.wrote (hs : s.Holds k m) (name : BufferName) {xs : List Float}
    (hlength : xs.length = if name.perVariable then k else m) : (s.wrote name xs).Holds k m := by
  intro b
  by_cases hb : name = b
  · subst hb
    obtain ⟨ys, hys, hl⟩ := hs name
    exact ⟨xs, buffer_wrote_self hys (hlength.trans hl.symm), hlength⟩
  · rw [buffer_wrote_of_ne hb]
    exact hs b

lemma runOn_read {name : BufferName} {xs : List Float} (h : s.buffer name = .ok xs) :
    (liftM (s.buffer name) : Action (Session ω) (List Float)).runOn s = (.ok xs, s) := by
  rw [runOn_liftExcept, h]

/-- A vector is written into a buffer if it has the length of the buffer. -/
lemma runOn_fill {name : BufferName} {xs : List Float} (h : s.buffer name = .ok xs) (t : Tensor) :
    (fill name (.ok t)).runOn s =
      if t.shape = [xs.length] then (.ok (), s.wrote name t.entries)
      else (.error (.value (.bufferSize t.size name.symbol xs.length)), s) := by
  rw [fill, runOn_bind_of_ok (runOn_get s), runOn_bind_of_ok (runOn_read h),
    runOn_bind_of_ok (runOn_liftExcept (.ok t) s)]
  split
  · rfl
  · rfl

lemma Holds.runOn_fill (hs : s.Holds k m) (name : BufferName) (t : Tensor) :
    (fill name (.ok t)).runOn s =
      if t.shape = [if name.perVariable then k else m] then (.ok (), s.wrote name t.entries)
      else (.error (.value (.bufferSize t.size name.symbol (if name.perVariable then k else m))),
        s) := by
  obtain ⟨xs, hxs, hlength⟩ := hs name
  rw [Session.runOn_fill hxs, hlength]

/-- What is offered to a buffer is written if it is a vector of the right length. -/
lemma fill_eq_ok_iff {name : BufferName} {ys : List Float} (h : s.buffer name = .ok ys)
    {values : Offer} :
    (fill name values).runOn s = (.ok (), s') ↔
      ∃ xs, values = .vector xs ∧ xs.length = ys.length ∧ s' = s.wrote name xs := by
  constructor
  · intro hfill
    obtain ⟨t, rfl, -⟩ := fill_eq_ok hfill
    rw [runOn_fill h] at hfill
    by_cases hshape : t.shape = [ys.length]
    · rw [if_pos hshape] at hfill
      cases hfill
      exact ⟨t.entries, congrArg Except.ok (Tensor.eq_vector_of_shape hshape),
        Tensor.length_of_shape hshape, rfl⟩
    · rw [if_neg hshape] at hfill
      cases hfill
  · rintro ⟨xs, rfl, hlength, rfl⟩
    rw [Offer.vector, runOn_fill h, if_pos (by rw [Tensor.shape_vector, hlength])]
    rfl

/-! ## Writing bounds -/

/-- The session once bounds have been written into all four buffers. -/
def bounded (s : Session ω) (lower upper below above : List Float) : Session ω :=
  (((s.wrote .decisionLower lower).wrote .decisionUpper upper).wrote .constraintLower below).wrote
    .constraintUpper above

section

variable (hs : s.Holds k m) {lower upper : Tensor}
include hs

lemma holds_wrote_decision (hlower : lower.shape = [k]) (hupper : upper.shape = [k]) :
    ((s.wrote .decisionLower lower.entries).wrote .decisionUpper upper.entries).Holds k m :=
  (hs.wrote .decisionLower (Tensor.length_of_shape hlower)).wrote .decisionUpper
    (Tensor.length_of_shape hupper)

lemma buffer_bounded (hlower : lower.shape = [k]) (hupper : upper.shape = [k])
    {below above : List Float} (hbelow : below.length = m) (habove : above.length = m) :
    (s.bounded lower.entries upper.entries below above).buffer .constraintLower = .ok below ∧
      (s.bounded lower.entries upper.entries below above).buffer .constraintUpper = .ok above := by
  have hdecision := holds_wrote_decision hs hlower hupper
  obtain ⟨xs, hxs, hxsLength⟩ := hdecision .constraintLower
  obtain ⟨ys, hys, hysLength⟩ := (hdecision.wrote .constraintLower hbelow) .constraintUpper
  constructor
  · exact (buffer_wrote_of_ne (by decide) above).trans
      (buffer_wrote_self hxs (hbelow.trans hxsLength.symm))
  · exact buffer_wrote_self hys (habove.trans hysLength.symm)

/-- Bounds of the variables are written if they have the lengths of their buffers, and with them the
bounds of the constraints if there are as many constraints as equalities. -/
lemma runOn_writeBounds (hlower : lower.shape = [k]) (hupper : upper.shape = [k]) (n : ℤ) :
    (writeBounds (.ok lower) (.ok upper) (.ok n)).runOn s =
      if n < 0 ∨ (m : ℤ) < n then
        (.error (.value (.equalityCount n)),
          (s.wrote .decisionLower lower.entries).wrote .decisionUpper upper.entries)
      else (.ok (), s.bounded lower.entries upper.entries
        (constraintLowerBounds s.memory.parameters.infinity n.toNat m) (List.replicate m 0)) := by
  have hlower' := hs.wrote .decisionLower (Tensor.length_of_shape hlower)
  have hdecision := holds_wrote_decision hs hlower hupper
  have hfillLower := (hs.runOn_fill .decisionLower lower).trans (if_pos hlower)
  have hfillUpper := (hlower'.runOn_fill .decisionUpper upper).trans (if_pos hupper)
  obtain ⟨below, hbelow, hbelowLength⟩ := hdecision .constraintLower
  obtain ⟨above, habove, haboveLength⟩ := hdecision .constraintUpper
  have hm : below.length = m := hbelowLength
  have hm' : above.length = m := haboveLength
  rw [writeBounds, runOn_bind_of_ok hfillLower, runOn_bind_of_ok hfillUpper,
    runOn_bind_of_ok (runOn_get _), runOn_bind_of_ok (runOn_read hbelow),
    runOn_bind_of_ok (runOn_get _), runOn_bind_of_ok (runOn_read habove),
    runOn_bind_of_ok (runOn_liftExcept _ _), hm, hm']
  dsimp only
  split
  · rfl
  · rfl

/-- Bounds of the variables that have other lengths are refused. -/
lemma writeBounds_of_shape_ne (h : ¬ (lower.shape = [k] ∧ upper.shape = [k])) (n : ℤ) :
    ∃ fault s', (writeBounds (.ok lower) (.ok upper) (.ok n)).runOn s =
      (.error (.value fault), s') := by
  rw [writeBounds]
  by_cases hlower : lower.shape = [k]
  · have hlower' := hs.wrote .decisionLower (Tensor.length_of_shape hlower)
    have hfillLower := (hs.runOn_fill .decisionLower lower).trans (if_pos hlower)
    have hupper : ¬ upper.shape = [k] := fun hupper => h ⟨hlower, hupper⟩
    have hfillUpper := (hlower'.runOn_fill .decisionUpper upper).trans (if_neg hupper)
    rw [runOn_bind_of_ok hfillLower]
    exact ⟨_, _, runOn_bind_eq_error_iff.mpr (.inl hfillUpper)⟩
  · have hfillLower := (hs.runOn_fill .decisionLower lower).trans (if_neg hlower)
    exact ⟨_, _, runOn_bind_eq_error_iff.mpr (.inl hfillLower)⟩

end

/-! ## Rows and bounds -/

/-- The values that are not between their bounds, each with its bounds in front. -/
def outside (below above values : List Float) : List ((Float × Float) × Float) :=
  ((below.zip above).zip values).filter fun r => !decide (r.1.1 ≤ r.2 ∧ r.2 ≤ r.1.2)

/-- All values are between their bounds. -/
def Within (below above values : List Float) : Prop :=
  ∀ r ∈ (below.zip above).zip values, r.1.1 ≤ r.2 ∧ r.2 ≤ r.1.2

lemma outside_eq_nil_iff {below above values : List Float} :
    outside below above values = [] ↔ Within below above values := by
  simp [outside, Within, List.filter_eq_nil_iff]

lemma zip_replicate_left {α β : Type} (a : α) (xs : List β) :
    (List.replicate xs.length a).zip xs = xs.map fun x => (a, x) := by
  induction xs with
  | nil => rfl
  | cons x xs ih => rw [List.length_cons, List.replicate_succ, List.zip_cons_cons, ih, List.map_cons]

lemma zip_replicate_right {α β : Type} (xs : List α) (b : β) :
    xs.zip (List.replicate xs.length b) = xs.map fun x => (x, b) := by
  induction xs with
  | nil => rfl
  | cons x xs ih => rw [List.length_cons, List.replicate_succ, List.zip_cons_cons, ih, List.map_cons]

section

variable {n : ℕ} {g : List Float}

/-- Equalities are bounded by zero, and inequalities by zero and minus infinity. -/
lemma length_outside (hn : n ≤ g.length) (infinity : Float) :
    (outside (constraintLowerBounds infinity n g.length) (List.replicate g.length 0) g).length =
      ((g.take n).filter fun x => !decide (0 ≤ x ∧ x ≤ 0)).length +
        ((g.drop n).filter fun x => !decide (-infinity ≤ x ∧ x ≤ 0)).length := by
  have htake : (g.take n).length = n := List.length_take_of_le hn
  have hdrop : (g.drop n).length = g.length - n := List.length_drop
  have habove : List.replicate g.length (0 : Float) =
      List.replicate n 0 ++ List.replicate (g.length - n) 0 := by
    rw [List.replicate_append_replicate, Nat.add_sub_cancel' hn]
  have hbounds : (constraintLowerBounds infinity n g.length).zip
      (List.replicate g.length (0 : Float)) = List.replicate (g.take n).length (0, 0) ++
        List.replicate (g.drop n).length (-infinity, 0) := by
    rw [constraintLowerBounds, habove, List.zip_append (by simp), List.zip_replicate',
      List.zip_replicate', htake, hdrop]
  have hrows : ((constraintLowerBounds infinity n g.length).zip
      (List.replicate g.length (0 : Float))).zip g =
        (g.take n).map (fun x => ((0, 0), x)) ++ (g.drop n).map fun x => ((-infinity, 0), x) := by
    rw [hbounds]
    conv_lhs => enter [2]; rw [← List.take_append_drop n g]
    rw [List.zip_append List.length_replicate, zip_replicate_left, zip_replicate_left]
  rw [outside, hrows, List.filter_append, List.filter_map, List.filter_map, List.length_append,
    List.length_map, List.length_map]
  rfl

/-- Without tolerance, an equality counts unless it is zero, and an inequality if it is above
zero. -/
lemma violated_of_zero_tolerance (n : ℕ) (g : List Float) :
    (Summary.of n g (List.replicate g.length 0)).violated =
      ((g.take n).filter fun x => Scalar.lt 0 (Scalar.abs x)).length +
        ((g.drop n).filter fun x => Scalar.lt 0 x).length := by
  have hheld : Summary.heldBelowZero n g (List.replicate g.length 0) = [] := by
    refine Summary.heldBelowZero_eq_nil fun t ht => ?_
    obtain rfl := List.eq_of_mem_replicate (List.mem_of_mem_drop ht)
    decide +kernel
  change (Summary.excess (Summary.violations n g) (List.replicate g.length 0)).length = _
  rw [Summary.length_excess List.length_replicate, hheld, Summary.violatedEqualities,
    Summary.violatedInequalities, zip_replicate_right, ← List.map_take, ← List.map_drop,
    List.filter_map, List.filter_map, List.length_map, List.length_map]
  rfl

lemma isNaN_zero : (0 : Float).isNaN = false := by decide +kernel

lemma outside_zero_eq {x : Float} (hx : x.isNaN = false) :
    (!decide (0 ≤ x ∧ x ≤ 0)) = Scalar.lt 0 (Scalar.abs x) := by
  rw [Bool.eq_iff_iff, Bool.not_eq_true', decide_eq_false_iff_not, not_and_or,
    Double.not_le_iff isNaN_zero hx, Double.not_le_iff hx isNaN_zero]
  exact Double.zero_lt_abs_iff.symm

lemma outside_nonpositive_eq {x infinity : Float} (hx : x.isNaN = false) (h : -infinity ≤ x) :
    (!decide (-infinity ≤ x ∧ x ≤ 0)) = Scalar.lt 0 x := by
  rw [Bool.eq_iff_iff, Bool.not_eq_true', decide_eq_false_iff_not, not_and_or,
    Double.not_le_iff hx isNaN_zero]
  exact or_iff_right (not_not.mpr h)

/-- As many values are outside their bounds as are violated without tolerance. -/
lemma length_outside_eq_violated (hn : n ≤ g.length) (hg : Double.NaNFree g) {infinity : Float}
    (hinfinity : ∀ x ∈ g, -infinity ≤ x) :
    (outside (constraintLowerBounds infinity n g.length) (List.replicate g.length 0) g).length =
      (Summary.of n g (List.replicate g.length 0)).violated := by
  have hequalities : ((g.take n).filter fun x => !decide (0 ≤ x ∧ x ≤ 0)) =
      (g.take n).filter fun x => Scalar.lt 0 (Scalar.abs x) :=
    List.filter_congr fun x hx => outside_zero_eq (hg x (List.mem_of_mem_take hx))
  have hinequalities : ((g.drop n).filter fun x => !decide (-infinity ≤ x ∧ x ≤ 0)) =
      (g.drop n).filter fun x => Scalar.lt 0 x := by
    refine List.filter_congr fun x hx => ?_
    have hmem : x ∈ g := List.mem_of_mem_drop hx
    exact outside_nonpositive_eq (hg x hmem) (hinfinity x hmem)
  rw [length_outside hn, violated_of_zero_tolerance, hequalities, hinequalities]

end

/-! ## The agreement -/

/-- The constraints lie between the bounds in the buffers of a session as the check without
tolerance says. -/
def BoundsAgree (s : Session ω) (m : ℕ) (n : ℤ) (infinity : Float) : Prop :=
  ∃ below above, s.buffer .constraintLower = .ok below ∧ s.buffer .constraintUpper = .ok above ∧
    below.length = m ∧ above.length = m ∧
    ∀ g : List Float, g.length = m → Double.NaNFree g → (∀ x ∈ g, -infinity ≤ x) →
      ∃ summary, Fitness.check (.vector g) n (.ok (.number 0)) = .ok summary ∧
        (outside below above g).length = summary.violated ∧
        (Within below above g ↔ summary.feasible = true)

lemma boundsAgree_bounded (hs : s.Holds k m) {lower upper : Tensor} (hlower : lower.shape = [k])
    (hupper : upper.shape = [k]) {n : ℕ} (hn : n ≤ m) (infinity : Float) :
    (s.bounded lower.entries upper.entries (constraintLowerBounds infinity n m)
      (List.replicate m 0)).BoundsAgree m n infinity := by
  have hbelow : (constraintLowerBounds infinity n m).length = m := by
    simp [constraintLowerBounds, hn]
  have habove : (List.replicate m (0 : Float)).length = m := List.length_replicate
  obtain ⟨hbuffer, hbuffer'⟩ := buffer_bounded hs hlower hupper hbelow habove
  refine ⟨_, _, hbuffer, hbuffer', hbelow, habove, fun g hg hnumbers hinfinity => ?_⟩
  subst hg
  have hcheck := Fitness.check_vector_of_le hn (Fitness.tolerancesFor_number 0 g.length)
  have hcount := length_outside_eq_violated hn hnumbers hinfinity
  refine ⟨_, hcheck, hcount, ?_⟩
  rw [Summary.feasible_iff, ← hcount, List.length_eq_zero_iff, outside_eq_nil_iff]

/-- In a session with buffers for `m` constraints, the number of equalities has to be between none
and all of them.  If so, bounds of the right lengths are written, and afterwards as many constraints
are outside their bounds as the check without tolerance finds violated. -/
theorem bounds_agree_with_check (hs : s.Holds k m) (lower upper : Tensor) (n : ℤ) :
    (¬ (0 ≤ n ∧ n ≤ m) → ∃ fault s', (writeBounds (.ok lower) (.ok upper) (.ok n)).runOn s =
      (.error (.value fault), s')) ∧
    (0 ≤ n → n ≤ m → lower.shape = [k] → upper.shape = [k] →
      ∃ s', (writeBounds (.ok lower) (.ok upper) (.ok n)).runOn s = (.ok (), s')) ∧
    ∀ s', (writeBounds (.ok lower) (.ok upper) (.ok n)).runOn s = (.ok (), s') →
      s'.BoundsAgree m n s.memory.parameters.infinity := by
  by_cases hshapes : lower.shape = [k] ∧ upper.shape = [k]
  · obtain ⟨hlower, hupper⟩ := hshapes
    have hrun := runOn_writeBounds hs hlower hupper n
    by_cases hn : 0 ≤ n ∧ n ≤ m
    · obtain ⟨equalities, rfl⟩ := Int.eq_ofNat_of_zero_le hn.1
      have hle : equalities ≤ m := by exact_mod_cast hn.2
      rw [if_neg (by omega), Int.toNat_natCast] at hrun
      refine ⟨fun h => absurd hn h, fun _ _ _ _ => ⟨_, hrun⟩, fun s' h => ?_⟩
      rw [hrun] at h
      cases h
      exact boundsAgree_bounded hs hlower hupper hle _
    · rw [if_pos (by omega)] at hrun
      refine ⟨fun _ => ⟨_, _, hrun⟩, fun h0 hm => absurd ⟨h0, hm⟩ hn, fun s' h => ?_⟩
      rw [hrun] at h
      cases h
  · obtain ⟨fault, s₁, hrun⟩ := writeBounds_of_shape_ne hs hshapes n
    refine ⟨fun _ => ⟨fault, s₁, hrun⟩, fun _ _ hl hu => absurd ⟨hl, hu⟩ hshapes, fun s' h => ?_⟩
    rw [hrun] at h
    cases h

/-- A session with buffers for one variable and two constraints. -/
def smallSession : Session Unit :=
  { start [] () with
    stage := some .initialized
    memory :=
      { Memory.blank with
        variableCount := 1
        constraintCount := 2
        buffers := ⟨some [0], some [0], some [0], some [0], some [0, 0], some [0, 0], some [0, 0],
          some [0, 0]⟩
        parameters := { Memory.blank.parameters with infinity := 1e20 } } }

lemma holds_smallSession : smallSession.Holds 1 2 := by
  intro name
  cases name <;> exact ⟨_, rfl, rfl⟩

/-- One equality and one inequality, which are both violated. -/
theorem bounds_agree_small :
    smallSession.Holds 1 2 ∧
    (∃ fault s', (writeBounds (.vector [-1]) (.vector [1]) (.ok 3)).runOn smallSession =
      (.error (.value fault), s')) ∧
    ∃ s' below above, (writeBounds (.vector [-1]) (.vector [1]) (.ok 1)).runOn smallSession =
        (.ok (), s') ∧ s'.buffer .constraintLower = .ok below ∧
      s'.buffer .constraintUpper = .ok above ∧
      ∃ summary, Fitness.check (.vector [-3, 4]) 1 (.ok (.number 0)) = .ok summary ∧
        (outside below above [-3, 4]).length = summary.violated := by
  have hs := holds_smallSession
  have hmany := (bounds_agree_with_check hs (.vector [-1]) (.vector [1]) 3).1 (by decide)
  obtain ⟨-, hwritten, hagree⟩ := bounds_agree_with_check hs (.vector [-1]) (.vector [1]) 1
  obtain ⟨s', hs'⟩ := hwritten (by decide) (by decide) rfl rfl
  obtain ⟨below, above, hbelow, habove, -, -, hcheck⟩ := hagree s' hs'
  obtain ⟨summary, hsummary, hcount, -⟩ :=
    hcheck [-3, 4] rfl (by decide +kernel) (by decide +kernel)
  exact ⟨hs, hmany, s', below, above, hs', hbelow, habove, summary, hsummary, hcount⟩

end ReverseComm.Session
