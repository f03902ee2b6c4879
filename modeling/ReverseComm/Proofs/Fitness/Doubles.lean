import Mathlib
import ReverseComm.Decimal.Exact
import ReverseComm.Fitness.Summary

/-!
# Doubles as they are compared

A rating compares doubles, and the numbers that it compares are objectives and norms of violations.
Decision vectors are compared too, and so is a verbosity that may be any value.  Two facts about
doubles are enough to reason about that, and both come down to the five kinds of an unpacked double:
NaN, and zeros, finite numbers and infinities with a sign.

* Numbers have places in a linear order, and comparing them is comparing their places
  (`lt_iff_place_lt`, `beq_iff_place_eq`).  Zeros of both signs share a place.  A comparison with
  NaN is false.
* The norm of numbers is a number (`isNaN_norm`).  The difference of two infinities and the product
  of a zero with an infinity are not, so this is an argument about signs: a square is not below
  zero, and sums and roots of such numbers are not either.

Neither fact says anything about rounding, beyond that it keeps a number's sign and makes no NaN.
-/

namespace ReverseComm.Double

open Float.Model Float.Model.UnpackedFloat

/-! ## The order of the numbers -/

/-- Where an unpacked double stands among the others: by its kind and sign, then by its exponent,
then by its mantissa.  NaN has no place of its own. -/
def placeOf : UnpackedFloat → ℤ ×ₗ ℤ ×ₗ ℤ
  | .infinity .negative => toLex (-2, toLex (0, 0))
  | .finite .negative m e _ => toLex (-1, toLex (-e, -(m : ℤ)))
  | .zero _ | .notANumber => toLex (0, toLex (0, 0))
  | .finite .positive m e _ => toLex (1, toLex (e, (m : ℤ)))
  | .infinity .positive => toLex (2, toLex (0, 0))

lemma compare_sign_eq_lt_iff (s t : Sign) :
    compare s t = .lt ↔ s = .negative ∧ t = .positive := by
  cases s <;> cases t <;> simp [compare]

lemma compare_then_eq_lt_iff (e₁ e₂ : ℤ) (m₁ m₂ : ℕ) :
    (compare e₁ e₂).then (compare m₁ m₂) = .lt ↔ e₁ < e₂ ∨ e₁ = e₂ ∧ m₁ < m₂ := by
  rw [Ordering.then_eq_lt, compare_lt_iff_lt, compare_eq_iff_eq, compare_lt_iff_lt]

lemma compare_then_eq_gt_iff (e₁ e₂ : ℤ) (m₁ m₂ : ℕ) :
    (compare e₁ e₂).then (compare m₁ m₂) = .gt ↔ e₂ < e₁ ∨ e₁ = e₂ ∧ m₂ < m₁ := by
  rw [Ordering.then_eq_gt, compare_gt_iff_gt, compare_eq_iff_eq, compare_gt_iff_gt]

/-- Unpacked numbers compare as their places do. -/
lemma lt_iff_placeOf_lt {a b : UnpackedFloat} (ha : a.isNaN = false) (hb : b.isNaN = false) :
    a.lt b = true ↔ placeOf a < placeOf b := by
  -- A table of the kinds; only two finite numbers of one sign have more than their kinds compared.
  rcases a with (_ | _) | _ | _ | ⟨_ | _, m₁, e₁, h₁⟩ <;>
    rcases b with (_ | _) | _ | _ | ⟨_ | _, m₂, e₂, h₂⟩ <;>
    simp_all [UnpackedFloat.lt, UnpackedFloat.compare, UnpackedFloat.isNaN, placeOf,
      Prod.Lex.toLex_lt_toLex, compare_sign_eq_lt_iff, compare_then_eq_lt_iff,
      compare_then_eq_gt_iff]

/-- The place of a double in the order of the numbers. -/
def place (x : Float) : ℤ ×ₗ ℤ ×ₗ ℤ := placeOf x.toModel.unpack

lemma scalar_lt_eq (x y : Float) : Scalar.lt x y = x.toModel.unpack.lt y.toModel.unpack := by
  change decide (x < y) = _
  rw [Bool.eq_iff_iff, decide_eq_true_iff]
  change decide (x.toModel < y.toModel) = true ↔ _
  exact decide_eq_true_iff

/-- Numbers compare as their places do. -/
theorem lt_iff_place_lt {x y : Float} (hx : x.isNaN = false) (hy : y.isNaN = false) :
    Scalar.lt x y = true ↔ place x < place y := by
  rw [scalar_lt_eq]
  exact lt_iff_placeOf_lt hx hy

lemma isNaN_of_unpacked_lt {a b : UnpackedFloat} (h : a.lt b = true) :
    a.isNaN = false ∧ b.isNaN = false := by
  cases a with
  | notANumber => simp [UnpackedFloat.lt, UnpackedFloat.compare] at h
  | infinity | zero | finite =>
    cases b with
    | notANumber => simp [UnpackedFloat.lt, UnpackedFloat.compare] at h
    | infinity | zero | finite => exact ⟨rfl, rfl⟩

/-- NaN is not below anything, and nothing is below NaN. -/
lemma isNaN_of_lt {x y : Float} (h : Scalar.lt x y = true) :
    x.isNaN = false ∧ y.isNaN = false := by
  rw [scalar_lt_eq] at h
  exact isNaN_of_unpacked_lt h

/-- No double is below itself. -/
lemma lt_self (x : Float) : Scalar.lt x x = false := by
  by_contra h
  have hlt : Scalar.lt x x = true := by simpa using h
  have hx := (isNaN_of_lt hlt).1
  exact lt_irrefl _ ((lt_iff_place_lt hx hx).mp hlt)

/-- What is below a double is below everything that the double is below. -/
lemma lt_of_lt_lt {x y z : Float} (hxy : Scalar.lt x y = true) (hyz : Scalar.lt y z = true) :
    Scalar.lt x z = true := by
  obtain ⟨hx, hy⟩ := isNaN_of_lt hxy
  have hz := (isNaN_of_lt hyz).2
  rw [lt_iff_place_lt hx hz]
  exact ((lt_iff_place_lt hx hy).mp hxy).trans ((lt_iff_place_lt hy hz).mp hyz)

lemma compare_sign_isLE_iff (s t : Sign) : (compare s t).isLE = true ↔ compare t s ≠ .lt := by
  cases s <;> cases t <;> simp [compare]

/-- Unpacked doubles are in order if they are numbers that are not in the opposite order. -/
lemma le_iff_not_lt {a b : UnpackedFloat} :
    a.le b = true ↔ a.isNaN = false ∧ b.isNaN = false ∧ b.lt a = false := by
  rcases a with (_ | _) | _ | _ | ⟨_ | _, m₁, e₁, h₁⟩ <;>
    rcases b with (_ | _) | _ | _ | ⟨_ | _, m₂, e₂, h₂⟩ <;>
    simp [UnpackedFloat.le, UnpackedFloat.lt, UnpackedFloat.compare, UnpackedFloat.isNaN,
      compare_sign_isLE_iff, compare_sign_eq_lt_iff]
  case finite.negative.finite.negative =>
    rw [Ordering.isGE_iff_ne_lt, not_iff_not, compare_then_eq_lt_iff, compare_then_eq_gt_iff,
      eq_comm]
  case finite.positive.finite.positive =>
    rw [Ordering.isLE_iff_ne_gt, compare_then_eq_lt_iff, compare_then_eq_gt_iff,
      eq_comm (a := e₁)]

/-- Doubles are in order if they are numbers that are not in the opposite order. -/
theorem le_iff {x y : Float} :
    x ≤ y ↔ x.isNaN = false ∧ y.isNaN = false ∧ Scalar.lt y x = false := by
  rw [scalar_lt_eq]
  change decide (x.toModel ≤ y.toModel) = true ↔ _
  rw [decide_eq_true_iff]
  exact le_iff_not_lt

lemma not_le_iff {x y : Float} (hx : x.isNaN = false) (hy : y.isNaN = false) :
    ¬ x ≤ y ↔ Scalar.lt y x = true := by
  rw [le_iff, hx, hy]
  simp

lemma lt_of_le_lt {x y z : Float} (hxy : x ≤ y) (hyz : Scalar.lt y z = true) :
    Scalar.lt x z = true := by
  obtain ⟨hx, hy, hyx⟩ := le_iff.mp hxy
  have hz := (isNaN_of_lt hyz).2
  rw [← Bool.not_eq_true, lt_iff_place_lt hy hx, not_lt] at hyx
  rw [lt_iff_place_lt hx hz]
  exact hyx.trans_lt ((lt_iff_place_lt hy hz).mp hyz)

/-! ## Equal numbers -/

lemma compare_sign_eq_eq_iff (s t : Sign) : compare s t = .eq ↔ s = t := by
  cases s <;> cases t <;> simp [compare]

/-- Unpacked doubles are equal as numbers if they are numbers and share a place. -/
lemma beq_iff_placeOf_eq {a b : UnpackedFloat} :
    a.beq b = true ↔ a.isNaN = false ∧ b.isNaN = false ∧ placeOf a = placeOf b := by
  rcases a with (_ | _) | _ | _ | ⟨_ | _, m₁, e₁, h₁⟩ <;>
    rcases b with (_ | _) | _ | _ | ⟨_ | _, m₂, e₂, h₂⟩ <;>
    simp [UnpackedFloat.beq, UnpackedFloat.compare, UnpackedFloat.isNaN, placeOf,
      compare_sign_eq_eq_iff]

/-- Doubles are equal as numbers if they are numbers and share a place. -/
theorem beq_iff_place_eq {x y : Float} :
    (x == y) = true ↔ x.isNaN = false ∧ y.isNaN = false ∧ place x = place y :=
  beq_iff_placeOf_eq

/-! ## Zeros -/

/-- Only the zeros are equal to zero. -/
lemma unpack_of_beq_zero {x : Float} (h : (x == 0) = true) : ∃ s, x.toModel.unpack = .zero s := by
  obtain ⟨hx, -, hplace⟩ := beq_iff_place_eq.mp h
  have hzero : place 0 = toLex (0, toLex (0, 0)) := rfl
  rw [hzero] at hplace
  change x.toModel.unpack.isNaN = false at hx
  change placeOf x.toModel.unpack = _ at hplace
  generalize x.toModel.unpack = u at hx hplace ⊢
  cases u with
  | zero s => exact ⟨s, rfl⟩
  | notANumber => cases hx
  | infinity s | finite s =>
    cases s with
    | negative | positive => simp [placeOf] at hplace

lemma toNat_unpackMantissa (b : BitVec 64) :
    (@unpackMantissa Format.binary64 b).toNat = b.toNat % 2 ^ 52 := by
  rw [unpackMantissa, BitVec.toNat_cast, BitVec.extractLsb_toNat]
  rfl

lemma toNat_unpackExponent (b : BitVec 64) :
    (@unpackExponent Format.binary64 b).toNat = b.toNat / 2 ^ 52 % 2 ^ 11 := by
  rw [unpackExponent, BitVec.toNat_cast, BitVec.extractLsb_toNat, Nat.shiftRight_eq_div_pow]
  rfl

lemma fields_of_unpack_zero {b : BitVec 64} {s : Sign}
    (h : UnpackedFloat.unpack Format.binary64 b = .zero s) :
    b.toNat / 2 ^ 52 % 2 ^ 11 = 0 ∧ b.toNat % 2 ^ 52 = 0 := by
  unfold UnpackedFloat.unpack at h
  dsimp only at h
  split at h
  · split at h
    · cases h
    · cases h
  · split at h
    · rename_i hexponent
      split at h
      · rename_i hmantissa
        rw [← toNat_unpackExponent, ← toNat_unpackMantissa, hexponent, hmantissa]
        exact ⟨rfl, rfl⟩
      · cases h
    · cases h

/-- What is equal to zero has zero as its exact value, with one sign or the other. -/
theorem ofFloat?_of_beq_zero {x : Float} (h : (x == 0) = true) :
    ∃ negative, Exact.ofFloat? x = some ⟨negative, 0, -1074⟩ := by
  obtain ⟨s, hs⟩ := unpack_of_beq_zero h
  obtain ⟨hexponent, hmantissa⟩ := fields_of_unpack_zero hs
  have he : x.toBits.toNat / Nat.pow 2 52 % Nat.pow 2 11 = 0 := hexponent
  have hm : x.toBits.toNat % Nat.pow 2 52 = 0 := hmantissa
  simp only [Exact.ofFloat?, he, hm]
  exact ⟨_, rfl⟩

/-! ## Numbers that are not below zero -/

/-- An unpacked double that is a number and not below zero. -/
inductive NonNeg : UnpackedFloat → Prop
  | infinity : NonNeg (.infinity .positive)
  | zero (s : Sign) : NonNeg (.zero s)
  | finite (m : ℕ) (e : ℤ) (h : 0 < m) : NonNeg (.finite .positive m e h)

lemma NonNeg.isNaN_eq_false {u : UnpackedFloat} (h : NonNeg u) : u.isNaN = false := by
  cases h with
  | infinity | zero | finite => rfl

section

variable (S : Format)

lemma nonNeg_roundWithAccuracy (m : ℕ) (e : ℤ) (accuracy : Accuracy) :
    NonNeg (roundWithAccuracy S .positive m e accuracy) := by
  unfold roundWithAccuracy
  dsimp only
  split
  · exact .zero _
  · exact .finite ..

lemma sign_mul_self (s : Sign) : s * s = .positive := by
  cases s with
  | negative | positive => rfl

lemma nonNeg_mul_self {u : UnpackedFloat} (h : u.isNaN = false) : NonNeg (mul S u u) := by
  cases u with
  | infinity s =>
    rw [UnpackedFloat.mul, sign_mul_self]
    exact .infinity
  | notANumber => cases h
  | zero s => exact .zero _
  | finite s m e hm =>
    rw [UnpackedFloat.mul, sign_mul_self]
    exact nonNeg_roundWithAccuracy S _ _ _

lemma nonNeg_normalize {n : ℤ} (hn : 0 ≤ n) (e : ℤ) :
    NonNeg (UnpackedFloat.normalize S n e .positive) := by
  unfold UnpackedFloat.normalize
  split
  · rename_i h
    exact absurd (compare_lt_iff_lt.mp h) (not_lt.mpr hn)
  · exact .zero _
  · exact nonNeg_roundWithAccuracy S _ _ _

lemma nonNeg_add {u v : UnpackedFloat} (hu : NonNeg u) (hv : NonNeg v) : NonNeg (add S u v) := by
  cases hu with
  | infinity =>
    cases hv with
    | infinity | zero | finite => exact .infinity
  | zero s =>
    cases hv with
    | infinity => exact .infinity
    | zero t =>
      rw [UnpackedFloat.add]
      split
      · exact .zero _
      · exact .zero _
    | finite m e hm => exact .finite ..
  | finite m e hm =>
    cases hv with
    | infinity => exact .infinity
    | zero t => exact .finite ..
    | finite m' e' hm' =>
      refine nonNeg_normalize S ?_ _
      exact Int.add_nonneg (Int.natCast_nonneg _) (Int.natCast_nonneg _)

lemma nonNeg_sqrt {u : UnpackedFloat} (h : NonNeg u) : NonNeg (sqrt S u) := by
  cases h with
  | infinity => exact .infinity
  | zero s => exact .zero s
  | finite m e hm => exact nonNeg_roundWithAccuracy S _ _ _

/-! ## Packing -/

lemma unpackSign_packComponents (s : Sign) (e : BitVec S.exponentBits)
    (m : BitVec S.mantissaBitsWithoutImplicit) :
    unpackSign (packComponents S s e m) = s.toBitVec := by
  ext i hi
  obtain rfl : i = 0 := by omega
  simp [unpackSign, packComponents, BitVec.getLsbD_append, BitVec.getElem_append]

lemma ofBitVec_toBitVec (s : Sign) : Sign.ofBitVec s.toBitVec = s := by
  cases s with
  | negative | positive => rfl

lemma ofNat_ne_allOnes {n k : ℕ} (h : n + 1 < 2 ^ k) : BitVec.ofNat k n ≠ -1#_ := by
  intro hn
  have hnat := congrArg BitVec.toNat hn
  rw [BitVec.neg_one_eq_allOnes, BitVec.toNat_allOnes, BitVec.toNat_ofNat,
    Nat.mod_eq_of_lt (by omega)] at hnat
  omega

lemma zero_ne_allOnes : (0#S.exponentBits) ≠ -1#_ :=
  ofNat_ne_allOnes (Nat.one_lt_two_pow (Nat.pos_iff_ne_zero.mp S.he))

lemma unpack_packedZero (s : Sign) : UnpackedFloat.unpack S (packedZero S s) = .zero s := by
  unfold UnpackedFloat.unpack packedZero
  dsimp only
  rw [unpackExponent_packComponents, unpackSign_packComponents, ofBitVec_toBitVec]
  have hexp : (0 : BitVec S.exponentBits) ≠ -1#_ := zero_ne_allOnes S
  have hzero : (0 : BitVec S.exponentBits) = 0#_ := rfl
  have hmantissa : unpackMantissa (packComponents S s 0 0) = 0#_ := unpackMantissa_packComponents
  rw [if_neg hexp, if_pos hzero, dif_pos hmantissa]

/-- A positive sign stays positive, and a number stays one if an exponent that marks what is not
finite goes with the mantissa of an infinity. -/
lemma nonNeg_unpack_packComponents {e : BitVec S.exponentBits}
    {m : BitVec S.mantissaBitsWithoutImplicit} (h : e = -1#_ → m = 0#_) :
    NonNeg (UnpackedFloat.unpack S (packComponents S .positive e m)) := by
  unfold UnpackedFloat.unpack
  dsimp only
  rw [unpackExponent_packComponents, unpackSign_packComponents, ofBitVec_toBitVec]
  split
  · rename_i he
    rw [if_pos (unpackMantissa_packComponents.trans (h he))]
    exact .infinity
  · split
    · split
      · exact .zero _
      · exact .finite ..
    · exact .finite ..

/-- Packing makes neither NaN nor anything below zero of a number that is not. -/
lemma nonNeg_unpack_pack {u : UnpackedFloat} (h : NonNeg u) :
    NonNeg (UnpackedFloat.unpack S (UnpackedFloat.pack S u)) := by
  cases h with
  | infinity => exact nonNeg_unpack_packComponents S fun _ => rfl
  | zero s =>
    rw [UnpackedFloat.pack, unpack_packedZero]
    exact .zero s
  | finite m e hm =>
    unfold UnpackedFloat.pack
    dsimp only
    split
    · exact nonNeg_unpack_packComponents S fun _ => rfl
    · rename_i hfits
      split
      · refine nonNeg_unpack_packComponents S fun he => ?_
        exact absurd he (ofNat_ne_allOnes (by omega))
      · refine nonNeg_unpack_packComponents S fun he => ?_
        exact absurd he (zero_ne_allOnes S)

end

/-! ## What rating computes -/

/-- A double that is a number and not below zero. -/
def NonNegative (x : Float) : Prop := NonNeg x.toModel.unpack

lemma NonNegative.isNaN_eq_false {x : Float} (h : NonNegative x) : x.isNaN = false :=
  NonNeg.isNaN_eq_false h

lemma nonNegative_mul_self {x : Float} (h : x.isNaN = false) : NonNegative (Scalar.mul x x) :=
  nonNeg_unpack_pack _ (nonNeg_mul_self _ h)

lemma nonNegative_add {x y : Float} (hx : NonNegative x) (hy : NonNegative y) :
    NonNegative (Scalar.add x y) :=
  nonNeg_unpack_pack _ (nonNeg_add _ hx hy)

lemma nonNegative_sqrt {x : Float} (h : NonNegative x) : NonNegative (Scalar.sqrt x) :=
  nonNeg_unpack_pack _ (nonNeg_sqrt _ h)

lemma nonNegative_zero : NonNegative (Scalar.zero : Float) :=
  nonNeg_unpack_pack _ (.zero .positive)

/-- No number is NaN. -/
def NaNFree (xs : List Float) : Prop := ∀ x ∈ xs, x.isNaN = false

instance (xs : List Float) : Decidable (NaNFree xs) :=
  inferInstanceAs (Decidable (∀ x ∈ xs, x.isNaN = false))

/-- The sum of squares is taken from the left, and stays at zero or above all the way. -/
lemma nonNegative_foldl {xs : List Float} (h : NaNFree xs) {s : Float} (hs : NonNegative s) :
    NonNegative (xs.foldl (fun s x => Scalar.add s (Scalar.mul x x)) s) := by
  induction xs generalizing s with
  | nil => exact hs
  | cons x xs ih =>
    refine ih (fun y hy => h y (List.mem_cons_of_mem _ hy)) ?_
    exact nonNegative_add hs (nonNegative_mul_self (h x List.mem_cons_self))

/-- The norm of numbers is a number. -/
theorem isNaN_norm {xs : List Float} (h : NaNFree xs) : (Scalar.norm xs).isNaN = false :=
  (nonNegative_sqrt (nonNegative_foldl h nonNegative_zero)).isNaN_eq_false

/-- What exceeds a tolerance is a number, so the norm of a summary is one whatever the values
are. -/
theorem isNaN_norm_summary (equalities : ℕ) (values tolerances : List Float) :
    (Summary.of equalities values tolerances).norm.isNaN = false := by
  refine isNaN_norm fun v hv => ?_
  obtain ⟨p, hp, rfl⟩ := List.mem_map.mp hv
  exact (isNaN_of_lt (List.mem_filter.mp hp).2).2

end ReverseComm.Double
