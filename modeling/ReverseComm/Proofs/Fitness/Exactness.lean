import Mathlib
import ReverseComm.Proofs.Fitness.Doubles

/-!
# Doubles as exact numbers

A double stands for a real number, for an infinity, or for no number at all (`Double.exact`), and the
arithmetic that rates fitness vectors can be done with what doubles stand for instead of with
doubles.  `Scalar (Option EReal)` is that arithmetic.  It does not round, and it is the same for
whatever is defined over any `Scalar`.

Three operations on doubles do not round either: comparing (`exact_lt`), taking the magnitude
(`exact_abs`) and taking the positive part (`exact_positivePart`).  Comparing looks at exponents
before mantissas, and taking the magnitude packs a double anew, so both depend on the one form in
which a double is unpacked: all its 53 bits are used unless its exponent is the least one
(`Canonical`).
-/

namespace ReverseComm

/-! ## Exact arithmetic -/

section

open Classical in
/-- Exact numbers: reals and infinities.  What has no value is `none`, and so is what depends on
it. -/
noncomputable instance : Scalar (Option EReal) where
  zero := some 0
  lt x y := decide (∃ a b, x = some a ∧ y = some b ∧ a < b)
  abs := Option.map fun a => max a (-a)
  add x y := do
    let a ← x
    let b ← y
    if a = ⊤ ∧ b = ⊥ ∨ a = ⊥ ∧ b = ⊤ then none else some (a + b)
  mul x y := do
    let a ← x
    let b ← y
    if a = 0 ∧ (b = ⊤ ∨ b = ⊥) ∨ (a = ⊤ ∨ a = ⊥) ∧ b = 0 then none else some (a * b)
  sqrt x := do
    let a ← x
    if a < 0 then none else some (if a = ⊤ then ⊤ else Real.sqrt a.toReal)

end

namespace Exactly

open Scalar

@[simp] lemma zero_eq : (zero : Option EReal) = some 0 := rfl

lemma lt_iff {x y : Option EReal} : lt x y = true ↔ ∃ a b, x = some a ∧ y = some b ∧ a < b :=
  @decide_eq_true_iff _ (Classical.propDecidable _)

@[simp] lemma lt_some_iff {a b : EReal} : lt (some a) (some b) = true ↔ a < b := by
  simp [lt_iff]

@[simp] lemma lt_none_left (y : Option EReal) : lt none y = false := by
  simp [← Bool.not_eq_true, lt_iff]

@[simp] lemma lt_none_right (x : Option EReal) : lt x none = false := by
  simp [← Bool.not_eq_true, lt_iff]

@[simp] lemma abs_some (a : EReal) : Scalar.abs (some a) = some (max a (-a)) := rfl

@[simp] lemma abs_none : Scalar.abs (none : Option EReal) = none := rfl

lemma positivePart_some (a : EReal) : positivePart (some a) = some (max a 0) := by
  rw [positivePart, zero_eq]
  by_cases h : a < 0
  · rw [if_pos (lt_some_iff.mpr h), max_eq_right h.le]
  · rw [if_neg (mt lt_some_iff.mp h), max_eq_left (not_lt.mp h)]

@[simp] lemma positivePart_none : positivePart (none : Option EReal) = none := by
  simp [positivePart]

lemma mul_self (a : EReal) : mul (some a) (some a) = some (a * a) := by
  refine if_neg ?_
  rintro (⟨rfl, h⟩ | ⟨h, rfl⟩)
  · simp at h
  · simp at h

lemma add_of_nonneg {a b : EReal} (ha : 0 ≤ a) (hb : 0 ≤ b) :
    add (some a) (some b) = some (a + b) := by
  refine if_neg ?_
  rintro (⟨-, rfl⟩ | ⟨rfl, -⟩)
  · simp at hb
  · simp at ha

lemma sqrt_of_nonneg {a : EReal} (ha : 0 ≤ a) :
    sqrt (some a) = some (if a = ⊤ then ⊤ else (Real.sqrt a.toReal : EReal)) :=
  if_neg (not_lt.mpr ha)

lemma mul_self_nonneg (a : EReal) : 0 ≤ a * a := by
  rcases le_total 0 a with h | h
  · exact mul_nonneg h h
  · rw [← neg_mul_neg]
    exact mul_nonneg (EReal.neg_nonneg.mpr h) (EReal.neg_nonneg.mpr h)

lemma sum_squares_nonneg (as : List EReal) : 0 ≤ (as.map fun a => a * a).sum := by
  refine List.sum_nonneg fun s hs => ?_
  obtain ⟨a, -, rfl⟩ := List.mem_map.mp hs
  exact mul_self_nonneg a

lemma foldl_squares {s : EReal} (hs : 0 ≤ s) (as : List EReal) :
    (as.map some).foldl (fun s x => add s (mul x x)) (some s) =
      some (s + (as.map fun a => a * a).sum) := by
  induction as generalizing s with
  | nil => simp
  | cons a as ih =>
    have ha : 0 ≤ a * a := mul_self_nonneg a
    rw [List.map_cons, List.foldl_cons, mul_self, add_of_nonneg hs ha, ih (add_nonneg hs ha),
      List.map_cons, List.sum_cons, add_assoc]

lemma mul_self_sqrt {a : EReal} (ha : 0 ≤ a) :
    mul (sqrt (some a)) (sqrt (some a)) = some a := by
  rw [sqrt_of_nonneg ha, mul_self]
  by_cases htop : a = ⊤
  · simp [htop]
  · have hbot : a ≠ ⊥ := fun h => by simp [h] at ha
    rw [if_neg htop, ← EReal.coe_mul, Real.mul_self_sqrt (EReal.toReal_nonneg ha),
      EReal.coe_toReal htop hbot]

/-- In exact arithmetic, the square of a norm is the sum of the squares. -/
theorem mul_self_norm (as : List EReal) :
    mul (norm (as.map some)) (norm (as.map some)) = some (as.map fun a => a * a).sum := by
  have hsum : sumSquares (as.map some) = some (as.map fun a => a * a).sum := by
    have hfold := foldl_squares le_rfl as
    rwa [zero_add] at hfold
  rw [Scalar.norm, hsum]
  exact mul_self_sqrt (sum_squares_nonneg as)

end Exactly

/-! ## The form of an unpacked double -/

namespace Double

open Float.Model Float.Model.UnpackedFloat

/-- A finite double has 53 bits, and the first of them is set unless the exponent is the least
one. -/
def Canonical : UnpackedFloat → Prop
  | .finite _ m e _ => m < 2 ^ 53 ∧ (2 ^ 52 ≤ m ∨ e = -1074) ∧ -1074 ≤ e ∧ e ≤ 971
  | .infinity _ | .notANumber | .zero _ => True

lemma toNat_one_append (m : BitVec 52) : (1#1 ++ m).toNat = 2 ^ 52 + m.toNat := by
  rw [BitVec.toNat_append, ← Nat.shiftLeft_add_eq_or_of_lt m.isLt]
  rfl

/-- Doubles are unpacked into that form. -/
lemma canonical_unpack (b : BitVec 64) : Canonical (UnpackedFloat.unpack Format.binary64 b) := by
  have hm : (@unpackMantissa Format.binary64 b).toNat < 2 ^ 52 := BitVec.isLt _
  have he : (@unpackExponent Format.binary64 b).toNat < 2 ^ 11 := BitVec.isLt _
  have hbias : Format.binary64.exponentBias = 1023 := rfl
  unfold UnpackedFloat.unpack
  dsimp only
  split
  · split
    · trivial
    · trivial
  · rename_i hlast
    split
    · rename_i hfirst
      split
      · trivial
      · rw [hfirst]
        exact ⟨hm.trans (by decide), .inr rfl, by decide, by decide⟩
    · rename_i hfirst
      have hpos : (@unpackExponent Format.binary64 b).toNat ≠ 0 := fun h =>
        hfirst (BitVec.eq_of_toNat_eq h)
      have hless : (@unpackExponent Format.binary64 b).toNat ≠ 2047 := fun h =>
        hlast (BitVec.eq_of_toNat_eq h)
      have happend : (1#1 ++ @unpackMantissa Format.binary64 b).toNat =
          2 ^ 52 + (@unpackMantissa Format.binary64 b).toNat := toNat_one_append _
      refine ⟨?_, .inl ?_, ?_, ?_⟩
      · rw [happend]
        omega
      · rw [happend]
        omega
      · rw [hbias]
        push_cast
        omega
      · rw [hbias]
        push_cast
        omega

lemma unpack_normal (s : Sign) {e : BitVec 11} (m : BitVec 52) (hfirst : e ≠ 0#11)
    (hlast : e ≠ -1#11) :
    UnpackedFloat.unpack Format.binary64 (packComponents Format.binary64 s e m) =
      .finite s (2 ^ 52 + m.toNat) (e.toNat - 1075) (by omega) := by
  unfold UnpackedFloat.unpack
  dsimp only
  rw [unpackExponent_packComponents, unpackSign_packComponents, ofBitVec_toBitVec, if_neg hlast,
    if_neg hfirst]
  simp only [unpackMantissa_packComponents, UnpackedFloat.finite.injEq, true_and]
  exact ⟨toNat_one_append m, rfl⟩

lemma unpack_subnormal (s : Sign) {m : BitVec 52} (h : 0 < m.toNat) :
    UnpackedFloat.unpack Format.binary64 (packComponents Format.binary64 s 0#11 m) =
      .finite s m.toNat (-1074) h := by
  have hm : m ≠ 0#52 := fun h0 => by simp [h0] at h
  unfold UnpackedFloat.unpack
  dsimp only
  rw [unpackExponent_packComponents, unpackSign_packComponents, ofBitVec_toBitVec,
    if_neg (by decide), if_pos rfl]
  simp only [unpackMantissa_packComponents]
  rw [dif_neg hm]
  rfl

/-- A number in that form is unpacked as it was packed. -/
lemma unpack_pack_finite {s : Sign} {m : ℕ} {e : ℤ} (hm : 0 < m)
    (h : Canonical (.finite s m e hm)) :
    UnpackedFloat.unpack Format.binary64 (UnpackedFloat.pack Format.binary64 (.finite s m e hm)) =
      .finite s m e hm := by
  obtain ⟨hlt, hge, hlow, hhigh⟩ := h
  have hbias : Format.binary64.exponentBias = 1023 := rfl
  have hbits : Format.binary64.mantissaBits = 53 := rfl
  have hfits : ¬ 2 ^ Format.binary64.exponentBits ≤
      (e + Format.binary64.exponentBias + Format.binary64.mantissaBitsWithoutImplicit).toNat + 1 := by
    rw [hbias]
    push_cast
    omega
  unfold UnpackedFloat.pack
  dsimp only
  rw [if_neg hfits]
  by_cases hnormal : 2 ^ 52 ≤ m
  · have hlog : m.log2 + 1 = Format.binary64.mantissaBits := by
      rw [hbits, (Nat.log2_eq_iff hm.ne').mpr ⟨hnormal, hlt⟩]
    have hexponent : (BitVec.ofNat 11 (e + 1023 + 52).toNat).toNat = (e + 1023 + 52).toNat := by
      rw [BitVec.toNat_ofNat, Nat.mod_eq_of_lt (by omega)]
    have hfirst : BitVec.ofNat 11 (e + 1023 + 52).toNat ≠ 0#11 := by
      intro h0
      rw [h0, BitVec.toNat_ofNat] at hexponent
      omega
    have hlast : BitVec.ofNat 11 (e + 1023 + 52).toNat ≠ -1#11 := ofNat_ne_allOnes (by omega)
    have hmantissa : (BitVec.ofNat 52 m).toNat = m - 2 ^ 52 := by
      rw [BitVec.toNat_ofNat]
      omega
    rw [if_pos hlog]
    refine (unpack_normal s (BitVec.ofNat 52 m) hfirst hlast).trans ?_
    rw [UnpackedFloat.finite.injEq]
    exact ⟨rfl, by omega, by omega⟩
  · have hlog : m.log2 + 1 ≠ Format.binary64.mantissaBits := by
      rw [hbits]
      intro h
      exact hnormal ((Nat.le_log2 hm.ne').mp (by omega))
    have hmantissa : (BitVec.ofNat 52 m).toNat = m := by
      rw [BitVec.toNat_ofNat, Nat.mod_eq_of_lt (by omega)]
    rw [if_neg hlog]
    refine (unpack_subnormal s (m := BitVec.ofNat 52 m) (by omega)).trans ?_
    rw [UnpackedFloat.finite.injEq]
    exact ⟨rfl, hmantissa, by omega⟩

lemma unpack_infinity (s : Sign) :
    UnpackedFloat.unpack Format.binary64 (packedInfinity Format.binary64 s) = .infinity s := by
  unfold UnpackedFloat.unpack packedInfinity
  dsimp only
  rw [unpackExponent_packComponents, unpackSign_packComponents, ofBitVec_toBitVec, if_pos rfl,
    unpackMantissa_packComponents]
  exact if_pos rfl

/-- The magnitude of a double differs from it in the sign only. -/
lemma unpack_abs (x : Float) :
    (Scalar.abs x).toModel.unpack = UnpackedFloat.abs x.toModel.unpack := by
  have hcanonical : Canonical x.toModel.unpack := canonical_unpack _
  change UnpackedFloat.unpack Format.binary64
    (UnpackedFloat.pack Format.binary64 (UnpackedFloat.abs x.toModel.unpack)) = _
  generalize x.toModel.unpack = u at hcanonical
  cases u with
  | infinity s => exact unpack_infinity .positive
  | notANumber => rfl
  | zero s => exact unpack_packedZero _ .positive
  | finite s m e hm => exact unpack_pack_finite hm hcanonical

/-! ## What a double stands for -/

/-- A mantissa, scaled by a power of two. -/
noncomputable def scaled (m : ℕ) (e : ℤ) : ℝ := m * (2 : ℝ) ^ e

/-- What an unpacked double stands for. -/
noncomputable def exactOf : UnpackedFloat → Option EReal
  | .infinity .negative => some ⊥
  | .finite .negative m e _ => some ((-scaled m e : ℝ) : EReal)
  | .zero _ => some 0
  | .finite .positive m e _ => some ((scaled m e : ℝ) : EReal)
  | .infinity .positive => some ⊤
  | .notANumber => none

/-- What a double stands for. -/
noncomputable def exact (x : Float) : Option EReal := exactOf x.toModel.unpack

lemma scaled_pos {m : ℕ} (hm : 0 < m) (e : ℤ) : 0 < scaled m e :=
  mul_pos (Nat.cast_pos.mpr hm) (zpow_pos two_pos e)

/-- With a lower exponent, all 53 bits do not suffice to reach a mantissa that has its first bit. -/
lemma scaled_lt_of_exponent_lt {m₁ m₂ : ℕ} {e₁ e₂ : ℤ} (h₁ : m₁ < 2 ^ 53) (h₂ : 2 ^ 52 ≤ m₂)
    (h : e₁ < e₂) : scaled m₁ e₁ < scaled m₂ e₂ := by
  have hm₁ : (m₁ : ℝ) < 2 ^ 53 := by exact_mod_cast h₁
  have hm₂ : (2 : ℝ) ^ 52 ≤ m₂ := by exact_mod_cast h₂
  have hpow : (2 : ℝ) ^ (e₁ + 1) ≤ (2 : ℝ) ^ e₂ := zpow_le_zpow_right₀ one_le_two h
  calc (m₁ : ℝ) * (2 : ℝ) ^ e₁
      < 2 ^ 53 * (2 : ℝ) ^ e₁ := by gcongr
    _ = 2 ^ 52 * (2 : ℝ) ^ (e₁ + 1) := by rw [zpow_add_one₀ two_ne_zero]; ring
    _ ≤ m₂ * (2 : ℝ) ^ e₂ := by gcongr

/-- Mantissas of that form compare as they do with their exponents in front. -/
lemma scaled_lt_iff {s t : Sign} {m₁ m₂ : ℕ} {e₁ e₂ : ℤ} {hm₁ : 0 < m₁} {hm₂ : 0 < m₂}
    (h₁ : Canonical (.finite s m₁ e₁ hm₁)) (h₂ : Canonical (.finite t m₂ e₂ hm₂)) :
    scaled m₁ e₁ < scaled m₂ e₂ ↔ e₁ < e₂ ∨ e₁ = e₂ ∧ m₁ < m₂ := by
  obtain ⟨hlt₁, hge₁, hlow₁, -⟩ := h₁
  obtain ⟨hlt₂, hge₂, hlow₂, -⟩ := h₂
  rcases lt_trichotomy e₁ e₂ with h | rfl | h
  · have hfirst : 2 ^ 52 ≤ m₂ := hge₂.resolve_right (by omega)
    simp [h, scaled_lt_of_exponent_lt hlt₁ hfirst h]
  · have hpow : (0 : ℝ) < (2 : ℝ) ^ e₁ := zpow_pos two_pos e₁
    simp [scaled, mul_lt_mul_iff_of_pos_right hpow]
  · have hfirst : 2 ^ 52 ≤ m₁ := hge₁.resolve_right (by omega)
    have hback := (scaled_lt_of_exponent_lt hlt₂ hfirst h).le
    simp [not_lt.mpr hback, h.not_gt, h.ne']

lemma neg_scaled_lt_scaled {m₁ m₂ : ℕ} (hm₁ : 0 < m₁) (hm₂ : 0 < m₂) (e₁ e₂ : ℤ) :
    -scaled m₁ e₁ < scaled m₂ e₂ :=
  (neg_neg_of_pos (scaled_pos hm₁ e₁)).trans (scaled_pos hm₂ e₂)

/-- Unpacked doubles compare as what they stand for. -/
lemma lt_eq_exactOf_lt {a b : UnpackedFloat} (ha : Canonical a) (hb : Canonical b) :
    a.lt b = Scalar.lt (exactOf a) (exactOf b) := by
  rw [Bool.eq_iff_iff]
  -- A table of the kinds, as for places; finite numbers of one sign compare as `scaled_lt_iff` says.
  rcases a with (_ | _) | _ | _ | ⟨_ | _, m₁, e₁, hm₁⟩ <;>
    rcases b with (_ | _) | _ | _ | ⟨_ | _, m₂, e₂, hm₂⟩ <;>
    simp [-EReal.coe_neg, UnpackedFloat.lt, UnpackedFloat.compare, exactOf, EReal.bot_lt_coe,
      EReal.coe_lt_top, compare_sign_eq_lt_iff]
  case zero.finite.negative => exact (scaled_pos hm₂ e₂).le
  case zero.finite.positive => exact scaled_pos hm₂ e₂
  case finite.negative.zero => exact scaled_pos hm₁ e₁
  case finite.negative.finite.negative =>
    rw [compare_then_eq_gt_iff, scaled_lt_iff hb ha, eq_comm (a := e₂)]
  case finite.negative.finite.positive => exact neg_scaled_lt_scaled hm₁ hm₂ e₁ e₂
  case finite.positive.zero => exact (scaled_pos hm₁ e₁).le
  case finite.positive.finite.negative => exact (neg_scaled_lt_scaled hm₂ hm₁ e₂ e₁).le
  case finite.positive.finite.positive =>
    rw [compare_then_eq_lt_iff, scaled_lt_iff ha hb]

/-- Comparing doubles is comparing what they stand for. -/
theorem exact_lt (x y : Float) : Scalar.lt (exact x) (exact y) = Scalar.lt x y := by
  rw [scalar_lt_eq]
  exact (lt_eq_exactOf_lt (canonical_unpack _) (canonical_unpack _)).symm

/-- The magnitude of a double is exact. -/
theorem exact_abs (x : Float) : exact (Scalar.abs x) = Scalar.abs (exact x) := by
  unfold exact
  rw [unpack_abs]
  generalize x.toModel.unpack = u
  rcases u with (_ | _) | _ | _ | ⟨_ | _, m, e, hm⟩
  · simp [UnpackedFloat.abs, exactOf]
  · simp [UnpackedFloat.abs, exactOf]
  · rfl
  · simp [UnpackedFloat.abs, exactOf]
  · have hle : -scaled m e ≤ scaled m e := (neg_scaled_lt_scaled hm hm e e).le
    change some ((scaled m e : ℝ) : EReal) =
      some (max ((-scaled m e : ℝ) : EReal) (-((-scaled m e : ℝ) : EReal)))
    rw [← EReal.coe_neg, neg_neg, max_eq_right (EReal.coe_le_coe_iff.mpr hle)]
  · have hle : -scaled m e ≤ scaled m e := (neg_scaled_lt_scaled hm hm e e).le
    change some ((scaled m e : ℝ) : EReal) =
      some (max ((scaled m e : ℝ) : EReal) (-((scaled m e : ℝ) : EReal)))
    rw [← EReal.coe_neg, max_eq_left (EReal.coe_le_coe_iff.mpr hle)]

lemma exact_zero : exact (Scalar.zero : Float) = Scalar.zero := rfl

/-- A magnitude is above zero if the double is on either side of it. -/
lemma zero_lt_abs_iff {x : Float} : Scalar.lt Scalar.zero (Scalar.abs x) = true ↔
    Scalar.lt x Scalar.zero = true ∨ Scalar.lt Scalar.zero x = true := by
  rw [← exact_lt, ← exact_lt, ← exact_lt, exact_abs, exact_zero, Exactly.zero_eq]
  cases exact x with
  | none => simp
  | some a =>
    rw [Exactly.abs_some, Exactly.lt_some_iff, Exactly.lt_some_iff, Exactly.lt_some_iff,
      lt_max_iff, EReal.neg_pos, or_comm]

/-- The positive part of a double is exact. -/
theorem exact_positivePart (x : Float) :
    exact (Scalar.positivePart x) = Scalar.positivePart (exact x) := by
  unfold Scalar.positivePart
  rw [← exact_zero, exact_lt]
  split
  · rfl
  · rfl

/-- What a double stands for, or zero if that is nothing. -/
noncomputable def value (x : Float) : EReal := (exact x).getD 0

lemma exact_eq_some {x : Float} (h : x.isNaN = false) : exact x = some (value x) := by
  change x.toModel.unpack.isNaN = false at h
  unfold value exact
  generalize x.toModel.unpack = u at h
  rcases u with (_ | _) | _ | _ | ⟨_ | _, m, e, hm⟩
  case notANumber => cases h
  all_goals rfl

lemma value_abs_sq (x : Float) : value (Scalar.abs x) ^ 2 = value x ^ 2 := by
  unfold value
  rw [exact_abs]
  cases exact x with
  | none => rfl
  | some a =>
    rw [Exactly.abs_some, Option.getD_some, Option.getD_some, sq, sq]
    rcases max_choice a (-a) with h | h
    · rw [h]
    · rw [h, neg_mul_neg]

lemma value_positivePart (x : Float) : value (Scalar.positivePart x) = max (value x) 0 := by
  unfold value
  rw [exact_positivePart]
  cases exact x with
  | none => simp
  | some a => rw [Exactly.positivePart_some, Option.getD_some, Option.getD_some]

end Double

end ReverseComm
