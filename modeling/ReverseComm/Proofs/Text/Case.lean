import Mathlib.Data.Int.Notation
import Mathlib.Tactic.Common
import ReverseComm.Text.Case

/-!
# Lower case is final

A text in lower case stays as it is when it is mapped to lower case again (`lower_lower`).  Small
letters are left alone, and what precedes or follows a letter matters for the capital sigma only,
which no text in lower case has.

That the letters given by the table are small letters is a matter of the table.  They are compared
run by run: the small letters of one run are no capitals of another one, because they lie before or
behind it, or, where capitals and small letters alternate, between its capitals.
-/

namespace ReverseComm.Text

/-- A run of the table of capitals. -/
abbrev Run := ℕ × ℕ × ℕ × ℤ

/-- A capital of a run. -/
def Capital (r : Run) (n : ℕ) : Prop := r.1 ≤ n ∧ n ≤ r.2.1 ∧ (n - r.1) % r.2.2.1 = 0

/-- A character that has no other small letter than itself. -/
def Small (c : Char) : Prop := lowerShift c.toNat = 0 ∧ c.toNat ≠ 0x130 ∧ c.toNat ≠ 0x3a3

instance (c : Char) : Decidable (Small c) := inferInstanceAs (Decidable (_ ∧ _))

/-! ## The table -/

/-- Do code points in regular steps keep clear of the capitals of a run? -/
def clears (first last step : ℕ) (r : Run) : Bool :=
  Nat.blt last r.1 || Nat.blt r.2.1 first ||
    (Nat.beq step 2 || Nat.beq first last) && Nat.beq r.2.2.1 2 && Nat.beq ((first + r.1) % 2) 1

/-- Do the small letters of a run keep clear of all capitals? -/
def settles (r : Run) : Bool :=
  let first := (r.1 + r.2.2.2).toNat
  let last := (r.2.1 + r.2.2.2).toNat
  decide (0 ≤ r.1 + r.2.2.2) && (Nat.blt last 0x130 || Nat.blt 0x130 first) &&
    lowerRuns.all (clears first last r.2.2.1)

lemma settles_of_mem : ∀ r ∈ lowerRuns, settles r = true := by decide +kernel

lemma not_capital_of_clears {first last step m : ℕ} {r : Run} (h : clears first last step r = true)
    (hfirst : first ≤ m) (hlast : m ≤ last) (hstep : (m - first) % step = 0) : ¬ Capital r m := by
  rintro ⟨hlow, hhigh, hmod⟩
  simp only [clears, Bool.or_eq_true, Bool.and_eq_true, Nat.blt_eq, Nat.beq_eq] at h
  rcases h with (h | h) | ⟨⟨h, htwo⟩, hodd⟩
  · omega
  · omega
  · rw [htwo] at hmod
    rcases h with h | h
    · rw [h] at hstep
      omega
    · omega

lemma lowerShift_cases (n : ℕ) :
    ((∀ r ∈ lowerRuns, ¬ Capital r n) ∧ lowerShift n = 0) ∨
      ∃ r ∈ lowerRuns, Capital r n ∧ lowerShift n = r.2.2.2 := by
  unfold lowerShift
  split
  · rename_i r hr
    have hcapital := List.find?_some hr
    simp only [Bool.and_eq_true, decide_eq_true_eq, beq_iff_eq, and_assoc] at hcapital
    exact .inr ⟨r, List.mem_of_find?_eq_some hr, hcapital, rfl⟩
  · rename_i hnone
    refine .inl ⟨fun r hr hcapital => ?_, rfl⟩
    have hn := List.find?_eq_none.mp hnone r hr
    simp only [Bool.and_eq_true, decide_eq_true_eq, beq_iff_eq, and_assoc] at hn
    exact hn hcapital

/-- The small letter of a capital is no capital. -/
lemma not_capital_of_capital {r : Run} (hr : r ∈ lowerRuns) {n : ℕ} (h : Capital r n) :
    (n + r.2.2.2).toNat ≠ 0x130 ∧ ∀ r' ∈ lowerRuns, ¬ Capital r' (n + r.2.2.2).toNat := by
  obtain ⟨hlow, hhigh, hmod⟩ := h
  have hsettles := settles_of_mem r hr
  simp only [settles, Bool.and_eq_true, decide_eq_true_eq, Bool.or_eq_true, Nat.blt_eq,
    List.all_eq_true] at hsettles
  obtain ⟨⟨hnonneg, hdotted⟩, hclears⟩ := hsettles
  have hoffset : (n + r.2.2.2).toNat - (r.1 + r.2.2.2).toNat = n - r.1 := by omega
  refine ⟨by omega, fun r' hr' => ?_⟩
  refine not_capital_of_clears (hclears r' hr') (by omega) (by omega) ?_
  rw [hoffset, hmod]

/-! ## Small letters -/

lemma small_of_not_capital {m : ℕ} (hdotted : m ≠ 0x130)
    (h : ∀ r ∈ lowerRuns, ¬ Capital r m) : Small (Char.ofNat m) := by
  by_cases hvalid : m.isValidChar
  · have hm : (Char.ofNat m).toNat = m := by
      rw [Char.ofNat, dif_pos hvalid]
      rfl
    rw [Small, hm]
    refine ⟨?_, hdotted, ?_⟩
    · rcases lowerShift_cases m with ⟨-, hzero⟩ | ⟨r, hr, hcapital, -⟩
      · exact hzero
      · exact absurd hcapital (h r hr)
    · rintro rfl
      exact h (931, 939, 1, 32) (by decide) (by simp [Capital])
  · rw [Char.ofNat, dif_neg hvalid]
    decide +kernel

lemma small_of_mem_lowerChar {c d : Char} (hsigma : c.toNat ≠ 0x3a3) (h : d ∈ lowerChar c) :
    Small d := by
  unfold lowerChar at h
  by_cases hdotted : c.toNat = 0x130
  · rw [if_pos (beq_iff_eq.mpr hdotted)] at h
    simp only [List.mem_cons, List.not_mem_nil, or_false] at h
    rcases h with rfl | rfl
    · decide +kernel
    · decide +kernel
  · rw [if_neg (by simpa using hdotted), List.mem_singleton] at h
    subst h
    rcases lowerShift_cases c.toNat with ⟨-, hzero⟩ | ⟨r, hr, hcapital, hshift⟩
    · rw [hzero, Int.add_zero, Int.toNat_natCast, Char.ofNat_toNat]
      exact ⟨hzero, hdotted, hsigma⟩
    · rw [hshift]
      obtain ⟨hne, hclear⟩ := not_capital_of_capital hr hcapital
      exact small_of_not_capital hne hclear

lemma small_of_mem_lowerFrom {before cs : List Char} {d : Char} (h : d ∈ lowerFrom before cs) :
    Small d := by
  induction cs generalizing before with
  | nil => cases h
  | cons c cs ih =>
    rw [lowerFrom] at h
    rcases List.mem_append.mp h with h | h
    · by_cases hsigma : c.toNat = 0x3a3
      · rw [if_pos (beq_iff_eq.mpr hsigma), List.mem_singleton] at h
        subst h
        split
        · decide +kernel
        · decide +kernel
      · rw [if_neg (by simpa using hsigma)] at h
        exact small_of_mem_lowerChar hsigma h
    · exact ih h

lemma lowerFrom_of_small {before cs : List Char} (h : ∀ c ∈ cs, Small c) :
    lowerFrom before cs = cs := by
  induction cs generalizing before with
  | nil => rfl
  | cons c cs ih =>
    obtain ⟨hshift, hdotted, hsigma⟩ := h c List.mem_cons_self
    have hchar : lowerChar c = [c] := by
      rw [lowerChar, if_neg (by simpa using hdotted), hshift, Int.add_zero, Int.toNat_natCast,
        Char.ofNat_toNat]
    rw [lowerFrom, if_neg (by simpa using hsigma), hchar,
      ih fun d hd => h d (List.mem_cons_of_mem _ hd)]
    rfl

/-- Lower case is final. -/
@[simp] theorem lower_lower (s : String) : lower (lower s) = lower s := by
  unfold lower
  rw [String.toList_ofList, lowerFrom_of_small fun d hd => small_of_mem_lowerFrom hd]

end ReverseComm.Text
