import Mathlib.Data.List.Infix
import ReverseComm.Loading.Binder

/-!
# Who is blamed

The platform reports a library that does not open by the file at fault and a reason.  The file at
fault is the library itself, or another one that it needs, and which of the two it is decides how the
failure is classified.

The report is judged as a whole, by the fragments in it and by how it starts.  So the library is
blamed for what is wrong with another file if the name of that file extends its own, and another
file is blamed for what is wrong with the library if a fragment is part of its name
(`blame_is_misplaced`).  Between names that are told apart the judgement is right
(`blames_another_iff`).
-/

namespace ReverseComm.Loading

open Platform (report)

variable {p : Path} {n r : String}

/-! ## Parts of a text -/

lemma holdsFragment_iff_infix {fragment text : List Char} :
    holdsFragment fragment text = true ↔ fragment <:+: text := by
  rw [holdsFragment_iff]
  exact ⟨fun ⟨before, after, h⟩ => ⟨before, after, h.symm⟩,
    fun ⟨before, after, h⟩ => ⟨before, after, h.symm⟩⟩

/-- What holds no separator does not reach over one. -/
lemma infix_append_cons_iff {xs ys zs : List Char} {c : Char} (h : c ∉ xs) :
    xs <:+: ys ++ c :: zs ↔ xs <:+: ys ∨ xs <:+: zs := by
  rw [List.infix_append_iff]
  constructor
  · rintro (hys | hzs | ⟨front, back, rfl, hfront, hback⟩)
    · exact .inl hys
    · rcases List.infix_cons_iff.mp hzs with ⟨rest, hprefix⟩ | hzs
      · cases xs with
        | nil => exact .inl List.nil_infix
        | cons x xs =>
          obtain ⟨rfl, -⟩ := List.cons.inj hprefix
          exact absurd List.mem_cons_self h
      · exact .inr hzs
    · cases back with
      | nil =>
        rw [List.append_nil]
        exact .inl hfront.isInfix
      | cons b back =>
        obtain ⟨rfl, -⟩ := List.cons_prefix_cons.mp hback
        exact absurd (List.mem_append_right _ List.mem_cons_self) h
  · rintro (hys | hzs)
    · exact .inl hys
    · exact .inr (.inl (List.infix_cons hzs))

lemma prefix_append_cons_iff {xs ys zs : List Char} {c : Char} (h : c ∉ xs) :
    xs <+: ys ++ c :: zs ↔ xs <+: ys := by
  refine ⟨fun hxs => ?_, fun hxs => hxs.trans (List.prefix_append _ _)⟩
  rcases List.prefix_or_prefix_of_prefix hxs (List.prefix_append ys (c :: zs)) with hle | hge
  · exact hle
  · obtain ⟨rest, rfl⟩ := hge
    cases rest with
    | nil => simp
    | cons d rest =>
      rw [List.prefix_append_right_inj, List.cons_prefix_cons] at hxs
      obtain ⟨rfl, -⟩ := hxs
      exact absurd (List.mem_append_right _ List.mem_cons_self) h

/-! ## Reports -/

/-- A text that holds a fragment which points at another library. -/
def PointsElsewhere (text : String) : Prop :=
  ∃ f ∈ dependencyFragments, f.toList <:+: text.toList

lemma toList_report : (report n r).toList = n.toList ++ ':' :: ' ' :: r.toList := by
  simp [report, String.toList_append]

lemma blamesDependency_iff {message : String} :
    blamesDependency p message = true ↔ PointsElsewhere message ∨
      ¬ p.chars <+: message.toList ∧ ¬ openerMark.toList <+: message.toList := by
  simp only [blamesDependency, PointsElsewhere, Bool.or_eq_true, List.any_eq_true,
    holdsFragment_iff_infix, Bool.not_eq_true', ← Bool.not_eq_true, not_or,
    List.isPrefixOf_iff_prefix]

lemma plain_of_mem_fragments :
    ∀ f ∈ dependencyFragments, ':' ∉ f.toList ∧ f.toList.head? ≠ some ' ' ∧ f.toList ≠ [] := by
  decide +kernel

/-- The name and the reason are apart: a fragment of a report is in one of them. -/
lemma pointsElsewhere_report :
    PointsElsewhere (report n r) ↔ PointsElsewhere n ∨ PointsElsewhere r := by
  have hpart : ∀ f ∈ dependencyFragments, f.toList <:+: (report n r).toList ↔
      f.toList <:+: n.toList ∨ f.toList <:+: r.toList := by
    intro f hf
    obtain ⟨hcolon, hhead, hne⟩ := plain_of_mem_fragments f hf
    have hspace : f.toList <:+: ' ' :: r.toList ↔ f.toList <:+: r.toList := by
      rw [List.infix_cons_iff]
      refine ⟨fun h => h.resolve_left fun hprefix => ?_, .inr⟩
      obtain ⟨c, cs, hcs⟩ := List.exists_cons_of_ne_nil hne
      rw [hcs] at hprefix hhead
      exact hhead (congrArg some (List.cons_prefix_cons.mp hprefix).1)
    rw [toList_report, infix_append_cons_iff hcolon, hspace]
  simp only [PointsElsewhere]
  rw [← exists_or]
  refine exists_congr fun f => ?_
  rw [← and_or_left]
  exact and_congr_right fun hf => hpart f hf

lemma opener_prefix_report : openerMark.toList <+: (report n r).toList ↔
    openerMark.toList <+: n.toList := by
  rw [toList_report]
  exact prefix_append_cons_iff (by decide +kernel)

/-! ## The judgement -/

/-- Names that are told apart: no fragment is part of the name of the file at fault, that name does
not go on where the path ends, and the path does not go on from it with a colon. -/
structure ToldApart (p : Path) (n : String) : Prop where
  plain : ¬ PointsElsewhere n
  path_prefix : p.chars <+: n.toList → n = p.text
  name_prefix : ¬ n.toList ++ [':'] <+: p.chars

lemma ToldApart.prefix_report_iff (h : ToldApart p n) :
    p.chars <+: (report n r).toList ↔ n = p.text := by
  rw [toList_report]
  constructor
  · intro hpath
    have hname : n.toList ++ [':'] <+: n.toList ++ ':' :: ' ' :: r.toList :=
      (List.prefix_append_right_inj _).mpr ⟨' ' :: r.toList, rfl⟩
    rcases List.prefix_or_prefix_of_prefix hpath hname with hle | hge
    · rcases List.prefix_concat_iff.mp hle with heq | hle
      · exact absurd (heq ▸ List.prefix_rfl) h.name_prefix
      · exact h.path_prefix hle
    · exact absurd hge h.name_prefix
  · rintro rfl
    rw [Path.text, String.toList_ofList]
    exact List.prefix_append _ _

lemma check_openFailure (message : String) :
    (openFailure p message).check = .dependencyFailed ↔ blamesDependency p message = true := by
  cases h : blamesDependency p message <;> simp [openFailure, h]

/-- A report that names the file at fault in front of its first separator, not like a message of the
opening routine, and gives a reason that holds none of the fragments. -/
structure Regular (n r : String) : Prop where
  named : n ≠ ""
  separator : ¬ [':', ' '] <:+: n.toList
  opener : ¬ openerMark.toList <+: n.toList
  reason : ¬ PointsElsewhere r

/-- **Who is blamed.**  Let the platform give a regular report.  Then another library is blamed, and
the failure is classified so, exactly if a fragment is part of the name of the file at fault or the
report does not start with the path.  If the name and the path are told apart, that is the case
exactly if they differ. -/
theorem blames_another_iff (regular : Regular n r) :
    ((openFailure p (report n r)).check = .dependencyFailed ↔
      blamesDependency p (report n r) = true) ∧
    (blamesDependency p (report n r) = true ↔
      PointsElsewhere n ∨ ¬ p.chars <+: (report n r).toList) ∧
    (ToldApart p n → (blamesDependency p (report n r) = true ↔ n ≠ p.text)) := by
  have hblames : blamesDependency p (report n r) = true ↔
      PointsElsewhere n ∨ ¬ p.chars <+: (report n r).toList := by
    rw [blamesDependency_iff, pointsElsewhere_report, opener_prefix_report]
    simp only [regular.reason, or_false, regular.opener, not_false_eq_true, and_true]
  refine ⟨check_openFailure _, hblames, fun apart => ?_⟩
  rw [hblames, apart.prefix_report_iff]
  simp only [apart.plain, false_or, ne_eq]

instance (text : String) : Decidable (PointsElsewhere text) :=
  inferInstanceAs (Decidable (∃ f ∈ dependencyFragments, f.toList <:+: text.toList))

/-- A library that needs another one, which is not installed, is not blamed. -/
theorem blames_missing_library :
    Regular "libhsl.so" Platform.nothingFound ∧
    ToldApart (.ofString "/lib/libworhp.so") "libhsl.so" ∧
    blamesDependency (.ofString "/lib/libworhp.so") (report "libhsl.so" Platform.nothingFound) =
      true ∧
    (openFailure (.ofString "/lib/libworhp.so") (report "libhsl.so" Platform.nothingFound)).check =
      .dependencyFailed := by
  have regular : Regular "libhsl.so" Platform.nothingFound :=
    ⟨by decide +kernel, by decide +kernel, by decide +kernel, by decide +kernel⟩
  have apart : ToldApart (.ofString "/lib/libworhp.so") "libhsl.so" :=
    ⟨by decide +kernel, by decide +kernel, by decide +kernel⟩
  obtain ⟨hcheck, -, hblames⟩ := blames_another_iff (p := .ofString "/lib/libworhp.so") regular
  have hanother := (hblames apart).mpr (by decide +kernel)
  exact ⟨regular, apart, hanother, hcheck.mpr hanother⟩

/-- A library is blamed for a missing one whose name extends its own, and one in a directory that is
called like a fragment is not blamed for being too short. -/
theorem blame_is_misplaced :
    (Regular "/lib/libworhp.so.1" Platform.nothingFound ∧
      "/lib/libworhp.so.1" ≠ (Path.ofString "/lib/libworhp.so").text ∧
      blamesDependency (.ofString "/lib/libworhp.so")
        (report "/lib/libworhp.so.1" Platform.nothingFound) = false) ∧
    Regular "/opt/dependent/libworhp.so" "file too short" ∧
      "/opt/dependent/libworhp.so" = (Path.ofString "/opt/dependent/libworhp.so").text ∧
      blamesDependency (.ofString "/opt/dependent/libworhp.so")
        (report "/opt/dependent/libworhp.so" "file too short") = true := by
  refine ⟨⟨⟨?_, ?_, ?_, ?_⟩, ?_, ?_⟩, ⟨?_, ?_, ?_, ?_⟩, ?_, ?_⟩
  all_goals decide +kernel

end ReverseComm.Loading
