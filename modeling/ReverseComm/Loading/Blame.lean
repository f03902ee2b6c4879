import ReverseComm.Path

/-!
# Who is to blame

When a library does not open, the platform's message tells whether the library itself is at fault or
another one that it needs.  A message that holds one of a few fragments points at another library;
otherwise a message that starts with the path that was opened, or with the name of the opening
routine, points at the library itself.
-/

namespace ReverseComm.Loading

/-- Does a text hold a fragment? -/
def holdsFragment (fragment : List Char) : List Char → Bool
  | [] => fragment.isEmpty
  | c :: cs => fragment.isPrefixOf (c :: cs) || holdsFragment fragment cs

/-- Fragments of messages that point at another library. -/
def dependencyFragments : List String :=
  ["undefined symbol", "Library not loaded", "dependent"]

/-- How messages of some platforms start that speak of the library itself. -/
def openerMark : String := "dlopen("

/-- Does the message blame a library other than the one at `path`? -/
def blamesDependency (path : Path) (message : String) : Bool :=
  let text := message.toList
  dependencyFragments.any (fun f => holdsFragment f.toList text) ||
    !(path.chars.isPrefixOf text || openerMark.toList.isPrefixOf text)

/-- A fragment is held exactly where something stands before and after it. -/
theorem holdsFragment_iff {fragment text : List Char} :
    holdsFragment fragment text = true ↔ ∃ before after, text = before ++ fragment ++ after := by
  induction text with
  | nil =>
    simp only [holdsFragment, List.isEmpty_iff]
    constructor
    · rintro rfl; exact ⟨[], [], rfl⟩
    · rintro ⟨before, after, h⟩
      have := congrArg List.length h
      simp only [List.length_nil, List.length_append] at this
      exact List.length_eq_zero_iff.1 (by omega)
  | cons c cs ih =>
    simp only [holdsFragment, Bool.or_eq_true, List.isPrefixOf_iff_prefix, ih]
    constructor
    · rintro (⟨after, h⟩ | ⟨before, after, h⟩)
      · exact ⟨[], after, by simp [h]⟩
      · exact ⟨c :: before, after, by simp [h]⟩
    · rintro ⟨before, after, h⟩
      cases before with
      | nil => exact .inl ⟨after, by simpa using h.symm⟩
      | cons b before =>
        simp only [List.cons_append, List.cons.injEq] at h
        exact .inr ⟨before, after, h.2⟩

end ReverseComm.Loading
