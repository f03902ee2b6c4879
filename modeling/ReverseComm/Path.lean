/-!
# Paths

A path is where it starts and the names it goes through.  Reading a text drops the empty names and
the ones that mean "here", so that texts which differ only in repeated slashes, single dots or a
slash at the end read as one path; a step up is kept, since what it leads to is for the file system
to say.

`ofString_text_ofString` says that writing and reading again changes nothing more.
-/

namespace ReverseComm

/-- Where a path starts.  Exactly two slashes are a place of their own. -/
inductive Anchor where
  | here
  | root
  | doubleRoot
  deriving DecidableEq, Repr

/-- How an anchor is written. -/
def Anchor.text : Anchor → List Char
  | .here => []
  | .root => ['/']
  | .doubleRoot => ['/', '/']

/-- A path: its anchor and the names after it. -/
structure Path where
  anchor : Anchor
  names : List (List Char)
  deriving DecidableEq, Repr

namespace Path

/-- Split a text at the slashes. -/
def splitSlashes : List Char → List (List Char)
  | [] => [[]]
  | c :: cs =>
    if c == '/' then [] :: splitSlashes cs
    else match splitSlashes cs with
      | [] => [[c]]
      | name :: rest => (c :: name) :: rest

/-- Does a name stand for a step?  The empty name and the single dot do not. -/
def isStep (name : List Char) : Bool := !name.isEmpty && name != ['.']

/-- The anchor that a text starts with. -/
def anchorOf (cs : List Char) : Anchor :=
  match (cs.takeWhile (· == '/')).length with
  | 0 => .here
  | 2 => .doubleRoot
  | _ => .root

/-- The path that a text names. -/
def ofChars (cs : List Char) : Path := ⟨anchorOf cs, (splitSlashes cs).filter isStep⟩

/-- The path that a text names. -/
def ofString (s : String) : Path := ofChars s.toList

/-- Names joined by slashes. -/
def joinSlashes : List (List Char) → List Char
  | [] => []
  | [name] => name
  | name :: rest => name ++ '/' :: joinSlashes rest

/-- A path in writing; the path without steps from here is a single dot. -/
def chars (p : Path) : List Char :=
  match p.anchor, p.names with
  | .here, [] => ['.']
  | _, _ => p.anchor.text ++ joinSlashes p.names

/-- A path in writing. -/
def text (p : Path) : String := String.ofList p.chars

/-- The last name, empty for a path without names. -/
def lastName (p : Path) : List Char := p.names.getLast?.getD []

/-- The suffix of the last name: from its last dot on, unless that dot opens or closes the name. -/
def suffix (p : Path) : String :=
  let name := p.lastName
  let tail := (name.reverse.takeWhile (· != '.')).length
  let start := name.length - tail - 1
  if tail < name.length && 0 < start && 0 < tail then String.ofList (name.drop start) else ""

/-! ## Reading back what was written -/

/-- A path as reading makes it: every name is a step and holds no slash. -/
def Normal (p : Path) : Prop := ∀ name ∈ p.names, isStep name = true ∧ '/' ∉ name

theorem splitSlashes_ne_nil (cs : List Char) : splitSlashes cs ≠ [] := by
  cases cs with
  | nil => simp [splitSlashes]
  | cons c cs =>
    simp only [splitSlashes]
    split
    · simp
    · split <;> simp

theorem slash_not_mem_of_mem_splitSlashes {cs name : List Char} (h : name ∈ splitSlashes cs) :
    '/' ∉ name := by
  induction cs generalizing name with
  | nil => simp [splitSlashes] at h; simp [h]
  | cons c cs ih =>
    simp only [splitSlashes] at h
    split at h
    · rcases List.mem_cons.1 h with rfl | h
      · simp
      · exact ih h
    · rename_i hc
      have hc' : ¬ '/' = c := fun e => hc (by simp [← e])
      split at h
      · simp only [List.mem_singleton] at h
        simp [h, hc']
      · rename_i first rest heq
        rcases List.mem_cons.1 h with rfl | h
        · have := @ih first (by simp [heq])
          simp [hc', this]
        · exact ih (by simp [heq, h])

/-- Reading makes normal paths. -/
theorem normal_ofChars (cs : List Char) : (ofChars cs).Normal := by
  intro name h
  have := List.mem_filter.1 h
  exact ⟨this.2, slash_not_mem_of_mem_splitSlashes this.1⟩

theorem splitSlashes_of_not_mem {name : List Char} (h : '/' ∉ name) :
    splitSlashes name = [name] := by
  induction name with
  | nil => rfl
  | cons c cs ih =>
    have hc : (c == '/') = false := by
      simp only [List.mem_cons, not_or] at h
      simpa using fun e => h.1 e.symm
    simp [splitSlashes, hc, ih (fun hm => h (List.mem_cons_of_mem _ hm))]

theorem splitSlashes_append_slash {name : List Char} (h : '/' ∉ name) (cs : List Char) :
    splitSlashes (name ++ '/' :: cs) = name :: splitSlashes cs := by
  induction name with
  | nil => simp [splitSlashes]
  | cons c rest ih =>
    have hc : (c == '/') = false := by
      simp only [List.mem_cons, not_or] at h
      simpa using fun e => h.1 e.symm
    simp [splitSlashes, hc, ih (fun hm => h (List.mem_cons_of_mem _ hm))]

theorem splitSlashes_joinSlashes {names : List (List Char)} (hne : names ≠ [])
    (h : ∀ name ∈ names, '/' ∉ name) : splitSlashes (joinSlashes names) = names := by
  induction names with
  | nil => exact absurd rfl hne
  | cons name rest ih =>
    cases rest with
    | nil => simp [joinSlashes, splitSlashes_of_not_mem (h name (by simp))]
    | cons next rest =>
      rw [joinSlashes, splitSlashes_append_slash (h name (by simp)),
        ih (by simp) (fun n hn => h n (by simp [hn]))]
      simp

theorem takeWhile_slash_joinSlashes {names : List (List Char)}
    (h : ∀ name ∈ names, isStep name = true ∧ '/' ∉ name) :
    (joinSlashes names).takeWhile (· == '/') = [] := by
  cases names with
  | nil => rfl
  | cons name rest =>
    obtain ⟨hs, hn⟩ := h name (by simp)
    cases name with
    | nil => simp [isStep] at hs
    | cons c cs =>
      have hc : (c == '/') = false := by
        simp only [List.mem_cons, not_or] at hn
        simpa using fun e => hn.1 e.symm
      cases rest <;> simp [joinSlashes, hc]

theorem filter_isStep_splitSlashes_joinSlashes {names : List (List Char)}
    (h : ∀ name ∈ names, isStep name = true ∧ '/' ∉ name) :
    (splitSlashes (joinSlashes names)).filter isStep = names := by
  by_cases hne : names = []
  · subst hne; rfl
  · rw [splitSlashes_joinSlashes hne fun n hn => (h n hn).2]
    exact List.filter_eq_self.2 fun n hn => (h n hn).1

/-- A normal path reads back from its writing. -/
theorem ofChars_chars {p : Path} (h : p.Normal) : ofChars p.chars = p := by
  obtain ⟨anchor, names⟩ := p
  have hw := takeWhile_slash_joinSlashes h
  have hs := filter_isStep_splitSlashes_joinSlashes h
  cases anchor with
  | here =>
    cases names with
    | nil => rfl
    | cons name rest =>
      show Path.mk (anchorOf (joinSlashes (name :: rest))) _ = _
      simp only [anchorOf, hw, List.length_nil, Path.mk.injEq, true_and]
      exact hs
  | root =>
    show Path.mk (anchorOf ('/' :: joinSlashes names)) _ = _
    simp only [anchorOf, List.takeWhile_cons, hw, beq_self_eq_true, if_true, List.length_cons,
      List.length_nil, Path.mk.injEq, true_and]
    show (splitSlashes ('/' :: joinSlashes names)).filter isStep = names
    simp only [splitSlashes, beq_self_eq_true, if_true]
    rw [List.filter_cons_of_neg (by simp [isStep])]
    exact hs
  | doubleRoot =>
    show Path.mk (anchorOf ('/' :: '/' :: joinSlashes names)) _ = _
    simp only [anchorOf, List.takeWhile_cons, hw, beq_self_eq_true, if_true, List.length_cons,
      List.length_nil, Path.mk.injEq, true_and]
    show (splitSlashes ('/' :: '/' :: joinSlashes names)).filter isStep = names
    simp only [splitSlashes, beq_self_eq_true, if_true]
    rw [List.filter_cons_of_neg (by simp [isStep]), List.filter_cons_of_neg (by simp [isStep])]
    exact hs

/-- Writing a path that was read, and reading it again, gives the same path. -/
@[simp] theorem ofString_text_ofString (s : String) : ofString (ofString s).text = ofString s := by
  simp only [ofString, text, String.toList_ofList]
  exact ofChars_chars (normal_ofChars _)

end Path

end ReverseComm
