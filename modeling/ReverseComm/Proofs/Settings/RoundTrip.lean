import ReverseComm.Proofs.Settings.Policies
import ReverseComm.Settings

/-!
# Settings that are written and read again

Settings that have been read are written as a record when one of them is to change, and the record
is read as a whole.  So each setting goes through its reader again, and stays what it was only if
that reader accepts what the writer makes of it and makes the same of it.

The readers of policies are given a record in full, which the shorthands of a policy do not touch,
and of the two kinds of policy it can only be one (`Policy.ofValue_toValue`).  The readers of paths
drop what does not count, so a path is the same again only if nothing was left to drop; that is so
of the paths in settings that have been read (`Valid`), and in no other respect can settings fail to
read back (`ofValue_toValue`, `valid_of_ofValue`).

`ofValue_fieldsWith` is the one look at a record: the verbosity and the policies in it are whatever
is offered, and the settings that come of it are the old ones with these three read anew.
-/

namespace ReverseComm

open ReverseComm.Action (outcome_bind_eq_ok_iff)

/-! ## Settings that can have been read -/

lemma Path.ofString_text {p : Path} (h : p.Normal) : ofString p.text = p := by
  rw [ofString, text, String.toList_ofList]
  exact ofChars_chars h

namespace Settings

/-- Every path of the settings is as reading makes it. -/
structure Valid (s : Settings) : Prop where
  library : s.library.Normal
  paramFile : ∀ p, s.paramFile = some p → p.Normal

lemma normal_of_path {v : Value} {p : Path} (h : path v = .ok p) : p.Normal := by
  cases v with
  | text s =>
    cases h
    exact Path.normal_ofChars _
  | none | bool | int | real | list | record => cases h

lemma normal_of_optional_path {v : Value} {o : Option Path} {p : Path}
    (h : optional path v = .ok o) (hp : o = some p) : p.Normal := by
  subst hp
  cases v with
  | text s =>
    cases h
    exact Path.normal_ofChars _
  | none | bool | int | real | list | record => cases h

/-- Settings that have been read are valid. -/
theorem valid_of_ofValue {v : Value} {s : Settings} (h : ofValue v = .ok s) : s.Valid := by
  cases v with
  | record fields =>
    unfold ofValue at h
    dsimp only at h
    split at h
    · simp only [outcome_bind_eq_ok_iff] at h
      obtain ⟨library, hlibrary, _, -, _, -, _, -, _, -, _, -, paramFile, hparam, _, -, h⟩ := h
      cases h
      constructor
      · rcases field_eq_ok_iff.mp hlibrary with ⟨-, h⟩ | ⟨v, -, h⟩
        · cases h
          exact Path.normal_ofChars _
        · exact normal_of_path (checked_eq_ok_iff.mp h)
      · intro p hp
        rcases field_eq_ok_iff.mp hparam with ⟨-, h⟩ | ⟨v, -, h⟩
        · cases h
          cases hp
        · exact normal_of_optional_path (checked_eq_ok_iff.mp h) hp
    · cases h
  | none | bool | int | real | text | list => cases h

/-! ## Reading the record of settings -/

section

variable {s : Settings}

lemma checked_optional_natural (seed : Option ℕ) :
    checked (optional natural) (optionValue (fun n : ℕ => .int n) seed) = .ok seed := by
  cases seed with
  | none => rfl
  | some n => simp [checked, optional, optionValue, natural_int]

lemma checked_optional_path {o : Option Path} (h : ∀ p, o = some p → p.Normal) :
    checked (optional path) (optionValue (fun p : Path => .text p.text) o) = .ok o := by
  cases o with
  | none => rfl
  | some p => simp [checked, optional, optionValue, path, Path.ofString_text (h p rfl)]

lemma checked_optional_text (o : Option String) :
    checked (optional text) (optionValue Value.text o) = .ok o := by
  cases o with
  | none | some => rfl

/-- The fields of the record, with a verbosity and policies as they are offered. -/
def fieldsWith (s : Settings) (verbosity selection replacement : Value) : List (String × Value) :=
  replaceField "verbosity" verbosity
    (replaceField "selection" selection (replaceField "replacement" replacement s.toFields))

/-- The settings with a verbosity and policies that are read anew, or all that stands in the way of
these three. -/
def reread (s : Settings) (verbosity : Checked ℕ) (selection replacement : Checked Policy) :
    Checked Settings :=
  match issues verbosity ++ issues selection ++ issues replacement with
  | [] => do
    return { s with verbosity := ← verbosity, selection := ← selection, replacement := ← replacement }
  | is => .error is

lemma reread_verbosity (r : Checked ℕ) :
    s.reread r (.ok s.selection) (.ok s.replacement) = r.map fun n => { s with verbosity := n } := by
  rcases r with (_ | ⟨i, is⟩) | n
  · rfl
  · simp [reread, issues, Except.map]
  · rfl

lemma reread_selection (r : Checked Policy) :
    s.reread (.ok s.verbosity) r (.ok s.replacement) = r.map fun p => { s with selection := p } := by
  rcases r with (_ | ⟨i, is⟩) | p
  · rfl
  · simp [reread, issues, Except.map]
  · rfl

lemma reread_replacement (r : Checked Policy) :
    s.reread (.ok s.verbosity) (.ok s.selection) r = r.map fun p => { s with replacement := p } := by
  rcases r with (_ | ⟨i, is⟩) | p
  · rfl
  · rfl
  · rfl

/-- Valid settings that are written with another verbosity and other policies read as they were,
but for these three. -/
theorem ofValue_fieldsWith (hs : s.Valid) (v p q : Value) :
    ofValue (.record (s.fieldsWith v p q)) =
      s.reread (under "verbosity" (checked natural v)) (under "selection" (Policy.ofValue p))
        (under "replacement" (Policy.ofValue q)) := by
  have hlibrary : field (s.fieldsWith v p q) "library" (.ok default.library) (checked path) =
      .ok s.library := by
    show under "library" (checked path (.text s.library.text)) = .ok s.library
    rw [checked, path, Path.ofString_text hs.library, under_ok]
  have hscreen : field (s.fieldsWith v p q) "screen_output" (.ok default.screenOutput)
      (checked truth) = .ok s.screenOutput := rfl
  have hverbosity : field (s.fieldsWith v p q) "verbosity" (.ok default.verbosity)
      (checked natural) = under "verbosity" (checked natural v) := rfl
  have hselection : field (s.fieldsWith v p q) "selection" (.ok default.selection)
      Policy.ofValue = under "selection" (Policy.ofValue p) := rfl
  have hreplacement : field (s.fieldsWith v p q) "replacement" (.ok default.replacement)
      Policy.ofValue = under "replacement" (Policy.ofValue q) := rfl
  have hseed : field (s.fieldsWith v p q) "seed" (.ok default.seed)
      (checked (optional natural)) = .ok s.seed :=
    congrArg (under "seed") (checked_optional_natural s.seed)
  have hparamFile : field (s.fieldsWith v p q) "param_file" (.ok default.paramFile)
      (checked (optional path)) = .ok s.paramFile :=
    congrArg (under "param_file") (checked_optional_path hs.paramFile)
  have hbinder : field (s.fieldsWith v p q) "binder" (.ok default.binder)
      (checked (optional text)) = .ok s.binder :=
    congrArg (under "binder") (checked_optional_text s.binder)
  have hstrangers : strangers keys (s.fieldsWith v p q) = [] := rfl
  simp only [ofValue, reread, hlibrary, hscreen, hverbosity, hselection, hreplacement, hseed,
    hparamFile, hbinder, hstrangers, issues_ok, List.nil_append, List.append_nil]
  cases under "verbosity" (checked natural v) <;> cases under "selection" (Policy.ofValue p) <;>
    cases under "replacement" (Policy.ofValue q) <;> rfl

lemma checked_natural_int (n : ℕ) : checked natural (.int n) = .ok n := by
  rw [checked, natural_int]

/-- **Settings read back.**  Valid settings that are written and read again are the same. -/
theorem ofValue_toValue (hs : s.Valid) : ofValue s.toValue = .ok s := by
  have hread := ofValue_fieldsWith hs (.int s.verbosity) s.selection.toValue s.replacement.toValue
  rw [checked_natural_int, Policy.ofValue_toValue, Policy.ofValue_toValue] at hread
  exact hread

/-! ## Replacing one field

Whatever the new value is, it is read on its own: the other fields neither stand in its way nor
change with it. -/

/-- A verbosity in place of the old one. -/
theorem update_verbosity (hs : s.Valid) (v : Value) :
    s.update "verbosity" v =
      ((under "verbosity" (checked natural v)).map fun n => { s with verbosity := n }).mapError
        .invalid := by
  have hread := ofValue_fieldsWith hs v s.selection.toValue s.replacement.toValue
  rw [Policy.ofValue_toValue, Policy.ofValue_toValue, under_ok, under_ok, reread_verbosity] at hread
  exact congrArg (Except.mapError Fault.invalid) hread

/-- A selection in place of the old one. -/
theorem update_selection (hs : s.Valid) (v : Value) :
    s.update "selection" v =
      ((under "selection" (Policy.ofValue v)).map fun p => { s with selection := p }).mapError
        .invalid := by
  have hread := ofValue_fieldsWith hs (.int s.verbosity) v s.replacement.toValue
  rw [checked_natural_int, Policy.ofValue_toValue, under_ok, under_ok, reread_selection] at hread
  exact congrArg (Except.mapError Fault.invalid) hread

/-- A replacement in place of the old one. -/
theorem update_replacement (hs : s.Valid) (v : Value) :
    s.update "replacement" v =
      ((under "replacement" (Policy.ofValue v)).map fun p => { s with replacement := p }).mapError
        .invalid := by
  have hread := ofValue_fieldsWith hs (.int s.verbosity) s.selection.toValue v
  rw [checked_natural_int, Policy.ofValue_toValue, under_ok, under_ok, reread_replacement] at hread
  exact congrArg (Except.mapError Fault.invalid) hread

end

end Settings

end ReverseComm
