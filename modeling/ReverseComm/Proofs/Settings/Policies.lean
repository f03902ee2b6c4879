import Mathlib.Data.Int.Notation
import ReverseComm.Policy
import ReverseComm.Proofs.Action

/-!
# Values that stand for a policy

A policy is offered in many forms: as a number or a text, or as a record that says less or more of
what it is.  `Policy.Denotes` lists the forms, and the reader accepts these and no others
(`Policy.ofValue_eq_ok_iff`).

A record is tried as an index and as a strategy, and `kind` does not tell which of the two it is,
since it may be missing.  What tells them apart are the other keys: the content of one variant is a
stranger to the other, so that no value reads as both (`Policy.exclusive_variants`).  Where variants
exclude each other the order in which they are tried does not matter (`Settings.alike_of_perm`): the
same one reads the value, or all of them report the same issues.

Of the forms of a policy, the record that says everything is the one in which it is written, and it
reads as that policy again (`Policy.ofValue_toValue`).

A truth value is no policy.  It is a number to the reader of the field `index`, though, and there
counts as 0 or 1, as it does wherever the settings read a whole number.
-/

namespace ReverseComm

open ReverseComm.Action (outcome_bind_eq_ok_iff)

namespace Value

/-! ## Records -/

lemma mem_of_field? {name : String} {fields : List (String × Value)} {v : Value}
    (h : field? name fields = some v) : (name, v) ∈ fields := by
  obtain ⟨f, hf, rfl⟩ := Option.map_eq_some_iff.mp h
  have hname : f.1 = name := by simpa using List.find?_some hf
  rw [← hname]
  exact List.mem_of_find?_eq_some hf

/-- The fields of a record whose keys are distinct may stand in any order. -/
lemma field?_of_mem {name : String} {fields : List (String × Value)} {v : Value}
    (distinct : (fields.map Prod.fst).Nodup) (h : (name, v) ∈ fields) :
    field? name fields = some v := by
  induction fields with
  | nil => cases h
  | cons f fields ih =>
    rw [List.map_cons, List.nodup_cons] at distinct
    rcases List.mem_cons.mp h with rfl | h
    · exact field?_cons_self name v fields
    · have hne : f.1 ≠ name := fun heq => distinct.1 (heq ▸ List.mem_map_of_mem h)
      exact (field?_cons_of_ne hne f.2 fields).trans (ih distinct.2 h)

end Value

namespace Settings

variable {α : Type}

/-! ## Variants -/

/-- One of several ways to read a value, with the name under which its issues are reported. -/
structure Variant (α : Type) where
  name : String
  read : Value → Checked α

/-- A variant reads a value. -/
def Variant.Accepts (r : Variant α) (v : Value) : Prop := ∃ a, r.read v = .ok a

/-- The issues of a variant, under its name. -/
def Variant.report (r : Variant α) (v : Value) : List Issue := issues (under r.name (r.read v))

/-- Try variants one after the other: the first one that reads the value decides, and if there is
none, the issues of all of them are reported. -/
def tryInTurn : List (Variant α) → Value → Checked α
  | [], _ => .error []
  | r :: rs, v =>
    match r.read v with
    | .ok a => .ok a
    | .error _ => (tryInTurn rs v).mapError (r.report v ++ ·)

/-- At most one of the variants reads the value. -/
def Exclusive (rs : List (Variant α)) (v : Value) : Prop :=
  rs.Pairwise fun r q => ¬ (r.Accepts v ∧ q.Accepts v)

/-- Two readings come to the same: to one content, or to the same issues in whatever order. -/
def Alike : Checked α → Checked α → Prop
  | .ok a, .ok b => a = b
  | .error is, .error js => is.Perm js
  | _, _ => False

lemma tryInTurn_eq_ok_iff {rs : List (Variant α)} {v : Value} (h : Exclusive rs v) {a : α} :
    tryInTurn rs v = .ok a ↔ ∃ r ∈ rs, r.read v = .ok a := by
  induction rs with
  | nil => simp [tryInTurn]
  | cons r rs ih =>
    obtain ⟨hr, hrs⟩ := List.pairwise_cons.mp h
    cases hread : r.read v with
    | ok b =>
      -- No later variant reads the value, so the content can only be the first one's.
      have hlater : ∀ q ∈ rs, q.read v ≠ .ok a := fun q hq hqa => hr q hq ⟨⟨b, hread⟩, ⟨a, hqa⟩⟩
      simp only [tryInTurn, hread, List.mem_cons, exists_eq_or_imp]
      exact ⟨.inl, fun h => h.elim id fun ⟨q, hq, hqa⟩ => absurd hqa (hlater q hq)⟩
    | error is =>
      simp only [tryInTurn, hread, List.mem_cons, exists_eq_or_imp, reduceCtorEq, false_or,
        ← ih hrs]
      cases tryInTurn rs v <;> simp [Except.mapError]

lemma tryInTurn_eq_error_iff {rs : List (Variant α)} {v : Value} {is : List Issue} :
    tryInTurn rs v = .error is ↔
      (∀ r ∈ rs, ¬ r.Accepts v) ∧ is = rs.flatMap fun r => r.report v := by
  induction rs generalizing is with
  | nil => simp [tryInTurn, eq_comm]
  | cons r rs ih =>
    cases hread : r.read v with
    | ok a => simp [tryInTurn, hread, Variant.Accepts]
    | error js =>
      have hfirst : ¬ r.Accepts v := by simp [Variant.Accepts, hread]
      simp only [tryInTurn, hread, List.forall_mem_cons, hfirst, not_false_eq_true, true_and,
        List.flatMap_cons]
      cases hlater : tryInTurn rs v with
      | ok a =>
        have hsome : ¬ ∀ q ∈ rs, ¬ q.Accepts v := by
          intro hnone
          have herror := ih.mpr ⟨hnone, rfl⟩
          rw [hlater] at herror
          cases herror
        simp [Except.mapError, hsome]
      | error ks =>
        obtain ⟨hnone, rfl⟩ := ih.mp hlater
        simp only [Except.mapError, Except.error.injEq]
        exact ⟨fun his => ⟨hnone, his.symm⟩, fun his => his.2.symm⟩

/-- Variants that exclude each other may be tried in any order. -/
theorem alike_of_perm {rs qs : List (Variant α)} {v : Value} (h : qs.Perm rs)
    (exclusive : Exclusive rs v) : Alike (tryInTurn qs v) (tryInTurn rs v) := by
  have exclusive' : Exclusive qs v :=
    (h.pairwise_iff fun hrq => mt And.symm hrq).mpr exclusive
  cases hqs : tryInTurn qs v with
  | ok a =>
    obtain ⟨r, hr, hread⟩ := (tryInTurn_eq_ok_iff exclusive').mp hqs
    rw [(tryInTurn_eq_ok_iff exclusive).mpr ⟨r, h.mem_iff.mp hr, hread⟩]
    rfl
  | error is =>
    obtain ⟨hnone, rfl⟩ := tryInTurn_eq_error_iff.mp hqs
    rw [tryInTurn_eq_error_iff.mpr ⟨fun r hr => hnone r (h.mem_iff.mpr hr), rfl⟩]
    exact h.flatMap_right _

lemma alike_refl (r : Checked α) : Alike r r := by
  cases r with
  | ok a => rfl
  | error is => exact .refl is

/-! ## Fields -/

lemma under_eq_ok_iff {key : String} {r : Checked α} {a : α} :
    under key r = .ok a ↔ r = .ok a := by
  cases r with
  | ok b => rfl
  | error is => simp [under]

/-- A field that reads holds something that reads, or is missing and has a default. -/
lemma field_eq_ok_iff {fields : List (String × Value)} {key : String}
    {default : Checked α} {read : Value → Checked α} {a : α} :
    field fields key default read = .ok a ↔
      Value.field? key fields = none ∧ default = .ok a ∨
        ∃ v, Value.field? key fields = some v ∧ read v = .ok a := by
  rw [field, under_eq_ok_iff]
  cases Value.field? key fields with
  | none => simp
  | some v => simp

lemma checked_eq_ok_iff {read : Value → Reading α} {v : Value} {a : α} :
    checked read v = .ok a ↔ read v = .ok a := by
  unfold checked
  cases read v with
  | error rule => simp
  | ok b => simp

lemma strangers_eq_nil_iff {known : List String} {fields : List (String × Value)} :
    strangers known fields = [] ↔ ∀ f ∈ fields, f.1 ∈ known := by
  simp [strangers, List.filter_eq_nil_iff]

end Settings

namespace Policy

open Settings

/-! ## Tagged records -/

/-- A record with a content under `key` and nothing besides, except that its `kind` may say so. -/
structure Tagged (key : String) (fields : List (String × Value)) (content : Value) : Prop where
  keys : ∀ f ∈ fields, f.1 ∈ ["kind", key]
  kind : ∀ v, Value.field? "kind" fields = some v → v = .text key
  content : Value.field? key fields = some content

lemma issues_kind_eq_nil_iff {key : String} {fields : List (String × Value)} :
    issues (field fields "kind" (.ok ()) (oneOf [(key, ())])) = [] ↔
      ∀ v, Value.field? "kind" fields = some v → v = .text key := by
  unfold field
  cases Value.field? "kind" fields with
  | none => simp
  | some v =>
    simp only [Option.some.injEq, forall_eq']
    cases v with
    | text s =>
      by_cases h : key = s
      · simp [oneOf, h]
      · simp [oneOf, h, Ne.symm h, under, issues]
    | none | bool | int | real | list | record => simp [oneOf, under, issues]

lemma readTagged_eq_ok_iff {α : Type} {key : String} {read : Value → Checked α}
    {fields : List (String × Value)} {a : α} :
    readTagged key read (.record fields) = .ok a ↔
      ∃ content, Tagged key fields content ∧ read content = .ok a := by
  simp only [readTagged]
  constructor
  · intro h
    split at h
    · rename_i hissues
      rw [List.append_eq_nil_iff, List.append_eq_nil_iff] at hissues
      obtain ⟨⟨hkind, -⟩, hkeys⟩ := hissues
      obtain ⟨-, hmissing⟩ | ⟨content, hcontent, hread⟩ := field_eq_ok_iff.mp h
      · cases hmissing
      · exact ⟨content, ⟨strangers_eq_nil_iff.mp hkeys, issues_kind_eq_nil_iff.mp hkind, hcontent⟩,
          hread⟩
    · cases h
  · rintro ⟨content, tagged, hread⟩
    have hcontent : field fields key missing read = .ok a :=
      field_eq_ok_iff.mpr (.inr ⟨content, tagged.content, hread⟩)
    rw [issues_kind_eq_nil_iff.mpr tagged.kind, strangers_eq_nil_iff.mpr tagged.keys, hcontent]
    rfl

/-- A record that says everything, with its fields in any order. -/
lemma Tagged.of_perm {key : String} {content : Value} {fields : List (String × Value)}
    (hkey : key ≠ "kind") (h : fields.Perm [("kind", .text key), (key, content)]) :
    Tagged key fields content := by
  have hmem : ∀ f, f ∈ fields ↔ f = ("kind", .text key) ∨ f = (key, content) := by
    simp [h.mem_iff]
  have hnodup : (fields.map Prod.fst).Nodup :=
    (h.map Prod.fst).nodup_iff.mpr (by simp [hkey.symm])
  refine ⟨fun f hf => ?_, fun v hv => ?_, ?_⟩
  · rcases (hmem f).mp hf with rfl | rfl
    · simp
    · simp
  · rcases (hmem _).mp (Value.mem_of_field? hv) with heq | heq
    · exact (Prod.mk.inj heq).2
    · exact absurd (Prod.mk.inj heq).1.symm hkey
  · exact Value.field?_of_mem hnodup ((hmem _).mpr (.inr rfl))

/-- A record that leaves out its kind. -/
lemma tagged_singleton {key : String} (hkey : key ≠ "kind") (content : Value) :
    Tagged key [(key, content)] content where
  keys := by simp
  kind v hv := by
    have heq := List.mem_singleton.mp (Value.mem_of_field? hv)
    exact absurd (Prod.mk.inj heq).1.symm hkey
  content := Value.field?_cons_self key content []

/-- The content of a record is a stranger to any other kind of record. -/
lemma Tagged.key_eq {key key' : String} {content content' : Value}
    {fields : List (String × Value)} (h : Tagged key fields content)
    (h' : Tagged key' fields content') (hkey : key ≠ "kind") : key = key' := by
  have hmem := h'.keys _ (Value.mem_of_field? h.content)
  simpa [hkey] using hmem

lemma map_eq_ok_iff {α β : Type} {f : α → β} {r : Checked α} {b : β} :
    (f <$> r) = .ok b ↔ ∃ a, r = .ok a ∧ b = f a := by
  cases r with
  | ok a => simp [Functor.map, Except.map, eq_comm]
  | error is => simp [Functor.map, Except.map]

lemma readIndex_eq_ok_iff {fields : List (String × Value)} {p : Policy} :
    readIndex (.record fields) = .ok p ↔
      ∃ content n, Tagged "index" fields content ∧ natural content = .ok n ∧ p = .index n := by
  simp only [readIndex, map_eq_ok_iff, readTagged_eq_ok_iff, checked_eq_ok_iff]
  constructor
  · rintro ⟨n, ⟨content, tagged, hread⟩, hp⟩
    exact ⟨content, n, tagged, hread, hp⟩
  · rintro ⟨content, n, tagged, hread, hp⟩
    exact ⟨n, ⟨content, tagged, hread⟩, hp⟩

lemma oneOf_strategies_eq_ok_iff {v : Value} {s : Strategy} :
    oneOf Strategy.table v = .ok s ↔ v = .text s.name := by
  constructor
  · intro h
    cases v with
    | text t =>
      simp only [oneOf] at h
      split at h
      · rename_i w hw
        cases h
        have hname : w.1 = t := by simpa using List.find?_some hw
        have htable : ∀ w ∈ Strategy.table, w.1 = w.2.name := by decide
        rw [← hname, htable w (List.mem_of_find?_eq_some hw)]
      · cases h
    | none | bool | int | real | list | record => cases h
  · rintro rfl
    cases s with
    | best | worst | random => rfl

lemma readStrategy_eq_ok_iff {fields : List (String × Value)} {p : Policy} :
    readStrategy (.record fields) = .ok p ↔
      ∃ s : Strategy, Tagged "name" fields (.text s.name) ∧ p = .strategy s := by
  simp only [readStrategy, map_eq_ok_iff, readTagged_eq_ok_iff, oneOf_strategies_eq_ok_iff]
  constructor
  · rintro ⟨s, ⟨content, tagged, rfl⟩, hp⟩
    exact ⟨s, tagged, hp⟩
  · rintro ⟨s, tagged, hp⟩
    exact ⟨s, ⟨_, tagged, rfl⟩, hp⟩

/-! ## Policies -/

/-- The variants of a policy, in the order in which they are tried. -/
def variants : List (Variant Policy) := [⟨"ByIndex", readIndex⟩, ⟨"ByName", readStrategy⟩]

lemma readRecord_eq_tryInTurn (v : Value) : readRecord v = tryInTurn variants v := by
  simp only [readRecord, variants, tryInTurn, Variant.report]
  cases readIndex v with
  | ok p => rfl
  | error is =>
    cases readStrategy v with
    | ok p => rfl
    | error js => simp [Except.mapError, under, issues]

/-- No value reads both as an index and as a strategy. -/
theorem exclusive_variants (v : Value) : Exclusive variants v := by
  rw [Exclusive, variants, List.pairwise_pair]
  rintro ⟨⟨p, hindex⟩, ⟨q, hstrategy⟩⟩
  cases v with
  | record fields =>
    obtain ⟨_, _, tagged, -, -⟩ := readIndex_eq_ok_iff.mp hindex
    obtain ⟨_, tagged', -⟩ := readStrategy_eq_ok_iff.mp hstrategy
    exact absurd (tagged.key_eq tagged' (by decide)) (by decide)
  | none | bool | int | real | text | list => cases hindex

lemma readRecord_eq_ok_iff {v : Value} {p : Policy} :
    readRecord v = .ok p ↔ readIndex v = .ok p ∨ readStrategy v = .ok p := by
  rw [readRecord_eq_tryInTurn, tryInTurn_eq_ok_iff (exclusive_variants v)]
  simp [variants]

/-- The values that stand for a policy: a number or a text for short, or a record with the index or
the name of the strategy, which may say its kind besides. -/
inductive Denotes : Value → Policy → Prop
  | number (n : ℕ) : Denotes (.int n) (.index n)
  | word {s : String} {strategy : Strategy} (h : Text.lower (Text.strip s) = strategy.name) :
      Denotes (.text s) (.strategy strategy)
  | index {fields : List (String × Value)} {content : Value} {n : ℕ}
      (tagged : Tagged "index" fields content) (read : natural content = .ok n) :
      Denotes (.record fields) (.index n)
  | strategy {fields : List (String × Value)} {strategy : Strategy}
      (tagged : Tagged "name" fields (.text strategy.name)) :
      Denotes (.record fields) (.strategy strategy)

lemma readRecord_record_iff {fields : List (String × Value)} {p : Policy} :
    readRecord (.record fields) = .ok p ↔ Denotes (.record fields) p := by
  rw [readRecord_eq_ok_iff, readIndex_eq_ok_iff, readStrategy_eq_ok_iff]
  constructor
  · rintro (⟨content, n, tagged, hread, rfl⟩ | ⟨s, tagged, rfl⟩)
    · exact .index tagged hread
    · exact .strategy tagged
  · rintro (_ | _ | ⟨tagged, hread⟩ | ⟨tagged⟩)
    · exact .inl ⟨_, _, tagged, hread, rfl⟩
    · exact .inr ⟨_, tagged, rfl⟩

lemma natural_int_eq_ok_iff {k : ℤ} {n : ℕ} : natural (.int k) = .ok n ↔ k = n := by
  constructor
  · intro h
    obtain ⟨k', hk', h⟩ := outcome_bind_eq_ok_iff.mp h
    cases hk'
    split at h
    · cases h
      omega
    · cases h
  · rintro rfl
    exact natural_int n

/-- A record with a number stands for what the number stands for. -/
lemma Tagged.denotes_int_iff {fields : List (String × Value)} {k : ℤ} {p : Policy}
    (tagged : Tagged "index" fields (.int k)) :
    Denotes (.record fields) p ↔ Denotes (.int k) p := by
  constructor
  · rintro (_ | _ | ⟨tagged', hread⟩ | ⟨tagged'⟩)
    · obtain rfl := Option.some.inj (tagged'.content.symm.trans tagged.content)
      obtain rfl := natural_int_eq_ok_iff.mp hread
      exact .number _
    · exact absurd (tagged.key_eq tagged' (by decide)) (by decide)
  · rintro ⟨n⟩
    exact .index tagged (natural_int n)

/-- A record with a text, stripped and in lower case, stands for what the text stands for. -/
lemma Tagged.denotes_text_iff {fields : List (String × Value)} {s : String} {p : Policy}
    (tagged : Tagged "name" fields (.text (Text.lower (Text.strip s)))) :
    Denotes (.record fields) p ↔ Denotes (.text s) p := by
  constructor
  · rintro (_ | _ | ⟨tagged', hread⟩ | ⟨tagged'⟩)
    · exact absurd (tagged'.key_eq tagged (by decide)) (by decide)
    · have htext := Option.some.inj (tagged.content.symm.trans tagged'.content)
      exact .word (Value.text.inj htext)
  · rintro (_ | ⟨h⟩)
    rw [h] at tagged
    exact .strategy tagged

/-- The values that stand for a policy are accepted as that policy, and no others are accepted. -/
theorem ofValue_eq_ok_iff {v : Value} {p : Policy} : ofValue v = .ok p ↔ Denotes v p := by
  rw [ofValue, outcome_bind_eq_ok_iff]
  cases v with
  | record fields =>
    simp only [expand, Except.ok.injEq, exists_eq_left', readRecord_record_iff]
  | int k =>
    have tagged : Tagged "index" [("kind", .text "index"), ("index", .int k)] (.int k) :=
      .of_perm (by decide) (.refl _)
    simp only [expand, Except.ok.injEq, exists_eq_left', readRecord_record_iff,
      tagged.denotes_int_iff]
  | text s =>
    have tagged : Tagged "name" [("kind", .text "name"), ("name", .text (Text.lower (Text.strip s)))]
        (.text (Text.lower (Text.strip s))) := .of_perm (by decide) (.refl _)
    simp only [expand, Except.ok.injEq, exists_eq_left', readRecord_record_iff,
      tagged.denotes_text_iff]
  | bool =>
    constructor
    · rintro ⟨w, hw, -⟩
      cases hw
    · intro h
      cases h
  | none | real | list =>
    -- These are left as they are, and are no records.
    constructor
    · rintro ⟨w, hw, hread⟩
      cases hw
      cases hread
    · intro h
      cases h

/-- In a record a truth value counts as a number. -/
example : ofValue (.record [("index", .bool true)]) = .ok (.index 1) := rfl

/-- A policy that is written in full reads as itself. -/
theorem ofValue_toValue (p : Policy) : ofValue p.toValue = .ok p := by
  cases p with
  | index n => exact ofValue_eq_ok_iff.mpr (.index (.of_perm (by decide) (.refl _)) (natural_int n))
  | strategy s => exact ofValue_eq_ok_iff.mpr (.strategy (.of_perm (by decide) (.refl _)))

/-- **Policies are unambiguous.**  No value reads as both variants once its short forms are written
out, so the variants may be tried in any order.  A number that is not negative and the records with
that index are the same policy, and so are a text and the records with that name, stripped and in
lower case, if they are policies at all.  No truth value is a policy, and a policy that is written
down reads as itself. -/
theorem unambiguous_and_canonical :
    (∀ v, ¬ ((∃ p, (expand v >>= readIndex) = .ok p) ∧ ∃ p, (expand v >>= readStrategy) = .ok p)) ∧
    (∀ v (rs : List (Variant Policy)), rs.Perm variants →
      Alike (expand v >>= tryInTurn rs) (ofValue v)) ∧
    (∀ (k : ℕ) fields, fields.Perm [("kind", .text "index"), ("index", .int k)] →
      ofValue (.int k) = .ok (.index k) ∧
      ofValue (.record [("index", .int k)]) = .ok (.index k) ∧
      ofValue (.record fields) = .ok (.index k)) ∧
    (∀ s n p fields, n = Text.lower (Text.strip s) →
      fields.Perm [("kind", .text "name"), ("name", .text n)] →
      (ofValue (.record [("name", .text n)]) = .ok p ↔ ofValue (.text s) = .ok p) ∧
      (ofValue (.record fields) = .ok p ↔ ofValue (.text s) = .ok p)) ∧
    (∀ b p, ofValue (.bool b) ≠ .ok p) ∧
    ∀ v p, ofValue v = .ok p → ofValue p.toValue = .ok p := by
  refine ⟨fun v => ?_, fun v rs hrs => ?_, fun k fields h => ?_, fun s n p fields hn h => ?_,
    fun b p h => ?_, fun _ p _ => ofValue_toValue p⟩
  · rintro ⟨⟨p, hindex⟩, ⟨q, hstrategy⟩⟩
    obtain ⟨w, hw, hindex⟩ := outcome_bind_eq_ok_iff.mp hindex
    obtain ⟨w', hw', hstrategy⟩ := outcome_bind_eq_ok_iff.mp hstrategy
    obtain rfl := Except.ok.inj (hw.symm.trans hw')
    have hexclusive := List.pairwise_pair.mp (exclusive_variants w)
    exact hexclusive ⟨⟨p, hindex⟩, ⟨q, hstrategy⟩⟩
  · rw [ofValue]
    cases expand v with
    | error is => exact alike_refl _
    | ok w =>
      show Alike (tryInTurn rs w) (readRecord w)
      rw [readRecord_eq_tryInTurn]
      exact alike_of_perm hrs (exclusive_variants w)
  · have hshort : Tagged "index" [("index", .int k)] (.int k) := tagged_singleton (by decide) _
    have hfull : Tagged "index" fields (.int k) := .of_perm (by decide) h
    simp only [ofValue_eq_ok_iff]
    exact ⟨.number k, hshort.denotes_int_iff.mpr (.number k), hfull.denotes_int_iff.mpr (.number k)⟩
  · subst hn
    have hshort := tagged_singleton (by decide : "name" ≠ "kind")
      (.text (Text.lower (Text.strip s)))
    have hfull : Tagged "name" fields (.text (Text.lower (Text.strip s))) := .of_perm (by decide) h
    simp only [ofValue_eq_ok_iff]
    exact ⟨hshort.denotes_text_iff, hfull.denotes_text_iff⟩
  · cases ofValue_eq_ok_iff.mp h

/-- A text for short, and the record that says the same in full with its fields the other way
round. -/
theorem unambiguous_and_canonical_worst :
    ofValue (.text " Worst ") = .ok (.strategy .worst) ∧
    [("name", Value.text "worst"), ("kind", Value.text "name")].Perm
      [("kind", .text "name"), ("name", .text "worst")] ∧
    ofValue (.record [("name", .text "worst")]) = .ok (.strategy .worst) ∧
    ofValue (.record [("name", .text "worst"), ("kind", .text "name")]) = .ok (.strategy .worst) ∧
    ofValue (Policy.strategy .worst).toValue = .ok (.strategy .worst) := by
  obtain ⟨-, -, -, htexts, -, hwritten⟩ := unambiguous_and_canonical
  have hname : "worst" = Text.lower (Text.strip " Worst ") := by decide +kernel
  have hread : ofValue (.text " Worst ") = .ok (.strategy .worst) :=
    ofValue_eq_ok_iff.mpr (.word hname.symm)
  have hperm := List.Perm.swap ("kind", Value.text "name") ("name", Value.text "worst") []
  obtain ⟨hshort, hfull⟩ := htexts " Worst " "worst" (.strategy .worst) _ hname hperm
  exact ⟨hread, hperm, hshort.mpr hread, hfull.mpr hread, hwritten _ _ hread⟩

end Policy

end ReverseComm
