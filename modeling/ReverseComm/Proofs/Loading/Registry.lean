import Mathlib.Data.List.Nodup
import ReverseComm.Loading.Registry
import ReverseComm.Proofs.Text.Case

/-!
# Registering and choosing binders

A registry keeps its binders under keys in lower case, each key once (`Keyed`), and it stays so
however binders are registered (`Keyed.after`).  A call under a name that is taken up to its case is
refused and changes nothing; every other call puts its binder in front of the others or behind them
(`entries_after`).

Asked by name, a registry answers with the binder under that name, up to its case.  Asked by path,
it answers with the first binder that supports the path, where the system binder comes last wherever
it stands: the binders are asked in the order of a stable sort (`order_eq_mergeSort`).  What follows
for whole sequences of calls is `choice_after_registrations`.
-/

namespace ReverseComm.Loading

variable {ω : Type}

/-! ## The order of asking -/

section Sorting

variable {α : Type} {p : α → Bool}

lemma pairwise_filter_not (l : List α) :
    (l.filter fun a => !p a).Pairwise fun a b => (!p a || p b) = true := by
  refine List.pairwise_iff_forall_sublist.mpr fun {a b} h => ?_
  have ha := List.of_mem_filter (h.subset List.mem_cons_self)
  rw [ha, Bool.true_or]

lemma pairwise_filter (l : List α) :
    (l.filter p).Pairwise fun a b => (!p a || p b) = true := by
  refine List.pairwise_iff_forall_sublist.mpr fun {a b} h => ?_
  have hb := List.of_mem_filter (h.subset (List.mem_cons_of_mem _ List.mem_cons_self))
  rw [hb, Bool.or_true]

lemma eq_filter_append_filter {l : List α} (h : l.Pairwise fun a b => (!p a || p b) = true) :
    l = l.filter (fun a => !p a) ++ l.filter p := by
  induction l with
  | nil => rfl
  | cons a l ih =>
    obtain ⟨hhead, htail⟩ := List.pairwise_cons.mp h
    cases ha : p a with
    | false => simp [ha, ← ih htail]
    | true =>
      have hall : ∀ b ∈ l, p b = true := by
        intro b hb
        simpa [ha] using hhead b hb
      have hnone : l.filter (fun b => !p b) = [] := by
        simpa using hall
      simp [ha, hnone, List.filter_eq_self.mpr hall]

/-- A stable sort by a truth value puts what it is false of in front. -/
lemma mergeSort_eq_filter_append_filter (l : List α) :
    l.mergeSort (fun a b => !p a || p b) = l.filter (fun a => !p a) ++ l.filter p := by
  have htrans : ∀ a b c, (!p a || p b) = true → (!p b || p c) = true → (!p a || p c) = true := by
    intro a b c
    cases p a <;> cases p b <;> cases p c <;> decide
  have htotal : ∀ a b, ((!p a || p b) || (!p b || p a)) = true := by
    intro a b
    cases p a <;> cases p b <;> decide
  have hperm := List.mergeSort_perm l fun a b => !p a || p b
  have kept : ∀ q : α → Bool, (l.filter q).Pairwise (fun a b => (!p a || p b) = true) →
      (l.mergeSort fun a b => !p a || p b).filter q = l.filter q := by
    intro q hq
    have hsub := List.sublist_mergeSort htrans htotal hq List.filter_sublist
    have hfilter := hsub.filter q
    simp only [List.filter_filter, Bool.and_self] at hfilter
    exact (hfilter.eq_of_length (hperm.filter q).length_eq.symm).symm
  rw [eq_filter_append_filter (List.pairwise_mergeSort htrans htotal l),
    kept _ (pairwise_filter_not l), kept _ (pairwise_filter l)]

end Sorting

namespace Registry

variable {r s : Registry ω}

/-- The binders are asked in the order of a stable sort that puts the system binder last. -/
theorem order_eq_mergeSort (r : Registry ω) :
    r.order = r.entries.mergeSort
      fun a b => !(a.1 == systemBinderName) || b.1 == systemBinderName :=
  (mergeSort_eq_filter_append_filter r.entries).symm

lemma mem_order {e : String × Binder ω} : e ∈ r.order ↔ e ∈ r.entries := by
  rw [order_eq_mergeSort, List.mem_mergeSort]

/-! ## Keys -/

/-- Every key stands once and in lower case. -/
structure Keyed (r : Registry ω) : Prop where
  nodup : r.names.Nodup
  lower : ∀ key ∈ r.names, Text.lower key = key

lemma mem_names {key : String} : key ∈ r.names ↔ ∃ b, (key, b) ∈ r.entries := by
  simp [names]

lemma Keyed.eq_of_mem (keyed : r.Keyed) {key : String} {b b' : Binder ω}
    (h : (key, b) ∈ r.entries) (h' : (key, b') ∈ r.entries) : b = b' :=
  congrArg Prod.snd (List.inj_on_of_nodup_map keyed.nodup h h' rfl)

lemma Keyed.lookup?_eq_some_iff (keyed : r.Keyed) {key : String} {b : Binder ω} :
    r.lookup? key = some b ↔ (key, b) ∈ r.entries := by
  unfold lookup?
  constructor
  · intro h
    obtain ⟨e, he, rfl⟩ := Option.map_eq_some_iff.mp h
    obtain rfl : e.1 = key := by simpa using List.find?_some he
    exact List.mem_of_find?_eq_some he
  · intro h
    cases hfind : r.entries.find? fun e => e.1 == key with
    | none =>
      have hne := List.find?_eq_none.mp hfind (key, b) h
      simp at hne
    | some e =>
      obtain rfl : e.1 = key := by simpa using List.find?_some hfind
      rw [Option.map_some, keyed.eq_of_mem (List.mem_of_find?_eq_some hfind) h]

lemma lookup?_eq_none_iff {key : String} : r.lookup? key = none ↔ key ∉ r.names := by
  simp only [lookup?, Option.map_eq_none_iff, List.find?_eq_none, beq_iff_eq, names, List.mem_map,
    not_exists, not_and]

/-- Up to its case, a name is that of one key at most. -/
lemma Keyed.key_iff (keyed : r.Keyed) {key name : String} {b : Binder ω} :
    (key, b) ∈ r.entries ∧ Text.lower key = Text.lower name ↔
      key = Text.lower name ∧ (Text.lower name, b) ∈ r.entries := by
  constructor
  · rintro ⟨hmem, hlower⟩
    rw [keyed.lower key (mem_names.mpr ⟨b, hmem⟩)] at hlower
    exact ⟨hlower, hlower ▸ hmem⟩
  · rintro ⟨rfl, hmem⟩
    exact ⟨hmem, Text.lower_lower name⟩

/-! ## Asking -/

/-- The first binder, not counting the system binder, that supports a path. -/
def Preferred (r : Registry ω) (path : Path) (b : Binder ω) : Prop :=
  ∃ before key after, r.entries = before ++ (key, b) :: after ∧ key ≠ systemBinderName ∧
    b.supports path = true ∧ ∀ e ∈ before, e.1 ≠ systemBinderName → e.2.supports path = false

/-- The system binder, if it supports a path and no other binder does. -/
def LastResort (r : Registry ω) (path : Path) (b : Binder ω) : Prop :=
  (systemBinderName, b) ∈ r.entries ∧ b.supports path = true ∧
    ∀ e ∈ r.entries, e.1 ≠ systemBinderName → e.2.supports path = false

lemma choose_named {path : Path} {name : String} : r.choose path (some name) =
    (r.lookup? (Text.lower name)).elim (.error (.config (.unknownBinder name))) .ok := by
  simp only [choose]
  cases r.lookup? (Text.lower name) with
  | none => rfl
  | some b => rfl

lemma Keyed.choose_named_eq_ok_iff (keyed : r.Keyed) {path : Path} {name : String}
    {b : Binder ω} : r.choose path (some name) = .ok b ↔
      ∃ key, (key, b) ∈ r.entries ∧ Text.lower key = Text.lower name := by
  have hregistered : (∃ key, (key, b) ∈ r.entries ∧ Text.lower key = Text.lower name) ↔
      r.lookup? (Text.lower name) = some b := by
    simp only [keyed.key_iff, exists_eq_left, keyed.lookup?_eq_some_iff]
  rw [hregistered, choose_named]
  cases r.lookup? (Text.lower name) with
  | none => simp
  | some b' => simp

lemma choose_named_eq_error_iff {path : Path} {name : String} {fault : Fault} :
    r.choose path (some name) = .error fault ↔
      Text.lower name ∉ r.names ∧ fault = .config (.unknownBinder name) := by
  rw [choose_named, ← lookup?_eq_none_iff]
  cases r.lookup? (Text.lower name) with
  | none => simp [eq_comm]
  | some b => simp

lemma choose_unnamed {path : Path} : r.choose path none =
    (r.order.find? fun e => e.2.supports path).elim
      (.error (.config (.unsupportedLibrary path))) fun e => .ok e.2 := by
  simp only [choose]
  cases r.order.find? fun e => e.2.supports path with
  | none => rfl
  | some e => rfl

lemma choose_unnamed_eq_error_iff {path : Path} {fault : Fault} :
    r.choose path none = .error fault ↔
      (∀ e ∈ r.entries, e.2.supports path = false) ∧
        fault = .config (.unsupportedLibrary path) := by
  have hnone : (r.order.find? fun e => e.2.supports path) = none ↔
      ∀ e ∈ r.entries, e.2.supports path = false := by
    simp only [List.find?_eq_none, mem_order, Bool.not_eq_true]
  rw [choose_unnamed, ← hnone]
  cases r.order.find? fun e => e.2.supports path with
  | none => simp [eq_comm]
  | some e => simp

/-- A binder that is chosen is one of the registered ones. -/
lemma mem_of_choose {path : Path} {name : Option String} {b : Binder ω}
    (h : r.choose path name = .ok b) : ∃ e ∈ r.entries, e.2 = b := by
  cases name with
  | some name =>
    rw [choose_named] at h
    cases hlookup : r.lookup? (Text.lower name) with
    | none => simp [hlookup] at h
    | some b' =>
      obtain ⟨e, he, rfl⟩ := Option.map_eq_some_iff.mp hlookup
      exact ⟨e, List.mem_of_find?_eq_some he, by simpa [hlookup] using h⟩
  | none =>
    rw [choose_unnamed] at h
    cases hfind : r.order.find? fun e => e.2.supports path with
    | none => simp [hfind] at h
    | some e =>
      exact ⟨e, mem_order.mp (List.mem_of_find?_eq_some hfind), by simpa [hfind] using h⟩

lemma find?_others_eq_some_iff {path : Path} {b : Binder ω} :
    (∃ e, (r.entries.filter fun e => e.1 != systemBinderName).find?
      (fun e => e.2.supports path) = some e ∧ e.2 = b) ↔ r.Preferred path b := by
  simp only [List.find?_filter, List.find?_eq_some_iff_append, decide_eq_true_eq, bne_iff_ne, ne_eq,
    Bool.not_eq_true', decide_eq_false_iff_not, not_and, Bool.not_eq_true, Preferred]
  constructor
  · rintro ⟨⟨key, b⟩, ⟨⟨hkey, hsupports⟩, before, after, hentries, hbefore⟩, rfl⟩
    exact ⟨before, key, after, hentries, hkey, hsupports, hbefore⟩
  · rintro ⟨before, key, after, hentries, hkey, hsupports, hbefore⟩
    exact ⟨(key, b), ⟨⟨hkey, hsupports⟩, before, after, hentries, hbefore⟩, rfl⟩

lemma find?_others_eq_none_iff {path : Path} :
    (r.entries.filter fun e => e.1 != systemBinderName).find? (fun e => e.2.supports path) = none ↔
      ∀ e ∈ r.entries, e.1 ≠ systemBinderName → e.2.supports path = false := by
  simp only [List.find?_eq_none, List.mem_filter, bne_iff_ne, and_imp, Bool.not_eq_true]

lemma Keyed.find?_system_eq_some_iff (keyed : r.Keyed) {path : Path} {b : Binder ω} :
    (∃ e, (r.entries.filter fun e => e.1 == systemBinderName).find?
      (fun e => e.2.supports path) = some e ∧ e.2 = b) ↔
      (systemBinderName, b) ∈ r.entries ∧ b.supports path = true := by
  constructor
  · rintro ⟨e, he, rfl⟩
    obtain ⟨hmem, hkey⟩ := List.mem_filter.mp (List.mem_of_find?_eq_some he)
    have hsupports := List.find?_some he
    rw [beq_iff_eq] at hkey
    exact ⟨hkey ▸ hmem, hsupports⟩
  · rintro ⟨hmem, hsupports⟩
    have hfiltered : (systemBinderName, b) ∈
        r.entries.filter fun e => e.1 == systemBinderName :=
      List.mem_filter.mpr ⟨hmem, beq_self_eq_true _⟩
    have hsome : ((r.entries.filter fun e => e.1 == systemBinderName).find?
        fun e => e.2.supports path).isSome := List.find?_isSome.mpr ⟨_, hfiltered, hsupports⟩
    obtain ⟨e, he⟩ := Option.isSome_iff_exists.mp hsome
    obtain ⟨hmem', hkey⟩ := List.mem_filter.mp (List.mem_of_find?_eq_some he)
    rw [beq_iff_eq] at hkey
    exact ⟨e, he, keyed.eq_of_mem (hkey ▸ hmem') hmem⟩

lemma Keyed.choose_unnamed_eq_ok_iff (keyed : r.Keyed) {path : Path} {b : Binder ω} :
    r.choose path none = .ok b ↔ r.Preferred path b ∨ r.LastResort path b := by
  have hfound : r.choose path none = .ok b ↔
      ∃ e, (r.order.find? fun e => e.2.supports path) = some e ∧ e.2 = b := by
    rw [choose_unnamed]
    cases r.order.find? fun e => e.2.supports path with
    | none => simp
    | some e => simp
  simp only [hfound, order, List.find?_append, Option.or_eq_some_iff, or_and_right, exists_or,
    find?_others_eq_some_iff, find?_others_eq_none_iff, and_assoc, exists_and_left,
    keyed.find?_system_eq_some_iff]
  refine or_congr_right ?_
  rw [LastResort]
  tauto

/-- How a registry answers. -/
structure Answers (r : Registry ω) : Prop where
  /-- By name, with the binder under that name, up to its case. -/
  named : ∀ path name b, r.choose path (some name) = .ok b ↔
    ∃ key, (key, b) ∈ r.entries ∧ Text.lower key = Text.lower name
  unnamed : ∀ path b, r.choose path none = .ok b ↔ r.Preferred path b ∨ r.LastResort path b
  /-- Refused for want of a binder under the name. -/
  unknown : ∀ path name fault, r.choose path (some name) = .error fault ↔
    (∀ key ∈ r.names, Text.lower key ≠ Text.lower name) ∧ fault = .config (.unknownBinder name)
  /-- Refused for want of a binder that supports the path. -/
  unsupported : ∀ path fault, r.choose path none = .error fault ↔
    (∀ e ∈ r.entries, e.2.supports path = false) ∧ fault = .config (.unsupportedLibrary path)

lemma Keyed.not_mem_names_iff (keyed : r.Keyed) {name : String} :
    Text.lower name ∉ r.names ↔ ∀ key ∈ r.names, Text.lower key ≠ Text.lower name := by
  constructor
  · rintro hname key hkey hlower
    rw [keyed.lower key hkey] at hlower
    exact hname (hlower ▸ hkey)
  · intro h hname
    exact h _ hname (Text.lower_lower name)

lemma Keyed.answers (keyed : r.Keyed) : r.Answers where
  named _ _ _ := keyed.choose_named_eq_ok_iff
  unnamed _ _ := keyed.choose_unnamed_eq_ok_iff
  unknown _ _ _ := by rw [choose_named_eq_error_iff, keyed.not_mem_names_iff]
  unsupported _ _ := choose_unnamed_eq_error_iff

end Registry

/-! ## Registering -/

/-- A call that registers a binder under a name, in front of the others or behind them. -/
structure Registration (ω : Type) where
  name : String
  binder : Binder ω
  first : Bool

/-- What a call enters into a registry. -/
def Registration.entry (c : Registration ω) : String × Binder ω := (Text.lower c.name, c.binder)

namespace Registry

variable {r : Registry ω}

/-- A call on a registry. -/
def submit (r : Registry ω) (c : Registration ω) : Except Fault (Registry ω) :=
  r.register c.name c.binder c.first

/-- The registry after a call, which leaves it as it was if it is refused. -/
def receive (r : Registry ω) (c : Registration ω) : Registry ω :=
  match r.submit c with
  | .ok s => s
  | .error _ => r

/-- The registry after a sequence of calls. -/
def after (r : Registry ω) (calls : List (Registration ω)) : Registry ω := calls.foldl receive r

/-- The calls of a sequence that are not refused. -/
def accepted (r : Registry ω) : List (Registration ω) → List (Registration ω)
  | [] => []
  | c :: calls =>
    if Text.lower c.name ∈ r.names then r.accepted calls else c :: (r.receive c).accepted calls

lemma submit_of_mem {c : Registration ω} (h : Text.lower c.name ∈ r.names) :
    r.submit c = .error (.value (.duplicateBinder (Text.lower c.name))) :=
  register_eq_error_iff.mpr ⟨h, rfl⟩

lemma submit_of_not_mem {c : Registration ω} (h : Text.lower c.name ∉ r.names) :
    r.submit c = .ok ⟨if c.first then c.entry :: r.entries else r.entries ++ [c.entry]⟩ := by
  rw [submit, register, List.contains_eq_mem, if_neg (by simpa using h)]
  cases c.first <;> rfl

lemma receive_of_mem {c : Registration ω} (h : Text.lower c.name ∈ r.names) : r.receive c = r := by
  rw [receive, submit_of_mem h]

lemma entries_receive {c : Registration ω} (h : Text.lower c.name ∉ r.names) :
    (r.receive c).entries = if c.first then c.entry :: r.entries else r.entries ++ [c.entry] := by
  rw [receive, submit_of_not_mem h]

lemma names_receive {c : Registration ω} (h : Text.lower c.name ∉ r.names) :
    (r.receive c).names =
      if c.first then Text.lower c.name :: r.names else r.names ++ [Text.lower c.name] := by
  rw [names, entries_receive h]
  cases c.first <;> simp [names, Registration.entry]

lemma mem_names_receive {c : Registration ω} {key : String} :
    key ∈ (r.receive c).names ↔ key ∈ r.names ∨ key = Text.lower c.name := by
  by_cases h : Text.lower c.name ∈ r.names
  · rw [receive_of_mem h]
    refine ⟨.inl, fun hkey => hkey.elim id ?_⟩
    rintro rfl
    exact h
  · rw [names_receive h]
    cases c.first <;> simp [or_comm]

lemma mem_names_after {calls : List (Registration ω)} {key : String} :
    key ∈ (r.after calls).names ↔ key ∈ r.names ∨ ∃ c ∈ calls, key = Text.lower c.name := by
  induction calls generalizing r with
  | nil => simp [after]
  | cons c calls ih =>
    have hcons : r.after (c :: calls) = (r.receive c).after calls := rfl
    rw [hcons, ih, mem_names_receive, or_assoc]
    simp

lemma Keyed.receive (keyed : r.Keyed) (c : Registration ω) : (r.receive c).Keyed := by
  by_cases h : Text.lower c.name ∈ r.names
  · rwa [receive_of_mem h]
  · refine ⟨?_, fun key hkey => ?_⟩
    · rw [names_receive h]
      cases c.first with
      | false =>
        have hlast := keyed.nodup.concat h
        rwa [List.concat_eq_append] at hlast
      | true => exact List.nodup_cons.mpr ⟨h, keyed.nodup⟩
    · rcases mem_names_receive.mp hkey with hkey | rfl
      · exact keyed.lower key hkey
      · exact Text.lower_lower c.name

lemma Keyed.after (keyed : r.Keyed) (calls : List (Registration ω)) : (r.after calls).Keyed := by
  induction calls generalizing r with
  | nil => exact keyed
  | cons c calls ih => exact ih (keyed.receive c)

/-- After a sequence of calls, what was registered in front stands in front of the entries that were
there before, the latest call foremost, and the rest behind them. -/
theorem entries_after (r : Registry ω) (calls : List (Registration ω)) :
    (r.after calls).entries =
      ((r.accepted calls).filter (·.first)).reverse.map Registration.entry ++ r.entries ++
        ((r.accepted calls).filter fun c => !c.first).map Registration.entry := by
  induction calls generalizing r with
  | nil => simp [after, accepted]
  | cons c calls ih =>
    have hcons : r.after (c :: calls) = (r.receive c).after calls := rfl
    rw [hcons, ih]
    by_cases h : Text.lower c.name ∈ r.names
    · rw [receive_of_mem h, accepted, if_pos h]
    · rw [accepted, if_neg h, entries_receive h]
      cases hfirst : c.first with
      | false => simp [hfirst]
      | true => simp [hfirst]

/-- A name is taken, up to its case, by a key that was there at the start or by an earlier call. -/
def Taken (r : Registry ω) (calls : List (Registration ω)) (name : String) : Prop :=
  (∃ key ∈ r.names, Text.lower key = Text.lower name) ∨
    ∃ c ∈ calls, Text.lower c.name = Text.lower name

lemma Keyed.taken_iff (keyed : r.Keyed) {calls : List (Registration ω)} {name : String} :
    r.Taken calls name ↔ Text.lower name ∈ (r.after calls).names := by
  rw [mem_names_after, Taken]
  refine or_congr ⟨?_, fun h => ⟨_, h, Text.lower_lower name⟩⟩ ?_
  · rintro ⟨key, hkey, hlower⟩
    rw [keyed.lower key hkey] at hlower
    exact hlower ▸ hkey
  · simp only [eq_comm]

/-- **The choice of a binder.**  Whatever calls have registered binders, starting from any registry
with keys in lower case: a further call is refused, and changes nothing, if its name is taken up to
its case, and enters its binder in front of all others or behind them if it is not; and the registry
answers by name, up to case, and by path with the first binder that supports it, the system binder
last. -/
theorem choice_after_registrations (keyed : r.Keyed) (calls : List (Registration ω)) :
    (∀ c : Registration ω, r.Taken calls c.name →
      (r.after calls).submit c = .error (.value (.duplicateBinder (Text.lower c.name))) ∧
        r.after (calls ++ [c]) = r.after calls) ∧
    (∀ c : Registration ω, ¬ r.Taken calls c.name →
      (r.after calls).submit c = .ok (r.after (calls ++ [c])) ∧
        (r.after (calls ++ [c])).entries =
          if c.first then c.entry :: (r.after calls).entries
          else (r.after calls).entries ++ [c.entry]) ∧
    (r.after calls).entries =
      ((r.accepted calls).filter (·.first)).reverse.map Registration.entry ++ r.entries ++
        ((r.accepted calls).filter fun c => !c.first).map Registration.entry ∧
    (r.after calls).Keyed ∧ (r.after calls).Answers := by
  have hstep : ∀ c, r.after (calls ++ [c]) = (r.after calls).receive c := fun c => by
    rw [after, List.foldl_append]
    rfl
  refine ⟨fun c taken => ?_, fun c free => ?_, entries_after r calls, keyed.after calls,
    (keyed.after calls).answers⟩
  · have hname := keyed.taken_iff.mp taken
    rw [hstep]
    exact ⟨submit_of_mem hname, receive_of_mem hname⟩
  · have hname := mt keyed.taken_iff.mpr free
    rw [hstep]
    refine ⟨?_, entries_receive hname⟩
    rw [receive, submit_of_not_mem hname]

/-- A binder for the files with a suffix, or for all files. -/
def suffixBinder (suffix : Option String) : Binder Unit where
  label := suffix.getD "any"
  supports path := suffix.all (· == path.suffix)
  create _ := throw (.run (.external "not opened"))

/-- A registry with a system binder. -/
def systemOnly : Registry Unit := ⟨[(systemBinderName, suffixBinder none)]⟩

/-- Two calls that register a binder, one of them in front. -/
def twoCalls : List (Registration Unit) :=
  [⟨"STUB", suffixBinder (some ".stub"), false⟩, ⟨"Fake", suffixBinder (some ".fake"), true⟩]

/-- The binder that was registered in front is asked first and the system binder last, and a name is
taken whatever its case. -/
theorem choice_after_two_registrations :
    systemOnly.Keyed ∧
    (systemOnly.after twoCalls).names = ["fake", "ctypes", "stub"] ∧
    (systemOnly.after twoCalls).submit ⟨"stub", suffixBinder none, true⟩ =
      .error (.value (.duplicateBinder "stub")) ∧
    (systemOnly.after twoCalls).choose (.ofString "lib/a.stub") none =
      .ok (suffixBinder (some ".stub")) ∧
    (systemOnly.after twoCalls).choose (.ofString "lib/a.so") none = .ok (suffixBinder none) ∧
    (systemOnly.after twoCalls).choose (.ofString "lib/a.so") (some "FAKE") =
      .ok (suffixBinder (some ".fake")) := by
  have keyed : systemOnly.Keyed := ⟨by decide +kernel, by decide +kernel⟩
  obtain ⟨hrefused, -, hentries, -, hanswers⟩ := choice_after_registrations keyed twoCalls
  have hstub : Text.lower "STUB" = Text.lower "stub" := by decide +kernel
  have haccepted : systemOnly.accepted twoCalls = twoCalls := by
    rw [twoCalls, accepted, if_neg (by decide +kernel), accepted, if_neg (by decide +kernel),
      accepted]
  have hlisted : (systemOnly.after twoCalls).entries =
      [(Text.lower "Fake", suffixBinder (some ".fake")), (systemBinderName, suffixBinder none),
        (Text.lower "STUB", suffixBinder (some ".stub"))] := by
    rw [hentries, haccepted]
    rfl
  refine ⟨keyed, by decide +kernel, ?_, ?_, ?_, ?_⟩
  · have htaken : systemOnly.Taken twoCalls "stub" := .inr ⟨_, List.mem_cons_self, hstub⟩
    have hduplicate := (hrefused ⟨"stub", suffixBinder none, true⟩ htaken).1
    rwa [show Text.lower "stub" = "stub" by decide +kernel] at hduplicate
  · refine (hanswers.unnamed _ _).mpr (.inl ⟨[_, _], _, [], hlisted, ?_, ?_, ?_⟩)
    · decide +kernel
    · decide +kernel
    · rintro e he
      simp only [List.mem_cons, List.not_mem_nil, or_false] at he
      rcases he with rfl | rfl
      · decide +kernel
      · exact fun h => absurd rfl h
  · refine (hanswers.unnamed _ _).mpr (.inr ⟨?_, by decide +kernel, ?_⟩)
    · simp [hlisted]
    · rintro e he
      simp only [hlisted, List.mem_cons, List.not_mem_nil, or_false] at he
      rcases he with rfl | rfl | rfl
      · decide +kernel
      · exact fun h => absurd rfl h
      · decide +kernel
  · refine (hanswers.named _ _ _).mpr ⟨Text.lower "Fake", ?_, by decide +kernel⟩
    simp [hlisted]

end Registry

end ReverseComm.Loading
