import ReverseComm.Algorithm
import ReverseComm.Proofs.Fitness.Doubles
import ReverseComm.Proofs.Settings.RoundTrip

/-!
# The settings of an algorithm

Between two solves the settings of an algorithm change by its setters only.  Whatever they are
called with, the algorithm is `Consistent`: its settings are such as can have been read, and the
solver's own output does not go with a verbosity.

A setter writes all settings down and reads them again with one field replaced.  As they read back
(`Settings.ofValue_toValue`), nothing but that field changes, and nothing but the new value decides
whether the setter accepts it: `apply_eq_ok_iff` says which values it accepts and what becomes of
the algorithm.

The verbosity is compared with zero before it is read, and what is compared is a value of any kind.
What equals zero there must not read as anything else (`eq_zero_of_natural`); for a real this is a
statement about both zeros.  The converse fails: the text "0" differs from zero and reads as zero,
so it is refused where the solver writes its own output, and that does no harm.
-/

namespace ReverseComm

open Settings (checked natural under)

variable {ω : Type}

/-! ## What equals zero -/

lemma Exact.toInt?_zero (negative : Bool) (e : ℤ) :
    (⟨negative, 0, e⟩ : Exact).toInt? = some 0 := by
  have hratio : (⟨negative, 0, e⟩ : Exact).ratio.1 = 0 := by
    unfold Exact.ratio
    split
    · exact Nat.zero_mul _
    · rfl
  unfold Exact.toInt?
  simp only [hratio, Nat.zero_mod, Nat.zero_div]
  cases negative with
  | false | true => rfl

/-- A verbosity that equals zero before it is read is zero when it is read. -/
lemma Settings.eq_zero_of_natural {v : Value} {n : ℕ} (hzero : v.differsFromZero = false)
    (hread : natural v = .ok n) : n = 0 := by
  cases v with
  | none | text | list | record => cases hzero
  | bool b =>
    have hb : b = false := hzero
    subst hb
    cases hread
    rfl
  | int k =>
    have hk : k = 0 := by simpa [Value.differsFromZero] using hzero
    subst hk
    cases hread
    rfl
  | real x =>
    have hx : (x == 0) = true := by simpa [Value.differsFromZero, bne] using hzero
    obtain ⟨negative, hexact⟩ := Double.ofFloat?_of_beq_zero hx
    have hwhole : wholeReal x = .ok 0 := by
      unfold wholeReal
      rw [hexact]
      simp only [Exact.toInt?_zero]
      rfl
    simp only [natural, whole, hwhole] at hread
    cases hread
    rfl

namespace Algorithm

/-! ## Setters -/

/-- A setter, called with a value of any kind. -/
inductive Setter
  | verbosity (v : Value)
  | selection (v : Value)
  | replacement (v : Value)

/-- Call a setter. -/
def Setter.apply (a : Algorithm ω) : Setter → Except Fault (Algorithm ω)
  | .verbosity v => a.setVerbosity v
  | .selection v => a.setSelection v
  | .replacement v => a.setReplacement v

/-- The algorithm after a setter, which may have refused its value. -/
def Setter.after (a : Algorithm ω) (setter : Setter) : Algorithm ω :=
  match setter.apply a with
  | .ok b => b
  | .error _ => a

/-- The algorithm after a sequence of setters. -/
def after (a : Algorithm ω) (setters : List Setter) : Algorithm ω := setters.foldl Setter.after a

/-- What becomes of an algorithm by a setter that accepts its value.  The value stands in the
setter's own field as it reads, and all else is as it was.  A verbosity is accepted next to the
solver's own output only if it equals zero as it is. -/
inductive Revises (a : Algorithm ω) : Setter → Algorithm ω → Prop
  | verbosity {v : Value} {n : ℕ} (read : natural v = .ok n)
      (quiet : a.settings.screenOutput = true → v.differsFromZero = false) :
      Revises a (.verbosity v) { a with settings := { a.settings with verbosity := n } }
  | selection {v : Value} {p : Policy} (read : Policy.ofValue v = .ok p) :
      Revises a (.selection v) { a with settings := { a.settings with selection := p } }
  | replacement {v : Value} {p : Policy} (read : Policy.ofValue v = .ok p) :
      Revises a (.replacement v) { a with settings := { a.settings with replacement := p } }

/-- The settings can have been read, and the solver's own output does not go with a verbosity. -/
structure Consistent (a : Algorithm ω) : Prop where
  valid : a.settings.Valid
  exclusive : a.settings.screenOutput = true → a.settings.verbosity = 0

/-- What comes of a reading, in the terms of the setter that asked for it. -/
lemma map_eq_ok_iff {α : Type} {key : String} {r : Settings.Checked α} {put : α → Settings}
    {a b : Algorithm ω} :
    (do
      let settings ← ((under key r).map put).mapError Fault.invalid
      return { a with settings } : Except Fault (Algorithm ω)) = .ok b ↔
      ∃ x, r = .ok x ∧ b = { a with settings := put x } := by
  cases r with
  | error is =>
    constructor
    · intro h
      cases h
    · rintro ⟨x, h, -⟩
      cases h
  | ok x =>
    constructor
    · intro h
      cases h
      exact ⟨x, rfl, rfl⟩
    · rintro ⟨y, h, rfl⟩
      cases h
      rfl

lemma checkOutput_eq_ok_iff {screenOutput : Bool} {v : Value} :
    Settings.checkOutput screenOutput v = .ok () ↔
      (screenOutput = true → v.differsFromZero = false) := by
  cases screenOutput with
  | false => simp [Settings.checkOutput]
  | true =>
    cases h : v.differsFromZero with
    | false => simp [Settings.checkOutput, h]
    | true => simp [Settings.checkOutput, h]

lemma setVerbosity_eq_ok_iff {a b : Algorithm ω} (ha : a.settings.Valid) {v : Value} :
    a.setVerbosity v = .ok b ↔
      (a.settings.screenOutput = true → v.differsFromZero = false) ∧
        ∃ n, natural v = .ok n ∧ b = { a with settings := { a.settings with verbosity := n } } := by
  unfold setVerbosity Algorithm.set
  rw [Settings.update_verbosity ha, Action.outcome_bind_eq_ok_iff]
  simp only [map_eq_ok_iff, Settings.checked_eq_ok_iff]
  constructor
  · rintro ⟨_, houtput, hread⟩
    exact ⟨checkOutput_eq_ok_iff.mp houtput, hread⟩
  · rintro ⟨hquiet, hread⟩
    exact ⟨(), checkOutput_eq_ok_iff.mpr hquiet, hread⟩

/-- A setter of an algorithm with valid settings accepts exactly the values that read, and changes
its own field only. -/
theorem apply_eq_ok_iff {a b : Algorithm ω} (ha : a.settings.Valid) (setter : Setter) :
    setter.apply a = .ok b ↔ Revises a setter b := by
  cases setter with
  | verbosity v =>
    show a.setVerbosity v = .ok b ↔ _
    rw [setVerbosity_eq_ok_iff ha]
    constructor
    · rintro ⟨hquiet, n, hread, rfl⟩
      exact .verbosity hread hquiet
    · rintro (_ | _)
      exact ⟨‹_›, _, ‹_›, rfl⟩
  | selection v =>
    show a.set "selection" v = .ok b ↔ _
    rw [Algorithm.set, Settings.update_selection ha, map_eq_ok_iff]
    constructor
    · rintro ⟨p, hread, rfl⟩
      exact .selection hread
    · rintro (_ | _)
      exact ⟨_, ‹_›, rfl⟩
  | replacement v =>
    show a.set "replacement" v = .ok b ↔ _
    rw [Algorithm.set, Settings.update_replacement ha, map_eq_ok_iff]
    constructor
    · rintro ⟨p, hread, rfl⟩
      exact .replacement hread
    · rintro (_ | _)
      exact ⟨_, ‹_›, rfl⟩

/-! ## Sequences of setters -/

/-- A setter that accepts its value keeps an algorithm consistent. -/
lemma consistent_of_revises {a b : Algorithm ω} {setter : Setter} (ha : a.Consistent)
    (h : Revises a setter b) : b.Consistent := by
  cases h with
  | verbosity hread hquiet =>
    refine ⟨⟨ha.valid.library, ha.valid.paramFile⟩, fun hscreen => ?_⟩
    exact Settings.eq_zero_of_natural (hquiet hscreen) hread
  | selection | replacement =>
    exact ⟨⟨ha.valid.library, ha.valid.paramFile⟩, ha.exclusive⟩

/-- A setter has refused its value and left the algorithm, or it has revised the algorithm. -/
lemma apply_cases {a : Algorithm ω} (ha : a.settings.Valid) (setter : Setter) :
    (∃ fault, setter.apply a = .error fault ∧ setter.after a = a) ∨
      setter.apply a = .ok (setter.after a) ∧ Revises a setter (setter.after a) := by
  unfold Setter.after
  cases h : setter.apply a with
  | error fault => exact .inl ⟨fault, rfl, rfl⟩
  | ok b => exact .inr ⟨rfl, (apply_eq_ok_iff ha setter).mp h⟩

lemma consistent_after {a : Algorithm ω} (ha : a.Consistent) (setters : List Setter) :
    (a.after setters).Consistent := by
  induction setters generalizing a with
  | nil => exact ha
  | cons setter setters ih =>
    refine ih ?_
    rcases apply_cases ha.valid setter with ⟨_, -, hsame⟩ | ⟨-, hrevises⟩
    · rw [hsame]
      exact ha
    · exact consistent_of_revises ha hrevises

/-- An algorithm as it is made: of settings that have been read before, or of a value of any kind, or
of none. -/
inductive Made : Algorithm ω → Prop
  | ofSettings {v : Value} {s : Settings} {entropy : ℕ} {a : Algorithm ω}
      (read : Settings.ofValue v = .ok s) (accepted : ofSettings s entropy = .ok a) : Made a
  | ofValue {value : Option Value} {entropy : ℕ} {a : Algorithm ω}
      (accepted : ofValue value entropy = .ok a) : Made a

lemma consistent_ofSettings {s : Settings} {entropy : ℕ} {a : Algorithm ω} (hs : s.Valid)
    (h : ofSettings s entropy = .ok a) : a.Consistent := by
  obtain ⟨_, houtput, h⟩ := Action.outcome_bind_eq_ok_iff.mp h
  cases h
  refine ⟨hs, fun hscreen => ?_⟩
  have hzero := checkOutput_eq_ok_iff.mp houtput hscreen
  exact Settings.eq_zero_of_natural hzero (Settings.natural_int _)

lemma Settings.valid_default : Settings.default.Valid :=
  Settings.valid_of_ofValue (v := .record []) rfl

lemma Settings.valid_of_validate {v : Value} {s : Settings} (h : Settings.validate v = .ok s) :
    s.Valid := by
  unfold Settings.validate at h
  cases hread : Settings.ofValue v with
  | error is =>
    rw [hread] at h
    cases h
  | ok t =>
    rw [hread] at h
    cases h
    exact Settings.valid_of_ofValue hread

/-- An algorithm is consistent when it is made. -/
lemma consistent_of_made {a : Algorithm ω} (h : Made a) : a.Consistent := by
  cases h with
  | ofSettings hread haccepted =>
    exact consistent_ofSettings (Settings.valid_of_ofValue hread) haccepted
  | @ofValue value entropy _ haccepted =>
    cases value with
    | none => exact consistent_ofSettings Settings.valid_default haccepted
    | some v =>
      obtain ⟨s, hs, haccepted⟩ := Action.outcome_bind_eq_ok_iff.mp haccepted
      exact consistent_ofSettings (Settings.valid_of_validate hs) haccepted

lemma after_append (a : Algorithm ω) (setters : List Setter) (setter : Setter) :
    a.after (setters ++ [setter]) = setter.after (a.after setters) := by
  simp [after]

/-- **The settings of an algorithm.**  After any sequence of setters with values of any kind, some of
which may have been refused, the solver's own output does not go with a verbosity.  The next setter
either refuses its value and leaves the algorithm as it was, or revises it: its own field holds the
value as it reads, and all else is as it was; and it refuses no value that it can revise the
algorithm with.  Settings that have been read at all read back as themselves. -/
theorem settings_of_setters {a : Algorithm ω} (made : Made a) (setters : List Setter) :
    ((a.after setters).settings.screenOutput = true → (a.after setters).settings.verbosity = 0) ∧
    (∀ setter : Setter,
      ((∃ fault, setter.apply (a.after setters) = .error fault ∧
          a.after (setters ++ [setter]) = a.after setters) ∨
        setter.apply (a.after setters) = .ok (a.after (setters ++ [setter])) ∧
          Revises (a.after setters) setter (a.after (setters ++ [setter]))) ∧
      ∀ b, Revises (a.after setters) setter b → setter.apply (a.after setters) = .ok b) ∧
    ∀ v s, Settings.ofValue v = .ok s → Settings.ofValue s.toValue = .ok s := by
  have hconsistent := consistent_after (consistent_of_made made) setters
  refine ⟨hconsistent.exclusive, fun setter => ⟨?_, fun b hb => ?_⟩, fun v s hread => ?_⟩
  · rw [after_append]
    exact apply_cases hconsistent.valid setter
  · exact (apply_eq_ok_iff hconsistent.valid setter).mpr hb
  · exact Settings.ofValue_toValue (Settings.valid_of_ofValue hread)

/-- Settings of a solver that writes its own output, with a path and a policy that have to be
brought into shape. -/
def outspoken : Value :=
  .record [("library", .text "lib//./solver.so"), ("screen_output", .text "Yes"),
    ("selection", .text " Worst ")]

/-- Three setters, the first of which is refused by these settings. -/
def outspokenSetters : List Setter :=
  [.verbosity (.int 5), .replacement (.text "3 "), .verbosity (.real (-0.0)), .replacement (.int 3)]

/-- What comes of the setters that are not refused.  The path and the selection stay as they were
first read. -/
def outspokenSettings : Settings :=
  { Settings.default with
    library := Path.ofString "lib/solver.so"
    screenOutput := true
    selection := .strategy .worst
    replacement := .index 3 }

theorem settings_of_setters_outspoken :
    ∃ a : Algorithm Unit, Made a ∧ (a.after outspokenSetters).settings = outspokenSettings ∧
      (a.after outspokenSetters).settings.verbosity = 0 := by
  have hsettings : ((ofValue (some outspoken) 0 : Except Fault (Algorithm Unit)).map fun a =>
      (a.after outspokenSetters).settings) = .ok outspokenSettings := by
    decide +kernel
  cases ha : (ofValue (some outspoken) 0 : Except Fault (Algorithm Unit)) with
  | error fault =>
    rw [ha] at hsettings
    cases hsettings
  | ok a =>
    rw [ha] at hsettings
    have hafter : (a.after outspokenSetters).settings = outspokenSettings :=
      Except.ok.inj hsettings
    have hmade : Made a := .ofValue ha
    refine ⟨a, hmade, hafter, (settings_of_setters hmade outspokenSetters).1 ?_⟩
    rw [hafter]
    rfl

end Algorithm

end ReverseComm
