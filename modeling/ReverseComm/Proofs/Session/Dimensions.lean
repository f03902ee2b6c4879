import ReverseComm.Proofs.Session.Bounds
import ReverseComm.Rehearsal.Script

/-!
# Declared dimensions

A session is told how many variables and constraints a problem has, and the solver allocates its
buffers by these numbers.  On the way they pass through fields of 32 bits, which keep a number only
up to multiples of `2 ^ 32`.  Nothing looks at them before: every pair of numbers is accepted.

`HasEntries` says what a dimension is good for: there are so many entries to look at, and the
vectors that may be written are those of that length.  Once the buffers are allocated, they have as
many entries as were declared exactly if that number is neither negative nor as large as `2 ^ 31`
(`entries_of_declared`).  Any other number stands for the one that the field has kept of it.  If
that is negative, the buffer cannot be used; otherwise the solve goes on with a dimension that
nobody has declared.

The solver is asked to allocate what the fields say and to leave the fields alone
(`Library.Allocates`).  A scripted solver does so, unless it is told to leave buffers out
(`Rehearsal.Script.allocates_library`).
-/

namespace ReverseComm

open ReverseComm.Action

/-! ## Fields of 32 bits -/

/-- A field of 32 bits keeps the numbers of its range. -/
lemma bmod_eq_self_iff {d : ℤ} : d.bmod (2 ^ 32) = d ↔ -(2 ^ 31) ≤ d ∧ d < 2 ^ 31 := by
  rw [Int.bmod_eq_iff (by decide)]
  simp

lemma BufferName.mem_all (name : BufferName) : name ∈ all := by cases name <;> decide

/-- How many entries a buffer should have, for `n` variables and `m` constraints. -/
def BufferName.dimension (n m : ℤ) (name : BufferName) : ℤ := if name.perVariable then n else m

/-- Initialization leaves the dimensions alone, and allocates every buffer that should have
entries with as many as they say. -/
def Library.Allocates {ω : Type} (L : Library ω) : Prop :=
  ∀ before after, (L.call .init).runOn before = (.ok (), after) →
    after.memory.lengthOf = before.memory.lengthOf ∧
    ∀ name, 0 < after.memory.lengthOf name →
      ∃ xs, after.memory.buffers.get name = some xs ∧ xs.length = after.memory.lengthOf name

/-! ## A solver that allocates -/

namespace Rehearsal.Script

/-- As many zeros as a buffer should have entries. -/
def zeros (m : Memory) (name : BufferName) : List Float :=
  List.replicate (m.lengthOf name).toNat 0

/-- Allocate one buffer. -/
def place (s : Script) (m : Memory) (name : BufferName) : Except Fault Memory :=
  if s.unallocated.contains name then .ok { m with buffers := m.buffers.put name none }
  else if m.lengthOf name < 0 then .error (.value .negativeLength)
  else .ok { m with buffers := m.buffers.put name (some (zeros m name)) }

lemma allocate_eq_foldlM (s : Script) (m : Memory) :
    s.allocate m = BufferName.all.foldlM s.place m := rfl

variable {s : Script} {m m' : Memory}

lemma place_eq_ok (h : s.unallocated = []) {name : BufferName}
    (hplace : s.place m name = .ok m') :
    m' = { m with buffers := m.buffers.put name (some (zeros m name)) } := by
  unfold place at hplace
  rw [h, if_neg (by simp)] at hplace
  split at hplace
  · cases hplace
  · cases hplace
    rfl

/-- Buffers are allocated one after the other, by dimensions that stay as they are. -/
lemma foldlM_place_eq_ok (h : s.unallocated = []) {names : List BufferName}
    (hplaces : names.foldlM s.place m = .ok m') :
    m'.lengthOf = m.lengthOf ∧ ∀ name, m'.buffers.get name =
      if name ∈ names then some (zeros m name) else m.buffers.get name := by
  induction names generalizing m with
  | nil =>
    cases hplaces
    exact ⟨rfl, fun name => by simp⟩
  | cons first names ih =>
    obtain ⟨m₁, hfirst, hplaces⟩ := outcome_bind_eq_ok_iff.mp hplaces
    obtain rfl := place_eq_ok h hfirst
    obtain ⟨hlength, hget⟩ := ih hplaces
    refine ⟨hlength, fun name => ?_⟩
    rw [hget name]
    by_cases hname : name ∈ names
    · rw [if_pos hname, if_pos (List.mem_cons_of_mem _ hname)]
      rfl
    · rw [if_neg hname]
      by_cases hne : first = name
      · subst hne
        rw [if_pos List.mem_cons_self, Buffers.get_put_self]
      · have hmem : name ∉ first :: names := by simp [hname, Ne.symm hne]
        rw [if_neg hmem, Buffers.get_put_of_ne _ hne]

/-- What the fields and the buffers of a memory say. -/
def layout (n : Native Record) : (BufferName → ℤ) × Buffers :=
  (n.memory.lengthOf, n.memory.buffers)

lemma keeps_layout_begin (s : Script) (e : EntryPoint) (event : Event) :
    (s.begin e event).Keeps (Same layout) := by
  refine Keeps.bind (keeps_modify fun n => rfl) fun _ => ?_
  split
  · exact keeps_throw _
  · exact keeps_pure _

lemma keeps_layout_raiseAll (codes : List ℤ) : (raiseAll codes).Keeps (Same layout) := by
  refine keeps_forM fun code => (keeps_liftExcept _).bind fun i => keeps_modify fun n => ?_
  show ((n.memory.raise i).lengthOf, (n.memory.raise i).buffers) = layout n
  unfold Memory.raise
  split
  · rfl
  · rfl

/-- A scripted solver allocates, unless its script leaves buffers out. -/
theorem allocates_library (h : s.unallocated = []) (isFile : Path → Bool) (path : Path) :
    (s.library isFile path).Allocates := by
  intro before after hcall
  obtain ⟨_, n₁, hbegin, hrun⟩ := runOn_bind_eq_ok_iff.mp hcall
  obtain ⟨_, _, hget, hrun⟩ := runOn_bind_eq_ok_iff.mp hrun
  cases hget
  obtain ⟨m', _, hallocate, hrun⟩ := runOn_bind_eq_ok_iff.mp hrun
  rw [runOn_liftExcept] at hallocate
  obtain ⟨hplaces, rfl⟩ := Prod.mk.inj hallocate
  obtain ⟨_, n₂, hchange, hraise⟩ := runOn_bind_eq_ok_iff.mp hrun
  cases hchange
  have hbefore : layout n₁ = layout before := (keeps_layout_begin s _ _).run hbegin
  have hafter : layout after = (m'.lengthOf, m'.buffers) :=
    (keeps_layout_raiseAll s.firstRequests).run hraise
  obtain ⟨hlength, hget⟩ := foldlM_place_eq_ok h ((allocate_eq_foldlM s _).symm.trans hplaces)
  obtain ⟨hbeforeLength, -⟩ := Prod.mk.inj hbefore
  obtain ⟨hafterLength, hafterBuffers⟩ := Prod.mk.inj hafter
  have hafterLength' : after.memory.lengthOf = n₁.memory.lengthOf := hafterLength.trans hlength
  refine ⟨hafterLength'.trans hbeforeLength, fun name hpos => ⟨zeros n₁.memory name, ?_, ?_⟩⟩
  · rw [hafterBuffers, hget, if_pos (BufferName.mem_all name)]
  · rw [hafterLength'] at hpos ⊢
    rw [zeros, List.length_replicate, Int.toNat_of_nonneg hpos.le]

end Rehearsal.Script

namespace Session

variable {ω : Type} {L : Library ω} {s t u : Session ω} {name : BufferName} {d d' n m : ℤ}

/-! ## What a dimension is good for -/

/-- A buffer has `d` entries: there are so many to look at, and what may be written into it are the
vectors of that length. -/
structure HasEntries (s : Session ω) (name : BufferName) (d : ℤ) : Prop where
  content : ∃ xs, s.buffer name = .ok xs ∧ xs.length = d
  accepts : ∀ values, (∃ s', (fill name values).runOn s = (.ok (), s')) ↔
    ∃ xs : List Float, values = .vector xs ∧ xs.length = d

/-- A buffer cannot be used: whoever looks at it or writes into it is refused. -/
def Unusable (s : Session ω) (name : BufferName) : Prop :=
  ∃ fault, s.buffer name = .error fault ∧
    ∀ values, (fill name values).runOn s = (.error fault, s)

lemma hasEntries_of_buffer {xs : List Float} (h : s.buffer name = .ok xs) :
    s.HasEntries name xs.length where
  content := ⟨xs, h, rfl⟩
  accepts values := by
    simp only [fill_eq_ok_iff h]
    constructor
    · rintro ⟨s', ys, hys, hlength, -⟩
      exact ⟨ys, hys, congrArg Nat.cast hlength⟩
    · rintro ⟨ys, hys, hlength⟩
      exact ⟨_, ys, hys, Int.ofNat_inj.mp hlength, rfl⟩

lemma unusable_of_buffer {fault : Fault} (h : s.buffer name = .error fault) :
    s.Unusable name := by
  refine ⟨fault, h, fun values => ?_⟩
  rw [fill, runOn_bind_of_ok (runOn_get s), runOn_bind, runOn_liftExcept, h]

/-- A buffer has one number of entries at most. -/
lemma HasEntries.eq (h : s.HasEntries name d) (h' : s.HasEntries name d') : d = d' := by
  obtain ⟨xs, hxs, rfl⟩ := h.content
  obtain ⟨ys, hys, rfl⟩ := h'.content
  obtain rfl := Except.ok.inj (hxs.symm.trans hys)
  rfl

lemma Unusable.not_hasEntries (h : s.Unusable name) : ¬ s.HasEntries name d := by
  rintro ⟨⟨xs, hxs, -⟩, -⟩
  obtain ⟨fault, hfault, -⟩ := h
  rw [hxs] at hfault
  cases hfault

/-! ## Allocation -/

/-- The buffers are allocated, and each that should have entries has as many as the dimensions
say. -/
structure Allocated (s : Session ω) : Prop where
  stage : Stage.allocated s.stage = true
  entries : ∀ name, 0 < s.memory.lengthOf name →
    ∃ xs, s.memory.buffers.get name = some xs ∧ xs.length = s.memory.lengthOf name

lemma Allocated.hasEntries (hs : s.Allocated) (h : 0 ≤ s.memory.lengthOf name) :
    s.HasEntries name (s.memory.lengthOf name) := by
  rcases h.eq_or_lt with hzero | hpos
  · have hbuffer := buffer_eq_ok_iff.mpr ⟨hs.stage, .inl ⟨hzero.symm, rfl⟩⟩
    rw [← hzero]
    exact hasEntries_of_buffer hbuffer
  · obtain ⟨xs, hxs, hlength⟩ := hs.entries name hpos
    have hbuffer := buffer_eq_ok_iff.mpr ⟨hs.stage, .inr ⟨hpos, hxs⟩⟩
    rw [← hlength]
    exact hasEntries_of_buffer hbuffer

lemma unusable_of_lengthOf_neg (h : s.memory.lengthOf name < 0) : s.Unusable name := by
  cases hbuffer : s.buffer name with
  | error fault => exact unusable_of_buffer hbuffer
  | ok xs =>
    obtain ⟨-, ⟨hzero, -⟩ | ⟨hpos, -⟩⟩ := buffer_eq_ok_iff.mp hbuffer
    · omega
    · omega

/-! ## Declaring dimensions and allocating -/

/-- The session once dimensions have been declared. -/
def declared (s : Session ω) (n m : ℤ) : Session ω :=
  { s with
    memory :=
      { s.memory with
        variableCount := Int32.ofInt n
        constraintCount := Int32.ofInt m
        entryCounts := ⟨denseMatrix, denseMatrix, denseMatrix⟩ }
    stage := some .sized }

/-- Dimensions are declared whatever they are, if the session has come to it. -/
lemma runOn_declare (s : Session ω) (n m : ℤ) :
    (declare (.ok n) (.ok m)).runOn s =
      if s.stage = some .paramsLoaded then (.ok (), s.declared n m)
      else (.error (.stage (some .paramsLoaded) s.stage), s) := by
  rw [declare, runOn_require_bind]
  rfl

lemma lengthOf_declared (s : Session ω) (n m : ℤ) (name : BufferName) :
    (s.declared n m).memory.lengthOf name = (name.dimension n m).bmod (2 ^ 32) := by
  unfold Memory.lengthOf BufferName.dimension declared
  split
  · exact Int32.toInt_ofInt
  · exact Int32.toInt_ofInt

/-- An initialization that succeeds has made its call, and reaches its stage. -/
lemma init_eq_ok (h : (init L).runOn s = (.ok (), t)) :
    ∃ after, (L.call .init).runOn ⟨s.memory, s.hidden⟩ = (.ok (), after) ∧
      t.memory = after.memory ∧ t.stage = some .initialized := by
  rw [init, runOn_require_bind] at h
  split at h
  · obtain ⟨_, _, hcall, h⟩ := runOn_bind_eq_ok_iff.mp h
    rw [runOn_call] at hcall
    obtain ⟨houtcome, rfl⟩ := Prod.mk.inj hcall
    cases h
    exact ⟨_, Prod.ext houtcome rfl, rfl, rfl⟩
  · cases h

lemma allocated_of_init (hL : L.Allocates) (h : (init L).runOn s = (.ok (), t)) :
    t.Allocated ∧ t.memory.lengthOf = s.memory.lengthOf := by
  obtain ⟨after, hcall, hmemory, hstage⟩ := init_eq_ok h
  obtain ⟨hlength, hentries⟩ := hL _ _ hcall
  refine ⟨⟨?_, ?_⟩, ?_⟩
  · rw [hstage]
    rfl
  · rw [hmemory]
    exact hentries
  · rw [hmemory, hlength]

/-- **Declared dimensions.**  Dimensions are declared whatever they are.  Once the solver has
allocated its buffers, a buffer has as many entries as were declared for it exactly if that number
is neither negative nor as large as `2 ^ 31`.  In any case it has as many as a field of 32 bits has
kept of the number, and if that is negative, it cannot be used. -/
theorem entries_of_declared (hL : L.Allocates) (s : Session ω) (n m : ℤ) :
    (s.stage = some .paramsLoaded → ∃ t, (declare (.ok n) (.ok m)).runOn s = (.ok (), t)) ∧
    ∀ t u, (declare (.ok n) (.ok m)).runOn s = (.ok (), t) → (init L).runOn t = (.ok (), u) →
      ∀ name : BufferName,
        (u.HasEntries name (name.dimension n m) ↔
          0 ≤ name.dimension n m ∧ name.dimension n m < 2 ^ 31) ∧
        (0 ≤ (name.dimension n m).bmod (2 ^ 32) →
          u.HasEntries name ((name.dimension n m).bmod (2 ^ 32))) ∧
        ((name.dimension n m).bmod (2 ^ 32) < 0 → u.Unusable name) := by
  have hdeclare := runOn_declare s n m
  refine ⟨fun hstage => ⟨_, hdeclare.trans (if_pos hstage)⟩, fun t u ht hu name => ?_⟩
  obtain rfl : t = s.declared n m := by
    rw [hdeclare] at ht
    split at ht
    · cases ht
      rfl
    · cases ht
  obtain ⟨hallocated, hlength⟩ := allocated_of_init hL hu
  have hkept : u.memory.lengthOf name = (name.dimension n m).bmod (2 ^ 32) := by
    rw [hlength, lengthOf_declared]
  have hsized : 0 ≤ (name.dimension n m).bmod (2 ^ 32) →
      u.HasEntries name ((name.dimension n m).bmod (2 ^ 32)) := by
    rw [← hkept]
    exact hallocated.hasEntries
  have hrefused : (name.dimension n m).bmod (2 ^ 32) < 0 → u.Unusable name := by
    rw [← hkept]
    exact unusable_of_lengthOf_neg
  refine ⟨⟨fun h => ?_, fun h => ?_⟩, hsized, hrefused⟩
  · have hnonneg : 0 ≤ (name.dimension n m).bmod (2 ^ 32) := by
      by_contra hneg
      exact (hrefused (not_le.mp hneg)).not_hasEntries h
    have hself : (name.dimension n m).bmod (2 ^ 32) = name.dimension n m := (hsized hnonneg).eq h
    have hrange := bmod_eq_self_iff.mp hself
    rw [hself] at hnonneg
    exact ⟨hnonneg, hrange.2⟩
  · have hself : (name.dimension n m).bmod (2 ^ 32) = name.dimension n m :=
      bmod_eq_self_iff.mpr ⟨by omega, h.2⟩
    rw [← hself]
    exact hsized (by omega)

/-- A solver whose script does nothing beyond its duties. -/
def dutifulScript : Rehearsal.Script where
  cues := []
  scale := 1
  infinity := 1e20
  paramCount := none
  firstStatus := 0
  firstRequests := [0]
  lastStatus := 1000
  successThreshold := ReverseComm.successThreshold
  errorThreshold := ReverseComm.errorThreshold
  unallocated := []
  failing := []
  traced := false

/-- The library of that solver. -/
def dutiful : Library Rehearsal.Record := dutifulScript.library (fun _ => false) (.ofString "dutiful")

lemma allocates_dutiful : dutiful.Allocates :=
  Rehearsal.Script.allocates_library rfl _ _

/-- A session that waits for its dimensions. -/
def undeclared : Session Rehearsal.Record :=
  { start [] .blank with stage := some .paramsLoaded }

/-- That session with its dimensions, once the solver has allocated its buffers. -/
def initialized (n m : ℤ) : Session Rehearsal.Record :=
  ((init dutiful).runOn (undeclared.declared n m)).2

lemma runOn_init_of_ok (h : ((init dutiful).runOn (undeclared.declared n m)).1 = .ok ()) :
    (init dutiful).runOn (undeclared.declared n m) = (.ok (), initialized n m) :=
  Prod.ext h rfl

/-- Three variables and no constraints. -/
theorem entries_of_declared_three :
    dutiful.Allocates ∧
    (declare (.ok 3) (.ok 0)).runOn undeclared = (.ok (), undeclared.declared 3 0) ∧
    (init dutiful).runOn (undeclared.declared 3 0) = (.ok (), initialized 3 0) ∧
    (initialized 3 0).HasEntries .decision 3 ∧ (initialized 3 0).HasEntries .constraints 0 := by
  have hdeclare := (runOn_declare undeclared 3 0).trans (if_pos rfl)
  have hinit : (init dutiful).runOn (undeclared.declared 3 0) = (.ok (), initialized 3 0) :=
    runOn_init_of_ok (by decide +kernel)
  have hentries := (entries_of_declared allocates_dutiful undeclared 3 0).2 _ _ hdeclare hinit
  exact ⟨allocates_dutiful, hdeclare, hinit, (hentries .decision).1.mpr (by decide),
    (hentries .constraints).1.mpr (by decide)⟩

/-- The least number of variables above one that is declared like one: the solve goes on with a
single variable. -/
theorem declared_dimension_changes :
    dutiful.Allocates ∧
    (declare (.ok 4294967297) (.ok 0)).runOn undeclared =
      (.ok (), undeclared.declared 4294967297 0) ∧
    (init dutiful).runOn (undeclared.declared 4294967297 0) = (.ok (), initialized 4294967297 0) ∧
    (initialized 4294967297 0).HasEntries .decision 1 ∧
    ¬ (initialized 4294967297 0).HasEntries .decision 4294967297 := by
  have hdeclare := (runOn_declare undeclared 4294967297 0).trans (if_pos rfl)
  have hinit : (init dutiful).runOn (undeclared.declared 4294967297 0) =
      (.ok (), initialized 4294967297 0) := runOn_init_of_ok (by decide +kernel)
  have hbuffer : (initialized 4294967297 0).buffer .decision = .ok [0] := by decide +kernel
  have hone : (initialized 4294967297 0).HasEntries .decision 1 := hasEntries_of_buffer hbuffer
  exact ⟨allocates_dutiful, hdeclare, hinit, hone, fun h => absurd (hone.eq h) (by decide)⟩

end Session

end ReverseComm
