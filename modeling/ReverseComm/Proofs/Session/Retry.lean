import ReverseComm.Proofs.Session.Bounds

/-!
# Seeding again

Seeding a session writes parameters, buffers and the objective one after the other, and breaks off at
the first thing that does not fit.  What was written by then stays, so a session that has refused a
seeding is half seeded.  It may be seeded again, and then nothing is left of the attempts before
(`retry_leaves_no_trace`): the session is the one that it would be without them.

The reason is that a seeding which succeeds writes over everything that an attempt can have reached.
`laid` puts a start into a session as a whole, and of two writes into one buffer only the second one
stays (`laid_wrote`), so what an attempt has written does not show once a start is laid over it
(`atomic_apply`).  Whether a start is accepted depends on the lengths of the buffers, and these an
attempt leaves as they are (`keeps_holds_apply`).
-/

namespace ReverseComm

open ReverseComm.Action

/-- A tensor whose first part is a number, and whose other parts are those of a vector, is a
vector. -/
lemma Tensor.eq_vector_cons {f g : Tensor} {y : Float} {m : ℕ}
    (hfirst : (f.first >>= Tensor.toNumber) = .ok y) (hrest : f.rest = .ok g)
    (hg : g.shape = [m]) : f = .vector (y :: g.entries) := by
  have hshape : ∃ n, f.shape = [n + 1] := by
    obtain ⟨t, ht, -⟩ := outcome_bind_eq_ok_iff.mp hfirst
    unfold first at ht
    unfold rest at hrest
    split at ht
    · cases ht
    · cases ht
    · rename_i n shape hs
      split at hrest
      · cases hrest
      · rename_i n' shape' hs'
        cases hrest
        obtain ⟨-, rfl⟩ := List.cons.inj hg
        exact ⟨n, by rw [hs, (List.cons.inj (hs.symm.trans hs')).2]⟩
  obtain ⟨n, hn⟩ := hshape
  obtain ⟨z, zs, hzs⟩ : ∃ z zs, f.entries = z :: zs :=
    List.exists_cons_of_length_eq_add_one (Tensor.length_of_shape hn)
  obtain rfl : f = .vector (z :: zs) := (Tensor.eq_vector_of_shape hn).trans (congrArg _ hzs)
  rw [Tensor.rest_vector] at hrest
  rw [Tensor.first_vector_cons] at hfirst
  cases hrest
  cases hfirst
  rfl

namespace Session

variable {ω : Type} {s s' t : Session ω} {k m : ℕ} {screenOutput : Bool}

/-! ## Starts -/

/-- What a solve starts from: a candidate, and bounds of the variables and of the constraints. -/
structure Start where
  x : List Float
  objective : Float
  constraints : List Float
  lower : List Float
  upper : List Float
  /-- How many of the constraints are equalities. -/
  equalities : ℕ

/-- What a session is offered to be seeded with. -/
structure Seeding where
  x : Offer
  f : Offer
  lower : Offer
  upper : Offer
  equalities : Except Fault ℤ

/-- Seed a session. -/
def Seeding.apply (screenOutput : Bool) (a : Seeding) : Action (Session ω) Unit :=
  seed screenOutput a.x a.f a.lower a.upper a.equalities

/-- A start as it is offered. -/
def Start.offered (c : Start) : Seeding where
  x := .vector c.x
  f := .vector (c.objective :: c.constraints)
  lower := .vector c.lower
  upper := .vector c.upper
  equalities := .ok c.equalities

/-- A start has `k` variables and `m` constraints. -/
structure Start.Fits (c : Start) (k m : ℕ) : Prop where
  x : c.x.length = k
  constraints : c.constraints.length = m
  lower : c.lower.length = k
  upper : c.upper.length = k
  equalities : c.equalities ≤ m

/-- The session with the parameters of a solve. -/
def configured (screenOutput : Bool) (s : Session ω) : Session ω :=
  { s with memory.parameters := seedParameters screenOutput s.memory.parameters }

/-- The session once a candidate has been written. -/
def placed (s : Session ω) (x : List Float) (objective : Float) (constraints : List Float) :
    Session ω :=
  { s.wrote .decision x with
    memory.objective := s.objectiveScale * objective }.wrote .constraints constraints

/-- A start laid over a session: everything that seeding writes but the stage. -/
def laid (screenOutput : Bool) (s : Session ω) (c : Start) : Session ω :=
  ((s.configured screenOutput).placed c.x c.objective c.constraints).bounded c.lower c.upper
    (constraintLowerBounds s.memory.parameters.infinity c.equalities c.constraints.length)
    (List.replicate c.constraints.length 0)

/-! ## What does not show under a start -/

lemma laid_configured (s : Session ω) :
    (s.configured screenOutput).laid screenOutput = s.laid screenOutput := by
  funext c
  cases screenOutput <;> rfl

lemma laid_objective (s : Session ω) (objective : Float) :
    { s with memory.objective := objective }.laid screenOutput = s.laid screenOutput := rfl

/-- Of two contents that are written into a buffer one after the other, the second one stays. -/
lemma laid_wrote (s : Session ω) {name : BufferName} (h : name.isSeeded = true)
    (xs : List Float) : (s.wrote name xs).laid screenOutput = s.laid screenOutput := by
  funext c
  cases name with
  | decisionMultipliers | constraintMultipliers => cases h
  | decision | decisionLower | decisionUpper | constraints | constraintLower | constraintUpper =>
    simp [laid, bounded, placed, configured, wrote, Memory.write, Buffers.put, Buffers.get,
      Function.comp_def]

/-- A seeding that is refused does not show under a start. -/
lemma atomic_apply (a : Seeding) :
    (a.apply screenOutput).Atomic (laid (ω := ω) screenOutput) := by
  refine (keeps_require _).bind_atomic fun _ => ?_
  refine Keeps.bind_atomic (keeps_modify fun s => laid_configured s) fun _ => ?_
  refine (keeps_writeCandidate (fun s _ h => laid_wrote s h) laid_objective _ _).bind_atomic
    fun _ => ?_
  refine (keeps_writeBounds (fun s _ h => laid_wrote s h) _ _ _).atomic.bind_total fun _ v => ?_
  exact ⟨(), _, runOn_reach _ v⟩

/-! ## The lengths of the buffers -/

lemma Holds.fill_eq_ok_iff (hs : s.Holds k m) {name : BufferName} {values : Offer} :
    (fill name values).runOn s = (.ok (), s') ↔
      ∃ xs, values = .vector xs ∧ xs.length = (if name.perVariable then k else m) ∧
        s' = s.wrote name xs := by
  obtain ⟨ys, hys, hlength⟩ := hs name
  rw [Session.fill_eq_ok_iff hys, hlength]

lemma keeps_holds_fill (name : BufferName) (values : Offer) :
    (fill name values).Keeps (Preserving fun s : Session ω => s.Holds k m) := by
  intro s hs
  cases values with
  | error fault =>
    obtain ⟨xs, hxs, -⟩ := hs name
    rw [fill, runOn_bind_of_ok (runOn_get s), runOn_bind_of_ok (runOn_read hxs)]
    exact hs
  | ok t =>
    rw [hs.runOn_fill]
    by_cases hshape : t.shape = [if name.perVariable then k else m]
    · rw [if_pos hshape]
      exact hs.wrote name (Tensor.length_of_shape hshape)
    · rw [if_neg hshape]
      exact hs

lemma keeps_holds_writeCandidate (x f : Offer) :
    (writeCandidate x f).Keeps (Preserving fun s : Session ω => s.Holds k m) := by
  refine (keeps_liftExcept _).bind fun t => ?_
  refine (keeps_holds_fill _ _).bind fun _ => ?_
  refine Keeps.bind ?_ fun _ => keeps_holds_fill _ _
  exact (keeps_liftExcept _).bind fun y => keeps_modify fun s hs => hs

/-- The bounds of the constraints are as many as there is room for. -/
lemma keeps_holds_writeBounds (lower upper : Offer) (equalities : Except Fault ℤ) :
    (writeBounds lower upper equalities).Keeps (Preserving fun s : Session ω => s.Holds k m) := by
  refine (keeps_holds_fill _ _).bind fun _ => (keeps_holds_fill _ _).bind fun _ => ?_
  intro s hs
  obtain ⟨below, hbelow, hbelowLength⟩ := hs .constraintLower
  obtain ⟨above, habove, haboveLength⟩ := hs .constraintUpper
  rw [runOn_bind_of_ok (runOn_get s), runOn_bind_of_ok (runOn_read hbelow),
    runOn_bind_of_ok (runOn_get s), runOn_bind_of_ok (runOn_read habove)]
  cases equalities with
  | error fault => exact hs
  | ok n =>
    rw [runOn_bind_of_ok (runOn_liftExcept (.ok n) s)]
    dsimp only
    split
    · exact hs
    · rename_i hn
      have hlower : (constraintLowerBounds s.memory.parameters.infinity n.toNat
          below.length).length = below.length := by
        simp [constraintLowerBounds]
        omega
      have hwrote := hs.wrote .constraintLower (hlower.trans hbelowLength)
      exact hwrote.wrote .constraintUpper (List.length_replicate.trans haboveLength)

/-- The stages in which the buffers are allocated show the same buffers. -/
lemma Holds.buffer_reached (hs : s.Holds k m) {stage : Stage}
    (hstage : Stage.allocated (some stage) = true) (name : BufferName) :
    { s with stage := some stage }.buffer name = s.buffer name := by
  obtain ⟨xs, hxs, -⟩ := hs name
  have hreached : { s with stage := some stage }.buffer name = .ok xs :=
    buffer_eq_ok_iff.mpr ⟨hstage, (buffer_eq_ok_iff.mp hxs).2⟩
  rw [hreached, hxs]

lemma Holds.reached (hs : s.Holds k m) {stage : Stage}
    (hstage : Stage.allocated (some stage) = true) :
    { s with stage := some stage }.Holds k m := by
  intro name
  rw [hs.buffer_reached hstage]
  exact hs name

/-- Seeding leaves the lengths of the buffers, whatever becomes of it. -/
lemma keeps_holds_apply (a : Seeding) :
    (a.apply screenOutput).Keeps (Preserving fun s : Session ω => s.Holds k m) := by
  refine (keeps_require _).bind fun _ => ?_
  refine Keeps.bind (keeps_modify fun s hs => hs) fun _ => ?_
  refine (keeps_holds_writeCandidate _ _).bind fun _ => ?_
  exact (keeps_holds_writeBounds _ _ _).bind fun _ => keeps_modify fun s hs => hs.reached rfl

/-! ## Seedings that succeed -/

lemma Holds.buffer_wrote (hs : s.Holds k m) {a : BufferName} {xs : List Float}
    (hlength : xs.length = if a.perVariable then k else m) (b : BufferName) :
    (s.wrote a xs).buffer b = if a = b then .ok xs else s.buffer b := by
  split
  · rename_i hab
    subst hab
    obtain ⟨ys, hys, hl⟩ := hs a
    exact buffer_wrote_self hys (hlength.trans hl.symm)
  · rename_i hab
    exact buffer_wrote_of_ne hab xs

lemma Holds.placed (hs : s.Holds k m) {xs gs : List Float} (y : Float) (hx : xs.length = k)
    (hg : gs.length = m) : (s.placed xs y gs).Holds k m := by
  have hwrote : ({ s.wrote .decision xs with
      memory.objective := s.objectiveScale * y } : Session ω).Holds k m := hs.wrote .decision hx
  exact hwrote.wrote .constraints hg

lemma Holds.buffer_placed (hs : s.Holds k m) {xs gs : List Float} (y : Float) (hx : xs.length = k)
    (hg : gs.length = m) (name : BufferName) : (s.placed xs y gs).buffer name =
      if .constraints = name then .ok gs else
      if .decision = name then .ok xs else s.buffer name := by
  have hwrote : ({ s.wrote .decision xs with
      memory.objective := s.objectiveScale * y } : Session ω).Holds k m := hs.wrote .decision hx
  rw [← hs.buffer_wrote hx]
  exact hwrote.buffer_wrote hg name

lemma Holds.writeCandidate_eq_ok_iff (hs : s.Holds k m) {x f : Offer} :
    (writeCandidate x f).runOn s = (.ok (), s') ↔
      ∃ xs y gs, x = .vector xs ∧ f = .vector (y :: gs) ∧ xs.length = k ∧ gs.length = m ∧
        s' = s.placed xs y gs := by
  have hscored : ∀ xs y, xs.length = k → ({ s.wrote .decision xs with
      memory.objective := s.objectiveScale * y } : Session ω).Holds k m :=
    fun xs y hx => hs.wrote .decision hx
  constructor
  · intro h
    obtain ⟨t, _, hf, h⟩ := runOn_bind_eq_ok_iff.mp h
    obtain ⟨_, _, hx, h⟩ := runOn_bind_eq_ok_iff.mp h
    obtain ⟨_, _, hy, h⟩ := runOn_bind_eq_ok_iff.mp h
    rw [runOn_liftExcept] at hf
    obtain ⟨rfl, rfl⟩ := Prod.mk.inj hf
    obtain ⟨xs, rfl, hxs, rfl⟩ := hs.fill_eq_ok_iff.mp hx
    obtain ⟨y, hfirst, rfl⟩ := writeObjective_eq_ok hy
    obtain ⟨gs, hrest, hgs, rfl⟩ := (hscored xs y hxs).fill_eq_ok_iff.mp h
    have ht := Tensor.eq_vector_cons hfirst hrest (congrArg (fun n => [n]) hgs)
    exact ⟨xs, y, gs, rfl, congrArg Except.ok ht, hxs, hgs, rfl⟩
  · rintro ⟨xs, y, gs, rfl, rfl, hxs, hgs, rfl⟩
    have hfill : (fill .decision (.vector xs)).runOn s = (.ok (), s.wrote .decision xs) :=
      hs.fill_eq_ok_iff.mpr ⟨xs, rfl, hxs, rfl⟩
    have hrest : (fill .constraints (.vector gs)).runOn { s.wrote .decision xs with
        memory.objective := s.objectiveScale * y } = (.ok (), s.placed xs y gs) :=
      (hscored xs y hxs).fill_eq_ok_iff.mpr ⟨gs, rfl, hgs, rfl⟩
    rw [writeCandidate, Offer.vector, runOn_bind_of_ok (runOn_liftExcept _ s), writeDecision,
      runOn_bind_of_ok hfill, writeObjective, Tensor.first_vector_cons, Tensor.rest_vector]
    exact hrest

lemma Holds.writeBounds_eq_ok_iff (hs : s.Holds k m) {lower upper : Offer}
    {equalities : Except Fault ℤ} :
    (writeBounds lower upper equalities).runOn s = (.ok (), s') ↔
      ∃ ls us, ∃ n : ℕ, lower = .vector ls ∧ upper = .vector us ∧ equalities = .ok n ∧
        ls.length = k ∧ us.length = k ∧ n ≤ m ∧
        s' = s.bounded ls us (constraintLowerBounds s.memory.parameters.infinity n m)
          (List.replicate m 0) := by
  have hshape : ∀ {xs : List Float}, xs.length = k → (Tensor.vector xs).shape = [k] :=
    fun hxs => congrArg (fun n => [n]) hxs
  constructor
  · intro h
    obtain ⟨_, _, hlower, hrun⟩ := runOn_bind_eq_ok_iff.mp h
    obtain ⟨ls, rfl, hls, rfl⟩ := hs.fill_eq_ok_iff.mp hlower
    obtain ⟨_, _, hupper, hrun⟩ := runOn_bind_eq_ok_iff.mp hrun
    obtain ⟨us, rfl, hus, rfl⟩ := (hs.wrote .decisionLower hls).fill_eq_ok_iff.mp hupper
    simp only [runOn_bind_eq_ok_iff, runOn_liftExcept, Prod.mk.injEq] at hrun
    obtain ⟨_, _, -, _, _, -, _, _, -, _, _, -, n, _, ⟨rfl, -⟩, -⟩ := hrun
    rw [Offer.vector, Offer.vector, runOn_writeBounds hs (hshape hls) (hshape hus)] at h
    by_cases hn : n < 0 ∨ (m : ℤ) < n
    · rw [if_pos hn] at h
      cases h
    · rw [if_neg hn] at h
      cases h
      obtain ⟨e, rfl⟩ := Int.eq_ofNat_of_zero_le (not_lt.mp fun h => hn (.inl h))
      exact ⟨ls, us, e, rfl, rfl, rfl, hls, hus, by omega, rfl⟩
  · rintro ⟨ls, us, n, rfl, rfl, rfl, hls, hus, hn, rfl⟩
    have hrun := runOn_writeBounds hs (hshape hls) (hshape hus) n
    rw [if_neg (by omega), Int.toNat_natCast] at hrun
    exact hrun

/-- The session once it has been seeded with a start. -/
def seededWith (screenOutput : Bool) (s : Session ω) (c : Start) : Session ω :=
  { s.laid screenOutput c with stage := some .seeded }

/-- In a session that is initialized, seeding starts with the parameters. -/
lemma runOn_apply (hstage : s.stage = some .initialized) (a : Seeding) :
    (a.apply screenOutput).runOn s =
      (do writeCandidate a.x a.f
          writeBounds a.lower a.upper a.equalities
          reach .seeded).runOn (s.configured screenOutput) := by
  rw [Seeding.apply, seed, runOn_require_bind, if_pos hstage]
  rfl

/-- A seeding succeeds exactly if it is offered a start that fits, and lays that over the session. -/
lemma Holds.apply_eq_ok_iff (hs : s.Holds k m) (hstage : s.stage = some .initialized)
    {a : Seeding} :
    (a.apply screenOutput).runOn s = (.ok (), s') ↔
      ∃ c : Start, a = c.offered ∧ c.Fits k m ∧ s' = s.seededWith screenOutput c := by
  have hconfigured : (s.configured screenOutput).Holds k m := hs
  rw [runOn_apply hstage]
  constructor
  · intro h
    obtain ⟨_, _, hcandidate, h⟩ := runOn_bind_eq_ok_iff.mp h
    obtain ⟨_, _, hbounds, h⟩ := runOn_bind_eq_ok_iff.mp h
    obtain ⟨xs, y, gs, hx, hf, hxs, hgs, rfl⟩ :=
      hconfigured.writeCandidate_eq_ok_iff.mp hcandidate
    obtain ⟨ls, us, n, hlower, hupper, hn, hls, hus, hle, rfl⟩ :=
      (hconfigured.placed y hxs hgs).writeBounds_eq_ok_iff.mp hbounds
    cases h
    refine ⟨⟨xs, y, gs, ls, us, n⟩, ?_, ⟨hxs, hgs, hls, hus, hle⟩, ?_⟩
    · cases a
      cases hx
      cases hf
      cases hlower
      cases hupper
      cases hn
      rfl
    · subst hgs
      rfl
  · rintro ⟨c, rfl, hc, rfl⟩
    have hcandidate := hconfigured.writeCandidate_eq_ok_iff.mpr
      ⟨c.x, c.objective, c.constraints, rfl, rfl, hc.x, hc.constraints, rfl⟩
    have hbounds := (hconfigured.placed c.objective hc.x hc.constraints).writeBounds_eq_ok_iff.mpr
      ⟨c.lower, c.upper, c.equalities, rfl, rfl, rfl, hc.lower, hc.upper, hc.equalities, rfl⟩
    rw [Start.offered, runOn_bind_of_ok hcandidate, runOn_bind_of_ok hbounds, runOn_reach]
    obtain ⟨hx, rfl, -⟩ := hc
    rfl

/-- What a session that has been seeded with a start holds: the start, the bounds of its
constraints, its objective at the scale of the session, and the parameters of a solve. -/
structure Start.Stands (c : Start) (screenOutput : Bool) (s s' : Session ω) : Prop where
  stage : s'.stage = some .seeded
  decision : s'.buffer .decision = .ok c.x
  constraints : s'.buffer .constraints = .ok c.constraints
  decisionLower : s'.buffer .decisionLower = .ok c.lower
  decisionUpper : s'.buffer .decisionUpper = .ok c.upper
  constraintLower : s'.buffer .constraintLower = .ok (List.replicate c.equalities 0 ++
    List.replicate (c.constraints.length - c.equalities) (-s.memory.parameters.infinity))
  constraintUpper : s'.buffer .constraintUpper = .ok (List.replicate c.constraints.length 0)
  objective : s'.memory.objective = s.objectiveScale * c.objective
  parameters : s'.memory.parameters = seedParameters screenOutput s.memory.parameters

lemma Holds.stands (hs : s.Holds k m) {c : Start} (hc : c.Fits k m) :
    c.Stands screenOutput s (s.seededWith screenOutput c) := by
  obtain ⟨hx, rfl, hl, hu, he⟩ := hc
  have hbelow : (constraintLowerBounds s.memory.parameters.infinity c.equalities
      c.constraints.length).length = c.constraints.length := by
    simp [constraintLowerBounds, he]
  have habove : (List.replicate c.constraints.length (0 : Float)).length = c.constraints.length :=
    List.length_replicate
  -- The buffers after each write, up to the last one.
  have h₀ : (s.configured screenOutput).Holds k c.constraints.length := hs
  have h₁ := h₀.placed c.objective hx rfl
  have h₂ := h₁.wrote .decisionLower hl
  have h₃ := h₂.wrote .decisionUpper hu
  have h₄ := h₃.wrote .constraintLower hbelow
  have h₅ := h₄.wrote .constraintUpper habove
  have hbuffer : ∀ name, (s.seededWith screenOutput c).buffer name =
      if .constraintUpper = name then .ok (List.replicate c.constraints.length 0) else
      if .constraintLower = name then .ok (constraintLowerBounds s.memory.parameters.infinity
        c.equalities c.constraints.length) else
      if .decisionUpper = name then .ok c.upper else
      if .decisionLower = name then .ok c.lower else
      if .constraints = name then .ok c.constraints else
      if .decision = name then .ok c.x else (s.configured screenOutput).buffer name := by
    intro name
    rw [← h₀.buffer_placed c.objective hx rfl, ← h₁.buffer_wrote hl, ← h₂.buffer_wrote hu,
      ← h₃.buffer_wrote hbelow, ← h₄.buffer_wrote habove]
    exact h₅.buffer_reached rfl name
  exact ⟨rfl, hbuffer _, hbuffer _, hbuffer _, hbuffer _, hbuffer _, hbuffer _, rfl, rfl⟩

/-! ## Retries -/

/-- Seedings that are refused one after the other, with the session before and after them. -/
inductive Retries (screenOutput : Bool) : Session ω → List Seeding → Session ω → Prop
  | none (s : Session ω) : Retries screenOutput s [] s
  | refused {s t u : Session ω} {a : Seeding} {as : List Seeding} {fault : Fault}
      (h : (a.apply screenOutput).runOn s = (.error fault, t))
      (later : Retries screenOutput t as u) : Retries screenOutput s (a :: as) u

variable {attempts : List Seeding}

lemma Retries.holds (h : Retries screenOutput s attempts t) (hs : s.Holds k m) : t.Holds k m := by
  induction h with
  | none s => exact hs
  | refused h later ih => exact ih ((keeps_holds_apply _).run h hs)

lemma Retries.laid_eq (h : Retries screenOutput s attempts t) :
    t.laid screenOutput = s.laid screenOutput := by
  induction h with
  | none s => rfl
  | refused h later ih => exact ih.trans (atomic_apply _ _ _ _ h)

/-- The stage shows through every start that is laid over a session. -/
lemma Retries.stage_eq (h : Retries screenOutput s attempts t) : t.stage = s.stage :=
  congrArg (fun lay => (lay ⟨[], 0, [], [], [], 0⟩).stage) h.laid_eq

/-- An initialized session stays initialized as long as seedings of it are refused.  The one that
succeeds is one that would have succeeded at once, and it leaves the session as it would have left it
then.  What it was offered is a start that fits, which the session holds from then on, and every start
that fits is accepted. -/
theorem retry_leaves_no_trace (hstage : s.stage = some .initialized) (hs : s.Holds k m)
    (h : Retries screenOutput s attempts t) :
    t.stage = some .initialized ∧
      (∀ (last : Seeding) s', (last.apply screenOutput).runOn t = (.ok (), s') ↔
        (last.apply screenOutput).runOn s = (.ok (), s')) ∧
      (∀ (last : Seeding) s', (last.apply screenOutput).runOn t = (.ok (), s') →
        ∃ c : Start, last = c.offered ∧ c.Fits k m ∧ c.Stands screenOutput s s') ∧
      ∀ c : Start, c.Fits k m → ∃ s', (c.offered.apply screenOutput).runOn t = (.ok (), s') := by
  have hstage' : t.stage = some .initialized := h.stage_eq.trans hstage
  have ht : t.Holds k m := h.holds hs
  have hseeded : t.seededWith screenOutput = s.seededWith screenOutput := by
    funext c
    rw [seededWith, h.laid_eq, seededWith]
  have hsame : ∀ (last : Seeding) s', (last.apply screenOutput).runOn t = (.ok (), s') ↔
      (last.apply screenOutput).runOn s = (.ok (), s') := by
    intro last s'
    rw [ht.apply_eq_ok_iff hstage', hs.apply_eq_ok_iff hstage, hseeded]
  refine ⟨hstage', hsame, fun last s' hlast => ?_, fun c hc => ?_⟩
  · obtain ⟨c, hoffered, hc, rfl⟩ := (hs.apply_eq_ok_iff hstage).mp ((hsame last s').mp hlast)
    exact ⟨c, hoffered, hc, hs.stands hc⟩
  · exact ⟨_, (ht.apply_eq_ok_iff hstage').mpr ⟨c, rfl, hc, rfl⟩⟩

/-- A seeding that is refused, whatever it leaves behind. -/
lemma Retries.of_fault {a : Seeding} {fault : Fault}
    (h : ((a.apply screenOutput).runOn s).1 = .error fault)
    (later : Retries screenOutput ((a.apply screenOutput).runOn s).2 attempts t) :
    Retries screenOutput s (a :: attempts) t :=
  .refused (Prod.ext h rfl) later

/-- A start of the small session. -/
def smallStart : Start := ⟨[2], 7, [-3, 4], [-1], [5], 1⟩

/-- Five ways to spoil it: the wrong number of variables, no fitness at all, the wrong number of
constraints, the wrong number of upper bounds, and more equalities than constraints. -/
def spoiltStarts : List Seeding :=
  [{ smallStart.offered with x := .vector [2, 2] },
    { smallStart.offered with f := .vector [] },
    { smallStart.offered with x := .vector [3], f := .vector [8, 1] },
    { smallStart.offered with lower := .vector [-9], upper := .vector [] },
    { smallStart.offered with x := .vector [4], equalities := .ok 3 }]

/-- Five attempts are refused at different places, and leave a decision vector that is none of the
session's.  The start that is offered at last leaves nothing of them. -/
theorem retry_leaves_no_trace_small :
    ∃ t s', Retries false smallSession spoiltStarts t ∧ t.buffer .decision = .ok [4] ∧
      (smallStart.offered.apply false).runOn t = (.ok (), s') ∧
      (smallStart.offered.apply false).runOn smallSession = (.ok (), s') := by
  have hrefused : Retries false smallSession spoiltStarts _ :=
    .of_fault rfl <| .of_fault rfl <| .of_fault rfl <| .of_fault rfl <| .of_fault rfl <| .none _
  obtain ⟨-, hsame, -, haccepts⟩ := retry_leaves_no_trace rfl holds_smallSession hrefused
  obtain ⟨s', hs'⟩ := haccepts smallStart ⟨rfl, rfl, rfl, rfl, by decide⟩
  exact ⟨_, s', hrefused, rfl, hs', (hsame _ s').mp hs'⟩

end Session

end ReverseComm
