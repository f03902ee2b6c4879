import Mathlib.Order.Defs.Unbundled
import Mathlib.Tactic.Common
import ReverseComm.Action

/-!
# Reasoning about actions

An action leaves a state whether it answers or raises a fault, so most of what is said of actions is
said of that state.  Four forms cover it, a fifth one is about the faults, and a sixth one is about
what happens on the way.

* `Keeps R`: the state it leaves stands in the relation `R` to the state it started from, in any
  case.  Frames are the instances `Same view`, where a view of the state stays as it was.
* `Maintains P E`: from a state with the property `P` it answers and leaves one with `P` again, or
  it raises a fault and leaves one with `E`.
* `Atomic view`: if it raises a fault, a view of the state stays as it was.
* `Raises Q`: every fault it raises has the property `Q` in the state it leaves.
* `Tracks P E notes`: the properties `P` and `E` depend on a list of what has happened so far; the
  run adds `notes` to the list, and maintains them.
* `Matches R E`: two actions, run on states related by `R`, answer alike and leave states related by
  `R` again, or raise the same fault and leave states related by `E`.

Each form is closed under sequencing, so it is proved of a `do` block line by line.
-/

namespace ReverseComm.Action

variable {W W' S V α β γ : Type}

/-! ## Taking runs apart -/

/-- A sequence goes on where its first part has answered. -/
lemma runOn_bind_of_ok {a : Action W α} {x : α} {w v : W} (h : a.runOn w = (.ok x, v))
    (f : α → Action W β) : (a >>= f).runOn w = (f x).runOn v := by
  rw [runOn_bind, h]

/-- A sequence ends with a fault of its first part, or as its second part does. -/
lemma runOn_bind_cases {a : Action W α} {f : α → Action W β} {w w' : W} {r : Except Fault β}
    (h : (a >>= f).runOn w = (r, w')) :
    (∃ fault, a.runOn w = (.error fault, w') ∧ r = .error fault) ∨
      ∃ x v, a.runOn w = (.ok x, v) ∧ (f x).runOn v = (r, w') := by
  rw [runOn_bind] at h
  rcases ha : a.runOn w with ⟨fault | x, v⟩
  · rw [ha] at h
    cases h
    exact .inl ⟨fault, rfl, rfl⟩
  · rw [ha] at h
    exact .inr ⟨x, v, rfl, h⟩

/-- The same of outcomes, whatever their faults are: a sequence answers exactly where both of its
parts do. -/
lemma outcome_bind_eq_ok_iff {ε : Type} {r : Except ε α} {f : α → Except ε β} {y : β} :
    (r >>= f) = .ok y ↔ ∃ x, r = .ok x ∧ f x = .ok y := by
  cases r with
  | error fault => simp [bind, Except.bind]
  | ok x => simp [bind, Except.bind]

/-- And it is a fault where its first part is, or where that answers and the second one is. -/
lemma outcome_bind_eq_error_iff {ε : Type} {r : Except ε α} {f : α → Except ε β} {fault : ε} :
    (r >>= f) = .error fault ↔ r = .error fault ∨ ∃ x, r = .ok x ∧ f x = .error fault := by
  cases r with
  | error fault => simp [bind, Except.bind]
  | ok x => simp [bind, Except.bind]

/-- Dropping an answer changes nothing else. -/
lemma runOn_drop_cases {a : Action W α} {w w' : W} {outcome : Except Fault Unit}
    (h : (a >>= fun _ => pure ()).runOn w = (outcome, w')) :
    ∃ r, a.runOn w = (r, w') ∧ outcome = r.map fun _ => () := by
  rcases runOn_bind_cases h with ⟨fault, ha, rfl⟩ | ⟨x, v, ha, h⟩
  · exact ⟨_, ha, rfl⟩
  · cases h
    exact ⟨_, ha, rfl⟩

lemma runOn_zoom_eq_iff {get : W → S} {put : S → W → W} {a : Action S α} {w w' : W}
    {r : Except Fault α} :
    (a.zoom get put).runOn w = (r, w') ↔ ∃ s, a.runOn (get w) = (r, s) ∧ w' = put s w := by
  rw [runOn_zoom]
  constructor
  · intro h
    obtain ⟨rfl, rfl⟩ := Prod.mk.inj h
    exact ⟨_, rfl, rfl⟩
  · rintro ⟨s, hs, rfl⟩
    rw [hs]

/-- What is ensured answers where both of its parts do. -/
lemma runOn_ensuring_eq_ok_iff {body : Action W α} {after : Action W Unit} {w w' : W} {x : α} :
    (body.ensuring after).runOn w = (.ok x, w') ↔
      ∃ v, body.runOn w = (.ok x, v) ∧ after.runOn v = (.ok (), w') := by
  simp only [ensuring, runOn_of]
  rcases body.runOn w with ⟨r, v⟩
  rcases h : after.runOn v with ⟨_ | _, u⟩
  · simp [h]
  · constructor
    · intro hr
      cases hr
      exact ⟨v, rfl, h⟩
    · rintro ⟨v', hv, hafter⟩
      cases hv
      rw [h] at hafter
      cases hafter
      rfl

/-! ## Keeping a relation -/

/-- Whatever an action comes to, the state it leaves is related to the one it started from. -/
def Keeps (R : W → W → Prop) (a : Action W α) : Prop := ∀ w, R w (a.runOn w).2

/-- A view of the state is the same in both. -/
def Same (view : W → V) (v w : W) : Prop := view w = view v

instance (view : W → V) : IsPreorder W (Same view) where
  refl _ := rfl
  trans _ _ _ h₁ h₂ := Eq.trans h₂ h₁

/-- If the first state has a property, so does the second. -/
def Preserving (P : W → Prop) (w v : W) : Prop := P w → P v

instance (P : W → Prop) : IsPreorder W (Preserving P) where
  refl _ := id
  trans _ _ _ h₁ h₂ := h₂ ∘ h₁

section Keeps

variable {R : W → W → Prop}

lemma Keeps.run {a : Action W α} {w w' : W} {outcome : Except Fault α} (ha : a.Keeps R)
    (h : a.runOn w = (outcome, w')) : R w w' := by
  have hw := ha w
  rwa [h] at hw

lemma keeps_modify {f : W → W} (h : ∀ w, R w (f w)) : (modify f : Action W Unit).Keeps R := h

lemma Keeps.mono {R' : W → W → Prop} {a : Action W α} (ha : a.Keeps R)
    (h : ∀ v w, R v w → R' v w) : a.Keeps R' := fun w => h _ _ (ha w)

/-- Dropping an answer drops nothing of the state. -/
lemma keeps_of_drop {a : Action W α} (ha : (a >>= fun _ => pure ()).Keeps R) : a.Keeps R := by
  intro w
  have hw := ha w
  rw [runOn_bind] at hw
  rcases h : a.runOn w with ⟨fault | x, v⟩
  · rwa [h] at hw
  · rwa [h] at hw

variable [IsPreorder W R]

lemma keeps_pure (x : α) : (pure x : Action W α).Keeps R := fun w => refl w

lemma keeps_throw (fault : Fault) : (throw fault : Action W α).Keeps R := fun w => refl w

lemma keeps_get : (get : Action W W).Keeps R := fun w => refl w

lemma keeps_liftExcept (r : Except Fault α) : (liftM r : Action W α).Keeps R := fun w => refl w

lemma Keeps.bind {a : Action W α} {f : α → Action W β} (ha : a.Keeps R)
    (hf : ∀ x, (f x).Keeps R) : (a >>= f).Keeps R := by
  intro w
  rw [runOn_bind]
  have hw := ha w
  rcases h : a.runOn w with ⟨_ | x, v⟩
  · simpa [h] using hw
  · rw [h] at hw
    exact IsTrans.trans _ _ _ hw (hf x v)

lemma keeps_forM {xs : List β} {f : β → Action W PUnit} (h : ∀ x, (f x).Keeps R) :
    (xs.forM f).Keeps R := by
  induction xs with
  | nil => exact keeps_pure _
  | cons x xs ih => exact (h x).bind fun _ => ih

lemma Keeps.ensuring {body : Action W α} {after : Action W Unit} (hb : body.Keeps R)
    (ha : after.Keeps R) : (body.ensuring after).Keeps R := by
  intro w
  rw [runOn_ensuring_snd]
  exact IsTrans.trans _ _ _ (hb w) (ha _)

end Keeps

/-- An action on a part of the state keeps what its effect on the part keeps of the whole. -/
lemma Keeps.zoom {R : W → W → Prop} {R' : S → S → Prop} {get : W → S} {put : S → W → W}
    {a : Action S α} (ha : a.Keeps R') (h : ∀ w s, R' (get w) s → R w (put s w)) :
    (a.zoom get put).Keeps R := by
  intro w
  rw [runOn_zoom]
  exact h w _ (ha _)

/-- An action on a part of the state leaves every view that the part does not show in. -/
lemma keeps_zoom_same {view : W → V} {get : W → S} {put : S → W → W} (a : Action S α)
    (h : ∀ s w, view (put s w) = view w) : (a.zoom get put).Keeps (Same view) :=
  fun w => h _ w

/-- What leaves a view alone may come after an action, for what the view shows in the end. -/
lemma view_runOn_bind {view : W → V} (a : Action W α) {f : α → Action W β}
    (hf : ∀ x, (f x).Keeps (Same view)) (w : W) :
    view ((a >>= f).runOn w).2 = view (a.runOn w).2 := by
  rw [runOn_bind]
  rcases a.runOn w with ⟨fault | x, v⟩
  · rfl
  · exact hf x v

/-! ## Leaving a view in case of a fault -/

/-- If an action raises a fault, a view of the state is as it was before. -/
def Atomic (view : W → V) (a : Action W α) : Prop :=
  ∀ w fault w', a.runOn w = (.error fault, w') → view w' = view w

section Atomic

variable {view : W → V}

lemma Keeps.atomic {a : Action W α} (ha : a.Keeps (Same view)) : a.Atomic view := by
  intro w fault w' h
  have hw : view (a.runOn w).2 = view w := ha w
  rwa [h] at hw

/-- What leaves the view alone may come before an action that is atomic. -/
lemma Keeps.bind_atomic {a : Action W α} {f : α → Action W β} (ha : a.Keeps (Same view))
    (hf : ∀ x, (f x).Atomic view) : (a >>= f).Atomic view := by
  intro w fault w' h
  rcases runOn_bind_eq_error_iff.mp h with h | ⟨x, v, hx, h⟩
  · exact ha.atomic w fault w' h
  · have hv : view (a.runOn w).2 = view w := ha w
    rw [hx] at hv
    exact (hf x v fault w' h).trans hv

/-- What raises no fault may come after an action that is atomic. -/
lemma Atomic.bind_total {a : Action W α} {f : α → Action W β} (ha : a.Atomic view)
    (hf : ∀ x v, ∃ y w, (f x).runOn v = (.ok y, w)) : (a >>= f).Atomic view := by
  intro w fault w' h
  rcases runOn_bind_eq_error_iff.mp h with h | ⟨x, v, _, h⟩
  · exact ha w fault w' h
  · obtain ⟨y, u, hy⟩ := hf x v
    rw [hy] at h
    cases h

lemma Atomic.zoom {part : S → V} {get : W → S} {put : S → W → W} {a : Action S α}
    (ha : a.Atomic part) (h : ∀ w s, part s = part (get w) → view (put s w) = view w) :
    (a.zoom get put).Atomic view := by
  intro w fault w' hw
  rw [runOn_zoom] at hw
  obtain ⟨hfault, rfl⟩ := Prod.mk.inj hw
  exact h w _ (ha _ fault _ (Prod.ext hfault rfl))

end Atomic

/-! ## The faults of an action -/

/-- Every fault that an action raises has a property in the state that it leaves. -/
def Raises (Q : Fault → W → Prop) (a : Action W α) : Prop :=
  ∀ w fault w', a.runOn w = (.error fault, w') → Q fault w'

/-- The same of an outcome: if it is a fault, that has the property in every state. -/
def Reports (Q : Fault → W → Prop) (r : Except Fault α) : Prop :=
  ∀ fault, r = .error fault → ∀ w, Q fault w

/-- A property of faults in a part of the state, as one in the whole state. -/
abbrev Within (part : W → S) (Q : Fault → S → Prop) (fault : Fault) (w : W) : Prop :=
  Q fault (part w)

/-- What faults have in the first state they have in the second one. -/
def Retaining (Q : Fault → W → Prop) (v w : W) : Prop := ∀ fault, Q fault v → Q fault w

instance (Q : Fault → W → Prop) : IsPreorder W (Retaining Q) where
  refl _ _ := id
  trans _ _ _ h₁ h₂ fault h := h₂ fault (h₁ fault h)

section Raises

variable {Q : Fault → W → Prop}

lemma reports_ok (x : α) : Reports Q (.ok x : Except Fault α) := by
  intro fault h
  cases h

lemma reports_error {fault : Fault} (h : ∀ w, Q fault w) :
    Reports Q (.error fault : Except Fault α) := by
  intro fault' h'
  cases h'
  exact h

lemma Reports.bind_of_ok {r : Except Fault α} {f : α → Except Fault β} (hr : Reports Q r)
    (hf : ∀ x, r = .ok x → Reports Q (f x)) : Reports Q (r >>= f) := by
  cases r with
  | error fault => exact reports_error (hr fault rfl)
  | ok x => exact hf x rfl

lemma Reports.bind {r : Except Fault α} {f : α → Except Fault β} (hr : Reports Q r)
    (hf : ∀ x, Reports Q (f x)) : Reports Q (r >>= f) :=
  hr.bind_of_ok fun x _ => hf x

lemma Reports.within {r : Except Fault α} (hr : Reports Q r) (part : S → W) :
    Reports (Within part Q) r :=
  fun fault h s => hr fault h (part s)

lemma raises_pure (x : α) : (pure x : Action W α).Raises Q := by
  intro w fault w' h
  cases h

lemma raises_get : (get : Action W W).Raises Q := by
  intro w fault w' h
  cases h

lemma raises_modify (f : W → W) : (modify f : Action W Unit).Raises Q := by
  intro w fault w' h
  cases h

lemma raises_throw {fault : Fault} (h : ∀ w, Q fault w) : (throw fault : Action W α).Raises Q := by
  intro w fault' w' hrun
  cases hrun
  exact h w

lemma raises_liftExcept {r : Except Fault α} (h : Reports Q r) :
    (liftM r : Action W α).Raises Q := by
  intro w fault w' hrun
  rw [runOn_liftExcept] at hrun
  exact h fault (congrArg Prod.fst hrun) w'

lemma Raises.bind {a : Action W α} {f : α → Action W β} (ha : a.Raises Q)
    (hf : ∀ x, (f x).Raises Q) : (a >>= f).Raises Q := by
  intro w fault w' h
  rcases runOn_bind_eq_error_iff.mp h with h | ⟨x, v, -, h⟩
  · exact ha w fault w' h
  · exact hf x v fault w' h

lemma raises_liftExcept_bind {r : Except Fault α} {f : α → Action W β} (hr : Reports Q r)
    (hf : ∀ x, r = .ok x → (f x).Raises Q) : (liftM r >>= f : Action W β).Raises Q := by
  cases r with
  | error fault => exact raises_throw (hr fault rfl)
  | ok x => exact hf x rfl

lemma raises_forM {xs : List α} {f : α → Action W PUnit} (h : ∀ x, (f x).Raises Q) :
    (xs.forM f).Raises Q := by
  induction xs with
  | nil => exact raises_pure _
  | cons x xs ih => exact (h x).bind fun _ => ih

lemma Raises.zoom {Q' : Fault → S → Prop} {get : W → S} {put : S → W → W} {a : Action S α}
    (ha : a.Raises Q') (h : ∀ fault s w, Q' fault s → Q fault (put s w)) :
    (a.zoom get put).Raises Q := by
  intro w fault w' hrun
  obtain ⟨s, hs, rfl⟩ := runOn_zoom_eq_iff.mp hrun
  exact h fault s w (ha _ fault s hs)

/-- What is ensured after an action raises its own faults instead of those of the action, and else
leaves these as they are. -/
lemma Raises.ensuring {body : Action W α} {after : Action W Unit} (hb : body.Raises Q)
    (ha : after.Raises Q) (retains : after.Keeps (Retaining Q)) :
    (body.ensuring after).Raises Q := by
  intro w fault w' h
  simp only [Action.ensuring, runOn_of] at h
  rcases hbody : body.runOn w with ⟨r, v⟩
  rcases hafter : after.runOn v with ⟨fault' | _, u⟩
  · simp only [hbody, hafter] at h
    cases h
    exact ha v fault _ hafter
  · simp only [hbody, hafter] at h
    cases h
    exact retains.run hafter fault (hb w fault v hbody)

end Raises

/-! ## Maintaining a property up to a fault -/

/-- Where `P` holds, an answer leaves a state in which it holds again, and a fault one in which `E`
does. -/
def Maintains (P E : W → Prop) (a : Action W α) : Prop :=
  ∀ w, P w → (∀ x v, a.runOn w = (.ok x, v) → P v) ∧
    ∀ fault v, a.runOn w = (.error fault, v) → E v

section Maintains

variable {P E : W → Prop}

lemma Keeps.maintains {a : Action W α} (ha : a.Keeps (Preserving P)) (hE : ∀ w, P w → E w) :
    a.Maintains P E := by
  intro w hw
  refine ⟨fun x v h => ha.run h hw, fun fault v h => hE v ?_⟩
  exact ha.run h hw

lemma maintains_modify {f : W → W} (h : ∀ w, P w → P (f w)) :
    (modify f : Action W Unit).Maintains P E := by
  intro w hw
  refine ⟨fun y v hrun => ?_, fun fault v hrun => ?_⟩
  · cases hrun
    exact h w hw
  · cases hrun

lemma maintains_pure (hE : ∀ w, P w → E w) (x : α) : (pure x : Action W α).Maintains P E :=
  (keeps_pure x).maintains hE

lemma maintains_get (hE : ∀ w, P w → E w) : (get : Action W W).Maintains P E :=
  keeps_get.maintains hE

lemma maintains_throw (hE : ∀ w, P w → E w) (fault : Fault) :
    (throw fault : Action W α).Maintains P E :=
  (keeps_throw fault).maintains hE

lemma Maintains.bind {a : Action W α} {f : α → Action W β} (ha : a.Maintains P E)
    (hf : ∀ x, (f x).Maintains P E) : (a >>= f).Maintains P E := by
  intro w hw
  refine ⟨fun y v h => ?_, fun fault v h => ?_⟩
  · obtain ⟨x, u, hx, h⟩ := runOn_bind_eq_ok_iff.mp h
    exact (hf x u ((ha w hw).1 x u hx)).1 y v h
  · rcases runOn_bind_eq_error_iff.mp h with h | ⟨x, u, hx, h⟩
    · exact (ha w hw).2 fault v h
    · exact (hf x u ((ha w hw).1 x u hx)).2 fault v h

/-- An action on a part of the state maintains what it maintains of the part. -/
lemma Maintains.zoom {P E : S → Prop} {get : W → S} {put : S → W → W} {a : Action S α}
    (ha : a.Maintains P E) (h : ∀ w s, get (put s w) = s) :
    (a.zoom get put).Maintains (fun w => P (get w)) fun w => E (get w) := by
  intro w hw
  refine ⟨fun y v hrun => ?_, fun fault v hrun => ?_⟩
  · obtain ⟨s, hs, rfl⟩ := runOn_zoom_eq_iff.mp hrun
    rw [h]
    exact (ha _ hw).1 y s hs
  · obtain ⟨s, hs, rfl⟩ := runOn_zoom_eq_iff.mp hrun
    rw [h]
    exact (ha _ hw).2 fault s hs

end Maintains

/-! ## Keeping track of what happens -/

/-- What is noted of the rest of a run once an action has answered; a fault is the end of it. -/
def afterwards (a : Action W α) (notes : α → W → List β) (w : W) : List β :=
  match a.runOn w with
  | (.ok x, v) => notes x v
  | (.error _, _) => []

/-- Where `P` holds after what has happened so far, it holds again after an answer and what is noted
of the run, and `E` does after a fault. -/
def Tracks (P E : List β → W → Prop) (notes : W → List β) (a : Action W α) : Prop :=
  ∀ past w, P past w → (∀ x v, a.runOn w = (.ok x, v) → P (past ++ notes w) v) ∧
    ∀ fault v, a.runOn w = (.error fault, v) → E (past ++ notes w) v

section Tracks

variable {P E : List γ → W → Prop}

/-- What maintains the properties needs no notes. -/
lemma tracks_of_maintains {a : Action W α} (ha : ∀ past, a.Maintains (P past) (E past)) :
    a.Tracks P E fun _ => [] := by
  intro past w hw
  simp only [List.append_nil]
  exact ha past w hw

lemma Tracks.bind {a : Action W α} {f : α → Action W β} {notes : W → List γ}
    {more : α → W → List γ} (ha : a.Tracks P E notes) (hf : ∀ x, (f x).Tracks P E (more x)) :
    (a >>= f).Tracks P E fun w => notes w ++ a.afterwards more w := by
  intro past w hw
  obtain ⟨hanswer, hfault⟩ := ha past w hw
  simp only [runOn_bind, afterwards]
  rcases hrun : a.runOn w with ⟨fault | x, v⟩
  · refine ⟨fun y u h => ?_, fun fault' u h => ?_⟩
    · cases h
    · cases h
      simpa using hfault fault v hrun
  · dsimp only
    rw [← List.append_assoc]
    exact hf x (past ++ notes w) v (hanswer x v hrun)

/-- Before what is noted there may come what needs no notes. -/
lemma Maintains.bind_tracks {a : Action W α} {f : α → Action W β} {notes : α → W → List γ}
    (ha : ∀ past, a.Maintains (P past) (E past)) (hf : ∀ x, (f x).Tracks P E (notes x)) :
    (a >>= f).Tracks P E (a.afterwards notes) :=
  (tracks_of_maintains ha).bind hf

/-- So may there after it. -/
lemma Tracks.bind_maintains {a : Action W α} {f : α → Action W β} {notes : W → List γ}
    (ha : a.Tracks P E notes) (hf : ∀ x past, (f x).Maintains (P past) (E past)) :
    (a >>= f).Tracks P E notes := by
  have hnone : ∀ w, a.afterwards (fun _ _ => ([] : List γ)) w = [] := by
    intro w
    rw [afterwards]
    split
    · rfl
    · rfl
  have hbind := ha.bind fun x => tracks_of_maintains (hf x)
  simpa only [hnone, List.append_nil] using hbind

end Tracks

/-! ## Running two actions side by side -/

/-- Two runs come to the same: they answer alike and leave states related by `R`, or they raise the
same fault and leave states related by `E`. -/
inductive Alike (R E : W → W' → Prop) : Except Fault α × W → Except Fault α × W' → Prop
  | ok (x : α) {w w'} (h : R w w') : Alike R E (.ok x, w) (.ok x, w')
  | error (fault : Fault) {w w'} (h : E w w') : Alike R E (.error fault, w) (.error fault, w')

/-- Run on states related by `R`, two actions come to the same. -/
def Matches (R E : W → W' → Prop) (a : Action W α) (b : Action W' α) : Prop :=
  ∀ w w', R w w' → Alike R E (a.runOn w) (b.runOn w')

section Matches

variable {R E : W → W' → Prop}

lemma Alike.fst_eq {p : Except Fault α × W} {q : Except Fault α × W'} (h : Alike R E p q) :
    p.1 = q.1 := by
  cases h with
  | ok => rfl
  | error => rfl

lemma Alike.snd {p : Except Fault α × W} {q : Except Fault α × W'} (h : Alike R E p q)
    (hle : ∀ w w', R w w' → E w w') : E p.2 q.2 := by
  cases h with
  | ok _ h => exact hle _ _ h
  | error _ h => exact h

/-- An action comes to the same as itself. -/
lemma matches_self (a : Action W α) : a.Matches Eq Eq a := by
  rintro w _ rfl
  rcases a.runOn w with ⟨fault | x, v⟩
  · exact .error fault rfl
  · exact .ok x rfl

lemma matches_pure (x : α) : (pure x : Action W α).Matches R E (pure x : Action W' α) :=
  fun _ _ h => .ok x h

lemma matches_liftExcept (hle : ∀ w w', R w w' → E w w') (r : Except Fault α) :
    (liftM r : Action W α).Matches R E (liftM r : Action W' α) := by
  intro w w' h
  rw [runOn_liftExcept, runOn_liftExcept]
  cases r with
  | error fault => exact .error fault (hle w w' h)
  | ok x => exact .ok x h

lemma matches_modify {f : W → W} {g : W' → W'} (h : ∀ w w', R w w' → R (f w) (g w')) :
    (modify f : Action W Unit).Matches R E (modify g : Action W' Unit) :=
  fun w w' hw => .ok () (h w w' hw)

lemma Matches.bind {a : Action W α} {b : Action W' α} {f : α → Action W β} {g : α → Action W' β}
    (hab : a.Matches R E b) (hfg : ∀ x, (f x).Matches R E (g x)) :
    (a >>= f).Matches R E (b >>= g) := by
  intro w w' hw
  rw [runOn_bind, runOn_bind]
  have hrun := hab w w' hw
  revert hrun
  generalize a.runOn w = p
  generalize b.runOn w' = q
  intro hrun
  cases hrun with
  | ok x h => exact hfg x _ _ h
  | error fault h => exact .error fault h

/-- An action answers as the body of it does, unless what is ensured after that raises a fault. -/
lemma runOn_ensuring (a : Action W α) (a' : Action W Unit) (w : W) :
    (a.ensuring a').runOn w =
      ((a'.runOn (a.runOn w).2).1.bind fun _ => (a.runOn w).1, (a'.runOn (a.runOn w).2).2) := by
  simp only [ensuring, runOn_of]
  rcases a'.runOn (a.runOn w).2 with ⟨_ | _, w'⟩ <;> rfl

/-- Where a fault leaves the states related as an answer does, so does what is ensured after it. -/
lemma Matches.ensuring {a : Action W α} {b : Action W' α} {a' : Action W Unit}
    {b' : Action W' Unit} (hab : a.Matches R R b) (hab' : a'.Matches R R b') :
    (a.ensuring a').Matches R R (b.ensuring b') := by
  intro w w' hw
  have hbody := hab w w' hw
  have hafter := hab' _ _ (hbody.snd fun _ _ h => h)
  rw [runOn_ensuring, runOn_ensuring, hbody.fst_eq]
  revert hafter
  generalize a'.runOn (a.runOn w).2 = p
  generalize b'.runOn (b.runOn w').2 = q
  intro hafter
  cases hafter with
  | ok _ h =>
    cases (b.runOn w').1 with
    | error fault => exact .error fault h
    | ok x => exact .ok x h
  | error fault h => exact .error fault h

/-- Parts of related states that are related are acted on alike. -/
lemma Matches.zoom {S' : Type} {Q : W → W' → Prop} {R : S → S' → Prop} {get : W → S}
    {put : S → W → W} {get' : W' → S'} {put' : S' → W' → W'} {a : Action S α} {b : Action S' α}
    (hab : a.Matches R R b) (hget : ∀ w w', Q w w' → R (get w) (get' w'))
    (hput : ∀ w w' s s', Q w w' → R s s' → Q (put s w) (put' s' w')) :
    (a.zoom get put).Matches Q Q (b.zoom get' put') := by
  intro w w' hw
  rw [runOn_zoom, runOn_zoom]
  have hrun := hab _ _ (hget w w' hw)
  revert hrun
  generalize a.runOn (get w) = p
  generalize b.runOn (get' w') = q
  intro hrun
  cases hrun with
  | ok x h => exact .ok x (hput w w' _ _ hw h)
  | error fault h => exact .error fault (hput w w' _ _ hw h)

lemma matches_forM {xs : List α} {f : α → Action W PUnit} {g : α → Action W' PUnit}
    (h : ∀ x, (f x).Matches R E (g x)) : (xs.forM f).Matches R E (xs.forM g) := by
  induction xs with
  | nil => exact matches_pure _
  | cons x xs ih => exact (h x).bind fun _ => ih

end Matches

end ReverseComm.Action
