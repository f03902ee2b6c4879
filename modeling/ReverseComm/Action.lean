import ReverseComm.Fault

/-!
# Actions

An `Action W α` runs on a state `W`.  It answers with an `α` or raises a fault, and either way it
leaves a state: what was done before a fault stays done.

`zoom` runs an action on a part of a larger state, and `ensuring` runs a second action after the
first whether that raised or not; a fault of the second one is then the one that counts.
-/

namespace ReverseComm

/-- A computation on a state that may raise a fault and keeps what it did before. -/
abbrev Action (W : Type) : Type → Type := ExceptT Fault (StateM W)

namespace Action

variable {W S α β : Type}

/-- An action from its meaning: from a state to an outcome and a state. -/
def of (f : W → Except Fault α × W) : Action W α := ExceptT.mk f

/-- Run an action on a state. -/
def runOn (a : Action W α) (w : W) : Except Fault α × W := ExceptT.run a w

/-- Run an action on a part of the state. -/
def zoom (get : W → S) (put : S → W → W) (a : Action S α) : Action W α :=
  of fun w => let (outcome, s) := a.runOn (get w); (outcome, put s w)

/-- Run an action, and then another one in any case. -/
def ensuring (body : Action W α) (after : Action W Unit) : Action W α :=
  of fun w =>
    let (outcome, w) := body.runOn w
    match after.runOn w with
    | (.ok (), w) => (outcome, w)
    | (.error fault, w) => (.error fault, w)

/-- Run an action for its outcome: the fault becomes an answer. -/
def attempt (a : Action W α) : Action W (Except Fault α) :=
  of fun w => let (outcome, w) := a.runOn w; (.ok outcome, w)

/-- Repeat an action, collecting the answers. -/
def times (n : Nat) (a : Action W α) : Action W (List α) := (List.replicate n a).mapM id

@[simp] theorem runOn_of (f : W → Except Fault α × W) : (of f).runOn = f := rfl

@[simp] theorem runOn_pure (a : α) (w : W) : (pure a : Action W α).runOn w = (.ok a, w) := rfl

@[simp] theorem runOn_throw (fault : Fault) (w : W) :
    (throw fault : Action W α).runOn w = (.error fault, w) := rfl

theorem runOn_bind (a : Action W α) (f : α → Action W β) (w : W) :
    (a >>= f).runOn w =
      match a.runOn w with
      | (.ok x, w) => (f x).runOn w
      | (.error fault, w) => (.error fault, w) := by
  show (match a.runOn w with | (outcome, w') => (ExceptT.bindCont f outcome : StateM W _) w') = _
  rcases a.runOn w with ⟨_ | _, w'⟩ <;> rfl

/-- A sequence answers exactly where both of its parts do. -/
theorem runOn_bind_eq_ok_iff {a : Action W α} {f : α → Action W β} {w w' : W} {y : β} :
    (a >>= f).runOn w = (.ok y, w') ↔
      ∃ x v, a.runOn w = (.ok x, v) ∧ (f x).runOn v = (.ok y, w') := by
  rw [runOn_bind]
  rcases a.runOn w with ⟨_ | x, v⟩
  · simp
  · constructor
    · intro h
      exact ⟨x, v, rfl, h⟩
    · rintro ⟨_, _, h, hf⟩
      cases h
      exact hf

/-- A sequence raises a fault where its first part does, or where that answers and the second
does. -/
theorem runOn_bind_eq_error_iff {a : Action W α} {f : α → Action W β} {w w' : W} {fault : Fault} :
    (a >>= f).runOn w = (.error fault, w') ↔
      a.runOn w = (.error fault, w') ∨
        ∃ x v, a.runOn w = (.ok x, v) ∧ (f x).runOn v = (.error fault, w') := by
  rw [runOn_bind]
  rcases a.runOn w with ⟨_ | x, v⟩
  · simp
  · constructor
    · intro h
      exact .inr ⟨x, v, rfl, h⟩
    · rintro (h | ⟨_, _, h, hf⟩)
      · cases h
      · cases h
        exact hf

@[simp] theorem runOn_get (w : W) : (get : Action W W).runOn w = (.ok w, w) := rfl

@[simp] theorem runOn_modify (f : W → W) (w : W) :
    (modify f : Action W Unit).runOn w = (.ok (), f w) := rfl

@[simp] theorem runOn_liftExcept (r : Except Fault α) (w : W) :
    (liftM r : Action W α).runOn w = (r, w) := rfl

@[simp] theorem runOn_attempt (a : Action W α) (w : W) :
    a.attempt.runOn w = (.ok (a.runOn w).1, (a.runOn w).2) := rfl

@[simp] theorem runOn_zoom (get : W → S) (put : S → W → W) (a : Action S α) (w : W) :
    (zoom get put a).runOn w = ((a.runOn (get w)).1, put (a.runOn (get w)).2 w) := rfl

/-- Whatever the first action does, the second one runs on the state it leaves. -/
theorem runOn_ensuring_snd (body : Action W α) (after : Action W Unit) (w : W) :
    ((ensuring body after).runOn w).2 = (after.runOn (body.runOn w).2).2 := by
  simp only [ensuring, runOn_of]
  rcases after.runOn (body.runOn w).2 with ⟨_ | _, w'⟩ <;> rfl

end Action

end ReverseComm
