import ReverseComm.Proofs.Session.Frame

/-!
# Sessions whose state is part of a larger one

A solve runs its session next to what the algorithm keeps: the account and the settings.  Neither
shows in the session.  In general, let the state of a session be a part of a larger state.  With
everything else set aside (`inner`), an operation does what it does on the part alone (`Agrees`), if
its library reaches no more than the part.
-/

namespace ReverseComm

open ReverseComm.Action

variable {σ ω α : Type}

namespace Session

/-- A session with a part of its state only. -/
def inner (part : σ → ω) (s : Session σ) : Session ω := { s with hidden := part s.hidden }

/-- The second session is the first one with a part of its state only. -/
def Inner (part : σ → ω) (s : Session σ) (t : Session ω) : Prop := t = inner part s

/-- Two actions do the same, apart from what is not in the part. -/
abbrev Agrees (part : σ → ω) (a : Action (Session σ) α) (b : Action (Session ω) α) : Prop :=
  a.Matches (Inner part) (Inner part) b

variable {part : σ → ω}

lemma agrees_of_runOn {a : Action (Session σ) α} {b : Action (Session ω) α}
    (h : ∀ s, b.runOn (inner part s) = ((a.runOn s).1, inner part (a.runOn s).2)) :
    Agrees part a b := by
  rintro s _ rfl
  rw [h s]
  rcases a.runOn s with ⟨fault | x, v⟩
  · exact .error fault rfl
  · exact .ok x rfl

/-- What the second of two such actions maintains, the first one maintains of the part. -/
lemma Agrees.maintains {a : Action (Session σ) α} {b : Action (Session ω) α}
    {P E : Session ω → Prop} (hab : Agrees part a b) (hb : b.Maintains P E) :
    a.Maintains (fun s => P (inner part s)) fun s => E (inner part s) := by
  intro s hs
  obtain ⟨hanswer, hfault⟩ := hb _ hs
  have hrun := hab s _ rfl
  revert hrun hanswer hfault
  generalize b.runOn (inner part s) = q
  intro hanswer hfault hrun
  refine ⟨fun x v h => ?_, fun fault v h => ?_⟩
  · rw [h] at hrun
    cases hrun with
    | ok _ hend =>
      rw [← hend]
      exact hanswer _ _ rfl
  · rw [h] at hrun
    cases hrun with
    | error _ hend =>
      rw [← hend]
      exact hfault _ _ rfl

/-- Within a larger state whose part is the state of the session, the first of two such actions does
what the second one does. -/
lemma Agrees.runOn_within {a : Action (Session σ) α} {b : Action (Session ω) α} {whole : ω → σ}
    (hab : Agrees part a b) (hwhole : ∀ w, part (whole w) = w) (s : Session ω) :
    (within whole (fun v _ => part v) a).runOn s = b.runOn s := by
  have hinner : s = inner part { s with hidden := whole s.hidden } := by rw [inner, hwhole]
  have hrun := hab { s with hidden := whole s.hidden } s hinner
  rw [within, runOn_zoom]
  revert hrun
  generalize a.runOn { s with hidden := whole s.hidden } = p
  generalize b.runOn s = q
  intro hrun
  cases hrun with
  | ok x hend =>
    cases hend
    rfl
  | error fault hend =>
    cases hend
    rfl

lemma agrees_pure (x : α) : Agrees part (pure x) (pure x) := matches_pure x

lemma agrees_liftExcept (r : Except Fault α) : Agrees part (liftM r) (liftM r) :=
  matches_liftExcept (fun _ _ h => h) r

lemma agrees_modify {f : Session σ → Session σ} {g : Session ω → Session ω}
    (h : ∀ s, g (inner part s) = inner part (f s)) : Agrees part (modify f) (modify g) :=
  agrees_of_runOn fun s => by rw [runOn_modify, runOn_modify, h]

lemma agrees_throw (fault : Fault) : Agrees (α := α) part (throw fault) (throw fault) :=
  agrees_of_runOn fun _ => rfl

/-- Actions that look at the session first agree if they do on the part. -/
lemma agrees_get_bind {f : Session σ → Action (Session σ) α}
    {g : Session ω → Action (Session ω) α} (h : ∀ s, Agrees part (f s) (g (inner part s))) :
    Agrees part (get >>= f) (get >>= g) := by
  rintro s _ rfl
  rw [runOn_bind, runOn_bind, runOn_get, runOn_get]
  exact h s s _ rfl

section

variable {put : ω → σ → σ} (lens : ∀ w s, part (put w s) = w)
include lens

lemma agrees_call (L : Library ω) (c : Call) :
    Agrees part (call (L.within part put) c) (call L c) := by
  refine agrees_of_runOn fun s => ?_
  have hbinds : (L.within part put).binds c.entryPoint = L.binds c.entryPoint := rfl
  rw [runOn_call, runOn_call, Library.call, Library.call, hbinds]
  split
  · simp only [inner, Library.within, runOn_zoom, lens]
  · rfl

/-- What is done to the part alone leaves the rest. -/
lemma agrees_within (a : Action (Session ω) α) : Agrees part (within part put a) a := by
  refine agrees_of_runOn fun s => ?_
  simp only [within, runOn_zoom, inner, lens]

end

/-! ## The operations of a session -/

lemma agrees_require (expected : Option Stage) :
    Agrees part (require expected) (require expected) := by
  refine agrees_of_runOn fun s => ?_
  have hstage : (inner part s).stage = s.stage := rfl
  rw [runOn_require, runOn_require, hstage]
  split
  · rfl
  · rfl

lemma agrees_reach (stage : Stage) : Agrees part (reach stage) (reach stage) :=
  agrees_modify fun _ => rfl

lemma agrees_fill (name : BufferName) (values : Offer) :
    Agrees part (fill name values) (fill name values) := by
  refine agrees_get_bind fun s => ?_
  refine (agrees_liftExcept _).bind fun xs => ?_
  refine (agrees_liftExcept _).bind fun t => ?_
  split
  · exact agrees_modify fun _ => rfl
  · exact agrees_throw _

lemma agrees_writeObjective (value : Except Fault Float) :
    Agrees part (writeObjective value) (writeObjective value) := by
  refine (agrees_liftExcept value).bind fun _ => agrees_modify ?_
  exact fun _ => rfl

lemma agrees_writeCandidate (x f : Offer) :
    Agrees part (writeCandidate x f) (writeCandidate x f) := by
  refine (agrees_liftExcept _).bind fun t => ?_
  refine (agrees_fill _ _).bind fun _ => ?_
  exact (agrees_writeObjective _).bind fun _ => agrees_fill _ _

lemma agrees_writeBounds (lower upper : Offer) (equalities : Except Fault Int) :
    Agrees part (writeBounds lower upper equalities) (writeBounds lower upper equalities) := by
  refine (agrees_fill _ _).bind fun _ => ?_
  refine (agrees_fill _ _).bind fun _ => ?_
  refine agrees_get_bind fun s => (agrees_liftExcept _).bind fun below => ?_
  refine agrees_get_bind fun s => (agrees_liftExcept _).bind fun above => ?_
  refine (agrees_liftExcept _).bind fun equalities => ?_
  dsimp only
  split
  · exact (agrees_throw _).bind fun _ => agrees_modify fun _ => rfl
  · exact agrees_modify fun _ => rfl

lemma agrees_declare (n m : Except Fault Int) :
    Agrees part (declare n m) (declare n m) := by
  refine (agrees_require _).bind fun _ => ?_
  refine (agrees_liftExcept n).bind fun n => ?_
  refine Matches.bind (agrees_modify ?_) fun _ => ?_
  · exact fun _ => rfl
  refine (agrees_liftExcept m).bind fun m => ?_
  refine Matches.bind (agrees_modify ?_) fun _ => agrees_reach _
  exact fun _ => rfl

lemma agrees_seed (screenOutput : Bool) (x f lower upper : Offer)
    (equalities : Except Fault Int) :
    Agrees part (seed screenOutput x f lower upper equalities)
      (seed screenOutput x f lower upper equalities) := by
  refine (agrees_require _).bind fun _ => ?_
  refine Matches.bind (agrees_modify ?_) fun _ => ?_
  · exact fun _ => rfl
  refine (agrees_writeCandidate x f).bind fun _ => ?_
  exact (agrees_writeBounds lower upper equalities).bind fun _ => agrees_reach _

lemma agrees_enterLoop : Agrees part enterLoop enterLoop :=
  (agrees_require _).bind fun _ => agrees_reach _

lemma agrees_readDecision : Agrees part readDecision readDecision :=
  agrees_get_bind fun _ => agrees_liftExcept _

lemma agrees_readCandidate {fitness : List Float → Action σ Tensor}
    {fitness' : List Float → Action ω Tensor}
    (h : ∀ x, Agrees part (aside (fitness x)) (aside (fitness' x))) :
    Agrees part (readCandidate fitness) (readCandidate fitness') :=
  agrees_readDecision.bind fun x => (h x).bind fun _ => agrees_pure _

section

variable {N : Library σ} {L : Library ω} (calls : ∀ c, Agrees part (call N c) (call L c))
include calls

lemma agrees_preInit : Agrees part (preInit N) (preInit L) :=
  (agrees_require _).bind fun _ => (calls .preInit).bind fun _ => agrees_reach _

lemma agrees_readParams (host : Host) (file : Option String) :
    Agrees part (readParams N host file) (readParams L host file) := by
  have hread : ∀ name, Agrees part (do
        let count ← call N (.readParams name)
        modify fun s => { s with paramCount := count }
        reach .paramsLoaded
        return count : Action (Session σ) Int) (do
        let count ← call L (.readParams name)
        modify fun s => { s with paramCount := count }
        reach .paramsLoaded
        return count) := by
    intro name
    refine (calls (.readParams name)).bind fun count => ?_
    refine Matches.bind (agrees_modify ?_) fun _ => (agrees_reach _).bind fun _ => agrees_pure _
    exact fun _ => rfl
  refine (agrees_require _).bind fun _ => (agrees_liftExcept _).bind fun found => ?_
  dsimp only
  split
  · refine Matches.bind (agrees_modify ?_) fun _ => hread _
    exact fun _ => rfl
  · exact hread _

lemma agrees_init : Agrees part (init N) (init L) := by
  refine (agrees_require _).bind fun _ => (calls .init).bind fun _ => ?_
  refine Matches.bind (agrees_modify ?_) fun _ => agrees_reach _
  exact fun _ => rfl

lemma agrees_finalize : Agrees part (finalize N) (finalize L) := by
  refine agrees_get_bind fun s => ?_
  have hstage : (inner part s).stage = s.stage := rfl
  rw [hstage]
  split
  · refine (agrees_reach _).bind fun _ => ?_
    exact Matches.ensuring (calls .statusMessage) (calls .free)
  · exact agrees_throw _

lemma agrees_leave : Agrees part (leave N) (leave L) := by
  refine agrees_get_bind fun s => ?_
  have hstage : (inner part s).stage = s.stage := rfl
  rw [hstage]
  split
  · exact agrees_finalize calls
  · exact agrees_pure _

end

end Session

end ReverseComm
