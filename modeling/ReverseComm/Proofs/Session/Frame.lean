import ReverseComm.Proofs.Action
import ReverseComm.Session

/-!
# What a session leaves alone

Candidates, bounds and values are written into the solver's memory, and nothing else of a session
changes on the way, whether the writing succeeds or breaks off.  `R` stands for any relation that
does not look at the objective and the buffers that are written.

An operation besides calls the solver, and changes what belongs to the session: its stage, its
memory, and what it has said itself (`Own`).  It keeps what all that keeps.
-/

namespace ReverseComm

/-- What a speaker has said. -/
def Speaker.texts (speaker : Speaker) (messages : List Message) : List String :=
  (messages.filter fun m => m.speaker == speaker).map Message.text

@[simp] lemma Speaker.texts_append (speaker : Speaker) (first second : List Message) :
    speaker.texts (first ++ second) = speaker.texts first ++ speaker.texts second := by
  simp [texts]

/-- Does seeding write into a buffer?  The solver estimates the multipliers itself. -/
def BufferName.isSeeded : BufferName → Bool
  | .decisionMultipliers | .constraintMultipliers => false
  | .decision | .decisionLower | .decisionUpper | .constraints | .constraintLower
  | .constraintUpper => true

end ReverseComm

namespace ReverseComm.Session

open ReverseComm.Action

variable {ω : Type} {R : Session ω → Session ω → Prop} [IsPreorder (Session ω) R]

lemma keeps_fill {name : BufferName}
    (written : ∀ s xs, R s { s with memory := s.memory.write name xs }) (values : Offer) :
    (fill name values).Keeps R := by
  refine keeps_get.bind fun s => ?_
  refine (keeps_liftExcept _).bind fun xs => ?_
  refine (keeps_liftExcept _).bind fun t => ?_
  split
  · exact keeps_modify fun s => written s _
  · exact keeps_throw _

lemma keeps_writeObjective
    (scored : ∀ s y, R s { s with memory.objective := y }) (objective : Except Fault Float) :
    (writeObjective objective).Keeps R :=
  (keeps_liftExcept _).bind fun _ => keeps_modify fun s => scored s _

section

variable (written : ∀ s (name : BufferName), name.isSeeded = true →
  ∀ xs, R s { s with memory := s.memory.write name xs })
include written

lemma keeps_writeCandidate (scored : ∀ s y, R s { s with memory.objective := y }) (x f : Offer) :
    (writeCandidate x f).Keeps R := by
  refine (keeps_liftExcept _).bind fun t => ?_
  refine (keeps_fill (fun s => written s .decision rfl) _).bind fun _ => ?_
  refine (keeps_writeObjective scored _).bind fun _ => ?_
  exact keeps_fill (fun s => written s .constraints rfl) _

lemma keeps_writeBounds (lower upper : Offer) (equalities : Except Fault Int) :
    (writeBounds lower upper equalities).Keeps R := by
  have hconstraints : ∀ (s : Session ω) below above, R s
      { s with memory := (s.memory.write .constraintLower below).write .constraintUpper above } :=
    fun s below above => trans_of R (written s .constraintLower rfl below)
      (written _ .constraintUpper rfl above)
  refine (keeps_fill (fun s => written s .decisionLower rfl) _).bind fun _ => ?_
  refine (keeps_fill (fun s => written s .decisionUpper rfl) _).bind fun _ => ?_
  refine keeps_get.bind fun s => ?_
  refine (keeps_liftExcept _).bind fun below => ?_
  refine keeps_get.bind fun s => ?_
  refine (keeps_liftExcept _).bind fun above => ?_
  refine (keeps_liftExcept _).bind fun equalities => ?_
  dsimp only
  split
  · exact (keeps_throw _).bind fun _ => keeps_modify fun s => hconstraints s _ _
  · exact keeps_modify fun s => hconstraints s _ _

end

lemma keeps_readDecision : (readDecision (ω := ω)).Keeps R :=
  keeps_get.bind fun _ => keeps_liftExcept _

/-! ## Operations -/

/-- Only the session has changed: the state that goes along with it has not, and nothing has been
said for the algorithm. -/
structure Own (s s' : Session ω) : Prop where
  hidden : s'.hidden = s.hidden
  texts : Speaker.algorithm.texts s'.messages = Speaker.algorithm.texts s.messages

lemma runOn_require_bind {α : Type} (expected : Option Stage)
    (rest : Unit → Action (Session ω) α) (s : Session ω) :
    (require expected >>= rest).runOn s =
      if s.stage = expected then (rest ()).runOn s
      else (.error (.stage expected s.stage), s) := by
  rw [runOn_bind, runOn_require]
  by_cases h : s.stage = expected
  · rw [if_pos h, if_pos h]
  · rw [if_neg h, if_neg h]

lemma keeps_require (expected : Option Stage) : (require (ω := ω) expected).Keeps R := by
  intro s
  rw [runOn_require]
  split
  · exact refl s
  · exact refl s

section

variable (own : ∀ s s', Own s s' → R s s')
include own

omit [IsPreorder (Session ω) R] in
lemma keeps_own {f : Session ω → Session ω} (h : ∀ s, Own s (f s)) :
    (modify f : Action (Session ω) Unit).Keeps R :=
  keeps_modify fun s => own s _ (h s)

omit [IsPreorder (Session ω) R] in
lemma keeps_reach (stage : Stage) : (reach (ω := ω) stage).Keeps R :=
  keeps_own own fun _ => ⟨rfl, rfl⟩

lemma keeps_declare (n m : Except Fault Int) : (declare (ω := ω) n m).Keeps R := by
  refine (keeps_require _).bind fun _ => (keeps_liftExcept n).bind fun n => ?_
  refine Keeps.bind (keeps_own own ?_) fun _ => (keeps_liftExcept m).bind fun m => ?_
  · exact fun _ => ⟨rfl, rfl⟩
  refine Keeps.bind (keeps_own own ?_) fun _ => keeps_reach own _
  exact fun _ => ⟨rfl, rfl⟩

lemma keeps_seed (screenOutput : Bool) (x f lower upper : Offer) (equalities : Except Fault Int) :
    (seed (ω := ω) screenOutput x f lower upper equalities).Keeps R := by
  have hmemory : ∀ (s : Session ω) m, R s { s with memory := m } := fun s m => own s _ ⟨rfl, rfl⟩
  refine (keeps_require _).bind fun _ => ?_
  refine Keeps.bind (keeps_own own fun _ => ⟨rfl, rfl⟩) fun _ => ?_
  refine (keeps_writeCandidate (fun s _ _ _ => hmemory s _) (fun s _ => hmemory s _) x f).bind
    fun _ => ?_
  refine (keeps_writeBounds (fun s _ _ _ => hmemory s _) lower upper equalities).bind fun _ => ?_
  exact keeps_reach own _

lemma keeps_enterLoop : (enterLoop (ω := ω)).Keeps R :=
  (keeps_require _).bind fun _ => keeps_reach own _

variable {L : Library ω} (call : ∀ c, (call L c).Keeps R)
include call

lemma keeps_preInit : (preInit L).Keeps R :=
  (keeps_require _).bind fun _ => (call .preInit).bind fun _ => keeps_reach own _

lemma keeps_readParams (host : Host) (file : Option String) :
    (readParams L host file).Keeps R := by
  have hread : ∀ name, (do
      let count ← Session.call L (.readParams name)
      modify fun s : Session ω => { s with paramCount := count }
      reach .paramsLoaded
      return count : Action (Session ω) Int).Keeps R := by
    intro name
    refine (call (.readParams name)).bind fun count => ?_
    refine Keeps.bind (keeps_own own ?_) fun _ => (keeps_reach own _).bind fun _ => keeps_pure _
    exact fun _ => ⟨rfl, rfl⟩
  refine (keeps_require _).bind fun _ => (keeps_liftExcept _).bind fun found => ?_
  dsimp only
  split
  · refine Keeps.bind (keeps_own own ?_) fun _ => hread _
    exact fun _ => ⟨rfl, by simp [say, Speaker.texts]⟩
  · exact hread _

lemma keeps_init : (init L).Keeps R := by
  refine (keeps_require _).bind fun _ => (call .init).bind fun _ => ?_
  refine Keeps.bind (keeps_own own ?_) fun _ => keeps_reach own _
  exact fun _ => ⟨rfl, rfl⟩

lemma keeps_finalize : (finalize L).Keeps R := by
  refine keeps_get.bind fun s => ?_
  split
  · exact (keeps_reach own _).bind fun _ => (call .statusMessage).ensuring (call .free)
  · exact keeps_throw _

lemma keeps_leave : (leave L).Keeps R := by
  refine keeps_get.bind fun s => ?_
  split
  · exact keeps_finalize own call
  · exact keeps_pure _

end

/-! ## What is written -/

lemma fill_eq_ok {name : BufferName} {values : Offer} {s s' : Session ω}
    (h : (fill name values).runOn s = (.ok (), s')) :
    ∃ t, values = .ok t ∧ s' = { s with memory := s.memory.write name t.entries } := by
  obtain ⟨_, _, hget, h⟩ := runOn_bind_eq_ok_iff.mp h
  cases hget
  obtain ⟨xs, v, hread, h⟩ := runOn_bind_eq_ok_iff.mp h
  obtain ⟨t, u, hvalues, h⟩ := runOn_bind_eq_ok_iff.mp h
  rw [runOn_liftExcept] at hread hvalues
  obtain ⟨-, rfl⟩ := Prod.mk.inj hread
  obtain ⟨ht, rfl⟩ := Prod.mk.inj hvalues
  split at h
  · cases h
    exact ⟨t, ht, rfl⟩
  · cases h

lemma writeObjective_eq_ok {objective : Except Fault Float} {s s' : Session ω}
    (h : (writeObjective objective).runOn s = (.ok (), s')) :
    ∃ value, objective = .ok value ∧
      s' = { s with memory.objective := s.objectiveScale * value } := by
  obtain ⟨value, v, hvalue, h⟩ := runOn_bind_eq_ok_iff.mp h
  rw [runOn_liftExcept] at hvalue
  obtain ⟨hobjective, rfl⟩ := Prod.mk.inj hvalue
  cases h
  exact ⟨value, hobjective, rfl⟩

end ReverseComm.Session
