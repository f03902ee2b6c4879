import Mathlib.Order.RelClasses
import ReverseComm.Proofs.Loop.Requests
import ReverseComm.Proofs.Recording

/-!
# What the loop leaves alone

The loop reaches a session in three ways: it calls the solver, it writes values into the memory, and
it lets the service act.  What all three maintain is maintained by the loop, however long it runs
and however it ends.  `Guarded` collects the conditions for a property of sessions, with a weaker
one for sessions that a fault has left, and `Guarded.drive` is the result.  `Framed` is the case of
a relation between sessions, which is a property of all sessions that come after a given one.

Only some calls belong to the loop, so that a relation has to be kept by these alone: `Call.inLoop`
tells them from the calls that begin and end a session.
-/

namespace ReverseComm

open ReverseComm.Action

variable {ω V α : Type}

/-- What serves the solver keeps a relation between sessions, whether it answers or raises. -/
structure Service.Keeps (R : Session ω → Session ω → Prop) (service : Service ω) : Prop where
  fitness : ∀ x, (service.fitness x).Keeps R
  report : ∀ a ∈ service.report, a.Keeps R

/-- A service whose fitness is always the same, and which leaves reporting to the solver. -/
def Service.constant (f : Tensor) : Service ω := ⟨fun _ => pure f, none⟩

lemma Service.constant_keeps {R : Session ω → Session ω → Prop} [IsPreorder (Session ω) R]
    (f : Tensor) : (Service.constant f).Keeps R where
  fitness _ := keeps_pure _
  report _ h := by cases h

namespace Loop

/-- A relation between the sessions of two states of the loop. -/
abbrev OfSession (R : Session ω → Session ω → Prop) : Running ω → Running ω → Prop :=
  Order.Preimage Running.session R

lemma keeps_onSession {R : Session ω → Session ω → Prop} {a : Action (Session ω) α}
    (ha : a.Keeps R) : (onSession a).Keeps (OfSession R) :=
  ha.zoom fun _ _ h => h

/-- Acting on the session leaves what the loop remembers. -/
lemma keeps_onSession_memo (a : Action (Session ω) α) :
    (onSession a).Keeps (Same Running.memo) :=
  keeps_zoom_same a fun _ _ => rfl

/-- Evaluating changes the session as the service does, and of what is remembered all but the number
of rounds. -/
lemma keeps_evaluate {R : Running ω → Running ω → Prop} [IsPreorder (Running ω) R]
    {service : Service ω} (read : (onSession (Session.readDecision (ω := ω))).Keeps R)
    (fitness : ∀ x, (onSession (service.fitness x)).Keeps R)
    (remember : ∀ r point f, R r { r with memo := ⟨point, f, r.memo.rounds⟩ }) :
    (evaluate service).Keeps R := by
  refine read.bind fun x => ?_
  refine keeps_get.bind fun r => ?_
  split
  · exact keeps_pure _
  · refine (keeps_modify fun r => remember r (some x) r.memo.fitness).bind fun _ => ?_
    refine (fitness x).bind fun f => ?_
    exact (keeps_modify fun r => remember r r.memo.point (some f)).bind fun _ => keeps_pure _

/-- Properties of sessions that the parts of a loop maintain: `P` as long as the loop goes on, and
`E` once a fault has broken it off. -/
structure Guarded (L : Library ω) (service : Service ω) (P E : Session ω → Prop) : Prop where
  call : ∀ c : Call, c.inLoop = true → (Session.call L c).Maintains P E
  memory : ∀ s m, P s → P { s with memory := m }
  fitness : ∀ x, (service.fitness x).Maintains P E
  report : ∀ a ∈ service.report, a.Maintains P E
  fault : ∀ s, P s → E s

namespace Guarded

variable {L : Library ω} {service : Service ω} {P E : Session ω → Prop}

lemma onSession {a : Action (Session ω) α} (ha : a.Maintains P E) :
    (onSession a).Maintains (fun r => P r.session) fun r => E r.session :=
  ha.zoom fun _ _ => rfl

variable (guarded : Guarded L service P E)
include guarded

lemma atFault : ∀ r : Running ω, P r.session → E r.session := fun r => guarded.fault r.session

lemma evaluate :
    (evaluate service).Maintains (fun r => P r.session) fun r => E r.session := by
  have hread : (Session.readDecision (ω := ω)).Keeps (Preserving P) := Session.keeps_readDecision
  refine (onSession (hread.maintains guarded.fault)).bind fun x => ?_
  refine (maintains_get guarded.atFault).bind fun r => ?_
  split
  · exact maintains_pure guarded.atFault _
  · refine Maintains.bind (maintains_modify ?_) fun _ => ?_
    · exact fun _ => id
    refine (onSession (guarded.fitness x)).bind fun f => ?_
    refine Maintains.bind (maintains_modify ?_) fun _ => maintains_pure guarded.atFault _
    exact fun _ => id

/-- Such properties do not depend on what the loop is asked for. -/
lemma tracked : Tracked L service (Loop.evaluate service) (fun _ r => P r.session)
    fun _ r => E r.session where
  call c hc _ := onSession (guarded.call c hc)
  memory _ r m hr := guarded.memory r.session m hr
  report a ha _ := onSession (guarded.report a ha)
  evaluation _ r hr := guarded.evaluate r hr
  count _ _ hr := hr
  fault _ := guarded.atFault

/-- The loop maintains what its calls, its writing and its service maintain. -/
theorem drive (budget : Nat) :
    (drive L service (Loop.evaluate service) budget).Maintains (fun r => P r.session)
      fun r => E r.session :=
  fun _ hr => guarded.tracked.drive budget hr

/-- A loop that is entered maintains `P` from there on, so that `Inv` holds again after it. -/
theorem run {Inv : Session ω → Prop}
    (enter : ∀ s, s.stage = some .seeded → Inv s → P { s with stage := some .running })
    (leave : ∀ s, E s → Inv s) (budget : Nat) :
    (Loop.run L service budget).Keeps (Preserving fun r => Inv r.session) := by
  intro r hr
  rw [Loop.run, runOn_bind, Loop.onSession, runOn_zoom, Session.enterLoop, runOn_bind,
    Session.runOn_require]
  by_cases right : r.session.stage = some .seeded
  · rw [if_pos right]
    obtain ⟨hanswer, hfault⟩ := guarded.drive budget
      { r with session.stage := some .running } (enter r.session right hr)
    dsimp only [Session.runOn_reach]
    rcases hrun : (Loop.drive L service (Loop.evaluate service) budget).runOn
      { r with session.stage := some .running } with ⟨fault | x, v⟩
    · exact leave _ (hfault fault v hrun)
    · exact leave _ (guarded.fault _ (hanswer x v hrun))
  · rw [if_neg right]
    exact hr

end Guarded

/-- A relation between sessions that calls of the loop, writing to the memory and a service keep. -/
structure Framed (L : Library ω) (service : Service ω) (R : Session ω → Session ω → Prop) :
    Prop where
  call : ∀ c : Call, c.inLoop = true → (Session.call L c).Keeps R
  memory : ∀ s m, R s { s with memory := m }
  service : service.Keeps R

/-- The loop keeps what its calls, its writing and its service keep: all sessions that it goes
through are related to the one that it started from. -/
theorem Framed.drive {L : Library ω} {service : Service ω} {R : Session ω → Session ω → Prop}
    [IsPreorder (Session ω) R] (framed : Framed L service R) (budget : Nat) :
    (drive L service (Loop.evaluate service) budget).Keeps (OfSession R) := by
  intro r
  have hkeeps : ∀ {β : Type} {a : Action (Session ω) β}, a.Keeps R →
      a.Maintains (R r.session) (R r.session) := by
    intro β a ha
    refine Keeps.maintains (fun s hs => ?_) fun _ => id
    exact IsTrans.trans _ _ _ hs (ha s)
  have guarded : Guarded L service (R r.session) (R r.session) :=
    { call := fun c hc => hkeeps (framed.call c hc)
      memory := fun s m hs => IsTrans.trans _ _ _ hs (framed.memory s m)
      fitness := fun x => hkeeps (framed.service.fitness x)
      report := fun a ha => hkeeps (framed.service.report a ha)
      fault := fun _ => id }
  obtain ⟨hanswer, hfault⟩ := guarded.drive budget r (refl r.session)
  rcases hrun : (Loop.drive L service (Loop.evaluate service) budget).runOn r with ⟨fault | x, v⟩
  · exact hfault fault v hrun
  · exact hanswer x v hrun

end Loop

end ReverseComm
