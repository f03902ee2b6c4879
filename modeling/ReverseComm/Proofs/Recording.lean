import Mathlib.Data.List.Basic
import ReverseComm.Loop
import ReverseComm.Proofs.Action

/-!
# Recording the calls of a library

What a library does is up to the solver, so what can be said of every solver is said of the calls
that it receives.  `Recorded.library L` answers every call as `L` does and writes it down: the
memory it was made on, what came of it, and the memory it left.  It is asked under every entry
point, bound or not, so that a call which fails because its entry point is gone is written down as
well.

A library cannot tell whether it is recorded: `runOn_library_call` gives the answer and the memory
of a recorded call as those of the call itself.
-/

namespace ReverseComm

open ReverseComm.Action

variable {ω α : Type}

/-- A call of a library and what came of it. -/
structure Reply where
  call : Call
  outcome : Except Fault call.Answer

/-- Did a call initialize the solver? -/
def Reply.initializes : Reply → Bool
  | ⟨.init, .ok _⟩ => true
  | _ => false

/-- Is a call a report of the status? -/
def Reply.reports (r : Reply) : Bool := r.call == .statusMessage

/-- Is a call a release of the memory? -/
def Reply.releases (r : Reply) : Bool := r.call == .free

/-- A call that was made of a library, next to the memory before and after it. -/
structure CallRecord extends Reply where
  before : Memory
  after : Memory

/-- A state next to the record of the calls that were made. -/
structure Recorded (ω : Type) where
  calls : List CallRecord
  /-- For every time that the library was closed, how many calls had been made by then. -/
  closings : List Nat
  hidden : ω

namespace Recorded

/-- A state with an empty record. -/
def start (w : ω) : Recorded ω := ⟨[], [], w⟩

/-- The calls that were made, with what came of them. -/
def replies (w : Recorded ω) : List Reply := w.calls.map CallRecord.toReply

/-- What was asked of the library, and when it was closed. -/
def entries (w : Recorded ω) : List CallRecord × List Nat := (w.calls, w.closings)

/-- Change the state and leave the record. -/
def put (v : ω) (w : Recorded ω) : Recorded ω := { w with hidden := v }

/-- Act on the state; the record stays. -/
def aside (a : Action ω α) : Action (Recorded ω) α := a.zoom hidden put

lemma keeps_aside (a : Action ω α) : (aside a).Keeps (Same entries) :=
  keeps_zoom_same a fun _ _ => rfl

lemma replies_congr {v w : Recorded ω} (h : v.calls = w.calls) : v.replies = w.replies := by
  rw [replies, replies, h]

lemma replies_eq_nil {w : Recorded ω} (h : w.entries = ([], [])) : w.replies = [] := by
  have hcalls : w.calls = [] := congrArg Prod.fst h
  rw [replies, hcalls, List.map_nil]

/-- A library that keeps a record of its calls. -/
def library (L : Library ω) : Library (Recorded ω) where
  path := L.path
  successThreshold := L.successThreshold
  errorThreshold := L.errorThreshold
  bound := none
  machine c := .of fun n =>
    let (outcome, m) := (L.call c).runOn ⟨n.memory, n.hidden.hidden⟩
    let record : CallRecord := ⟨⟨c, outcome⟩, n.memory, m.memory⟩
    (outcome, ⟨m.memory, { n.hidden with calls := n.hidden.calls ++ [record], hidden := m.hidden }⟩)
  release := .of fun w =>
    let (outcome, v) := L.release.runOn w.hidden
    (outcome, { w with closings := w.closings ++ [w.calls.length], hidden := v })

/-- A recorded call is the call itself, and one more entry of the record. -/
lemma runOn_library_call (L : Library ω) (c : Call) (n : Native (Recorded ω)) :
    ((library L).call c).runOn n =
      (((L.call c).runOn ⟨n.memory, n.hidden.hidden⟩).1,
        ⟨((L.call c).runOn ⟨n.memory, n.hidden.hidden⟩).2.memory,
          { n.hidden with
            calls := n.hidden.calls ++
              [⟨⟨c, ((L.call c).runOn ⟨n.memory, n.hidden.hidden⟩).1⟩, n.memory,
                ((L.call c).runOn ⟨n.memory, n.hidden.hidden⟩).2.memory⟩]
            hidden := ((L.call c).runOn ⟨n.memory, n.hidden.hidden⟩).2.hidden }⟩) := rfl

end Recorded

/-- A call of a session changes the memory, the record and the solver's own state, and nothing
else. -/
lemma Session.call_recorded {L : Library ω} {c : Call} {s s' : Session (Recorded ω)}
    {outcome : Except Fault c.Answer}
    (h : (Session.call (Recorded.library L) c).runOn s = (outcome, s')) :
    ∃ m w, s' = { s with
      memory := m
      hidden :=
        { s.hidden with
          calls := s.hidden.calls ++ [⟨⟨c, outcome⟩, s.memory, m⟩]
          hidden := w } } := by
  rw [Session.runOn_call, Recorded.runOn_library_call] at h
  obtain ⟨rfl, rfl⟩ := Prod.mk.inj h
  exact ⟨_, _, rfl⟩

lemma Session.stage_call {L : Library ω} {c : Call} {s s' : Session (Recorded ω)}
    {outcome : Except Fault c.Answer}
    (h : (Session.call (Recorded.library L) c).runOn s = (outcome, s')) : s'.stage = s.stage := by
  obtain ⟨m, w, rfl⟩ := Session.call_recorded h
  rfl

lemma Session.replies_call {L : Library ω} {c : Call} {s s' : Session (Recorded ω)}
    {outcome : Except Fault c.Answer}
    (h : (Session.call (Recorded.library L) c).runOn s = (outcome, s')) :
    s'.hidden.replies = s.hidden.replies ++ [⟨c, outcome⟩] := by
  obtain ⟨m, w, rfl⟩ := Session.call_recorded h
  simp [Recorded.replies]

/-! ## A brief solver -/

/-- A solver that asks for one step and one objective, and has terminated then. -/
def Library.brief : Library Unit where
  path := Path.ofString "brief"
  successThreshold := ReverseComm.successThreshold
  errorThreshold := ReverseComm.errorThreshold
  bound := none
  machine
    | .readParams _ => pure 0
    | .getUserAction request => pure (request == .solverStep || request == .objective)
    | .step => modify fun n => { n with memory.status := 1000 }
    | .preInit | .init | .doneUserAction _ | .iterationOutput | .statusMessage | .free
    | .finiteDifference => pure ()
  release := pure ()

end ReverseComm
