import ReverseComm.Session.State
import ReverseComm.Tensor

/-!
# The record of a rehearsal

A rehearsal runs the library on a scripted solver and on problems given by expressions.  Whatever
the solver, the problems and the caller are asked to do is recorded in order; `Rehearsal.Record`
keeps that, together with where the script stands and how often each problem was evaluated.
-/

namespace ReverseComm.Rehearsal

/-- Something that was asked for. -/
inductive Event where
  /-- An entry point without more to tell was called. -/
  | called (e : EntryPoint)
  | paramsRead (file : String)
  | polled (request : Request) (raised : Bool)
  | acknowledged (request : Request)
  /-- The solver's step, with the buffers and the objective that it met. -/
  | stepped (decision : Option (List Float)) (objective : Float) (constraints : Option (List Float))
  /-- The solver's finite-difference routine, with the values that it met. -/
  | differentiated (objective : Float) (constraints : Option (List Float))
  | closed
  /-- A fitness was evaluated. -/
  | evaluated (x : List Float)
  /-- The caller was told of an iteration. -/
  | reported (stage : Option Stage) (x : List Float)
  deriving DecidableEq, Repr

/-- A step of a script. -/
structure Cue where
  /-- The decision vector to move to. -/
  decision : Option Offer
  status : Option Int
  /-- The flags of the requests to raise. -/
  requests : List Int
  /-- The decision vectors to try while differentiating. -/
  probes : List Offer

/-- Where a rehearsal stands. -/
structure Record where
  /-- What happened since the record was last read. -/
  events : Array Event
  /-- The rest of the script. -/
  cues : List Cue
  /-- The decision vectors that are still to be tried. -/
  probes : List Offer
  /-- How often each problem was evaluated, by the number of the problem. -/
  evaluations : List Nat

namespace Record

/-- Nothing has happened. -/
def blank : Record := ⟨#[], [], [], []⟩

/-- Add an event. -/
def add (e : Event) (r : Record) : Record := { r with events := r.events.push e }

/-- Enter a new problem, and answer its number. -/
def enter : Action Record Nat := do
  let r ← get
  set { r with evaluations := r.evaluations ++ [0] }
  return r.evaluations.length

/-- Count an evaluation of a problem, and answer how many there are. -/
def count (problem : Nat) : Action Record Nat := do
  let r ← get
  let n := r.evaluations[problem]?.getD 0 + 1
  set { r with evaluations := r.evaluations.set problem n }
  return n

/-- Read the events and start anew. -/
def read : Action Record (List Event) := do
  let r ← get
  set { r with events := #[] }
  return r.events.toList

end Record

end ReverseComm.Rehearsal
