/-!
# Stages of a session

A session passes through its stages one by one, in this order; only the last can be reached early,
from any stage after the solver has allocated its memory.  Before the first there is no stage at
all.
-/

namespace ReverseComm

/-- The stages of a session. -/
inductive Stage where
  /-- The structures are empty and pre-initialised. -/
  | created
  /-- The parameter file has been read. -/
  | paramsLoaded
  /-- The dimensions are declared. -/
  | sized
  /-- The solver has allocated its memory. -/
  | initialized
  /-- The first candidate and the bounds are written. -/
  | seeded
  /-- The loop has been entered. -/
  | running
  /-- The solver's memory has been released. -/
  | finalized
  deriving DecidableEq, Repr

namespace Stage

/-- The stages in order. -/
def all : List Stage :=
  [.created, .paramsLoaded, .sized, .initialized, .seeded, .running, .finalized]

/-- The place of a stage in the order. -/
def rank : Stage → Nat
  | .created => 0
  | .paramsLoaded => 1
  | .sized => 2
  | .initialized => 3
  | .seeded => 4
  | .running => 5
  | .finalized => 6

/-- The name of a stage. -/
def name : Stage → String
  | .created => "CREATED"
  | .paramsLoaded => "PARAMS_LOADED"
  | .sized => "SIZED"
  | .initialized => "INITIALIZED"
  | .seeded => "SEEDED"
  | .running => "RUNNING"
  | .finalized => "FINALIZED"

/-- The name of a stage that may be missing. -/
def nameOf : Option Stage → String
  | none => "UNINITIALIZED"
  | some s => s.name

/-- Is the solver's memory allocated in this stage? -/
def allocated : Option Stage → Bool
  | some .initialized | some .seeded | some .running => true
  | _ => false

/-- The place of a stage that may be missing, counted from the missing one. -/
def rankOf : Option Stage → Nat
  | none => 0
  | some s => s.rank + 1

theorem allocated_iff {s : Option Stage} :
    allocated s = true ↔
      rankOf (some .initialized) ≤ rankOf s ∧ rankOf s < rankOf (some .finalized) := by
  rcases s with _ | s
  · simp [allocated, rankOf, rank]
  · cases s <;> simp [allocated, rankOf, rank]

end Stage

end ReverseComm
