import ReverseComm.Action
import ReverseComm.Path
import ReverseComm.Solver.Memory
import ReverseComm.Solver.Termination

/-!
# Solver libraries

A library answers calls of its entry points.  What a call does is up to the solver: it may change
the shared memory and a state `ω` of its own, and it may raise a fault.  `Library.call` is the
only way to the solver; `Library.close` releases a library, after which the entry points that its
binder had bound are gone.

Each library brings the thresholds by which its status is classified.
-/

namespace ReverseComm

/-- The shared memory next to the state that the solver keeps to itself. -/
structure Native (ω : Type) where
  memory : Memory
  hidden : ω

/-- What the calls of a solver do. -/
abbrev Machine (ω : Type) := (c : Call) → Action (Native ω) c.Answer

/-- A solver library that has been loaded. -/
structure Library (ω : Type) where
  /-- The file it was loaded from. -/
  path : Path
  successThreshold : Int
  errorThreshold : Int
  /-- The entry points that are bound, if the binder of the library keeps count of them. -/
  bound : Option (List EntryPoint)
  machine : Machine ω
  /-- What happens when the library is closed. -/
  release : Action ω Unit

namespace Library

variable {ω : Type}

/-- Is an entry point at hand? -/
def binds (L : Library ω) (e : EntryPoint) : Bool :=
  match L.bound with
  | none => true
  | some es => es.contains e

/-- Call an entry point. -/
def call (L : Library ω) (c : Call) : Action (Native ω) c.Answer :=
  if L.binds c.entryPoint then L.machine c else throw (.key .unboundEntryPoint)

/-- A library once it is closed: its bound entry points are gone. -/
def closed (L : Library ω) : Library ω := { L with bound := L.bound.map fun _ => [] }

/-- Close a library. -/
def close (L : Library ω) : Action ω (Library ω) := do
  L.release
  return L.closed

/-- What a status says about the solver. -/
def termination (L : Library ω) (status : Int32) : Termination :=
  Termination.ofStatus L.successThreshold L.errorThreshold status.toInt

/-- A library with a state within a larger one. -/
def within {σ : Type} (get : σ → ω) (put : ω → σ → σ) (L : Library ω) : Library σ where
  path := L.path
  successThreshold := L.successThreshold
  errorThreshold := L.errorThreshold
  bound := L.bound
  machine c := (L.machine c).zoom (fun n => ⟨n.memory, get n.hidden⟩)
    fun n m => ⟨n.memory, put n.hidden m.hidden⟩
  release := L.release.zoom get put

theorem binds_closed (L : Library ω) (e : EntryPoint) :
    L.closed.binds e = L.bound.isNone := by
  cases h : L.bound <;> simp [closed, binds, h]

end Library

end ReverseComm
