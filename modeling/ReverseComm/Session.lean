import ReverseComm.Host
import ReverseComm.Session.Exchange

/-!
# The course of a session

A session goes through its stages in order: `preInit`, `readParams`, `declare`, `init`, `seed`,
then the loop, and `finalize`.  Each is refused outside the stage before it, without any call of
the solver; `finalize` may come at any time while the solver's memory is allocated.  `scope` runs
an action and finalizes what it left allocated, whether it raised a fault or not.

The stages up to the loop are reached when their work is done.  The loop and `finalize` are entered
before theirs, so that a fault in them does not lead back.
-/

namespace ReverseComm.Session

variable {ω : Type}

/-- Refuse to go on outside a stage. -/
def require (expected : Option Stage) : Action (Session ω) Unit := do
  let s ← get
  if s.stage = expected then return
  else throw (.stage expected s.stage)

/-- Reach a stage. -/
def reach (stage : Stage) : Action (Session ω) Unit :=
  modify fun s => { s with stage := some stage }

@[simp] theorem runOn_require (expected : Option Stage) (s : Session ω) :
    (require expected).runOn s =
      if s.stage = expected then (.ok (), s) else (.error (.stage expected s.stage), s) := by
  simp only [require, Action.runOn_bind, Action.runOn_get]
  split <;> rfl

@[simp] theorem runOn_reach (stage : Stage) (s : Session ω) :
    (reach stage).runOn s = (.ok (), { s with stage := some stage }) := rfl

/-- Let the solver prepare the empty memory. -/
def preInit (L : Library ω) : Action (Session ω) Unit := do
  require none
  call L .preInit
  reach .created

/-- The message that a parameter file is missing. -/
def missingParamFile (file : String) : String :=
  "Parameter file " ++ file ++ " not found, using solver defaults"

/-- Let the solver read its parameters, and answer how many there were.  A file that is missing is
only remarked upon. -/
def readParams (L : Library ω) (host : Host) (file : Option String) : Action (Session ω) Int := do
  require (some .created)
  let file := host.chooseParamFile file
  if !(← probe host.isFile (Path.ofString file)) then modify (say (missingParamFile file))
  let count ← call L (.readParams file)
  modify fun s => { s with paramCount := count }
  reach .paramsLoaded
  return count

/-- Declare the numbers of variables and constraints, and all matrices as dense. -/
def declare (variableCount constraintCount : Except Fault Int) : Action (Session ω) Unit := do
  require (some .paramsLoaded)
  let n ← variableCount
  modify fun s => { s with memory.variableCount := Int32.ofInt n }
  let m ← constraintCount
  modify fun s =>
    { s with
      memory.constraintCount := Int32.ofInt m
      memory.entryCounts := ⟨denseMatrix, denseMatrix, denseMatrix⟩ }
  reach .sized

/-- Let the solver allocate its buffers, and fix the objective scale. -/
def init (L : Library ω) : Action (Session ω) Unit := do
  require (some .sized)
  call L .init
  modify fun s => { s with objectiveScale := s.memory.objectiveScale }
  reach .initialized

/-- The parameters of a solve: derivatives are left to the solver, and so are the first
multipliers. -/
def seedParameters (screenOutput : Bool) (p : Parameters) : Parameters :=
  { p with
    suppliesGradient := false
    suppliesJacobian := false
    suppliesHessian := false
    suppliesHessianStructure := false
    estimatesMultipliers := true
    printLevel := if screenOutput then p.printLevel else silentPrintLevel }

/-- Write the first candidate and the bounds. -/
def seed (screenOutput : Bool) (x f lower upper : Offer) (equalities : Except Fault Int) :
    Action (Session ω) Unit := do
  require (some .initialized)
  modify fun s => { s with memory.parameters := seedParameters screenOutput s.memory.parameters }
  writeCandidate x f
  writeBounds lower upper equalities
  reach .seeded

/-- Enter the loop. -/
def enterLoop : Action (Session ω) Unit := do
  require (some .seeded)
  reach .running

/-- Let the solver report its status and release its memory; the release happens even if the report
fails. -/
def finalize (L : Library ω) : Action (Session ω) Unit := do
  let s ← get
  if Stage.allocated s.stage then
    reach .finalized
    Action.ensuring (call L .statusMessage) (call L .free)
  else throw (.stage (some .initialized) s.stage)

/-- Leave a session: finalize it if its memory is allocated. -/
def leave (L : Library ω) : Action (Session ω) Unit := do
  if Stage.allocated (← get).stage then finalize L

/-- Run an action and leave the session, whether the action raises a fault or not. -/
def scope {α : Type} (L : Library ω) (body : Action (Session ω) α) : Action (Session ω) α :=
  body.ensuring (leave L)

end ReverseComm.Session
