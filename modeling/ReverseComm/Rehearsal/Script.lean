import ReverseComm.Rehearsal.Record

/-!
# A scripted solver

The solver of a rehearsal follows a script.  Each of its steps takes the next cue: it may move the
decision vector, set the status, and raise requests; when the script is over, the status says so.
While it differentiates, it asks for objective and constraints at the points of the cue, one by one.

A solver whose binder allows it can also be told to fail at given entry points.
-/

namespace ReverseComm.Rehearsal

/-- A script for a solver. -/
structure Script where
  cues : List Cue
  /-- The factor by which the solver wants the objective scaled. -/
  scale : Float
  infinity : Float
  /-- How many parameters are read; if it is not said, the file decides. -/
  paramCount : Option Int
  firstStatus : Int
  firstRequests : List Int
  lastStatus : Int
  successThreshold : Int
  errorThreshold : Int
  /-- The buffers that the solver does not allocate. -/
  unallocated : List BufferName
  /-- The entry points that fail. -/
  failing : List EntryPoint
  /-- Are polls recorded? -/
  traced : Bool

/-- The number of parameters in a parameter file that exists. -/
def fileParamCount : Int := 3

/-- The iteration limit of a fresh solver. -/
def freshMaxIterations : Int32 := 100

namespace Script

/-- Add an event to the record. -/
def note (e : Event) : Action (Native Record) Unit :=
  modify fun n => { n with hidden := n.hidden.add e }

/-- Change the shared memory. -/
def change (f : Memory → Memory) : Action (Native Record) Unit :=
  modify fun n => { n with memory := f n.memory }

/-- Note a call, and fail if the script says so. -/
def begin (s : Script) (e : EntryPoint) (event : Event) : Action (Native Record) Unit := do
  note event
  if s.failing.contains e then throw (.run (.external (e.symbol ++ " failed")))

/-- How many flags the solver has for requests. -/
def flagCount : Nat := 16

/-- The number of a flag; a negative one counts from the end. -/
def flag (code : Int) : Except Fault Nat :=
  let i := if code < 0 then code + flagCount else code
  if 0 ≤ i ∧ i < flagCount then .ok i.toNat else .error (.index .element)

/-- Raise requests one after the other. -/
def raiseAll (codes : List Int) : Action (Native Record) Unit :=
  codes.forM fun code => do
    let i ← flag code
    change (·.raise i)

/-- Move the decision vector; a single number is repeated. -/
def moveTo (x : Offer) : Action (Native Record) Unit := do
  let t ← x
  match t.stretch [((← get).memory.lengthOf .decision).toNat] with
  | none => throw (.value .unmatchedShapes)
  | some xs => change (·.write .decision xs)

/-- The memory as a fresh solver prepares it. -/
def prepared (s : Script) : Memory :=
  { Memory.blank with
    status := Int32.ofInt s.firstStatus
    parameters :=
      { Memory.blank.parameters with
        infinity := s.infinity
        maxIterations := freshMaxIterations
        printLevel := 1
        suppliesGradient := true
        suppliesJacobian := true
        suppliesHessian := true
        suppliesHessianStructure := true } }

/-- Allocate the buffers by the declared dimensions, filled with zeros. -/
def allocate (s : Script) (m : Memory) : Except Fault Memory :=
  BufferName.all.foldlM (fun m name =>
    if s.unallocated.contains name then .ok { m with buffers := m.buffers.put name none }
    else if m.lengthOf name < 0 then .error (.value .negativeLength)
    else
      let zeros := List.replicate (m.lengthOf name).toNat 0
      .ok { m with buffers := m.buffers.put name (some zeros) }) m

/-- Follow a cue. -/
def follow (cue : Cue) : Action (Native Record) Unit := do
  if let some x := cue.decision then moveTo x
  if let some status := cue.status then change fun m => { m with status := Int32.ofInt status }
  raiseAll cue.requests
  if (← get).memory.isRaised Request.finiteDifference.code then
    modify fun n => { n with hidden := { n.hidden with probes := cue.probes } }
  else change (·.raise Request.solverStep.code)

/-- The solver's step. -/
def step (s : Script) : Action (Native Record) Unit := do
  change (·.clear Request.solverStep.code)
  match (← get).hidden.cues with
  | [] => change fun m => { m with status := Int32.ofInt s.lastStatus }
  | cue :: rest =>
    modify fun n => { n with hidden := { n.hidden with cues := rest } }
    follow cue

/-- The solver's finite-difference routine. -/
def differentiate : Action (Native Record) Unit := do
  match (← get).hidden.probes with
  | [] =>
    change fun m => (m.clear Request.finiteDifference.code).raise Request.solverStep.code
  | x :: rest =>
    modify fun n => { n with hidden := { n.hidden with probes := rest } }
    moveTo x
    change fun m => (m.raise Request.objective.code).raise Request.constraints.code

/-- The calls of a scripted solver. -/
def machine (s : Script) (isFile : Path → Bool) : Machine Record
  | .preInit => do
    modify fun n => { n with hidden := { n.hidden with cues := s.cues, probes := [] } }
    s.begin .preInit (.called .preInit)
    change fun _ => s.prepared
  | .readParams file => do
    s.begin .readParams (.paramsRead file)
    return s.paramCount.getD (if isFile (Path.ofString file) then fileParamCount else 0)
  | .init => do
    s.begin .init (.called .init)
    let m ← s.allocate (← get).memory
    change fun _ => { m with objectiveScale := s.scale }
    raiseAll s.firstRequests
  | .getUserAction request => do
    let raised := (← get).memory.isRaised request.code
    if s.traced then note (.polled request raised)
    if s.failing.contains .getUserAction then
      throw (.run (.external (EntryPoint.symbol .getUserAction ++ " failed")))
    return raised
  | .doneUserAction request => do
    s.begin .doneUserAction (.acknowledged request)
    change (·.clear request.code)
  | .iterationOutput => s.begin .iterationOutput (.called .iterationOutput)
  | .step => do
    let m := (← get).memory
    s.begin .step (.stepped m.buffers.decision m.objective m.buffers.constraints)
    s.step
  | .statusMessage => s.begin .statusMessage (.called .statusMessage)
  | .free => do
    s.begin .free (.called .free)
    change fun m => { m with buffers := .none }
  | .finiteDifference => do
    let m := (← get).memory
    s.begin .finiteDifference (.differentiated m.objective m.buffers.constraints)
    differentiate

/-- A script by the thresholds that every library has unless its binder says otherwise, and without
failures. -/
def plain (s : Script) : Script :=
  { s with
    failing := []
    successThreshold := ReverseComm.successThreshold
    errorThreshold := ReverseComm.errorThreshold }

/-- A library that follows a script. -/
def library (s : Script) (isFile : Path → Bool) (path : Path) : Library Record where
  path := path
  successThreshold := s.successThreshold
  errorThreshold := s.errorThreshold
  bound := none
  machine := s.machine isFile
  release := modify (Record.add .closed)

end Script

end ReverseComm.Rehearsal
