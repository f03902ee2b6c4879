import ReverseComm.Algorithm
import ReverseComm.Loading.Load
import ReverseComm.Loop
import ReverseComm.Selection

/-!
# Evolving a population

`evolve` selects a member of a population, solves from it, and puts the result into the population
if that improves it.

What can be refused without the solver is refused first.  Then the library is loaded; once it is
there, and the problem has named its bounds, the library is closed whatever happens.  Within, the
solve runs in a session that is finalized whatever happens.  The population changes at the very
end, or not at all, by the replacement policy of that moment: the caller who is told of iterations
may have set another one since the start.
-/

namespace ReverseComm

/-- What the algorithm relies on. -/
structure Surroundings (ω : Type) where
  host : Host
  registry : Except Fault (Loading.Registry ω)
  /-- How many rounds a loop may take. -/
  budget : Nat

/-- The algorithm at work on a population. -/
structure Evolution (ω : Type) where
  algorithm : Algorithm ω
  population : Population
  coordinator : Loading.Coordinator
  messages : List Message
  hidden : ω

namespace Evolution

variable {ω α : Type}

/-- Give a message. -/
def say (text : String) : Action (Evolution ω) Unit :=
  modify fun e => { e with messages := e.messages ++ [⟨.algorithm, .info, text⟩] }

/-- Act on the state of solver, problem and caller. -/
def aside (a : Action ω α) : Action (Evolution ω) α :=
  a.zoom Evolution.hidden fun w e => { e with hidden := w }

/-- Act on the generator. -/
def drawing (a : Action Generator α) : Action (Evolution ω) α :=
  a.zoom (·.algorithm.generator) fun g e => { e with algorithm.generator := g }

/-- Act on the population. -/
def populating (a : Action (Habitat ω) α) : Action (Evolution ω) α :=
  a.zoom (fun e => ⟨e.population, e.hidden⟩)
    fun h e => { e with population := h.population, hidden := h.hidden }

/-- Act on the population and the generator. -/
def replacing (a : Action (Selection.Setting ω) α) : Action (Evolution ω) α :=
  a.zoom (fun e => ⟨⟨e.population, e.hidden⟩, e.algorithm.generator⟩)
    fun s e =>
      { e with
        population := s.habitat.population
        hidden := s.habitat.hidden
        algorithm.generator := s.generator }

/-- Load a library. -/
def loading (a : Action (Loading.Loader ω) α) : Action (Evolution ω) α :=
  a.zoom (fun e => ⟨e.coordinator, e.messages, e.hidden⟩)
    fun l e => { e with coordinator := l.coordinator, messages := l.messages, hidden := l.hidden }

/-- Where a solve starts: in a session of its own, with what the algorithm keeps beside it. -/
def outset (a : Algorithm ω) (messages : List Message) (w : ω) : Running (Accounted ω) :=
  ⟨Session.start messages ⟨a.account, a.settings, w⟩, .blank⟩

/-- Run a session of its own, with its loop. -/
def solving (a : Action (Running (Accounted ω)) α) : Action (Evolution ω) α :=
  a.zoom (fun e => outset e.algorithm e.messages e.hidden)
    fun r e =>
      { e with
        algorithm.account := r.session.hidden.account
        algorithm.settings := r.session.hidden.settings
        messages := r.session.messages
        hidden := r.session.hidden.hidden }

/-- Refuse a problem that the algorithm cannot deal with, and an empty population. -/
def checkProblem (problem : Problem ω) (p : Population) : Except Fault Unit := do
  if (← problem.objectiveCount) ≠ 1 then throw (.config (.severalObjectives (← problem.name)))
  if ← problem.stochastic then throw (.config .stochastic)
  if p.size = 0 then throw (.config .emptyPopulation)

/-- What serves the solver: fitness evaluations go into the account, and the caller, if there is
one, is told of iterations. -/
def service (a : Algorithm ω) (problem : Problem ω) (L : Library ω) : Service (Accounted ω) where
  fitness := Account.evaluate problem
  report := a.listener.map fun listener =>
    Session.within Accounted.steered Accounted.steer (listener (Steered.library L))

/-- What a solve comes to. -/
structure Outcome where
  candidate : Candidate
  termination : Termination
  /-- How many rounds the loop took. -/
  rounds : Nat
  deriving DecidableEq, Repr

/-- The course of a solve from a seed through the loop, up to the status that the loop ends with. -/
def approach (env : Surroundings ω) (a : Algorithm ω) (problem : Problem ω) (L : Library ω)
    (bounds : Bounds) (seed : Candidate) : Action (Running (Accounted ω)) Int := do
  let native := Accounted.library L
  Loop.onSession (Session.preInit native)
  let _ ← Loop.onSession (Session.readParams native env.host (a.settings.paramFile.map Path.text))
  let dimension ← problem.dimension
  let constraints ← problem.constraintCount
  Loop.onSession (Session.declare (.ok dimension) (.ok constraints))
  Loop.onSession (Session.init native)
  let equalities ← problem.equalityCount
  Loop.onSession (Session.seed a.settings.screenOutput (.ok seed.x) (.ok seed.f)
    (.ok bounds.lower) (.ok bounds.upper) (.ok equalities))
  Loop.run native (service a problem L) env.budget

/-- The course of a solve from a seed, up to the candidate that the solver arrived at. -/
def course (env : Surroundings ω) (a : Algorithm ω) (problem : Problem ω) (L : Library ω)
    (bounds : Bounds) (seed : Candidate) : Action (Running (Accounted ω)) Outcome := do
  let status ← approach env a problem L bounds seed
  modify fun r => { r with session.hidden.account.lastResult := some status }
  let candidate ← Loop.onSession
    (Session.readCandidate fun x => Accounted.aside (problem.fitness x))
  let r ← get
  return { candidate, termination := r.session.termination (Accounted.library L),
           rounds := r.memo.rounds }

/-- Solve from a seed.  The session is finalized and the library closed in any case. -/
def solve (env : Surroundings ω) (a : Algorithm ω) (problem : Problem ω) (L : Library ω)
    (bounds : Bounds) (seed : Candidate) : Action (Evolution ω) Outcome :=
  Action.ensuring
    (solving (Action.ensuring (course env a problem L bounds seed)
      (Loop.onSession (Session.leave (Accounted.library L)))))
    (aside (do let _ ← L.close))

/-- The message at the end of a solve. -/
def finishedText (status : Option Int) (o : Outcome) : String :=
  algorithmName ++ " finished with status " ++ toString (status.getD 0) ++ " (" ++
    o.termination.word ++ ") after " ++ toString o.rounds ++ " loop iterations"

/-- The message about what became of the result. -/
def replacedText (selected : Nat) : Option Nat → String
  | none => s!"No improvement on individual {selected}, population unchanged"
  | some index => s!"Individual {index} replaced by the optimized candidate"

/-- Refuse what can be refused without the solver, and select the member to start from. -/
def prepare (problem : Problem ω) : Action (Evolution ω) (Nat × Candidate) := do
  let e ← get
  checkProblem problem e.population
  let selected ←
    drawing (Selection.select problem e.population e.algorithm.settings.selection)
  Selection.checkIndex e.population e.algorithm.settings.replacement
  return selected

/-- Load the library and solve from a seed. -/
def arrive (env : Surroundings ω) (problem : Problem ω) (seed : Candidate) :
    Action (Evolution ω) Outcome := do
  let a := (← get).algorithm
  let library ←
    loading (Loading.load env.host.isFile env.registry a.settings.library a.settings.binder)
  let bounds ← problem.bounds
  solve env a problem library bounds seed

/-- Put the result of a solve into the population if it improves it. -/
def settle (problem : Problem ω) (selected : Nat) (seed : Candidate) (outcome : Outcome) :
    Action (Evolution ω) Unit := do
  let a := (← get).algorithm
  say (finishedText a.account.lastResult outcome)
  let replaced ← replacing
    (Selection.replace problem a.settings.replacement outcome.candidate seed)
  say (replacedText selected replaced)

/-- Optimise a member of the population. -/
def evolve (env : Surroundings ω) (problem : Problem ω) : Action (Evolution ω) Unit := do
  modify fun e => { e with algorithm.account := .blank }
  let (selected, seed) ← prepare problem
  let outcome ← arrive env problem seed
  settle problem selected seed outcome

end Evolution

end ReverseComm
