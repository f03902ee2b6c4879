import ReverseComm.Fitness.Ranking
import ReverseComm.Generator
import ReverseComm.Problem

/-!
# Populations

A population keeps decision vectors together with their fitness vectors, one pair per member, and
counts the fitness evaluations it made itself.  The widths of the two vectors are fixed when it is
made.

Adding and replacing members goes through `Population.checkMember`, which checks the decision
vector, evaluates the fitness if none is given, and checks that.  A member that is refused leaves
the members as they were; an evaluation whose result is refused still counts.
-/

namespace ReverseComm

/-- A member of a population. -/
structure Member where
  x : List Float
  f : List Float
  deriving DecidableEq, Repr

/-- A population. -/
structure Population where
  /-- The length of decision vectors. -/
  width : Nat
  /-- The length of fitness vectors. -/
  fitnessWidth : Nat
  members : List Member
  /-- The fitness evaluations made by the population. -/
  evaluations : Nat
  deriving DecidableEq, Repr

/-- A population next to the state that its problem keeps to itself. -/
structure Habitat (ω : Type) where
  population : Population
  hidden : ω

namespace Population

variable {ω : Type}

/-- The number of members. -/
def size (p : Population) : Nat := p.members.length

/-- The decision vectors, one row per member. -/
def decisions (p : Population) : List (List Float) := p.members.map (·.x)

/-- The fitness vectors, one row per member. -/
def fitnesses (p : Population) : List (List Float) := p.members.map (·.f)

/-- A member as a candidate. -/
def candidate (m : Member) : Candidate := ⟨.vector m.x, .vector m.f⟩

/-- The member at an index. -/
def member (p : Population) (i : Nat) : Except Fault Member :=
  match p.members[i]? with
  | some m => .ok m
  | none => .error (.index .element)

/-- The member at an index that counts from the end if it is negative. -/
def memberFrom (p : Population) (i : Int) : Except Fault Member :=
  let j := if i < 0 then i + p.size else i
  if j < 0 then .error (.index .element) else p.member j.toNat

/-! ## Checking members -/

/-- A decision vector of the right length; a plain number counts as a vector of one entry. -/
def checkDecision (p : Population) (x : Offer) : Except Fault (List Float) := do
  let row := (← x).atLeastVector
  if row.shape = [p.width] then return row.entries
  else .error (.value (.decisionSize row.size p.width))

/-- A fitness vector of the right length. -/
def checkFitness (p : Population) (f : Tensor) : Except Fault (List Float) :=
  let row := f.atLeastVector
  if row.shape = [p.fitnessWidth] then .ok row.entries
  else .error (.value (.fitnessSize row.size p.fitnessWidth))

/-- Evaluate the fitness of a decision vector, and count it. -/
def evaluate (problem : Problem ω) (x : List Float) : Action (Habitat ω) Tensor := do
  let f ← (problem.fitness x).zoom Habitat.hidden fun w h => { h with hidden := w }
  modify fun h => { h with population.evaluations := h.population.evaluations + 1 }
  return f

/-- Check a member before it comes in; a fitness that is not given is evaluated. -/
def checkMember (problem : Problem ω) (x : Offer) (f : Option Offer) :
    Action (Habitat ω) Member := do
  let p := (← get).population
  let x ← p.checkDecision x
  let f ← match f with
    | none => evaluate problem x
    | some f => f
  return ⟨x, ← p.checkFitness f⟩

/-- Add a member. -/
def push (problem : Problem ω) (x : Offer) (f : Option Offer) : Action (Habitat ω) Unit := do
  let m ← checkMember problem x f
  modify fun h => { h with population.members := h.population.members ++ [m] }

/-- Is an index one of a member? -/
def isIndex (p : Population) (i : Int) : Bool := 0 ≤ i && i < p.size

/-- Replace the member at an index. -/
def replace (problem : Problem ω) (index : Int) (x : Offer) (f : Option Offer) :
    Action (Habitat ω) Unit := do
  let p := (← get).population
  if !p.isIndex index then throw (.index (.member index p.size))
  let m ← checkMember problem x f
  modify fun h =>
    { h with population.members := h.population.members.set index.toNat m }

/-! ## Making a population -/

/-- A number of entries; it cannot be negative. -/
def length (n : Int) : Except Fault Nat :=
  if 0 ≤ n then .ok n.toNat else .error (.value .negativeLength)

/-- The population of a problem without members. -/
def empty (problem : Problem ω) : Except Fault Population := do
  let width ← length (← problem.dimension)
  let objectives ← problem.objectiveCount
  let fitnessWidth ← length (objectives + (← problem.constraintCount))
  return { width, fitnessWidth, members := [], evaluations := 0 }

/-- Draw members between the bounds and add them. -/
def fill (problem : Problem ω) (bounds : Bounds) : Nat → Generator → Action (Habitat ω) Unit
  | 0, _ => return
  | n + 1, g => do
    let (x, g) := g.uniform bounds.lower bounds.upper
    push problem x none
    fill problem bounds n g

/-- A population of drawn members. -/
def make (problem : Problem ω) (size : Nat) (seed : Int) : Action ω Population :=
  .of fun w =>
    match empty problem with
    | .error fault => (.error fault, w)
    | .ok p =>
      let build : Action (Habitat ω) Unit := do
        let g ← Generator.ofInt? seed
        let bounds ← problem.bounds
        fill problem bounds size g
      match build.runOn ⟨p, w⟩ with
      | (.ok (), h) => (.ok h.population, h.hidden)
      | (.error fault, h) => (.error fault, h.hidden)

/-! ## Ranking -/

/-- The indices of the members from best to worst. -/
def ranking (problem : Problem ω) (p : Population) : Except Fault (List Nat) := do
  if p.size = 0 then throw (.value .emptyRanking)
  if (← problem.objectiveCount) ≠ 1 then throw (.value .severalObjectives)
  let equalities ← problem.equalityCount
  Fitness.ranking p.fitnesses equalities (← problem.tolerances)

/-- The first of a ranking. -/
def firstOf (ranking : List Nat) : Except Fault Nat :=
  match ranking with
  | i :: _ => .ok i
  | [] => .error (.index .element)

/-- The index of the best member. -/
def best (problem : Problem ω) (p : Population) : Except Fault Nat := do
  firstOf (← ranking problem p)

/-- The index of the worst member. -/
def worst (problem : Problem ω) (p : Population) : Except Fault Nat := do
  firstOf (← ranking problem p).reverse

end Population

end ReverseComm
