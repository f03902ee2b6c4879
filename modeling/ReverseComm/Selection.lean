import ReverseComm.Policy
import ReverseComm.Population
import ReverseComm.Value.Written

/-!
# Selection and replacement

A policy is resolved against a population: an index stands for itself, the best and the worst member
are looked up in the ranking, and the random one is drawn.  `select` takes a copy of the member that
seeds a solve; `replace` puts the result of the solve into the population where that improves it.

A result goes in only if it is strictly better than the candidate that seeded the solve, and if the
member it would overwrite is not strictly better than it.
-/

namespace ReverseComm.Selection

variable {ω : Type}

/-- Check that an index policy designates a member.  A strategy is resolved when it is used, and
always passes. -/
def checkIndex (p : Population) : Policy → Except Fault Unit
  | .index n => if p.size ≤ n then .error (.config (.indexOutOfRange n p.size)) else .ok ()
  | .strategy _ => .ok ()

/-- A whole number drawn below the size of the population. -/
def draw (p : Population) : Action Generator Nat := .of fun g => g.below p.size

/-- The index that a policy designates. -/
def resolve (problem : Problem ω) (p : Population) : Policy → Action Generator Nat
  | .index n => do checkIndex p (.index n); return n
  | .strategy .best => p.best problem
  | .strategy .worst => p.worst problem
  | .strategy .random => draw p

/-- A value that was never read as a policy designates nothing. -/
def resolveUnread (v : Value) : Except Fault Nat := .error (.config (.unknownPolicy v.written))

/-- The member that seeds a solve, and its index. -/
def select (problem : Problem ω) (p : Population) (policy : Policy) :
    Action Generator (Nat × Candidate) := do
  let index ← resolve problem p policy
  let m ← p.member index
  return (index, Population.candidate m)

/-- The habitat of a population, with the generator of the random policies. -/
structure Setting (ω : Type) where
  habitat : Habitat ω
  generator : Generator

/-- Put a result into the population if it improves it; the answer is the index it went to. -/
def replace (problem : Problem ω) (policy : Policy) (result seed : Candidate) :
    Action (Setting ω) (Option Nat) := do
  let equalities ← problem.equalityCount
  let tolerances ← problem.tolerances
  if ← Fitness.better result.f seed.f equalities tolerances then
    let p := (← get).habitat.population
    let index ← (resolve problem p policy).zoom Setting.generator
      fun g s => { s with generator := g }
    let m ← p.member index
    if ← Fitness.better (.vector m.f) result.f equalities tolerances then return none
    (Population.replace problem index (.ok result.x) (some (.ok result.f))).zoom Setting.habitat
      fun h s => { s with habitat := h }
    return some index
  else return none

/-- Improve a member: evaluate the fitness of a decision vector and put it into the population, with
the member as the seed. -/
def improve (problem : Problem ω) (policy : Policy) (index : Int) (x : Offer) :
    Action (Setting ω) (Option Nat) := do
  let m ← (← get).habitat.population.memberFrom index
  let x ← x
  let f ← (problem.fitness x.entries).zoom (fun s : Setting ω => s.habitat.hidden)
    fun w s => { s with habitat.hidden := w }
  replace problem policy ⟨x, f⟩ (Population.candidate m)

end ReverseComm.Selection
