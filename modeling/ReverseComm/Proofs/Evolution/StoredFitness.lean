import ReverseComm.Proofs.Evolution.History

/-!
# The stored fitness is the fitness

A population stores fitness vectors next to decision vectors and never evaluates them again.  If the
fitness is a function of the decision vector, then every stored fitness vector is that function of
the decision vector beside it, whatever has been done to the population since it was made
(`stored_fitness`).  Equality is that of the doubles themselves: zeros have their signs, and NaN its
bits.

The solver has values of its own for a candidate: they are scaled, and on the way to a gradient they
belong to points nearby.  None of them comes into the population.  What goes in is the decision
vector that the loop ends with and the fitness that the problem answers for that vector, and they go
in together.  So a problem has answered every stored fitness vector (`Truthful`), deterministic or
not; that is kept by every step that a population takes, and determinism is used only at the end.
-/

namespace ReverseComm

open ReverseComm.Action

variable {ω : Type}

/-- The fitness vector of a member is what the problem has once answered for its decision vector; a
plain number counts as a vector of one entry. -/
def Problem.Answers (problem : Problem ω) (m : Member) : Prop :=
  ∃ w t w', (problem.fitness m.x).runOn w = (.ok t, w') ∧ t.atLeastVector = .vector m.f

lemma Problem.Answers.eq {problem : Problem ω} {φ : List Float → Tensor} {m : Member}
    (h : problem.Answers m) (deterministic : problem.Deterministic φ) :
    (φ m.x).atLeastVector = .vector m.f := by
  obtain ⟨w, t, w', ht, hf⟩ := h
  have hφ : t = φ m.x := deterministic m.x w t (congrArg Prod.fst ht)
  rwa [hφ] at hf

namespace Population

/-- Every stored fitness vector is what the problem has answered for the decision vector beside
it. -/
def Truthful (problem : Problem ω) (p : Population) : Prop := ∀ m ∈ p.members, problem.Answers m

/-- A member whose fitness is not given is evaluated at the decision vector that it comes in with. -/
lemma answers_of_checkMember {problem : Problem ω} {x : Offer} {h h' : Habitat ω} {m : Member}
    (hm : (checkMember problem x none).runOn h = (.ok m, h')) : problem.Answers m := by
  simp only [checkMember, evaluate, runOn_bind_eq_ok_iff, runOn_get, runOn_zoom_eq_iff,
    runOn_liftExcept, Prod.mk.injEq] at hm
  obtain ⟨_, _, ⟨⟨⟩, rfl⟩, xs, _, ⟨-, rfl⟩, t, _, ⟨t', _, ⟨w, hfitness, rfl⟩, _, _, -, ht⟩, fs, _,
    ⟨hf, -⟩, hm⟩ := hm
  cases ht
  cases hm
  obtain ⟨hrow, rfl⟩ := checkFitness_eq_ok_iff.mp hf
  exact ⟨_, t, w, hfitness, hrow.atLeastVector_eq⟩

/-- Every population that is made is truthful. -/
theorem truthful_make {problem : Problem ω} {size : ℕ} {seed : ℤ} {w w' : ω} {p : Population}
    (h : (make problem size seed).runOn w = (.ok p, w')) : p.Truthful problem :=
  every_make (fun _ m => problem.Answers m) (fun _ _ _ _ hm => answers_of_checkMember hm) h

/-- Adding a member whose fitness is not given keeps it so. -/
theorem keeps_truthful_push (problem : Problem ω) (x : Offer) :
    (push problem x none).Keeps (Preserving fun h => h.population.Truthful problem) :=
  keeps_every_push (fun _ m => problem.Answers m) fun _ _ _ hm => answers_of_checkMember hm

/-- A member may be displaced by one that the problem has answered for. -/
lemma Truthful.withMember {problem : Problem ω} {p : Population} (hp : p.Truthful problem) (i : ℕ)
    {m : Member} (hm : problem.Answers m) : (p.withMember i m).Truthful problem := by
  intro m' hm'
  rw [Population.withMember] at hm'
  rcases List.mem_or_eq_of_mem_set hm' with hold | rfl
  · exact hp m' hold
  · exact hm

end Population

namespace Evolution

/-- Evolving keeps a population truthful, whatever becomes of the call. -/
theorem truthful_evolve (env : Surroundings ω) {problem : Problem ω} {e : Evolution ω}
    (hp : e.population.Truthful problem) :
    ((evolve env problem).runOn e).2.population.Truthful problem := by
  rcases evolve_cases (Prod.eta ((evolve env problem).runOn e)).symm with
    hsame | ⟨_, seed, _, i, old, new, -, hdisplaces, w, w', hfitness⟩
  · rw [hsame]
    exact hp
  · rw [hdisplaces.after]
    exact hp.withMember i ⟨w, _, w', hfitness, rfl⟩

/-! ## A population and what is done to it -/

/-- What may be done to a population: a member is added whose fitness is not given, in a state that
the problem has by then, or the population is evolved. -/
inductive Step (ω : Type)
  | push (x : Offer) (hidden : ω)
  | evolve (env : Surroundings ω) (e : Evolution ω)

/-- The population after a step, which may have raised a fault. -/
def Step.after (problem : Problem ω) (p : Population) : Step ω → Population
  | .push x w => ((Population.push problem x none).runOn ⟨p, w⟩).2.population
  | .evolve env e => ((Evolution.evolve env problem).runOn { e with population := p }).2.population

/-- The population after a sequence of steps. -/
def lifetime (problem : Problem ω) (p : Population) (steps : List (Step ω)) : Population :=
  steps.foldl (Step.after problem) p

lemma truthful_after {problem : Problem ω} {p : Population} (hp : p.Truthful problem)
    (step : Step ω) : (step.after problem p).Truthful problem := by
  cases step with
  | push x w => exact Population.keeps_truthful_push problem x ⟨p, w⟩ hp
  | evolve env e => exact truthful_evolve env hp

theorem truthful_lifetime {problem : Problem ω} {p : Population} (hp : p.Truthful problem)
    (steps : List (Step ω)) : (lifetime problem p steps).Truthful problem := by
  induction steps generalizing p with
  | nil => exact hp
  | cons step steps ih => exact ih (truthful_after hp step)

/-- **The stored fitness is the fitness.**  A population of a problem with a deterministic fitness
has been made with drawn members, or without any; members whose fitness was not given have been
added, and it has been evolved, in any order and with any algorithms, solvers and callbacks, and some
of that may have raised a fault.  Then the fitness vector in each row is the fitness of the decision
vector in that row. -/
theorem stored_fitness {problem : Problem ω} {φ : List Float → Tensor}
    (deterministic : problem.Deterministic φ) {size : ℕ} {seed : ℤ} {w w' : ω} {p : Population}
    (made : (Population.make problem size seed).runOn w = (.ok p, w')) (steps : List (Step ω))
    (i : ℕ) (m : Member) (row : (lifetime problem p steps).members[i]? = some m) :
    (φ m.x).atLeastVector = .vector m.f := by
  have htruthful := truthful_lifetime (Population.truthful_make made) steps
  exact (htruthful m (List.mem_of_getElem? row)).eq deterministic

/-- The fitness of `leftProblem`. -/
def leftFitness (x : List Float) : Tensor := .vector [if x.headD 0 < 0 then 1 else 2]

/-- A member to the right of zero is added, a member of two entries is refused, and a solve leads to
the left. -/
def pushedLeft : List (Step Unit) :=
  [.push (.vector [4]) (), .push (.vector [4, 4]) (),
    .evolve (.ofLibrary (.endingAt [-1]) 1) rootEvolution]

/-- What the solve puts into the population comes with its own fitness. -/
theorem stored_fitness_left :
    leftProblem.Deterministic leftFitness ∧
    (Population.make leftProblem 0 7).runOn () = (.ok ⟨1, 1, [], 0⟩, ()) ∧
    (lifetime leftProblem ⟨1, 1, [], 0⟩ pushedLeft).members[0]? = some ⟨[-1], [1]⟩ ∧
    (leftFitness [-1]).atLeastVector = .vector [1] := by
  have deterministic : leftProblem.Deterministic leftFitness := by
    intro x w t h
    cases h
    rfl
  have made : (Population.make leftProblem 0 7).runOn () = (.ok ⟨1, 1, [], 0⟩, ()) := by
    decide +kernel
  have row : (lifetime leftProblem ⟨1, 1, [], 0⟩ pushedLeft).members[0]? =
      some ⟨[-1], [1]⟩ := by decide +kernel
  have stored := stored_fitness deterministic made pushedLeft 0 ⟨[-1], [1]⟩ row
  exact ⟨deterministic, made, row, stored⟩

end Evolution

end ReverseComm
