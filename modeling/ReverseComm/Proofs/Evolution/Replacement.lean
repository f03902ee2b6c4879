import ReverseComm.Proofs.Evolution.Population
import ReverseComm.Proofs.Fitness.Ranking

/-!
# Which members are displaced

A call of `evolve` leaves the population as it was, or it puts one new member in the place of an old
one (`evolve_cases`).  The new member has then been compared twice: it was better than the seed, and
the old one was not better than it (`Displaces`).

Every comparison with NaN is false, so NaN does not speak against a candidate.  A constraint value
that is NaN exceeds no tolerance, and an objective that is NaN is looked at only if nothing else
decides.  Therefore NaN does displace members (`nan_displaces_number`: a candidate whose constraints
are met is better than an infeasible seed, whatever its objective is).  What the comparisons do
ensure is `overlooks_of_displaced`: a candidate with NaN in it violates no more constraints than the
seed and the member that it displaces, and if the seed was feasible, its objective is a number.
-/

namespace ReverseComm

open ReverseComm.Action
open Double (NaNFree)
open Selection (Designates)

variable {ω : Type}

namespace Selection

/-- A member `new` displaces the member `old` at an index of a population, after a solve from a seed
with the fitness vector `seed`. -/
structure Displaces (problem : Problem ω) (seed : List Float) (p : Population) (i : ℕ)
    (old new : Member) (p' : Population) : Prop where
  held : p.members[i]? = some old
  improves : problem.better new.f seed = .ok true
  yields : problem.better old.f new.f = .ok false
  after : p' = p.withMember i new

/-- A member that is not the same afterwards is the displaced one. -/
lemma Displaces.eq_or {problem : Problem ω} {seed : List Float} {p p' : Population} {i j : ℕ}
    {old new m m' : Member} (h : Displaces problem seed p i old new p')
    (hm : p.members[j]? = some m) (hm' : p'.members[j]? = some m') :
    m' = m ∨ m = old ∧ m' = new := by
  have hset : p'.members = p.members.set i new := by rw [h.after, Population.withMember]
  by_cases hij : j = i
  · subst hij
    have hlt : j < p.members.length := (List.getElem?_eq_some_iff.mp hm).1
    rw [hset, List.getElem?_set_self hlt] at hm'
    rw [h.held] at hm
    exact .inr ⟨(Option.some.inj hm).symm, (Option.some.inj hm').symm⟩
  · rw [hset, List.getElem?_set_ne (Ne.symm hij), hm] at hm'
    exact .inl (Option.some.inj hm').symm

lemma Offered.cases {problem : Problem ω} {policy : Policy} {p p' : Population} {g : Generator}
    {seed : List Float} {new : Member} (h : Offered problem policy p g seed new p') :
    p' = p ∨ ∃ i old, Displaces problem seed p i old new p' := by
  obtain ⟨n, tolerances, better, hn, ht, hbetter, hstays, hgoes⟩ := h
  have hproblem := Problem.better_eq_of_ok hn ht
  cases better with
  | false => exact .inl (hstays rfl)
  | true =>
    obtain ⟨i, old, g', worse, ⟨-, hold⟩, hworse, hp', -⟩ := hgoes rfl
    cases worse with
    | true => exact .inl hp'
    | false =>
      rw [← hproblem] at hbetter hworse
      exact .inr ⟨i, old, hold, hbetter, hworse, hp'⟩

/-- A replacement, whatever becomes of it, displaces one member at most. -/
theorem replace_cases {problem : Problem ω} {policy : Policy} {xs : List Float} {f : Tensor}
    {seed : Member} {s s' : Setting ω} {o : Except Fault (Option ℕ)}
    (h : (replace problem policy ⟨.vector xs, f⟩ (Population.candidate seed)).runOn s = (o, s')) :
    s'.habitat.population = s.habitat.population ∨
      ∃ fs i old, f = .vector fs ∧
        Displaces problem seed.f s.habitat.population i old ⟨xs, fs⟩ s'.habitat.population := by
  cases o with
  | error fault => exact .inl (atomic_replace problem policy _ _ s fault s' h)
  | ok o =>
    obtain ⟨fs, hf, hoffered⟩ := replace_eq_ok h
    rcases hoffered.cases with hsame | ⟨i, old, hdisplaces⟩
    · exact .inl hsame
    · exact .inr ⟨fs, i, old, hf, hdisplaces⟩

end Selection

namespace Evolution

open Selection (Displaces)

/-- A call, whatever becomes of it, displaces one member at most, after a solve from another one.
The new member's fitness vector is what the problem answered. -/
theorem evolve_cases {env : Surroundings ω} {problem : Problem ω} {e e' : Evolution ω}
    {o : Except Fault Unit} (h : (evolve env problem).runOn e = (o, e')) :
    e'.population = e.population ∨
      ∃ k seed g i old new,
        Designates problem e.population e.algorithm.settings.selection e.algorithm.generator k seed
          g ∧
        Displaces problem seed.f e.population i old new e'.population ∧
        ∃ w w', (problem.fitness new.x).runOn w = (.ok (.vector new.f), w') := by
  cases o with
  | error fault => exact .inl (atomic_evolve env problem e fault e' h)
  | ok _ =>
    obtain ⟨k, seed, e₁, outcome, e₂, hprepare, harrive, hsettle⟩ := evolve_eq_ok h
    obtain ⟨s, g, hs, rfl, -⟩ := prepare_eq_ok hprepare
    obtain ⟨x, f, ⟨-, -, -, -, r, w, -, -, -, -, hfitness⟩, ho⟩ := arrive_eq_ok harrive
    -- Neither the selection nor the solve reaches the population.
    have hprepared : (prepare problem).Keeps (Same Evolution.population) :=
      keeps_prepare (fun _ _ => rfl) problem
    have hkept := hprepared.run hprepare
    have hp₁ : e₁.population = e.population := hkept
    have harrived := (keeps_arrive env problem _).run harrive
    have hp₂ : e₂.population = e₁.population := congrArg Prod.fst harrived
    obtain ⟨replaced, st, hreplace, he'⟩ := settle_eq_ok hsettle
    rw [ho] at hreplace
    rw [he']
    rcases Selection.replace_cases hreplace with hsame | ⟨fs, i, old, rfl, hdisplaces⟩
    · exact .inl (hsame.trans (hp₂.trans hp₁))
    · rw [hp₂, hp₁] at hdisplaces
      exact .inr ⟨k, s, g, i, old, ⟨x, fs⟩, hs, hdisplaces, _, w, hfitness⟩

end Evolution

/-! ## Candidates with NaN in them -/

/-- How a problem summarises the constraints of a fitness vector. -/
def Problem.summary (problem : Problem ω) (f : List Float) : Except Fault (Summary Float) := do
  Fitness.check (.vector f.tail) (← problem.equalityCount) (← problem.tolerances)

/-- What the comparisons know of a fitness vector `new` with NaN in it that displaces `old` after a
solve from `seed`.  It violates no more constraints than the two, and if the seed is feasible, then
so is `new`, its objective is a number below that of the seed, and NaN is among its constraint
values. -/
def Problem.Overlooks (problem : Problem ω) (seed old new : List Float) : Prop :=
  ∃ s o n, problem.summary seed = .ok s ∧ problem.summary old = .ok o ∧
    problem.summary new = .ok n ∧ n.violated ≤ s.violated ∧ n.violated ≤ o.violated ∧
    (s.feasible = true → n.feasible = true ∧ ¬ NaNFree new.tail ∧
      ∃ x y, new.head? = some x ∧ seed.head? = some y ∧ x.isNaN = false ∧ x < y)

section

variable {problem : Problem ω}

/-- A comparison that answers is one of ratings, which are made of the summaries. -/
lemma Problem.better_eq_ok {f g : List Float} {b : Bool} (h : problem.better f g = .ok b) :
    ∃ r t : Rating Float, r.better t = b ∧ f.head? = some r.objective ∧
      g.head? = some t.objective ∧ problem.summary f = .ok r.summary ∧
      problem.summary g = .ok t.summary := by
  unfold better at h
  unfold summary
  cases hn : problem.equalityCount with
  | error fault =>
    rw [hn] at h
    cases h
  | ok n =>
    cases ht : problem.tolerances with
    | error fault =>
      rw [hn, ht] at h
      cases h
    | ok tolerances =>
      rw [hn, ht] at h
      obtain ⟨ts, x, xs, y, ys, hts, rfl, rfl, hl, hb⟩ := Fitness.better_eq_ok h
      have hx := @Fitness.check_vector xs n tolerances ts hts
      have hy := @Fitness.check_vector ys n tolerances ts (hl ▸ hts)
      exact ⟨_, _, hb, rfl, rfl, hx, hy⟩

lemma Selection.Displaces.overlooks {seed : List Float} {p p' : Population} {i : ℕ}
    {old new : Member} (h : Selection.Displaces problem seed p i old new p')
    (hnew : ¬ NaNFree new.f) : problem.Overlooks seed old.f new.f := by
  obtain ⟨n, s, hns, hobjective, hseed, hn, hs⟩ := Problem.better_eq_ok h.improves
  obtain ⟨o, n', hon, -, -, ho, hn'⟩ := Problem.better_eq_ok h.yields
  have hsummary : n'.summary = n.summary := by
    rw [hn] at hn'
    exact (Except.ok.inj hn').symm
  have hle := Rating.violated_le_of_not_better hon
  rw [hsummary] at hle
  refine ⟨s.summary, o.summary, n.summary, hs, ho, hn, Rating.violated_le_of_better hns, hle,
    fun hfeasible => ?_⟩
  obtain ⟨hnfeasible, hlt⟩ := Rating.lt_of_better_feasible hns hfeasible
  have hnumber := (Double.isNaN_of_lt hlt).1
  refine ⟨hnfeasible, fun htail => hnew ?_, n.objective, s.objective, hobjective, hseed, hnumber,
    of_decide_eq_true hlt⟩
  cases hf : new.f with
  | nil => exact nofun
  | cons x xs =>
    rw [hf] at hobjective htail
    obtain rfl : x = n.objective := Option.some.inj hobjective
    exact List.forall_mem_cons.mpr ⟨hnumber, htail⟩

end

namespace Evolution

/-- A candidate with NaN in it displaces a member without NaN only if the comparisons overlook the
NaN, in a replacement and in a call of `evolve`, where the seed is the member that was selected. -/
theorem overlooks_of_displaced (problem : Problem ω) :
    (∀ policy xs f (seed : Member) (s : Selection.Setting ω) (i : ℕ) (old new : Member),
      s.habitat.population.members[i]? = some old →
      ((Selection.replace problem policy ⟨.vector xs, f⟩
        (Population.candidate seed)).runOn s).2.habitat.population.members[i]? = some new →
      NaNFree old.f → ¬ NaNFree new.f → problem.Overlooks seed.f old.f new.f) ∧
    ∀ env (e : Evolution ω) (i : ℕ) (old new : Member), e.population.members[i]? = some old →
      ((evolve env problem).runOn e).2.population.members[i]? = some new →
      NaNFree old.f → ¬ NaNFree new.f →
      ∃ k seed g, Designates problem e.population e.algorithm.settings.selection
          e.algorithm.generator k seed g ∧ problem.Overlooks seed.f old.f new.f := by
  constructor
  · intro policy xs f seed s i old new hold hnew hnumbers hnan
    rcases Selection.replace_cases (Prod.eta _).symm with hsame | ⟨fs, j, m, -, hdisplaces⟩
    · rw [hsame, hold] at hnew
      cases hnew
      exact absurd hnumbers hnan
    · rcases hdisplaces.eq_or hold hnew with rfl | ⟨rfl, rfl⟩
      · exact absurd hnumbers hnan
      · exact hdisplaces.overlooks hnan
  · intro env e i old new hold hnew hnumbers hnan
    rcases evolve_cases (Prod.eta ((evolve env problem).runOn e)).symm with
      hsame | ⟨k, seed, g, j, m, m', hs, hdisplaces, -⟩
    · rw [hsame, hold] at hnew
      cases hnew
      exact absurd hnumbers hnan
    · rcases hdisplaces.eq_or hold hnew with rfl | ⟨rfl, rfl⟩
      · exact absurd hnumbers hnan
      · exact ⟨k, seed, g, hs, hdisplaces.overlooks hnan⟩

end Evolution

/-! ## A candidate that is not a number -/

namespace Evolution

/-- Where the solver leads: to a number without a root. -/
def rootless : Member := ⟨[-1], [Float.sqrt (-1), -2]⟩

/-- NaN displaces a number: the solver leaves the numbers that have roots, and a candidate that
meets its constraint is better than a member that does not. -/
theorem nan_displaces_number :
    ¬ ∀ (env : Surroundings Unit) (problem : Problem Unit) (e : Evolution Unit) (i : ℕ)
        (old new : Member), e.population.members[i]? = some old →
      ((evolve env problem).runOn e).2.population.members[i]? = some new →
      NaNFree old.f → NaNFree new.f := by
  intro h
  have hnan := h (.ofLibrary (.endingAt [-1]) 1) rootProblem rootEvolution 0 rootMember rootless rfl
    (by decide +kernel) (by decide +kernel)
  exact absurd hnan (by decide +kernel)

/-- Replaced directly and after a solve, that member shows what the comparisons overlook. -/
theorem overlooks_rootless :
    rootProblem.Overlooks rootMember.f rootMember.f rootless.f ∧
    ∃ k seed g,
      Designates rootProblem rootEvolution.population (.strategy .best) ⟨0, 1, none⟩ k seed g ∧
        rootProblem.Overlooks seed.f rootMember.f rootless.f := by
  have hnumbers : NaNFree rootMember.f := by decide +kernel
  have hnan : ¬ NaNFree rootless.f := by decide +kernel
  constructor
  · exact (overlooks_of_displaced rootProblem).1 (.strategy .best) rootless.x (.vector rootless.f)
      rootMember ⟨⟨rootEvolution.population, ()⟩, ⟨0, 1, none⟩⟩ 0 rootMember rootless rfl
      (by decide +kernel) hnumbers hnan
  · exact (overlooks_of_displaced rootProblem).2 (.ofLibrary (.endingAt [-1]) 1) rootEvolution 0
      rootMember rootless rfl (by decide +kernel) hnumbers hnan

end Evolution

end ReverseComm
