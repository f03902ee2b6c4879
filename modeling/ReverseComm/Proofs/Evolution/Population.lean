import ReverseComm.Proofs.Evolution.Frame

/-!
# What evolving does to a population

A call of `evolve` raises a fault, and then the population is as it was; or it returns, and then one
member at most has been replaced.  `population_of_evolve` says so of every call, and says which
member, by what, and when.

## The two halves

A fault may come from a dozen places.  None of them has to be looked at: nothing before the
replacement reaches the population (`keeps_prepare`, `keeps_arrive`), and the replacement itself is
atomic (`atomic_settle`), so the whole call is (`atomic_evolve`).

A call that returns is taken apart into its three parts (`evolve_eq_ok`), and each of them has
one lemma about what it came to.

* `Selection.Designates` is the member that a policy resolves to, and the draws that it takes.
* `Arrives` is what the solve came to: the content of the solver's buffer at the end of the loop, and
  its fitness, which is evaluated then.
* `Selection.Offered` is what became of the population, by the two comparisons of the replacement.

## What is assumed

Nothing.  The solver, the fitness and the callback are whatever the library, the problem and
the algorithm bring, and may raise a fault at any call.  That they do not touch the population is in
their types: the state that they act on does not contain it.
-/

namespace ReverseComm

open ReverseComm.Action

variable {ω : Type}

/-! ## Rows -/

/-- A vector of `n` entries, where a plain number counts as a vector of one. -/
def Tensor.IsRow (t : Tensor) (n : ℕ) : Prop := t.shape = [n] ∨ t.shape = [] ∧ n = 1

lemma Tensor.isRow_iff {t : Tensor} {n : ℕ} : t.IsRow n ↔ t.atLeastVector.shape = [n] := by
  unfold IsRow atLeastVector
  by_cases h : t.shape = []
  · have hlength : t.entries.length = 1 := by rw [t.length_entries, h, volume]
    rw [if_pos h, shape_vector, hlength, h]
    simp [eq_comm]
  · rw [if_neg h]
    simp [h]

@[simp] lemma Tensor.entries_atLeastVector (t : Tensor) : t.atLeastVector.entries = t.entries := by
  unfold atLeastVector
  split
  · rfl
  · rfl

lemma Tensor.IsRow.length_eq {t : Tensor} {n : ℕ} (h : t.IsRow n) : t.entries.length = n := by
  rw [← t.entries_atLeastVector]
  exact length_of_shape (isRow_iff.mp h)

lemma Tensor.IsRow.atLeastVector_eq {t : Tensor} {n : ℕ} (h : t.IsRow n) :
    t.atLeastVector = .vector t.entries := by
  rw [← t.entries_atLeastVector]
  exact eq_vector_of_shape (isRow_iff.mp h)

namespace Population

lemma checkDecision_eq_ok_iff {p : Population} {x : Offer} {xs : List Float} :
    p.checkDecision x = .ok xs ↔ ∃ t, x = .ok t ∧ t.IsRow p.width ∧ xs = t.entries := by
  unfold checkDecision
  rw [outcome_bind_eq_ok_iff]
  refine exists_congr fun t => and_congr_right fun _ => ?_
  by_cases h : t.IsRow p.width
  · simp [Tensor.isRow_iff.mp h, h, pure, Except.pure, eq_comm]
  · have hshape : ¬ t.atLeastVector.shape = [p.width] := fun hs => h (Tensor.isRow_iff.mpr hs)
    simp [hshape, h]

lemma checkFitness_eq_ok_iff {p : Population} {t : Tensor} {fs : List Float} :
    p.checkFitness t = .ok fs ↔ t.IsRow p.fitnessWidth ∧ fs = t.entries := by
  unfold checkFitness
  by_cases h : t.IsRow p.fitnessWidth
  · simp [Tensor.isRow_iff.mp h, h, eq_comm]
  · have hshape : ¬ t.atLeastVector.shape = [p.fitnessWidth] := fun hs => h (Tensor.isRow_iff.mpr hs)
    simp [hshape, h]

/-- The population with another member at an index. -/
def withMember (p : Population) (i : Nat) (m : Member) : Population :=
  { p with members := p.members.set i m }

@[simp] lemma size_withMember (p : Population) (i : Nat) (m : Member) :
    (p.withMember i m).size = p.size := by
  simp [withMember, size]

lemma member_eq_ok_iff {p : Population} {i : Nat} {m : Member} :
    p.member i = .ok m ↔ p.members[i]? = some m := by
  unfold member
  cases p.members[i]? <;> simp

/-- A member with a given fitness is checked without touching anything. -/
lemma keeps_checkMember_given (problem : Problem ω) (x f : Offer) :
    (checkMember problem x (some f)).Keeps (Same (id : Habitat ω → Habitat ω)) := by
  refine keeps_get.bind fun h => ?_
  refine (keeps_liftExcept _).bind fun x => ?_
  refine (keeps_liftExcept _).bind fun f => ?_
  exact (keeps_liftExcept _).bind fun f => keeps_pure _

/-- The member that comes of a vector and a given fitness vector is made of them. -/
lemma checkMember_given_eq_ok {problem : Problem ω} {xs fs : List Float} {h h' : Habitat ω}
    {m : Member}
    (hm : (checkMember problem (.ok (.vector xs)) (some (.ok (.vector fs)))).runOn h =
      (.ok m, h')) : m = ⟨xs, fs⟩ ∧ h' = h := by
  have hstate : h' = h := by
    have := keeps_checkMember_given problem (.ok (.vector xs)) (.ok (.vector fs)) h
    rwa [hm] at this
  refine ⟨?_, hstate⟩
  simp only [checkMember, runOn_bind_eq_ok_iff, runOn_get, runOn_liftExcept, Prod.mk.injEq] at hm
  obtain ⟨_, _, ⟨⟨⟩, rfl⟩, ys, _, ⟨hx, rfl⟩, _, _, ⟨⟨⟩, rfl⟩, gs, _, ⟨hf, rfl⟩, hm⟩ := hm
  obtain ⟨t, heq, -, rfl⟩ := checkDecision_eq_ok_iff.mp hx
  obtain ⟨-, rfl⟩ := checkFitness_eq_ok_iff.mp hf
  cases heq
  cases hm
  rfl

/-- A refused replacement leaves the population as it was. -/
lemma atomic_replace_given (problem : Problem ω) (i : Int) (x f : Offer) :
    (replace problem i x (some f)).Atomic Habitat.population := by
  refine keeps_get.bind_atomic fun h => ?_
  dsimp only
  split
  · exact (keeps_throw _).atomic
  · refine Atomic.bind_total (Keeps.atomic ?_) fun m v => ⟨(), _, rfl⟩
    exact (keeps_checkMember_given problem x f).mono fun v w hvw => congrArg _ hvw

/-- With a fitness that is given, replacing a member asks nothing of the problem. -/
lemma keeps_replace_given (problem : Problem ω) (i : Int) (x f : Offer) :
    (replace problem i x (some f)).Keeps (Same Habitat.hidden) := by
  have hcheck : (checkMember problem x (some f)).Keeps (Same Habitat.hidden) :=
    (keeps_checkMember_given problem x f).mono fun v w h => congrArg Habitat.hidden h
  have hmember : (do
      let m ← checkMember problem x (some f)
      modify fun h => { h with population.members := h.population.members.set i.toNat m } :
      Action (Habitat ω) Unit).Keeps (Same Habitat.hidden) := by
    refine hcheck.bind fun m => keeps_modify ?_
    exact fun _ => rfl
  refine keeps_get.bind fun h => ?_
  dsimp only
  split
  · exact (keeps_throw _).bind fun _ => hmember
  · exact hmember

/-- A replacement that is not refused puts the vectors at the index. -/
lemma replace_given_eq_ok {problem : Problem ω} {i : Nat} {xs fs : List Float} {h h' : Habitat ω}
    (hr : (replace problem i (.ok (.vector xs)) (some (.ok (.vector fs)))).runOn h =
      (.ok (), h')) : h'.population = h.population.withMember i ⟨xs, fs⟩ := by
  simp only [replace, runOn_bind_eq_ok_iff] at hr
  obtain ⟨_, _, hget, hr⟩ := hr
  cases hget
  split at hr
  · simp at hr
  · simp only [runOn_bind_eq_ok_iff] at hr
    obtain ⟨m, v, hm, hr⟩ := hr
    obtain ⟨rfl, rfl⟩ := checkMember_given_eq_ok hm
    cases hr
    rfl

end Population

namespace Selection

/-- A policy designates the member `m` at the index `i`, drawing from `g` and leaving `g'`. -/
def Designates (problem : Problem ω) (p : Population) (policy : Policy) (g : Generator) (i : Nat)
    (m : Member) (g' : Generator) : Prop :=
  (resolve problem p policy).runOn g = (.ok i, g') ∧ p.members[i]? = some m

lemma select_eq_ok {problem : Problem ω} {p : Population} {policy : Policy} {g g' : Generator}
    {i : Nat} {seed : Candidate}
    (h : (select problem p policy).runOn g = (.ok (i, seed), g')) :
    ∃ m, Designates problem p policy g i m g' ∧ seed = Population.candidate m := by
  simp only [select, runOn_bind_eq_ok_iff, runOn_liftExcept, Prod.mk.injEq] at h
  obtain ⟨i, g₁, hi, m, _, ⟨hm, rfl⟩, h⟩ := h
  cases h
  exact ⟨m, ⟨hi, Population.member_eq_ok_iff.mp hm⟩, rfl⟩

/-- A replacement that raises a fault leaves the population as it was. -/
lemma atomic_replace (problem : Problem ω) (policy : Policy) (result seed : Candidate) :
    (replace problem policy result seed).Atomic fun s => s.habitat.population := by
  refine (keeps_liftExcept _).bind_atomic fun equalities => ?_
  refine (keeps_liftExcept _).bind_atomic fun tolerances => ?_
  refine (keeps_liftExcept _).bind_atomic fun better => ?_
  split
  · refine keeps_get.bind_atomic fun s => ?_
    dsimp only
    refine Keeps.bind_atomic (keeps_zoom_same _ ?_) fun index => ?_
    · exact fun _ _ => rfl
    refine (keeps_liftExcept _).bind_atomic fun m => ?_
    refine (keeps_liftExcept _).bind_atomic fun worse => ?_
    split
    · exact (keeps_pure _).atomic
    · refine Atomic.bind_total ?_ fun _ v => ⟨_, v, rfl⟩
      exact Atomic.zoom (Population.atomic_replace_given _ _ _ _) fun _ _ h => h
  · exact (keeps_pure _).atomic

/-- A replacement asks nothing of the problem: the fitness of the result is given. -/
lemma keeps_replace (problem : Problem ω) (policy : Policy) (result seed : Candidate) :
    (replace problem policy result seed).Keeps (Same fun s => s.habitat.hidden) := by
  refine (keeps_liftExcept _).bind fun equalities => ?_
  refine (keeps_liftExcept _).bind fun tolerances => ?_
  refine (keeps_liftExcept _).bind fun better => ?_
  split
  · refine keeps_get.bind fun s => ?_
    refine Keeps.bind (keeps_zoom_same _ ?_) fun index => ?_
    · exact fun _ _ => rfl
    refine (keeps_liftExcept _).bind fun m => (keeps_liftExcept _).bind fun worse => ?_
    split
    · exact keeps_pure _
    · refine Keeps.bind ?_ fun _ => keeps_pure _
      exact (Population.keeps_replace_given problem _ _ _).zoom fun _ _ h => h
  · exact keeps_pure _

/-- What compares with a vector is a vector. -/
lemma eq_vector_of_better {f : Tensor} {gs : List Float} {n : Int} {tolerances : Offer} {b : Bool}
    (h : Fitness.better f (.vector gs) n tolerances = .ok b) : f = .vector f.entries := by
  unfold Fitness.better at h
  split at h
  · cases h
  · rename_i hs
    exact Tensor.eq_vector_of_shape (by simpa using hs)

/-- `p'` is what becomes of a population `p` when a member `new` is offered to it that was solved from
a seed with the fitness vector `seed`.  It goes to the index `r` that the policy designates in `p` if
it is better than the seed and the member at `r` is not better than it; all else stays. -/
def Offered (problem : Problem ω) (policy : Policy) (p : Population) (g : Generator)
    (seed : List Float) (new : Member) (p' : Population) : Prop :=
  ∃ n tolerances better, problem.equalityCount = .ok n ∧ problem.tolerances = .ok tolerances ∧
    Fitness.better (.vector new.f) (.vector seed) n tolerances = .ok better ∧
    (better = false → p' = p) ∧
    (better = true → ∃ r m g' worse, Designates problem p policy g r m g' ∧
      Fitness.better (.vector m.f) (.vector new.f) n tolerances = .ok worse ∧
      p' = (if worse then p else p.withMember r new) ∧
      ∀ j, j ≠ r → p'.members[j]? = p.members[j]?)

lemma Offered.size_eq {problem : Problem ω} {policy : Policy} {p p' : Population} {g : Generator}
    {seed : List Float} {new : Member} (h : Offered problem policy p g seed new p') :
    p'.size = p.size ∧ p'.evaluations = p.evaluations := by
  obtain ⟨n, tolerances, better, -, -, -, hstays, hgoes⟩ := h
  cases better with
  | false => exact ⟨by rw [hstays rfl], by rw [hstays rfl]⟩
  | true =>
    obtain ⟨r, m, g', worse, -, -, rfl, -⟩ := hgoes rfl
    cases worse with
    | false => exact ⟨Population.size_withMember .., rfl⟩
    | true => exact ⟨rfl, rfl⟩

lemma replace_eq_ok {problem : Problem ω} {policy : Policy} {xs : List Float} {f : Tensor}
    {seed : Member} {s s' : Setting ω} {o : Option Nat}
    (h : (replace problem policy ⟨.vector xs, f⟩ (Population.candidate seed)).runOn s =
      (.ok o, s')) :
    ∃ fs, f = .vector fs ∧ Offered problem policy s.habitat.population s.generator seed.f ⟨xs, fs⟩
      s'.habitat.population := by
  simp only [replace, runOn_bind_eq_ok_iff, runOn_liftExcept, Prod.mk.injEq,
    Population.candidate] at h
  obtain ⟨n, _, ⟨hn, rfl⟩, tolerances, _, ⟨ht, rfl⟩, better, _, ⟨hb, rfl⟩, h⟩ := h
  obtain ⟨fs, rfl⟩ : ∃ fs, f = .vector fs := ⟨_, eq_vector_of_better hb⟩
  refine ⟨fs, rfl, n, tolerances, better, hn, ht, hb, ?_⟩
  cases better with
  | false =>
    cases h
    exact ⟨fun _ => rfl, nofun⟩
  | true =>
    refine ⟨nofun, fun _ => ?_⟩
    simp only [if_true, runOn_bind_eq_ok_iff, runOn_get, runOn_zoom_eq_iff, runOn_liftExcept,
      Prod.mk.injEq] at h
    obtain ⟨_, _, ⟨⟨⟩, rfl⟩, r, _, ⟨g', hr, rfl⟩, m, _, ⟨hm, rfl⟩, worse, _, ⟨hw, rfl⟩, h⟩ := h
    refine ⟨r, m, g', worse, ⟨hr, Population.member_eq_ok_iff.mp hm⟩, hw, ?_⟩
    cases worse with
    | true =>
      cases h
      exact ⟨rfl, fun _ _ => rfl⟩
    | false =>
      simp only [Bool.false_eq_true, if_false, runOn_bind_eq_ok_iff, runOn_zoom_eq_iff] at h
      obtain ⟨_, _, ⟨h', hput, rfl⟩, h⟩ := h
      cases h
      have hp := Population.replace_given_eq_ok hput
      refine ⟨hp, fun j hj => ?_⟩
      rw [hp]
      exact List.getElem?_set_ne (Ne.symm hj)

end Selection

namespace Evolution

/-! ## Before the solver -/

/-- What passes is a problem with one objective that does not depend on chance, and a population that
is not empty. -/
lemma checkProblem_eq_ok {problem : Problem ω} {p : Population}
    (h : checkProblem problem p = .ok ()) :
    problem.objectiveCount = .ok 1 ∧ problem.stochastic = .ok false ∧ p.size ≠ 0 := by
  unfold checkProblem at h
  obtain ⟨k, hk, h⟩ := outcome_bind_eq_ok_iff.mp h
  by_cases hone : k = 1
  · subst hone
    obtain ⟨stochastic, hstochastic, h⟩ := outcome_bind_eq_ok_iff.mp h
    cases stochastic with
    | true => cases h
    | false =>
      by_cases hsize : p.size = 0
      · simp [hsize, throw, throwThe, MonadExceptOf.throw] at h
      · exact ⟨hk, hstochastic, hsize⟩
  · rw [if_pos hone] at h
    obtain ⟨name, -, h⟩ := outcome_bind_eq_ok_iff.mp h
    cases h

/-- Before a library is loaded a member is selected, and nothing but the generator moves. -/
lemma prepare_eq_ok {problem : Problem ω} {e e' : Evolution ω} {i : Nat} {seed : Candidate}
    (h : (prepare problem).runOn e = (.ok (i, seed), e')) :
    ∃ m g, Selection.Designates problem e.population e.algorithm.settings.selection
        e.algorithm.generator i m g ∧
      seed = Population.candidate m ∧ e' = { e with algorithm.generator := g } := by
  simp only [prepare, drawing, runOn_bind_eq_ok_iff, runOn_get, runOn_zoom_eq_iff,
    runOn_liftExcept, Prod.mk.injEq] at h
  obtain ⟨_, _, ⟨⟨⟩, rfl⟩, _, _, ⟨-, rfl⟩, ⟨j, s⟩, _, ⟨g, hsel, rfl⟩, _, _, ⟨-, rfl⟩, h⟩ := h
  cases h
  obtain ⟨m, hm, rfl⟩ := Selection.select_eq_ok hsel
  exact ⟨m, g, hm, rfl, rfl⟩

/-- A problem that passes has one objective. -/
lemma single_of_prepare {problem : Problem ω} {e e' : Evolution ω} {drawn : ℕ × Candidate}
    (h : (prepare problem).runOn e = (.ok drawn, e')) : problem.objectiveCount = .ok 1 := by
  simp only [prepare, runOn_bind_eq_ok_iff, runOn_liftExcept, Prod.mk.injEq] at h
  obtain ⟨e₁, _, -, _, _, ⟨hcheck, -⟩, -⟩ := h
  exact (checkProblem_eq_ok hcheck).1

/-- Nothing but the generator moves, however it ends. -/
lemma keeps_prepare {R : Evolution ω → Evolution ω → Prop} [IsPreorder (Evolution ω) R]
    (draw : ∀ e g, R e { e with algorithm.generator := g }) (problem : Problem ω) :
    (prepare problem).Keeps R := by
  refine keeps_get.bind fun e => ?_
  refine (keeps_liftExcept _).bind fun _ => ?_
  refine Keeps.bind ?_ fun selected => ?_
  · intro e
    rw [drawing, runOn_zoom]
    exact draw e _
  exact (keeps_liftExcept _).bind fun _ => keeps_pure _

/-! ## The solve -/

/-- A solve from a seed arrives at the decision vector `x` with the fitness `f`: the library loads,
the session goes through its stages, the loop ends with `x` in the solver's buffer, and the fitness
of `x`, which is evaluated then, comes out as `f`. -/
def Arrives (env : Surroundings ω) (problem : Problem ω) (e : Evolution ω) (seed : Candidate)
    (x : List Float) (f : Tensor) : Prop :=
  ∃ L loader bounds status r w,
    (Loading.load env.host.isFile env.registry e.algorithm.settings.library
      e.algorithm.settings.binder).runOn ⟨e.coordinator, e.messages, e.hidden⟩ = (.ok L, loader) ∧
    problem.bounds = .ok bounds ∧
    (approach env e.algorithm problem L bounds seed).runOn
      (outset e.algorithm loader.messages loader.hidden) = (.ok status, r) ∧
    r.session.buffer .decision = .ok x ∧
    (problem.fitness x).runOn r.session.hidden.hidden = (.ok f, w)

/-- The candidate of a course is the decision vector that the loop ended with, and its fitness. -/
lemma course_eq_ok {env : Surroundings ω} {a : Algorithm ω} {problem : Problem ω} {L : Library ω}
    {bounds : Bounds} {seed : Candidate} {r r' : Running (Accounted ω)} {o : Outcome}
    (h : (course env a problem L bounds seed).runOn r = (.ok o, r')) :
    ∃ status v x f w, (approach env a problem L bounds seed).runOn r = (.ok status, v) ∧
      v.session.buffer .decision = .ok x ∧
      (problem.fitness x).runOn v.session.hidden.hidden = (.ok f, w) ∧
      o.candidate = ⟨.vector x, f⟩ := by
  simp only [course, runOn_bind_eq_ok_iff, Loop.onSession, Session.readCandidate,
    Session.readDecision, Session.aside, Accounted.aside, runOn_zoom_eq_iff, runOn_get,
    runOn_modify, runOn_liftExcept, Prod.mk.injEq] at h
  obtain ⟨status, v, hv, _, _, ⟨-, rfl⟩, c, _, ⟨_, ⟨x, _, ⟨_, _, ⟨⟨⟩, rfl⟩, hx, rfl⟩,
    f, _, ⟨_, ⟨w, hf, rfl⟩, rfl⟩, hc⟩, rfl⟩, _, _, ⟨⟨⟩, rfl⟩, h⟩ := h
  cases hc
  cases h
  exact ⟨status, v, x, f, w, hv, hx, hf, rfl⟩

lemma arrive_eq_ok {env : Surroundings ω} {problem : Problem ω} {seed : Candidate}
    {e e' : Evolution ω} {o : Outcome}
    (h : (arrive env problem seed).runOn e = (.ok o, e')) :
    ∃ x f, Arrives env problem e seed x f ∧ o.candidate = ⟨.vector x, f⟩ := by
  simp only [arrive, loading, solve, solving, runOn_bind_eq_ok_iff, runOn_get, runOn_zoom_eq_iff,
    runOn_liftExcept, runOn_ensuring_eq_ok_iff, Prod.mk.injEq] at h
  obtain ⟨_, _, ⟨⟨⟩, rfl⟩, L, _, ⟨loader, hload, rfl⟩, bounds, _, ⟨hb, rfl⟩,
    _, ⟨r, ⟨_, hcourse, -⟩, rfl⟩, -⟩ := h
  obtain ⟨status, v, x, f, w, hv, hx, hf, ho⟩ := course_eq_ok hcourse
  exact ⟨x, f, ⟨L, loader, bounds, status, v, w, hload, hb, hv, hx, hf⟩, ho⟩

/-- Neither loading nor solving reaches the population or the generator. -/
lemma keeps_arrive (env : Surroundings ω) (problem : Problem ω) (seed : Candidate) :
    (arrive env problem seed).Keeps (Same fun e => (e.population, e.algorithm.generator)) := by
  refine keeps_get.bind fun e => ?_
  refine Keeps.bind (keeps_zoom_same _ ?_) fun L => ?_
  · exact fun _ _ => rfl
  refine (keeps_liftExcept _).bind fun bounds => ?_
  refine Keeps.ensuring (keeps_zoom_same _ ?_) (keeps_zoom_same _ ?_)
  · exact fun _ _ => rfl
  · exact fun _ _ => rfl

/-! ## After the solve -/

/-- A replacement reaches the population and the generator. -/
lemma keeps_replacing {R : Evolution ω → Evolution ω → Prop}
    (unseen : ∀ e population generator,
      R e { e with population, algorithm.generator := generator })
    (problem : Problem ω) (policy : Policy) (result seed : Candidate) :
    (replacing (Selection.replace problem policy result seed)).Keeps R := by
  refine (Selection.keeps_replace problem policy result seed).zoom fun e s h => ?_
  have hhidden : s.habitat.hidden = e.hidden := h
  rw [hhidden]
  exact unseen e s.habitat.population s.generator

/-- What follows the solve reaches the messages too, and nothing else. -/
lemma keeps_settle {R : Evolution ω → Evolution ω → Prop} [IsPreorder (Evolution ω) R]
    (unseen : ∀ e messages population generator,
      R e { e with messages, population, algorithm.generator := generator })
    (problem : Problem ω) (selected : Nat) (seed : Candidate) (o : Outcome) :
    (settle problem selected seed o).Keeps R := by
  have hsay : ∀ text, (say (ω := ω) text).Keeps R :=
    fun text => keeps_modify fun e => unseen e _ e.population e.algorithm.generator
  refine keeps_get.bind fun e => (hsay _).bind fun _ => ?_
  refine Keeps.bind ?_ fun replaced => hsay _
  exact keeps_replacing (fun e => unseen e e.messages) problem _ _ _

lemma atomic_settle (problem : Problem ω) (selected : Nat) (seed : Candidate) (o : Outcome) :
    (settle problem selected seed o).Atomic (Evolution.population (ω := ω)) := by
  refine keeps_get.bind_atomic fun e => ?_
  refine Keeps.bind_atomic (keeps_modify fun _ => rfl) fun _ => ?_
  refine Atomic.bind_total ?_ fun replaced v => ⟨(), _, rfl⟩
  exact Atomic.zoom (Selection.atomic_replace _ _ _ _) fun _ _ h => h

lemma settle_eq_ok {problem : Problem ω} {selected : Nat} {seed : Candidate} {o : Outcome}
    {e e' : Evolution ω} (h : (settle problem selected seed o).runOn e = (.ok (), e')) :
    ∃ replaced s, (Selection.replace problem e.algorithm.settings.replacement o.candidate seed).runOn
        ⟨⟨e.population, e.hidden⟩, e.algorithm.generator⟩ = (.ok replaced, s) ∧
      e'.population = s.habitat.population := by
  simp only [settle, say, replacing, runOn_bind_eq_ok_iff, runOn_get, runOn_modify,
    runOn_zoom_eq_iff, Prod.mk.injEq] at h
  obtain ⟨_, _, ⟨⟨⟩, rfl⟩, _, _, ⟨-, rfl⟩, replaced, _, ⟨s, hs, rfl⟩, -, rfl⟩ := h
  exact ⟨replaced, s, hs, rfl⟩

/-! ## The whole call -/

/-- A call that raises a fault leaves the population as it was, wherever the fault comes from:
nothing before the replacement reaches the population, and that one is atomic. -/
lemma atomic_evolve (env : Surroundings ω) (problem : Problem ω) :
    (evolve env problem).Atomic (Evolution.population (ω := ω)) := by
  refine Keeps.bind_atomic (keeps_modify fun _ => rfl) fun _ => ?_
  refine Keeps.bind_atomic (keeps_prepare (fun _ _ => rfl) problem) fun selected => ?_
  refine Keeps.bind_atomic ?_ fun outcome => atomic_settle _ _ _ _
  exact (keeps_arrive env problem selected.2).mono fun _ _ h => congrArg Prod.fst h

/-- A call that returns has gone through its three parts. -/
lemma evolve_eq_ok {env : Surroundings ω} {problem : Problem ω} {e e' : Evolution ω}
    (h : (evolve env problem).runOn e = (.ok (), e')) :
    ∃ i seed e₁ o e₂, (prepare problem).runOn { e with algorithm.account := .blank } =
        (.ok (i, seed), e₁) ∧
      (arrive env problem seed).runOn e₁ = (.ok o, e₂) ∧
      (settle problem i seed o).runOn e₂ = (.ok (), e') := by
  simp only [evolve, runOn_bind_eq_ok_iff, runOn_modify, Prod.mk.injEq] at h
  obtain ⟨_, _, ⟨-, rfl⟩, ⟨i, seed⟩, e₁, h₁, o, e₂, h₂, h₃⟩ := h
  exact ⟨i, seed, e₁, o, e₂, h₁, h₂, h₃⟩

/-- A caller who leaves the settings as they are is the only one who could change them. -/
lemma settings_evolve (env : Surroundings ω) (problem : Problem ω) (e : Evolution ω)
    (steady : ∀ listener ∈ e.algorithm.listener, listener.Steady) :
    ((evolve env problem).runOn e).2.algorithm.settings = e.algorithm.settings := by
  have hevolve : (evolve env problem).runOn e = (prepare problem >>= fun drawn => do
      let outcome ← arrive env problem drawn.2
      settle problem drawn.1 drawn.2 outcome).runOn { e with algorithm.account := .blank } := rfl
  have hprepared : (prepare problem).Keeps
      (Same fun e => (e.algorithm.settings, e.algorithm.listener)) :=
    keeps_prepare (fun _ _ => rfl) problem
  have hsettle : ∀ selected seed o, (settle problem selected seed o).Keeps
      (Same fun e => e.algorithm.settings) := keeps_settle (fun _ _ _ _ => rfl) problem
  rw [hevolve, runOn_bind]
  rcases hprepare : (prepare problem).runOn { e with algorithm.account := .blank } with
    ⟨fault | ⟨selected, seed⟩, e₁⟩
  · exact congrArg Prod.fst (hprepared.run hprepare)
  · obtain ⟨hsettings, hlistener⟩ := Prod.mk.inj (hprepared.run hprepare)
    have steady₁ : ∀ listener ∈ e₁.algorithm.listener, listener.Steady := by
      rw [hlistener]
      exact steady
    have hafter := view_runOn_bind (arrive env problem seed) (hsettle selected seed) e₁
    exact hafter.trans ((settings_arrive env problem seed e₁ steady₁).trans hsettings)

/-- **The effect of evolving on the population.**  A call that raises a fault has none.  A call that
returns has selected a member `s` and arrived at a decision vector `x` with fitness `f`; if `f` is
better than that of `s`, and the member at the index `r` that the replacement policy designates in
the population as it was is not better than `f`, then `x` and `f` stand at `r` afterwards.  In every
other case, and in every other place, the population is as it was.

The replacement policy is the one that is set when the solve is over.  That is the one from the
start, unless the caller who is told of iterations sets another one. -/
theorem population_of_evolve (env : Surroundings ω) (problem : Problem ω) (e : Evolution ω) :
    (∀ fault e', (evolve env problem).runOn e = (.error fault, e') →
      e'.population = e.population) ∧
    (∀ e', (evolve env problem).runOn e = (.ok (), e') →
      e'.population.size = e.population.size ∧
      e'.population.evaluations = e.population.evaluations ∧
      ∃ i s g x f,
        Selection.Designates problem e.population e.algorithm.settings.selection
          e.algorithm.generator i s g ∧
        Arrives env problem
          { e with algorithm := { e.algorithm with account := .blank, generator := g } }
          (Population.candidate s) x (.vector f) ∧
        Selection.Offered problem e'.algorithm.settings.replacement e.population g s.f ⟨x, f⟩
          e'.population) ∧
    ((∀ listener ∈ e.algorithm.listener, listener.Steady) →
      ((evolve env problem).runOn e).2.algorithm.settings = e.algorithm.settings) := by
  refine ⟨fun fault e' h => atomic_evolve env problem e fault e' h, fun e' h => ?_,
    settings_evolve env problem e⟩
  obtain ⟨i, seed, e₁, o, e₂, hprepare, harrive, hsettle⟩ := evolve_eq_ok h
  obtain ⟨s, g, hs, rfl, rfl⟩ := prepare_eq_ok hprepare
  obtain ⟨x, f, hx, ho⟩ := arrive_eq_ok harrive
  -- The solve reaches neither the population nor the generator, and what follows it not the settings.
  obtain ⟨hp, hg⟩ := Prod.mk.inj ((keeps_arrive env problem (Population.candidate s)).run harrive)
  have hsettled : (settle problem i (Population.candidate s) o).Keeps
      (Same fun e => e.algorithm.settings) := keeps_settle (fun _ _ _ _ => rfl) problem _ _ _
  have hset : e'.algorithm.settings = e₂.algorithm.settings := hsettled.run hsettle
  obtain ⟨replaced, st, hreplace, he'⟩ := settle_eq_ok hsettle
  rw [ho, hp, hg, ← hset] at hreplace
  obtain ⟨fs, rfl, hoffered⟩ := Selection.replace_eq_ok hreplace
  rw [← he'] at hoffered
  exact ⟨hoffered.size_eq.1, hoffered.size_eq.2, i, s, g, x, fs, hs, hx, hoffered⟩

end Evolution

/-! ## An instance -/

/-- Surroundings in which every path names the same library. -/
def Surroundings.ofLibrary (L : Library ω) (budget : ℕ) : Surroundings ω where
  host := ⟨fun _ => .ok true, none⟩
  registry := .ok ⟨[("only", ⟨"only", fun _ => true, fun _ => pure L⟩)]⟩
  budget := budget

/-- A solver that goes to a decision vector in its only step and has terminated then. -/
def Library.endingAt (x : List Float) : Library Unit where
  path := Path.ofString "single"
  successThreshold := ReverseComm.successThreshold
  errorThreshold := ReverseComm.errorThreshold
  bound := none
  machine
    | .readParams _ => pure 0
    | .init => modify fun n =>
      let perVariable := some (List.replicate n.memory.variableCount.toInt.toNat 0)
      let perConstraint := some (List.replicate n.memory.constraintCount.toInt.toNat 0)
      { n with memory.buffers := ⟨perVariable, perVariable, perVariable, perVariable,
          perConstraint, perConstraint, perConstraint, perConstraint⟩ }
    | .getUserAction request => pure (request == .solverStep)
    | .step => modify fun n => { n with memory := { n.memory.write .decision x with status := 1000 } }
    | .preInit | .doneUserAction _ | .iterationOutput | .statusMessage | .free
    | .finiteDifference => pure ()
  release := pure ()

/-- A solver that goes to a decision vector in its only step, and has that iteration reported. -/
def Library.reporting (x : List Float) : Library Unit :=
  { Library.endingAt x with
    machine
      | .getUserAction request => pure (request == .solverStep || request == .reportIteration)
      | c => (Library.endingAt x).machine c }

namespace Evolution

/-- The least root of a number that is at most one. -/
def rootProblem : Problem Unit where
  name := .ok "root"
  dimension := .ok 1
  objectiveCount := .ok 1
  constraintCount := .ok 1
  equalityCount := .ok 0
  stochastic := .ok false
  bounds := .ok ⟨.vector [-10], .vector [10]⟩
  tolerances := .ok (.ok (.vector [0]))
  fitness x := pure (.vector [(x.headD 0).sqrt, x.headD 0 - 1])

/-- A member that violates its constraint. -/
def rootMember : Member := ⟨[4], [2, 3]⟩

/-- A population of that member. -/
def rootEvolution : Evolution Unit where
  algorithm := ⟨.default, ⟨0, 1, none⟩, none, .blank⟩
  population := ⟨1, 2, [rootMember], 0⟩
  coordinator := .fresh
  messages := []
  hidden := ()

/-- A solver that ends at one finds a better member, which goes into the population. -/
theorem population_of_evolve_root :
    let env : Surroundings Unit := .ofLibrary (.endingAt [1]) 1
    ∃ e', (evolve env rootProblem).runOn rootEvolution = (.ok (), e') ∧
      e'.population.members = [⟨[1], [1, 0]⟩] ∧ e'.algorithm.settings = .default ∧
      ∃ i s g x f,
        Selection.Designates rootProblem rootEvolution.population (.strategy .best) ⟨0, 1, none⟩ i s
          g ∧
        Arrives env rootProblem
          { rootEvolution with algorithm := { rootEvolution.algorithm with generator := g } }
          (Population.candidate s) x (.vector f) ∧
        Selection.Offered rootProblem (.strategy .best) rootEvolution.population g s.f ⟨x, f⟩
          e'.population := by
  intro env
  obtain ⟨-, hreturns, hsettings⟩ := population_of_evolve env rootProblem rootEvolution
  have hset := hsettings nofun
  rcases h : (evolve env rootProblem).runOn rootEvolution with ⟨fault | _, e'⟩
  · have hok : ((evolve env rootProblem).runOn rootEvolution).1.isOk = true := by decide +kernel
    rw [h] at hok
    cases hok
  · have hmembers : ((evolve env rootProblem).runOn rootEvolution).2.population.members =
        [⟨[1], [1, 0]⟩] := by decide +kernel
    rw [h] at hmembers hset
    obtain ⟨-, -, hfound⟩ := hreturns e' h
    rw [hset] at hfound
    exact ⟨e', rfl, hmembers, hset, hfound⟩

end Evolution

end ReverseComm
