import ReverseComm.Proofs.Evolution.Frame
import ReverseComm.Proofs.Session.Faults

/-!
# The faults of a call of evolve

What is raised after the library has been loaded comes from the problem, from the library, from the
caller who is told of iterations, or from the rating and the session themselves.  The latter raise
no fault of the configuration, with one exception: a policy that names an index outside the
population is refused whenever it is resolved.

As in the session, `Q` is a property that all faults have but those of the configuration.  It is one
of faults in the state of solver, problem and caller, so that it may speak of what has happened to
that state.  What comes from outside is assumed to have it (`Problem.Responds`, `Evolution.Brings`),
and not to lose it: the library is called once more after a fault has been raised, to release its
memory and to be closed.
-/

namespace ReverseComm

open ReverseComm.Action

variable {ω : Type}

/-- What the properties of a problem answer with has a property if it is a fault. -/
structure Problem.Responds {W : Type} (Q : Fault → W → Prop) (problem : Problem ω) : Prop where
  dimension : Reports Q problem.dimension
  objectiveCount : Reports Q problem.objectiveCount
  constraintCount : Reports Q problem.constraintCount
  equalityCount : Reports Q problem.equalityCount
  bounds : Reports Q problem.bounds
  tolerances : Reports Q problem.tolerances
  tolerancesOffered : ∀ tolerances, problem.tolerances = .ok tolerances → Reports Q tolerances

lemma Problem.Responds.within {W S : Type} {Q : Fault → W → Prop} {problem : Problem ω}
    (responds : problem.Responds Q) (part : S → W) : problem.Responds (Within part Q) where
  dimension := responds.dimension.within part
  objectiveCount := responds.objectiveCount.within part
  constraintCount := responds.constraintCount.within part
  equalityCount := responds.equalityCount.within part
  bounds := responds.bounds.within part
  tolerances := responds.tolerances.within part
  tolerancesOffered t ht := (responds.tolerancesOffered t ht).within part

lemma Problem.Responds.everywhere {W S : Type} {Q : Fault → W → Prop} {problem : Problem ω}
    (responds : problem.Responds Q) : problem.Responds fun fault (_ : S) => ∀ w, Q fault w where
  dimension fault h _ := responds.dimension fault h
  objectiveCount fault h _ := responds.objectiveCount fault h
  constraintCount fault h _ := responds.constraintCount fault h
  equalityCount fault h _ := responds.equalityCount fault h
  bounds fault h _ := responds.bounds fault h
  tolerances fault h _ := responds.tolerances fault h
  tolerancesOffered t ht fault h _ := responds.tolerancesOffered t ht fault h

/-! ## Rating -/

namespace Fitness

variable {W : Type} {Q : Fault → W → Prop} (plain : Plain Q) {tolerances : Offer}
  (htolerances : Reports Q tolerances)
include plain htolerances

lemma reports_tolerancesFor (shape : List Nat) : Reports Q (tolerancesFor tolerances shape) := by
  refine htolerances.bind fun t => ?_
  split
  · exact reports_error (plain _ rfl)
  · exact reports_ok _

lemma reports_check (values : Tensor) (equalities : Int) :
    Reports Q (check values equalities tolerances) := by
  refine (reports_tolerancesFor plain htolerances _).bind fun ts => ?_
  split
  · exact reports_error (plain _ rfl)
  · exact reports_ok _

omit htolerances in
lemma reports_below (a b : Tensor) : Reports Q (below a b) := by
  unfold below
  split
  · exact reports_ok _
  · exact reports_error (plain _ rfl)

lemma reports_better (f g : Tensor) (equalities : Int) :
    Reports Q (better f g equalities tolerances) := by
  unfold better
  split
  · exact reports_error (plain _ rfl)
  · refine (Tensor.reports_rest plain f).bind fun fs => ?_
    refine (reports_check plain htolerances fs _).bind fun a => ?_
    refine (Tensor.reports_rest plain g).bind fun gs => ?_
    refine (reports_check plain htolerances gs _).bind fun b => ?_
    split
    · refine (Tensor.reports_first plain f).bind fun x => ?_
      exact (Tensor.reports_first plain g).bind fun y => reports_below plain x y
    · split
      · exact reports_ok _
      · split
        · exact reports_ok _
        · exact reports_ok _

lemma reports_ranking (rows : List (List Float)) (equalities : Int) :
    Reports Q (ranking rows equalities tolerances) := by
  unfold ranking
  split
  · exact (reports_better plain htolerances _ _ _).bind fun _ => reports_ok _
  · exact reports_ok _

end Fitness

/-! ## Resolving policies -/

/-- A policy names an index outside a population of a size, and this is the fault that is raised for
it. -/
def Policy.Oversteps (policy : Policy) (size : ℕ) (fault : Fault) : Prop :=
  ∃ n, policy = .index n ∧ size ≤ n ∧ fault = .config (.indexOutOfRange n size)

namespace Population

section

variable {W : Type} {Q : Fault → W → Prop} (plain : Plain Q)
include plain

lemma reports_firstOf (is : List Nat) : Reports Q (firstOf is) := by
  cases is with
  | nil => exact reports_error (plain _ rfl)
  | cons i is => exact reports_ok i

lemma reports_member (p : Population) (i : Nat) : Reports Q (p.member i) := by
  unfold member
  split
  · exact reports_ok _
  · exact reports_error (plain _ rfl)

lemma reports_ranking {problem : Problem ω} (responds : problem.Responds Q) (p : Population) :
    Reports Q (ranking problem p) := by
  have hrows : Reports Q (do
      let equalities ← problem.equalityCount
      Fitness.ranking p.fitnesses equalities (← problem.tolerances)) := by
    refine responds.equalityCount.bind fun n => ?_
    refine responds.tolerances.bind_of_ok fun tolerances ht => ?_
    exact Fitness.reports_ranking plain (responds.tolerancesOffered _ ht) _ _
  have hobjectives : Reports Q (do
      if (← problem.objectiveCount) ≠ 1 then throw (.value .severalObjectives)
      let equalities ← problem.equalityCount
      Fitness.ranking p.fitnesses equalities (← problem.tolerances)) := by
    refine responds.objectiveCount.bind fun k => ?_
    dsimp only
    split
    · exact reports_error (plain _ rfl)
    · exact hrows
  unfold ranking
  split
  · exact reports_error (plain _ rfl)
  · exact hobjectives

end

lemma raises_replace_given {Q : Fault → Habitat ω → Prop} (plain : Plain Q) (problem : Problem ω)
    (i : Int) (x f : Tensor) :
    (replace problem i (.ok x) (some (.ok f))).Raises Q := by
  have hdecision : ∀ p : Population, Reports Q (p.checkDecision (.ok x)) := by
    intro p
    refine (reports_ok x).bind fun x => ?_
    dsimp only
    split
    · exact reports_ok _
    · exact reports_error (plain _ rfl)
  have hfitness : ∀ p : Population, ∀ f, Reports Q (p.checkFitness f) := by
    intro p f
    unfold checkFitness
    dsimp only
    split
    · exact reports_ok _
    · exact reports_error (plain _ rfl)
  have hchecked : (checkMember problem (.ok x) (some (.ok f))).Raises Q := by
    refine raises_get.bind fun h => ?_
    refine (raises_liftExcept (hdecision _)).bind fun xs => ?_
    refine (raises_liftExcept (reports_ok f)).bind fun f => ?_
    exact (raises_liftExcept (hfitness _ f)).bind fun fs => raises_pure _
  refine raises_get.bind fun h => ?_
  dsimp only
  split
  · exact raises_throw (plain _ rfl)
  · exact hchecked.bind fun m => raises_modify _

end Population

namespace Selection

variable {Q : Fault → Generator → Prop} (plain : Plain Q)
include plain

lemma raises_draw (p : Population) : (draw p).Raises Q := by
  intro g fault g' h
  have hbelow : (g.below p.size).1 = .error fault := congrArg Prod.fst h
  unfold Generator.below at hbelow
  split at hbelow
  · cases hbelow
    exact plain _ rfl _
  · split at hbelow
    · cases hbelow
    · cases hbelow

/-- The one fault of the configuration is that of an index outside the population. -/
lemma raises_resolve {problem : Problem ω} (responds : problem.Responds Q) {p : Population}
    {policy : Policy} (oversteps : ∀ fault, policy.Oversteps p.size fault → ∀ g, Q fault g) :
    (resolve problem p policy).Raises Q := by
  have hranking := Population.reports_ranking plain responds p
  cases policy with
  | index n =>
    refine (raises_liftExcept fun fault h => ?_).bind fun _ => raises_pure _
    unfold checkIndex at h
    dsimp only at h
    split at h
    · rename_i hn
      cases h
      exact oversteps _ ⟨n, rfl, hn, rfl⟩
    · cases h
  | strategy s =>
    cases s with
    | best =>
      exact raises_liftExcept (hranking.bind fun is => Population.reports_firstOf plain is)
    | worst =>
      exact raises_liftExcept (hranking.bind fun is => Population.reports_firstOf plain is.reverse)
    | random => exact raises_draw plain p

end Selection

/-! ## The solve -/

variable {Q : Fault → ω → Prop}

/-- A property of faults in the state of solver and problem, as one in a session. -/
abbrev OnSession (Q : Fault → ω → Prop) : Fault → Session (Accounted ω) → Prop :=
  Within (fun s => s.hidden.hidden) Q

lemma raises_aside {α : Type} {a : Action ω α} (ha : a.Raises Q) :
    (Session.aside (Accounted.aside a)).Raises (OnSession Q) := by
  have haccounted : (Accounted.aside a).Raises (Within Accounted.hidden Q) :=
    ha.zoom fun _ _ _ h => h
  exact haccounted.zoom fun _ _ _ h => h

namespace Account

variable (plain : Plain Q) {problem : Problem ω} (responds : problem.Responds Q)
include plain responds

lemma raises_reportLine (number : Nat) (f : Tensor) :
    (reportLine problem number f).Raises (OnSession Q) := by
  have plain' : Plain (OnSession Q) := plain.within _
  have responds' : problem.Responds (OnSession Q) := responds.within _
  have hline : ∀ summary : Summary Float, (do
      let objective ← (f.first >>= Tensor.toNumber : Except Fault Float)
      let line : LogLine :=
        { evaluations := number, objective, violated := summary.violated, norm := summary.norm,
          feasible := summary.feasible }
      say (lineText line)
      modify fun s => { s with hidden.account.lines := s.hidden.account.lines ++ [line] } :
      Action (Session (Accounted ω)) Unit).Raises (OnSession Q) := by
    intro summary
    refine (raises_liftExcept (Tensor.reports_objective plain' f)).bind fun objective => ?_
    exact (raises_modify _).bind fun _ => raises_modify _
  refine (raises_liftExcept (Tensor.reports_rest plain' f)).bind fun constraints => ?_
  refine (raises_liftExcept responds'.equalityCount).bind fun n => ?_
  refine raises_liftExcept_bind responds'.tolerances fun tolerances ht => ?_
  have hchecked := Fitness.reports_check plain' (responds'.tolerancesOffered _ ht) constraints n
  refine (raises_liftExcept hchecked).bind fun summary => ?_
  refine raises_get.bind fun s => ?_
  dsimp only
  split
  · exact (raises_modify _).bind fun _ => hline summary
  · exact hline summary

lemma raises_evaluate {x : List Float} (hfitness : (problem.fitness x).Raises Q) :
    (evaluate problem x).Raises (OnSession Q) := by
  refine (raises_aside hfitness).bind fun f => ?_
  refine (raises_modify _).bind fun _ => ?_
  refine raises_get.bind fun s => ?_
  dsimp only
  split
  · exact (raises_reportLine plain responds _ f).bind fun _ => raises_pure _
  · exact raises_pure _

end Account

namespace Evolution

/-- What problem, library and caller raise has a property, and whatever has it keeps it when the
library is called or closed. -/
structure Brings (Q : Fault → ω → Prop) (a : Algorithm ω) (problem : Problem ω) (L : Library ω) :
    Prop where
  responds : problem.Responds Q
  fitness : ∀ x, (problem.fitness x).Raises Q
  machine : ∀ c, (L.machine c).Raises (Within Native.hidden Q)
  release : L.release.Raises Q
  listener : ∀ listener ∈ a.listener,
    (listener (Steered.library L)).Raises (Within (fun s => s.hidden.hidden) Q)
  retained : ∀ c, (L.machine c).Keeps (Retaining (Within Native.hidden Q))
  closed : L.release.Keeps (Retaining Q)

section

variable (plain : Plain Q) {problem : Problem ω} {a : Algorithm ω} {L : Library ω}
  (brings : Brings Q a problem L)
include plain brings

lemma raises_call (c : Call) :
    (Session.call (Accounted.library L) c).Raises (OnSession Q) := by
  have hcall : ((Accounted.library L).call c).Raises (Within (fun n => n.hidden.hidden) Q) := by
    unfold Library.call
    split
    · simp only [Accounted.library, Library.within]
      exact (brings.machine c).zoom fun _ _ _ h => h
    · exact raises_throw fun _ => plain _ rfl _
  exact hcall.zoom fun _ _ _ h => h

omit plain in
lemma retains_call (c : Call) :
    (Session.call (Accounted.library L) c).Keeps (Retaining (OnSession Q)) := by
  have hcall : ((Accounted.library L).call c).Keeps
      (Retaining (Within (fun n => n.hidden.hidden) Q)) := by
    unfold Library.call
    split
    · exact (brings.retained c).zoom fun _ _ h => h
    · exact keeps_throw _
  exact hcall.zoom fun _ _ h => h

lemma brings_service : Loop.Brings (OnSession Q) (Accounted.library L) (service a problem L) where
  call := raises_call plain brings
  fitness x := Account.raises_evaluate plain brings.responds (brings.fitness x)
  report b hb := by
    obtain ⟨listener, hlistener, rfl⟩ := Option.map_eq_some_iff.mp hb
    exact (brings.listener listener hlistener).zoom fun _ _ _ h => h

lemma raises_approach (env : Surroundings ω) (bounds : Bounds) (seed : Candidate) :
    (approach env a problem L bounds seed).Raises (Within Running.session (OnSession Q)) := by
  have plain' : Plain (OnSession Q) := plain.within _
  have hcall := raises_call plain brings
  have responds : problem.Responds (Within Running.session (OnSession Q)) := brings.responds.within _
  refine (Loop.raises_onSession (Session.raises_preInit plain' hcall)).bind fun _ => ?_
  refine (Loop.raises_onSession (Session.raises_readParams plain' hcall _ _)).bind fun _ => ?_
  refine (raises_liftExcept responds.dimension).bind fun dimension => ?_
  refine (raises_liftExcept responds.constraintCount).bind fun constraints => ?_
  refine (Loop.raises_onSession (Session.raises_declare plain' (reports_ok _)
    (reports_ok _))).bind fun _ => ?_
  refine (Loop.raises_onSession (Session.raises_init plain' hcall)).bind fun _ => ?_
  refine (raises_liftExcept responds.equalityCount).bind fun equalities => ?_
  refine (Loop.raises_onSession (Session.raises_seed plain' _ (reports_ok _) (reports_ok _)
    (reports_ok _) (reports_ok _) (reports_ok _))).bind fun _ => ?_
  exact Loop.raises_run plain' (brings_service plain brings) _

lemma raises_course (env : Surroundings ω) (bounds : Bounds) (seed : Candidate) :
    (course env a problem L bounds seed).Raises (Within Running.session (OnSession Q)) := by
  refine (raises_approach plain brings env bounds seed).bind fun status => ?_
  refine (raises_modify _).bind fun _ => ?_
  have hread := Session.raises_readCandidate (plain.within _ : Plain (OnSession Q)) fun x =>
    raises_aside (brings.fitness x)
  refine (Loop.raises_onSession hread).bind fun candidate => ?_
  exact raises_get.bind fun r => raises_pure _

/-- A solve raises no fault of the configuration on its own account. -/
theorem raises_solve (env : Surroundings ω) (bounds : Bounds) (seed : Candidate) :
    (solve env a problem L bounds seed).Raises (Within Evolution.hidden Q) := by
  have hcall := retains_call brings
  have hleave := Session.raises_leave (plain.within _ : Plain (OnSession Q))
    (raises_call plain brings) hcall
  have hleft : (Session.leave (Accounted.library L)).Keeps (Retaining (OnSession Q)) := by
    refine Session.keeps_leave (fun s s' h fault hs => ?_) hcall
    rw [OnSession, Within, h.hidden]
    exact hs
  have hcourse := (raises_course plain brings env bounds seed).ensuring
    (Loop.raises_onSession hleave) (Loop.keeps_onSession hleft)
  have hclose : (do let _ ← L.close : Action ω Unit).Raises Q :=
    (brings.release.bind fun _ => raises_pure _).bind fun _ => raises_pure _
  have hclosed : (do let _ ← L.close : Action ω Unit).Keeps (Retaining Q) :=
    (brings.closed.bind fun _ => keeps_pure _).bind fun _ => keeps_pure _
  refine Raises.ensuring ?_ (hclose.zoom fun _ _ _ h => h) (hclosed.zoom fun _ _ h => h)
  exact hcourse.zoom fun _ _ _ h => h

end

end Evolution

/-! ## The replacement -/

/-- A replacement raises no fault of the configuration on its own account but the one for an index
outside the population. -/
theorem Selection.raises_replace (plain : Plain Q) {problem : Problem ω}
    (responds : problem.Responds Q) {policy : Policy} {result seed : Candidate} {s s' : Setting ω}
    (oversteps : ∀ fault, policy.Oversteps s.habitat.population.size fault → ∀ w, Q fault w)
    {fault : Fault} (h : (replace problem policy result seed).runOn s = (.error fault, s')) :
    Q fault s'.habitat.hidden := by
  let part : Setting ω → ω := fun s => s.habitat.hidden
  have plain' : Plain (Within part Q) := plain.within part
  have responds' : problem.Responds (Within part Q) := responds.within part
  -- Once the population is read, what is left raises no such fault in any state.
  have hplaced : ∀ n tolerances, problem.tolerances = .ok tolerances → (do
      let index ← (resolve problem s.habitat.population policy).zoom Setting.generator
        fun g s => { s with generator := g }
      let m ← s.habitat.population.member index
      if ← Fitness.better (.vector m.f) result.f n tolerances then return none
      (Population.replace problem index (.ok result.x) (some (.ok result.f))).zoom Setting.habitat
        fun h s => { s with habitat := h }
      return some index : Action (Setting ω) (Option Nat)).Raises (Within part Q) := by
    intro n tolerances ht
    -- The generator does not show the state, so the property is asked for in every one.
    let everywhere : Fault → Generator → Prop := fun fault _ => ∀ w, Q fault w
    have hresolve : (resolve problem s.habitat.population policy).Raises everywhere :=
      raises_resolve (fun fault hplain _ => plain fault hplain) responds.everywhere
        fun fault h _ => oversteps fault h
    refine Raises.bind (hresolve.zoom ?_) fun index => ?_
    · exact fun _ _ _ h => h _
    refine (raises_liftExcept (Population.reports_member plain' _ _)).bind fun m => ?_
    have hbetter := Fitness.reports_better plain' (responds'.tolerancesOffered _ ht) (.vector m.f)
      result.f n
    refine (raises_liftExcept hbetter).bind fun worse => ?_
    split
    · exact raises_pure _
    · have hput := Population.raises_replace_given (plain.within Habitat.hidden) problem index
        result.x result.f
      refine Raises.bind (hput.zoom ?_) fun _ => raises_pure _
      exact fun _ _ _ h => h
  simp only [replace, runOn_bind_eq_error_iff, runOn_liftExcept, Prod.mk.injEq] at h
  rcases h with ⟨h, rfl⟩ | ⟨n, _, ⟨hn, rfl⟩, h⟩
  · exact responds.equalityCount _ h _
  rcases h with ⟨h, rfl⟩ | ⟨tolerances, _, ⟨ht, rfl⟩, h⟩
  · exact responds.tolerances _ h _
  rcases h with ⟨h, rfl⟩ | ⟨better, _, ⟨hb, rfl⟩, h⟩
  · exact Fitness.reports_better plain (responds.tolerancesOffered _ ht) _ _ _ _ h _
  cases better with
  | false => simp at h
  | true =>
    rw [if_pos rfl] at h
    rcases runOn_bind_eq_error_iff.mp h with h | ⟨_, _, hget, h⟩
    · cases h
    · cases hget
      exact hplaced n tolerances ht _ _ _ h

end ReverseComm
