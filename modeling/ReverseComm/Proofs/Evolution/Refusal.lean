import ReverseComm.Proofs.Evolution.History
import ReverseComm.Proofs.Evolution.Unheard

/-!
# Refusing what cannot be run

A call of `evolve` refuses a configuration that it cannot run before it touches anything: before the
library is loaded, and whatever the library, the host and the binders are
(`config_faults_come_first`).  That needs that nothing else goes wrong before the replacement policy
is looked at.  The best and the worst member are looked up by then, and that succeeds for a
population of the problem (`Population.Belongs`) whose tolerances stretch to its constraints
(`Problem.Tolerates`).  A problem may answer a question about itself with a fault, and that is then
the fault of the call (`Problem.Balks`).

Once the library is there, a call does refuse something in one case.  The replacement policy is
resolved again after the solve, and an index is checked again then.  It is the policy of that
moment: if the caller who is told of iterations has set another one meanwhile, it is looked at for
the first time (`refused_after_solve`).  Else the check cannot fail, because the population has kept
its size.  The other policies name members that they find in the population.

All other faults of the configuration that a call raises by then come from outside, so that they
have been heard in this call (`raisedOutside`), or a property of the problem answers with them
(`Problem.Fails`).
-/

namespace ReverseComm

open ReverseComm.Action

variable {ω : Type}

/-- A policy looks for a member in the ranking. -/
def Policy.Ranks (policy : Policy) : Prop := policy = .strategy .best ∨ policy = .strategy .worst

/-- What the problem is asked before the library is loaded it answers with a fault: how many
objectives it has, and its name if that is not one; whether it depends on chance; and how many of
its constraints are equalities, if the members have to be ranked for the selection. -/
inductive Problem.Balks (problem : Problem ω) (selection : Policy) (fault : Fault) : Prop
  | objectiveCount (h : problem.objectiveCount = .error fault)
  | name {k : ℤ} (hk : problem.objectiveCount = .ok k) (several : k ≠ 1)
      (h : problem.name = .error fault)
  | stochastic (single : problem.objectiveCount = .ok 1) (h : problem.stochastic = .error fault)
  | equalityCount (single : problem.objectiveCount = .ok 1) (ranks : selection.Ranks)
      (h : problem.equalityCount = .error fault)

/-- What the problem is asked once the library is loaded it answers with a fault.  The number of its
constraints and their tolerances are not among that, where the tolerances stretch. -/
inductive Problem.Fails (problem : Problem ω) (fault : Fault) : Prop
  | bounds (h : problem.bounds = .error fault)
  | dimension (h : problem.dimension = .error fault)
  | equalityCount (h : problem.equalityCount = .error fault)

/-- The tolerances stretch to the constraints. -/
def Problem.Tolerates (problem : Problem ω) : Prop :=
  ∃ (m : ℕ) (tolerances : Offer) (ts : List Float), problem.constraintCount = .ok (m : ℤ) ∧
    problem.tolerances = .ok tolerances ∧ Fitness.tolerancesFor tolerances [m] = .ok ts

/-! ## Populations of a problem -/

namespace Population

/-- The fitness vectors of the population are as long as the problem says. -/
structure Belongs (problem : Problem ω) (p : Population) : Prop where
  rectangular : p.Rectangular
  width : ∀ k m, problem.objectiveCount = .ok k → problem.constraintCount = .ok m →
    (p.fitnessWidth : ℤ) = k + m

variable {problem : Problem ω}

/-- A habitat whose population belongs to a problem stays one. -/
abbrev KeepsBelongs (problem : Problem ω) : Habitat ω → Habitat ω → Prop :=
  Preserving fun h => h.population.Belongs problem

lemma Belongs.of_keeps {a : Action (Habitat ω) Unit} (hrect : a.Keeps KeepsRectangular)
    (hwidth : a.Keeps (Same fun h => h.population.fitnessWidth)) :
    a.Keeps (KeepsBelongs problem) := by
  intro h hp
  have hsame : (a.runOn h).2.population.fitnessWidth = h.population.fitnessWidth := hwidth h
  refine ⟨hrect h hp.rectangular, fun k m hk hm => ?_⟩
  rw [hsame]
  exact hp.width k m hk hm

lemma keeps_fitnessWidth_checkMember (x : Offer) (f : Option Offer) :
    (checkMember problem x f).Keeps (Same fun h : Habitat ω => h.population.fitnessWidth) :=
  (keeps_checkMember problem x f).mono fun _ _ h => (Prod.mk.inj (Prod.mk.inj h).2).2

/-- Adding a member, with or without its fitness, leaves a population with its problem. -/
theorem keeps_belongs_push (x : Offer) (f : Option Offer) :
    (push problem x f).Keeps (KeepsBelongs problem) := by
  refine Belongs.of_keeps (keeps_rectangular_push problem x f) ?_
  exact (keeps_fitnessWidth_checkMember x f).bind fun m => keeps_modify fun _ => rfl

/-- So does replacing one. -/
theorem keeps_belongs_replace (i : ℤ) (x : Offer) (f : Option Offer) :
    (replace problem i x f).Keeps (KeepsBelongs problem) := by
  refine Belongs.of_keeps (keeps_rectangular_replace problem i x f) ?_
  refine keeps_get.bind fun h => ?_
  dsimp only
  split
  · exact keeps_throw _
  · exact (keeps_fitnessWidth_checkMember x f).bind fun m => keeps_modify fun _ => rfl

lemma belongs_of_empty {p : Population} (h : empty problem = .ok p) : p.Belongs problem := by
  simp only [empty, outcome_bind_eq_ok_iff] at h
  obtain ⟨_, -, width, -, objectives, hobjectives, constraints, hconstraints, fitnessWidth,
    hlength, hp⟩ := h
  cases hp
  constructor
  · intro m hm
    cases hm
  · intro k m hk hm
    rw [hobjectives] at hk
    rw [hconstraints] at hm
    cases hk
    cases hm
    exact (eq_of_length hlength).symm

/-- Every population that is made belongs to its problem. -/
theorem belongs_make {size : ℕ} {seed : ℤ} {w w' : ω} {p : Population}
    (h : (make problem size seed).runOn w = (.ok p, w')) : p.Belongs problem :=
  holds_of_make (P := fun h => h.population.Belongs problem) (fun x => keeps_belongs_push x none)
    (fun _ => belongs_of_empty) h

end Population

namespace Evolution

/-- Evolving leaves a population with its problem, whatever becomes of the call. -/
theorem belongs_evolve (env : Surroundings ω) {problem : Problem ω} {e : Evolution ω}
    (hp : e.population.Belongs problem) :
    ((evolve env problem).runOn e).2.population.Belongs problem := by
  rcases evolve_cases (Prod.eta ((evolve env problem).runOn e)).symm with
    hsame | ⟨_, seed, _, i, old, new, -, hdisplaces, -⟩
  · rw [hsame]
    exact hp
  · have hold := hp.rectangular old (List.mem_of_getElem? hdisplaces.held)
    have hnew : new.f.length = e.population.fitnessWidth :=
      (Problem.length_eq_of_better hdisplaces.yields).symm.trans hold
    rw [hdisplaces.after]
    refine ⟨fun m hm => ?_, hp.width⟩
    rcases List.mem_or_eq_of_mem_set hm with hm | rfl
    · exact hp.rectangular m hm
    · exact hnew

end Evolution

/-! ## Before the library is loaded -/

lemma Generator.exists_below_eq_ok {bound : ℕ} (h : 0 < bound) (g : Generator) :
    ∃ n, (g.below bound).1 = .ok n ∧ n < bound := by
  cases hn : (g.below bound).1 with
  | ok n => exact ⟨n, rfl, Generator.below_lt hn⟩
  | error fault =>
    unfold Generator.below at hn
    rw [if_neg (by simpa using h.ne')] at hn
    split at hn
    · cases hn
    · cases hn

namespace Selection

variable {problem : Problem ω} {p : Population}

/-- The members of a population of the problem are ranked, whether there is NaN in them or not,
unless the problem does not say how many equalities it has. -/
lemma ranking_cases (belongs : p.Belongs problem) (tolerates : problem.Tolerates)
    (single : problem.objectiveCount = .ok 1) (hsize : p.size ≠ 0) :
    (∃ is, p.ranking problem = .ok is ∧ is ≠ [] ∧ ∀ i ∈ is, i < p.size) ∨
      ∃ fault, p.ranking problem = .error fault ∧ problem.equalityCount = .error fault := by
  obtain ⟨m, tolerances, ts, hm, ht, hts⟩ := tolerates
  have hwidth : p.fitnessWidth = m + 1 := by
    have h := belongs.width 1 m single hm
    omega
  have hrows : ∀ f ∈ p.fitnesses, f.length = m + 1 := by
    intro f hf
    obtain ⟨member, hmember, rfl⟩ := List.mem_map.mp hf
    exact (belongs.rectangular member hmember).trans hwidth
  have hlength : p.fitnesses.length = p.size := List.length_map _
  cases hn : problem.equalityCount with
  | error fault =>
    refine .inr ⟨fault, ?_, rfl⟩
    simp [Population.ranking, hsize, single, hn, bind, Except.bind]
  | ok n =>
    obtain ⟨is, hranking, hmem⟩ := @Fitness.exists_ranking _ n _ _ _ hrows hts
    refine .inl ⟨is, ?_, ?_, fun i hi => hlength ▸ (hmem i).mp hi⟩
    · simp [Population.ranking, hsize, single, hn, ht, hranking, bind, Except.bind]
    · have hfirst := (hmem 0).mpr (hlength ▸ Nat.pos_of_ne_zero hsize)
      exact List.ne_nil_of_mem hfirst

/-- A policy comes to the index of a member, or to the fault that it names none, or it needs a
ranking and there is none. -/
def Finds (problem : Problem ω) (p : Population) (policy : Policy) (r : Except Fault ℕ) : Prop :=
  (∃ i, r = .ok i ∧ i < p.size) ∨ ∃ fault, r = .error fault ∧
    (policy.Oversteps p.size fault ∨ policy.Ranks ∧ problem.equalityCount = .error fault)

lemma finds_firstOf {is : List ℕ} (hne : is ≠ []) (hlt : ∀ i ∈ is, i < p.size) (policy : Policy) :
    Finds problem p policy (Population.firstOf is) := by
  obtain ⟨i, is, rfl⟩ := List.exists_cons_of_ne_nil hne
  exact .inl ⟨i, rfl, hlt i List.mem_cons_self⟩

lemma finds_below (hsize : p.size ≠ 0) (g : Generator) (policy : Policy) :
    Finds problem p policy (g.below p.size).1 := by
  obtain ⟨i, hi, hlt⟩ := Generator.exists_below_eq_ok (Nat.pos_of_ne_zero hsize) g
  exact .inl ⟨i, hi, hlt⟩

lemma checkIndex_of_le {n : ℕ} (hn : p.size ≤ n) :
    checkIndex p (.index n) = .error (.config (.indexOutOfRange n p.size)) := if_pos hn

/-- What is refused of a policy is an index outside the population. -/
lemma checkIndex_eq_error {policy : Policy} {fault : Fault}
    (h : checkIndex p policy = .error fault) : policy.Oversteps p.size fault := by
  cases policy with
  | strategy s => cases h
  | index n =>
    by_cases hn : p.size ≤ n
    · rw [checkIndex_of_le hn] at h
      cases h
      exact ⟨n, rfl, hn, rfl⟩
    · have hcheck : checkIndex p (.index n) = .ok () := if_neg hn
      rw [hcheck] at h
      cases h

lemma runOn_resolve_index (n : ℕ) (g : Generator) :
    (resolve problem p (.index n)).runOn g = ((checkIndex p (.index n)).map fun _ => n, g) := by
  unfold resolve
  rw [runOn_bind, runOn_liftExcept]
  cases checkIndex p (.index n) with
  | error | ok => rfl

lemma finds_index (n : ℕ) :
    Finds problem p (.index n) ((checkIndex p (.index n)).map fun _ => n) := by
  by_cases hn : p.size ≤ n
  · rw [checkIndex_of_le hn]
    exact .inr ⟨_, rfl, .inl ⟨n, rfl, hn, rfl⟩⟩
  · have hcheck : checkIndex p (.index n) = .ok () := if_neg hn
    rw [hcheck]
    exact .inl ⟨n, rfl, by omega⟩

/-- Every policy finds a member in a population of the problem that is not empty, with the two
exceptions. -/
lemma finds_resolve (belongs : p.Belongs problem) (tolerates : problem.Tolerates)
    (single : problem.objectiveCount = .ok 1) (hsize : p.size ≠ 0) (policy : Policy)
    (g : Generator) : Finds problem p policy ((resolve problem p policy).runOn g).1 := by
  cases policy with
  | index n =>
    rw [runOn_resolve_index]
    exact finds_index n
  | strategy s =>
    cases s with
    | random => exact finds_below hsize g _
    | best =>
      show Finds problem p _ (p.best problem)
      unfold Population.best
      rcases ranking_cases belongs tolerates single hsize with ⟨is, h, hne, hlt⟩ | ⟨fault, h, hf⟩
      · rw [h]
        exact finds_firstOf hne hlt _
      · rw [h]
        exact .inr ⟨fault, rfl, .inr ⟨.inl rfl, hf⟩⟩
    | worst =>
      show Finds problem p _ (p.worst problem)
      unfold Population.worst
      rcases ranking_cases belongs tolerates single hsize with ⟨is, h, hne, hlt⟩ | ⟨fault, h, hf⟩
      · rw [h]
        refine finds_firstOf (fun hnil => hne (List.reverse_eq_nil_iff.mp hnil)) (fun i hi => ?_) _
        exact hlt i (List.mem_reverse.mp hi)
      · rw [h]
        exact .inr ⟨fault, rfl, .inr ⟨.inr rfl, hf⟩⟩

/-- A member that a policy is resolved to is there, so selecting it fails only where resolving
does. -/
lemma select_eq_error (belongs : p.Belongs problem) (tolerates : problem.Tolerates)
    (single : problem.objectiveCount = .ok 1) (hsize : p.size ≠ 0) {policy : Policy}
    {g g' : Generator} {fault : Fault}
    (h : (select problem p policy).runOn g = (.error fault, g')) :
    policy.Oversteps p.size fault ∨ policy.Ranks ∧ problem.equalityCount = .error fault := by
  have hfinds := finds_resolve belongs tolerates single hsize policy g
  simp only [select, runOn_bind_eq_error_iff, runOn_liftExcept, Prod.mk.injEq] at h
  rcases h with h | ⟨i, g₁, hi, ⟨hm, -⟩ | ⟨m, _, -, h⟩⟩
  · rw [h] at hfinds
    rcases hfinds with ⟨_, h, -⟩ | ⟨_, h, hcases⟩
    · cases h
    · cases h
      exact hcases
  · rw [hi] at hfinds
    rcases hfinds with ⟨_, h, hlt⟩ | ⟨_, h, -⟩
    · cases h
      have hmember := Population.member_eq_ok_iff.mpr (List.getElem?_eq_getElem hlt)
      rw [hmember] at hm
      cases hm
    · cases h
  · cases h

end Selection

namespace Evolution

/-- What a call refuses. -/
inductive Rejected (problem : Problem ω) (e : Evolution ω) : Prop
  | objectives {k : ℤ} (h : problem.objectiveCount = .ok k) (hk : k ≠ 1)
  | stochastic (h : problem.stochastic = .ok true)
  | empty (h : e.population.size = 0)
  | selection {n : ℕ} (h : e.algorithm.settings.selection = .index n)
      (hn : e.population.size ≤ n)
  | replacement {n : ℕ} (h : e.algorithm.settings.replacement = .index n)
      (hn : e.population.size ≤ n)

variable {problem : Problem ω}

/-- Only the population and the settings count. -/
lemma Rejected.of_same {e e' : Evolution ω} (h : Rejected problem e)
    (hp : e.population = e'.population) (hs : e.algorithm.settings = e'.algorithm.settings) :
    Rejected problem e' := by
  rcases h with ⟨h, hk⟩ | h | h | ⟨h, hn⟩ | ⟨h, hn⟩
  · exact .objectives h hk
  · exact .stochastic h
  · exact .empty (hp ▸ h)
  · exact .selection (hs ▸ h) (hp ▸ hn)
  · exact .replacement (hs ▸ h) (hp ▸ hn)

/-- A call starts with a new account. -/
def restarted (e : Evolution ω) : Evolution ω :=
  { e with algorithm := { e.algorithm with account := .blank } }

lemma rejected_restarted_iff {e : Evolution ω} :
    Rejected problem e.restarted ↔ Rejected problem e :=
  ⟨fun h => h.of_same rfl rfl, fun h => h.of_same rfl rfl⟩

/-- If the problem or the population does not pass, the problem does not answer a question, or there
is a reason to refuse them. -/
lemma checkProblem_eq_error {e : Evolution ω} {fault : Fault}
    (h : checkProblem problem e.population = .error fault) :
    problem.Balks e.algorithm.settings.selection fault ∨
      Rejected problem e ∧ ∃ c, fault = .config c := by
  unfold checkProblem at h
  rcases outcome_bind_eq_error_iff.mp h with hk | ⟨k, hk, h⟩
  · exact .inl (.objectiveCount hk)
  by_cases hone : k = 1
  · subst hone
    rcases outcome_bind_eq_error_iff.mp h with hstochastic | ⟨stochastic, hstochastic, h⟩
    · exact .inl (.stochastic hk hstochastic)
    cases stochastic with
    | true =>
      cases h
      exact .inr ⟨.stochastic hstochastic, _, rfl⟩
    | false =>
      by_cases hsize : e.population.size = 0
      · simp only [hsize, throw, throwThe, MonadExceptOf.throw] at h
        cases h
        exact .inr ⟨.empty hsize, _, rfl⟩
      · simp [hsize, pure, Except.pure] at h
  · rw [if_pos hone] at h
    rcases outcome_bind_eq_error_iff.mp h with hname | ⟨name, -, h⟩
    · exact .inl (.name hk hone hname)
    · cases h
      exact .inr ⟨.objectives hk hone, _, rfl⟩

/-- What is checked before the library is loaded, in this order. -/
lemma prepare_eq_error {e e' : Evolution ω} {fault : Fault}
    (h : (prepare problem).runOn e = (.error fault, e')) :
    checkProblem problem e.population = .error fault ∨
      checkProblem problem e.population = .ok () ∧
        ((∃ g, (Selection.select problem e.population e.algorithm.settings.selection).runOn
            e.algorithm.generator = (.error fault, g)) ∨
          Selection.checkIndex e.population e.algorithm.settings.replacement = .error fault) := by
  simp only [prepare, drawing, runOn_bind_eq_error_iff, runOn_get, runOn_zoom_eq_iff,
    runOn_liftExcept, Prod.mk.injEq] at h
  rcases h with ⟨h, -⟩ | ⟨_, _, ⟨⟨⟩, rfl⟩, ⟨h, -⟩ | ⟨_, _, ⟨hcheck, rfl⟩, h⟩⟩
  · cases h
  · exact .inl h
  · rcases h with ⟨g, h, -⟩ | ⟨selected, _, ⟨g, -, rfl⟩, ⟨h, -⟩ | ⟨_, _, -, h⟩⟩
    · exact .inr ⟨hcheck, .inl ⟨g, h⟩⟩
    · exact .inr ⟨hcheck, .inr h⟩
    · cases h

/-- Whatever passes before the library is loaded is not rejected. -/
lemma not_rejected_of_prepare_eq_ok {e e' : Evolution ω} {i : ℕ} {seed : Candidate}
    (h : (prepare problem).runOn e = (.ok (i, seed), e')) : ¬ Rejected problem e := by
  have hselected := prepare_eq_ok h
  simp only [prepare, runOn_bind_eq_ok_iff, runOn_get, runOn_liftExcept, Prod.mk.injEq] at h
  obtain ⟨_, _, ⟨⟨⟩, rfl⟩, _, _, ⟨hcheck, rfl⟩, _, e₁, hdraw, _, _, ⟨hindex, -⟩, -⟩ := h
  obtain ⟨single, calm, hsize⟩ := checkProblem_eq_ok hcheck
  intro hrejected
  cases hrejected with
  | objectives h hk =>
    rw [single] at h
    cases h
    exact hk rfl
  | stochastic h =>
    rw [calm] at h
    cases h
  | empty h => exact hsize h
  | @selection n h hn =>
    obtain ⟨m, g, hdesignates, -⟩ := hselected
    have hrun := hdesignates.1
    rw [h, Selection.runOn_resolve_index, Selection.checkIndex_of_le hn] at hrun
    cases hrun
  | @replacement n h hn =>
    rw [h, Selection.checkIndex_of_le hn] at hindex
    cases hindex

/-- Nothing but the generator differs. -/
def Redrawn (e e' : Evolution ω) : Prop :=
  ∃ g, e' = { e with algorithm := { e.algorithm with generator := g } }

instance : IsPreorder (Evolution ω) Redrawn where
  refl e := ⟨e.algorithm.generator, rfl⟩
  trans := by
    rintro _ _ _ ⟨_, rfl⟩ ⟨g, rfl⟩
    exact ⟨g, rfl⟩

/-- What fails before the library is loaded fails for a question that the problem does not answer,
or it is rejected. -/
lemma refusal_of_prepare {e e' : Evolution ω} {fault : Fault}
    (belongs : e.population.Belongs problem) (tolerates : problem.Tolerates)
    (h : (prepare problem).runOn e = (.error fault, e')) :
    problem.Balks e.algorithm.settings.selection fault ∨
      Rejected problem e ∧ ∃ c, fault = .config c := by
  rcases prepare_eq_error h with hcheck | ⟨hcheck, ⟨g, hselect⟩ | hindex⟩
  · exact checkProblem_eq_error hcheck
  · obtain ⟨single, -, hsize⟩ := checkProblem_eq_ok hcheck
    rcases Selection.select_eq_error belongs tolerates single hsize hselect with
      ⟨n, hpolicy, hn, rfl⟩ | ⟨hranks, hn⟩
    · exact .inr ⟨.selection hpolicy hn, _, rfl⟩
    · exact .inl (.equalityCount single hranks hn)
  · obtain ⟨n, hpolicy, hn, rfl⟩ := Selection.checkIndex_eq_error hindex
    exact .inr ⟨.replacement hpolicy hn, _, rfl⟩

/-- What is rejected is refused, and nothing but the generator has moved by then. -/
lemma prepare_refuses {e : Evolution ω} (belongs : e.population.Belongs problem)
    (tolerates : problem.Tolerates) (h : Rejected problem e) :
    ∃ fault g, (problem.Balks e.algorithm.settings.selection fault ∨ ∃ c, fault = .config c) ∧
      (prepare problem).runOn e =
        (.error fault, { e with algorithm := { e.algorithm with generator := g } }) := by
  rcases hrun : (prepare problem).runOn e with ⟨fault | ⟨i, seed⟩, e'⟩
  · have hkeeps : (prepare problem).Keeps (Redrawn (ω := ω)) :=
      keeps_prepare (fun _ g => ⟨g, rfl⟩) problem
    obtain ⟨g, rfl⟩ := hkeeps.run hrun
    exact ⟨fault, g, (refusal_of_prepare belongs tolerates hrun).imp_right And.right, rfl⟩
  · exact absurd h (not_rejected_of_prepare_eq_ok hrun)

/-! ## After the library is loaded -/

/-- Whether a call is rejected does not depend on who is heard. -/
lemma rejected_heard_iff {e : Evolution ω} :
    Rejected problem.heard e.heard ↔ Rejected problem e := by
  constructor
  · rintro (⟨h, hk⟩ | h | h | ⟨h, hn⟩ | ⟨h, hn⟩)
    · exact .objectives h hk
    · exact .stochastic h
    · exact .empty h
    · exact .selection h hn
    · exact .replacement h hn
  · rintro (⟨h, hk⟩ | h | h | ⟨h, hn⟩ | ⟨h, hn⟩)
    · exact .objectives h hk
    · exact .stochastic h
    · exact .empty h
    · exact .selection h hn
    · exact .replacement h hn

/-- A problem with one objective whose tolerances stretch answers what it is asked, unless it
fails. -/
lemma responds_heard (tolerates : problem.Tolerates) (single : problem.objectiveCount = .ok 1)
    {others : Fault → Prop} (fails : ∀ fault, problem.Fails fault → others fault) :
    problem.heard.Responds (Heard.Known (ω := ω) others) := by
  obtain ⟨m, tolerances, ts, hm, ht, hts⟩ := tolerates
  have answered : ∀ {α : Type} {r : Except Fault α} {x : α}, r = .ok x →
      Reports (Heard.Known (ω := ω) others) r := by
    rintro α r x rfl
    exact reports_ok x
  refine
    { dimension := fun fault h _ _ => .inr (fails fault (.dimension h))
      objectiveCount := answered single
      constraintCount := answered hm
      equalityCount := fun fault h _ _ => .inr (fails fault (.equalityCount h))
      bounds := fun fault h _ _ => .inr (fails fault (.bounds h))
      tolerances := answered ht
      tolerancesOffered := fun t hoffered fault h => ?_ }
  obtain rfl : tolerances = t := Except.ok.inj (ht.symm.trans hoffered)
  rw [h] at hts
  cases hts

section

variable {env : Surroundings ω} {fault : Fault}

/-- Once the library is loaded, the way to the candidate raises no fault of the configuration on its
own account. -/
lemma known_of_arrive {others : Fault → Prop}
    (responds : problem.heard.Responds (Heard.Known (ω := ω) others)) {e : Evolution ω}
    {e' : Evolution (Heard ω)} {N : Library (Heard ω)} {loader : Loading.Loader (Heard ω)}
    {seed : Candidate}
    (loaded : (Loading.load env.heard.host.isFile env.heard.registry e.algorithm.settings.library
      e.algorithm.settings.binder).runOn ⟨e.coordinator, e.messages, .silent e.hidden⟩ =
        (.ok N, loader))
    (h : (arrive env.heard problem.heard seed).runOn e.heard = (.error fault, e')) :
    Heard.Known others fault e'.hidden := by
  obtain ⟨L, rfl⟩ := Loading.exists_heard_of_load loaded
  rcases runOn_bind_eq_error_iff.mp h with h | ⟨_, _, hget, h⟩
  · cases h
  cases hget
  have hload : (loading (Loading.load env.heard.host.isFile env.heard.registry
      e.algorithm.settings.library e.algorithm.settings.binder)).runOn e.heard =
        (.ok L.heard, { e.heard with
          coordinator := loader.coordinator
          messages := loader.messages
          hidden := loader.hidden }) :=
    runOn_zoom_eq_iff.mpr ⟨loader, loaded, rfl⟩
  rcases runOn_bind_eq_error_iff.mp h with h | ⟨_, _, h', h⟩
  · rw [show e.heard.algorithm.settings = e.algorithm.settings from rfl, hload] at h
    cases h
  · rw [show e.heard.algorithm.settings = e.algorithm.settings from rfl, hload] at h'
    cases h'
    have hsolve : (do
        let bounds ← problem.heard.bounds
        solve env.heard e.algorithm.heard problem.heard L.heard bounds seed :
          Action (Evolution (Heard ω)) Outcome).Raises
            (Within Evolution.hidden (Heard.Known others)) := by
      refine (raises_liftExcept (responds.bounds.within Evolution.hidden)).bind fun bounds => ?_
      have brings := brings_heard responds e.algorithm L
      exact raises_solve Heard.plain_known brings env.heard bounds seed
    exact hsolve _ _ _ h

/-- The replacement after the solve raises no fault of the configuration on its own account but the
one for an index outside the population. -/
lemma known_of_settle {others : Fault → Prop}
    (responds : problem.heard.Responds (Heard.Known (ω := ω) others)) {e e' : Evolution (Heard ω)}
    (oversteps : ∀ fault,
      e.algorithm.settings.replacement.Oversteps e.population.size fault → others fault)
    {selected : ℕ} {seed : Candidate} {outcome : Outcome}
    (h : (settle problem.heard selected seed outcome).runOn e = (.error fault, e')) :
    Heard.Known others fault e'.hidden := by
  rcases runOn_bind_eq_error_iff.mp h with h | ⟨_, _, hget, h⟩
  · cases h
  cases hget
  rcases runOn_bind_eq_error_iff.mp h with h | ⟨_, _, hsay, h⟩
  · cases h
  cases hsay
  rcases runOn_bind_eq_error_iff.mp h with h | ⟨replaced, _, -, h⟩
  · obtain ⟨s, hreplace, rfl⟩ := runOn_zoom_eq_iff.mp h
    exact Selection.raises_replace Heard.plain_known responds
      (fun fault hover _ _ => .inr (oversteps fault hover)) hreplace
  · cases h

/-- After the library is loaded no fault of the configuration is raised but those that are heard or
answered, and the one for a replacement policy that has been set meanwhile. -/
lemma known_of_evolve {e : Evolution ω} {e' : Evolution (Heard ω)} {N : Library (Heard ω)}
    {loader : Loading.Loader (Heard ω)} (belongs : e.population.Belongs problem)
    (tolerates : problem.Tolerates) (passes : ¬ Rejected problem e)
    (loaded : (Loading.load env.heard.host.isFile env.heard.registry e.algorithm.settings.library
      e.algorithm.settings.binder).runOn ⟨e.coordinator, e.messages, .silent e.hidden⟩ =
        (.ok N, loader))
    (h : (evolve env.heard problem.heard).runOn e.heard = (.error fault, e')) :
    e'.coordinator = e.coordinator ∧ problem.Balks e.algorithm.settings.selection fault ∨
      Heard.Known (fun fault => problem.Fails fault ∨
        e'.algorithm.settings.replacement.Oversteps e.population.size fault) fault e'.hidden := by
  rcases runOn_bind_eq_error_iff.mp h with h | ⟨_, _, hreset, h⟩
  · cases h
  cases hreset
  rcases runOn_bind_eq_error_iff.mp h with h | ⟨⟨selected, seed⟩, e₁, hprepare, h⟩
  · left
    have belongs' : e.population.Belongs problem.heard := ⟨belongs.rectangular, belongs.width⟩
    have hcoordinator : (prepare problem.heard).Keeps
        (Same fun e : Evolution (Heard ω) => e.coordinator) :=
      keeps_prepare (fun _ _ => rfl) problem.heard
    refine ⟨hcoordinator.run h, ?_⟩
    rcases refusal_of_prepare (e := e.heard.restarted) belongs' tolerates h with hbalks | ⟨h, -⟩
    · rcases hbalks with h | ⟨hk, several, h⟩ | ⟨single, h⟩ | ⟨single, ranks, h⟩
      · exact .objectiveCount h
      · exact .name hk several h
      · exact .stochastic single h
      · exact .equalityCount single ranks h
    · exact absurd (rejected_heard_iff.mp (rejected_restarted_iff.mp h)) passes
  right
  have single : problem.heard.objectiveCount = .ok 1 := single_of_prepare hprepare
  obtain ⟨m, g, -, -, rfl⟩ := prepare_eq_ok hprepare
  have responds : problem.heard.Responds (Heard.Known (ω := ω) fun fault => problem.Fails fault ∨
      e'.algorithm.settings.replacement.Oversteps e.population.size fault) :=
    responds_heard tolerates single fun _ => .inl
  rcases runOn_bind_eq_error_iff.mp h with h | ⟨outcome, e₂, harrive, h⟩
  · exact known_of_arrive
      (e := { e with algorithm := { e.algorithm with account := .blank, generator := g } }) responds
      loaded h
  -- The population is the one that was checked at first, the policy perhaps not.
  have hp : e₂.population = e.population :=
    congrArg Prod.fst ((keeps_arrive env.heard problem.heard seed).run harrive)
  have hsettle : (settle problem.heard selected seed outcome).Keeps
      (Same fun e : Evolution (Heard ω) => e.algorithm.settings) :=
    keeps_settle (fun _ _ _ _ => rfl) problem.heard selected seed outcome
  have hset : e'.algorithm.settings = e₂.algorithm.settings := hsettle.run h
  refine known_of_settle responds (fun fault hover => .inr ?_) h
  rw [hset, ← hp]
  exact hover

end

/-- **Faults of the configuration come first, with one exception.**  The population is one of the
problem, and the tolerances stretch to the constraints.

A call is rejected if the problem has not one objective or depends on chance, if the population is
empty, or if the selection or the replacement names an index outside it.  It then raises a fault of
the configuration, or the fault that the problem answers a question with that it is asked by then,
and it has done nothing but start a new account and draw from the generator: the coordinator, the
population, the messages and the state of solver and problem are as they were, and all that whatever
the surroundings are, so that no library has been asked for.

If a call is not rejected and the library loads, it raises a fault of the configuration only if the
problem answers a question with it; or if that very fault is raised outside in this call, by the
fitness, the library or the caller; or if the caller has set another replacement policy meanwhile,
which names an index outside the population. -/
theorem config_faults_come_first {e : Evolution ω} (belongs : e.population.Belongs problem)
    (tolerates : problem.Tolerates) :
    (Rejected problem e → ∃ fault g,
      (problem.Balks e.algorithm.settings.selection fault ∨ ∃ c, fault = .config c) ∧
      ∀ env, (evolve env problem).runOn e = (.error fault,
        { e with algorithm := { e.algorithm with account := .blank, generator := g } })) ∧
    ∀ (env : Surroundings ω) L loader, ¬ Rejected problem e →
      (Loading.load env.host.isFile env.registry e.algorithm.settings.library
        e.algorithm.settings.binder).runOn ⟨e.coordinator, e.messages, e.hidden⟩ =
          (.ok L, loader) →
      ∀ c e', (evolve env problem).runOn e = (.error (.config c), e') →
        e'.coordinator = e.coordinator ∧
          problem.Balks e.algorithm.settings.selection (.config c) ∨
        problem.Fails (.config c) ∨
        .config c ∈ raisedOutside env problem e ∨
        e'.algorithm.settings.replacement ≠ e.algorithm.settings.replacement ∧
          e'.algorithm.settings.replacement.Oversteps e.population.size (.config c) := by
  constructor
  · intro hrejected
    obtain ⟨fault, g, hrefuses, hprepare⟩ := prepare_refuses (e := e.restarted) belongs tolerates
      (rejected_restarted_iff.mpr hrejected)
    refine ⟨fault, g, hrefuses, fun env => ?_⟩
    have hreset : (modify fun e => { e with algorithm.account := .blank } :
        Action (Evolution ω) Unit).runOn e = (.ok (), e.restarted) := rfl
    rw [evolve, runOn_bind, hreset]
    dsimp only
    rw [runOn_bind, hprepare]
    rfl
  · intro env L loader passes loaded c e' h
    obtain ⟨faults, loadedHeard⟩ := runOn_load_heard env _ _
      ⟨e.coordinator, e.messages, .silent e.hidden⟩ loaded
    have hheard := runOn_evolve_heard env problem e
    rw [h] at hheard
    rcases known_of_evolve belongs tolerates passes loadedHeard hheard with hbalks | hknown
    · exact .inl hbalks
    rcases hknown rfl with houtside | hfails | hover
    · exact .inr (.inr (.inl houtside))
    · exact .inr (.inl hfails)
    · refine .inr (.inr (.inr ⟨fun hsame => ?_, hover⟩))
      -- The policy from the start has been checked.
      obtain ⟨n, hpolicy, hn, -⟩ := hover
      exact passes (.replacement (hsame ▸ hpolicy) hn)

/-- The evolution of the root with a replacement that names no member. -/
def beyondEvolution : Evolution Unit :=
  { rootEvolution with
    algorithm := { rootEvolution.algorithm with
      settings := { Settings.default with replacement := .index 3 } } }

/-- The root of a problem whose fitness raises a fault of the configuration. -/
def refusingProblem : Problem Unit :=
  { rootProblem with fitness := fun _ => throw (.config .stochastic) }

/-- An index beyond the population is refused at once, with a fault of the configuration.  A fault
of the configuration that comes later has been raised outside: it is that of the fitness. -/
theorem config_faults_come_first_root :
    (∃ c g, ∀ env, (evolve env rootProblem).runOn beyondEvolution = (.error (.config c),
      { beyondEvolution with
        algorithm := { beyondEvolution.algorithm with account := .blank, generator := g } })) ∧
    let env : Surroundings Unit := .ofLibrary (.endingAt [-1]) 1
    ((evolve env refusingProblem).runOn rootEvolution).1 = .error (.config .stochastic) ∧
      .config .stochastic ∈ raisedOutside env refusingProblem rootEvolution := by
  have hmembers : ∀ m ∈ rootEvolution.population.members, m.f.length = 2 := by
    intro m hm
    rw [List.mem_singleton.mp hm]
    rfl
  constructor
  · have belongs : beyondEvolution.population.Belongs rootProblem := by
      refine ⟨hmembers, ?_⟩
      rintro _ _ ⟨⟩ ⟨⟩
      rfl
    have tolerates : rootProblem.Tolerates := ⟨1, _, [0], rfl, rfl, by decide +kernel⟩
    obtain ⟨fault, g, hfault, hrun⟩ := (config_faults_come_first belongs tolerates).1
      (.replacement (n := 3) rfl (by decide))
    rcases hfault with hbalks | ⟨c, rfl⟩
    · rcases hbalks with h | ⟨-, -, h⟩ | ⟨-, h⟩ | ⟨-, -, h⟩ <;> cases h
    · exact ⟨c, g, hrun⟩
  · intro env
    have belongs : rootEvolution.population.Belongs refusingProblem := by
      refine ⟨hmembers, ?_⟩
      rintro _ _ ⟨⟩ ⟨⟩
      rfl
    have tolerates : refusingProblem.Tolerates := ⟨1, _, [0], rfl, rfl, by decide +kernel⟩
    have passes : ¬ Rejected refusingProblem rootEvolution := by
      rintro (⟨⟨⟩, hk⟩ | ⟨⟨⟩⟩ | h | ⟨⟨⟩, hn⟩ | ⟨⟨⟩, hn⟩)
      · exact hk rfl
      · exact absurd h (by decide)
    have hfault : ((evolve env refusingProblem).runOn rootEvolution).1 =
        .error (.config .stochastic) := by decide +kernel
    have hpolicy : ((evolve env refusingProblem).runOn
        rootEvolution).2.algorithm.settings.replacement = .strategy .best := by decide +kernel
    refine ⟨hfault, ?_⟩
    rcases hrun : (evolve env refusingProblem).runOn rootEvolution with ⟨r, e'⟩
    rw [hrun] at hfault hpolicy
    cases hfault
    rcases (config_faults_come_first belongs tolerates).2 env (Library.endingAt [-1]) _ passes
      rfl .stochastic e' hrun with ⟨-, hbalks⟩ | hfails | houtside | ⟨hother, -⟩
    · rcases hbalks with h | ⟨-, -, h⟩ | ⟨-, h⟩ | ⟨-, -, h⟩ <;> cases h
    · rcases hfails with h | h | h <;> cases h
    · exact houtside
    · exact absurd hpolicy hother

/-- A caller who sets a setting when it is told of an iteration. -/
def setting (key : String) (v : Value) : Algorithm.Listener ω := fun _ => do
  let settings ← (← get).hidden.settings.update key v
  modify fun s => { s with hidden.settings := settings }

/-- The evolution of the root with a caller who sets a replacement that names no member. -/
def steeredEvolution : Evolution Unit :=
  { rootEvolution with
    algorithm := { rootEvolution.algorithm with
      listener := some (setting "replacement" (.int 99)) } }

/-- Nothing of a call is rejected, the library is loaded, and the solver finds a better member; then
the policy that the caller has set is refused. -/
theorem refused_after_solve :
    let run := (evolve (.ofLibrary (.reporting [1]) 1) rootProblem).runOn steeredEvolution
    ¬ Rejected rootProblem steeredEvolution ∧
      run.1 = .error (.config (.indexOutOfRange 99 1)) ∧ run.2.coordinator.loads = 1 ∧
      run.2.algorithm.account.lastResult = some 1000 := by
  refine ⟨?_, by decide +kernel, by decide +kernel, by decide +kernel⟩
  rintro (⟨⟨⟩, hk⟩ | ⟨⟨⟩⟩ | h | ⟨⟨⟩, hn⟩ | ⟨⟨⟩, hn⟩)
  · exact hk rfl
  · exact absurd h (by decide)

end Evolution

end ReverseComm
