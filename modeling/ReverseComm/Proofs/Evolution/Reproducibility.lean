import ReverseComm.Proofs.Evolution.LastResult
import ReverseComm.Proofs.Evolution.Refusal

/-!
# Calls that are turned away

A call of `evolve` may raise a fault before it attempts to load a library.  Such a call has drawn
nothing from the generator, with one exception, and leaves everything as it was but for the account,
which every call starts anew.  So whatever calls come later, they go as they would have gone without
it (`reproducible_after_rejection`).

The exception is that the member to start from is selected before the index of the replacement is
looked at (`DrawsInVain`).  If the selection is random and there is something to draw from, a call
with an index out of range has drawn when it is turned away, and the calls after it draw something
else (`drawn_before_rejection`).
-/

namespace ReverseComm

open ReverseComm.Action

variable {ω : Type}

/-- Below two there is nothing to choose from, and nothing is drawn. -/
lemma Generator.below_of_lt_two {bound : ℕ} (h : bound < 2) (g : Generator) :
    (g.below bound).2 = g := by
  unfold below
  interval_cases bound
  · rfl
  · rfl

namespace Selection

variable (problem : Problem ω) {p : Population}

/-- Only the random policy draws. -/
lemma generator_of_resolve (policy : Policy) (g : Generator) :
    ((resolve problem p policy).runOn g).2 =
      if policy = .strategy .random then (g.below p.size).2 else g := by
  cases policy with
  | index n =>
    rw [runOn_resolve_index]
    rfl
  | strategy s =>
    cases s with
    | random => rfl
    | best | worst => rfl

lemma generator_of_select (policy : Policy) (g : Generator) :
    ((select problem p policy).runOn g).2 =
      if policy = .strategy .random then (g.below p.size).2 else g := by
  have hanswer : ∀ index : ℕ, (do
      let m ← p.member index
      return (index, Population.candidate m) : Action Generator (ℕ × Candidate)).Keeps
        (Same id) := fun index => (keeps_liftExcept _).bind fun m => keeps_pure _
  rw [← generator_of_resolve problem]
  have hend : id ((select problem p policy).runOn g).2 =
      id ((resolve problem p policy).runOn g).2 :=
    view_runOn_bind (resolve problem p policy) hanswer g
  exact hend

/-- A random member is there to be selected. -/
lemma exists_select_random (hsize : 0 < p.size) (g : Generator) :
    ∃ drawn, ((select problem p (.strategy .random)).runOn g).1 = .ok drawn := by
  obtain ⟨i, hi, hlt⟩ := Generator.exists_below_eq_ok hsize g
  have hmember : p.member i = .ok p.members[i] :=
    Population.member_eq_ok_iff.mpr (List.getElem?_eq_getElem hlt)
  have hresolve : (resolve problem p (.strategy .random)).runOn g = (.ok i, (g.below p.size).2) :=
    Prod.ext hi rfl
  rw [select, runOn_bind_of_ok hresolve, hmember]
  exact ⟨_, rfl⟩

end Selection

namespace Evolution

/-- A member has been drawn from several by the time that the index of the replacement is found to be
out of range. -/
structure DrawsInVain (problem : Problem ω) (e : Evolution ω) : Prop where
  passes : checkProblem problem e.population = .ok ()
  random : e.algorithm.settings.selection = .strategy .random
  several : 2 ≤ e.population.size
  outOfRange : ∃ n, e.algorithm.settings.replacement = .index n ∧ e.population.size ≤ n

variable {problem : Problem ω}

/-- The evolution once a member has been drawn. -/
def drawnOnce (e : Evolution ω) : Evolution ω :=
  { e with algorithm.generator := (e.algorithm.generator.below e.population.size).2 }

lemma outOfRange_of_checkIndex {p : Population} {policy : Policy} {fault : Fault}
    (h : Selection.checkIndex p policy = .error fault) :
    ∃ n, policy = .index n ∧ p.size ≤ n := by
  cases policy with
  | strategy s => cases h
  | index n =>
    refine ⟨n, rfl, not_lt.mp fun hn => ?_⟩
    rw [Selection.checkIndex, if_neg (not_le.mpr hn)] at h
    cases h

/-- Selecting a member and checking the index of the replacement leave everything as it was, unless a
member has been drawn in vain. -/
lemma prepare_eq_error_cases {e e' : Evolution ω} {fault : Fault}
    (h : (prepare problem).runOn e = (.error fault, e')) :
    ¬ DrawsInVain problem e ∧ e' = e ∨ DrawsInVain problem e ∧ e' = e.drawnOnce := by
  simp only [prepare, drawing, runOn_bind_eq_error_iff, runOn_get, runOn_zoom_eq_iff,
    runOn_liftExcept, Prod.mk.injEq] at h
  rcases h with ⟨h, -⟩ | ⟨_, _, ⟨⟨⟩, rfl⟩, ⟨h, rfl⟩ | ⟨_, _, ⟨hcheck, rfl⟩, h⟩⟩
  · cases h
  · refine .inl ⟨fun hvain => ?_, rfl⟩
    cases h.symm.trans hvain.passes
  · obtain ⟨-, -, hsize⟩ := checkProblem_eq_ok hcheck
    have hdrawn : ∀ {r g}, (Selection.select problem e.population
        e.algorithm.settings.selection).runOn e.algorithm.generator = (r, g) →
        g = if e.algorithm.settings.selection = .strategy .random then
          (e.algorithm.generator.below e.population.size).2 else e.algorithm.generator := by
      intro r g hselect
      rw [← Selection.generator_of_select problem, hselect]
    rcases h with ⟨g, h, rfl⟩ | ⟨selected, _, ⟨g, h, rfl⟩, ⟨hindex, rfl⟩ | ⟨_, _, -, h⟩⟩
    · -- Selecting is refused, so nothing has been drawn at random.
      have hpolicy : e.algorithm.settings.selection ≠ .strategy .random := by
        intro hrandom
        obtain ⟨drawn, hok⟩ := Selection.exists_select_random problem
          (Nat.pos_of_ne_zero hsize) e.algorithm.generator
        rw [hrandom] at h
        rw [h] at hok
        cases hok
      have hsame := hdrawn h
      rw [if_neg hpolicy] at hsame
      subst hsame
      exact .inl ⟨fun hvain => hpolicy hvain.random, rfl⟩
    · have hdraw := hdrawn h
      by_cases hpolicy : e.algorithm.settings.selection = .strategy .random
      · rw [if_pos hpolicy] at hdraw
        subst hdraw
        by_cases hseveral : 2 ≤ e.population.size
        · exact .inr ⟨⟨hcheck, hpolicy, hseveral, outOfRange_of_checkIndex hindex⟩, rfl⟩
        · rw [Generator.below_of_lt_two (not_le.mp hseveral)]
          exact .inl ⟨fun hvain => hseveral hvain.several, rfl⟩
      · rw [if_neg hpolicy] at hdraw
        subst hdraw
        exact .inl ⟨fun hvain => hpolicy hvain.random, rfl⟩
    · cases h

/-! ## Before a load is attempted -/

/-- From the selected member on, a load is attempted once. -/
lemma loads_arrive (env : Surroundings ω) (problem : Problem ω) (seed : Candidate)
    (e : Evolution ω) :
    ((arrive env problem seed).runOn e).2.coordinator.loads = e.coordinator.loads + 1 := by
  have hsolve : ∀ (a : Algorithm ω) (L : Library ω) (bounds : Bounds),
      (solve env a problem L bounds seed).Keeps (Same fun e => e.coordinator.loads) := by
    intro a L bounds
    refine Keeps.ensuring (keeps_zoom_same _ ?_) (keeps_zoom_same _ ?_)
    · exact fun _ _ => rfl
    · exact fun _ _ => rfl
  have hrest : ∀ L, (do
      let bounds ← problem.bounds
      solve env e.algorithm problem L bounds seed : Action (Evolution ω) Outcome).Keeps
        (Same fun e => e.coordinator.loads) :=
    fun L => (keeps_liftExcept _).bind fun bounds => hsolve _ L bounds
  rw [arrive, runOn_bind_of_ok (runOn_get e)]
  refine (view_runOn_bind _ hrest e).trans ?_
  rw [loading, runOn_zoom]
  exact congrArg Loading.Coordinator.loads (Loading.coordinator_load env.registry)

/-- A call that ends without a load having been attempted ends before a member is selected, or right
after. -/
lemma prepare_of_unloaded {env : Surroundings ω} {e e' : Evolution ω} {fault : Fault}
    (h : (evolve env problem).runOn e = (.error fault, e'))
    (unloaded : e'.coordinator.loads = e.coordinator.loads) :
    (prepare problem).runOn e.restarted = (.error fault, e') := by
  have hrun : (prepare problem >>= fun drawn => do
      let outcome ← arrive env problem drawn.2
      settle problem drawn.1 drawn.2 outcome).runOn e.restarted = (.error fault, e') := h
  rcases runOn_bind_eq_error_iff.mp hrun with hprepare | ⟨drawn, e₁, hprepare, harrive⟩
  · exact hprepare
  · have hprepared : (prepare problem).Keeps (Same fun e : Evolution ω => e.coordinator.loads) :=
      keeps_prepare (fun _ _ => rfl) problem
    have hkept : e₁.coordinator.loads = e.restarted.coordinator.loads := hprepared.run hprepare
    have hsame : e₁.coordinator.loads = e.coordinator.loads := hkept
    have hsettle : ∀ o, (settle problem drawn.1 drawn.2 o).Keeps
        (Same fun e : Evolution ω => e.coordinator.loads) :=
      keeps_settle (fun _ _ _ _ => rfl) problem drawn.1 drawn.2
    have hloads := view_runOn_bind (arrive env problem drawn.2) hsettle e₁
    rw [harrive, loads_arrive, hsame, unloaded] at hloads
    omega

/-! ## The calls after it -/

/-- What some calls on an algorithm come to, one after the other. -/
def outcomes (a : Algorithm ω) : List (Occasion ω) → List (Except Fault Unit × Evolution ω)
  | [] => []
  | o :: later => o.call a :: outcomes (o.call a).2.algorithm later

/-- The account from before does not show in them. -/
lemma outcomes_restarted (e : Evolution ω) (later : List (Occasion ω)) :
    outcomes e.restarted.algorithm later = outcomes e.algorithm later := by
  cases later with
  | nil => rfl
  | cons o later => rfl

/-- **Reproducibility.**  A call that raises a fault before it attempts to load a library leaves
everything but the account as it was, in particular the generator, unless a member has been drawn in
vain; then it has drawn once.  If not, whatever calls are made on the algorithm later come to the
same as without it. -/
theorem reproducible_after_rejection {env : Surroundings ω} {e e' : Evolution ω} {fault : Fault}
    (h : (evolve env problem).runOn e = (.error fault, e'))
    (unloaded : e'.coordinator.loads = e.coordinator.loads) :
    (¬ DrawsInVain problem e → e' = e.restarted ∧
      ∀ later, outcomes e'.algorithm later = outcomes e.algorithm later) ∧
    (DrawsInVain problem e → e' = e.restarted.drawnOnce) := by
  have hvain : DrawsInVain problem e.restarted ↔ DrawsInVain problem e :=
    ⟨fun hv => ⟨hv.passes, hv.random, hv.several, hv.outOfRange⟩,
      fun hv => ⟨hv.passes, hv.random, hv.several, hv.outOfRange⟩⟩
  rcases prepare_eq_error_cases (prepare_of_unloaded h unloaded) with ⟨hnot, rfl⟩ | ⟨hv, rfl⟩
  · rw [hvain] at hnot
    exact ⟨fun _ => ⟨rfl, outcomes_restarted e⟩, fun hv => absurd hv hnot⟩
  · rw [hvain] at hv
    exact ⟨fun hnot => absurd hv hnot, fun _ => rfl⟩

/-- Two members, the second one of which is to the left of zero and the better one, and a generator
that would draw the second one first and the first one after it. -/
def pairEvolution (selection replacement : Policy) : Evolution Unit where
  algorithm :=
    ⟨{ Settings.default with selection, replacement }, ⟨0, 1, some 4294967295⟩, none, .blank⟩
  population := ⟨1, 1, [⟨[4], [2]⟩, ⟨[-1], [1]⟩], 0⟩
  coordinator := .fresh
  messages := []
  hidden := ()

/-- A call that goes from a random member to the left, and would replace the first one. -/
def randomOccasion : Occasion Unit :=
  ⟨.ofLibrary (.endingAt [-2]) 1, leftProblem, pairEvolution (.strategy .random) (.index 0)⟩

/-- A call is turned away for the index of its selection, and the next call goes as it would have gone
at once. -/
theorem reproducible_after_selection :
    ∃ fault e', (evolve (.ofLibrary (.endingAt [-2]) 1) leftProblem).runOn
        (pairEvolution (.index 5) (.index 0)) = (.error fault, e') ∧
      e'.coordinator.loads = 0 ∧
      outcomes e'.algorithm [randomOccasion] =
        outcomes (pairEvolution (.index 5) (.index 0)).algorithm [randomOccasion] := by
  have hnot : ¬ DrawsInVain leftProblem (pairEvolution (.index 5) (.index 0)) := by
    intro hvain
    cases hvain.random
  rcases hrun : (evolve (.ofLibrary (.endingAt [-2]) 1) leftProblem).runOn
    (pairEvolution (.index 5) (.index 0)) with ⟨fault | _, e'⟩
  · have hunloaded : e'.coordinator.loads = 0 := by
      rw [← congrArg (fun r => r.2.coordinator.loads) hrun]
      decide +kernel
    obtain ⟨hfree, -⟩ := reproducible_after_rejection hrun hunloaded
    exact ⟨fault, e', rfl, hunloaded, (hfree hnot).2 [randomOccasion]⟩
  · have hfault : ((evolve (.ofLibrary (.endingAt [-2]) 1) leftProblem).runOn
        (pairEvolution (.index 5) (.index 0))).1.isOk = false := by decide +kernel
    rw [hrun] at hfault
    cases hfault

/-- A call is turned away for the index of its replacement, with a random selection.  The generator
has moved, and the next call selects another member than it would have selected at once. -/
theorem drawn_before_rejection :
    let e := pairEvolution (.strategy .random) (.index 5)
    let rejected := (evolve (.ofLibrary (.endingAt [-2]) 1) leftProblem).runOn e
    rejected.1 = .error (.config (.indexOutOfRange 5 2)) ∧
      rejected.2.coordinator.loads = e.coordinator.loads ∧
      rejected.2.algorithm.generator ≠ e.algorithm.generator ∧
      (randomOccasion.call rejected.2.algorithm).2.population.decisions = [[-2], [-1]] ∧
      (randomOccasion.call e.algorithm).2.population.decisions = [[4], [-1]] := by
  decide +kernel

end Evolution

end ReverseComm
