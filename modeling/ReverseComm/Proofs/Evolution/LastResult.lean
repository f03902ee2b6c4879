import ReverseComm.Proofs.Evolution.EvaluationLog
import ReverseComm.Proofs.Loop.Protocol

/-!
# The result of the latest call

An algorithm keeps the status that its latest solve ended with.  The account is blank at the start
of a call, and the status goes in at one place, between the loop and everything that comes after it.
Nothing else reaches it: operations and loops act on the session, the caller who is told of
iterations on everything but the account, and loading, closing and replacing on neither.  So after a
call there is a status exactly if the loop of that call ran to its end (`LoopEnds`), whatever came
before or after, and a status of an earlier call never stays (`last_result_of_latest_call`).
-/

namespace ReverseComm

open ReverseComm.Action

variable {ω : Type}

namespace Loop

/-- A loop that answers has been left between two rounds, with a status that is not between the
thresholds. -/
lemma terminated_of_run {L : Library ω} {service : Service ω} {budget : ℕ} {r r' : Running ω}
    {status : ℤ} (h : (run L service budget).runOn r = (.ok status, r')) :
    L.successThreshold ≤ status ∨ status ≤ L.errorThreshold := by
  obtain ⟨_, v, -, hdrive⟩ := runOn_bind_eq_ok_iff.mp h
  obtain ⟨_, _, -, hdrive⟩ := runOn_bind_eq_ok_iff.mp hdrive
  obtain ⟨_, u, hrounds, hstatus⟩ := runOn_bind_eq_ok_iff.mp hdrive
  obtain ⟨complete, last, w, -, hlast, hend⟩ := rounds_path hrounds
  cases hstatus
  cases hend with
  | terminated hw =>
    cases hlast
    unfold Iterating at hw
    omega

end Loop

/-! ## What leaves the result alone -/

/-- The result in the account next to a session. -/
def Session.lastResult (s : Session (Accounted ω)) : Option ℤ := s.hidden.account.lastResult

namespace Session

lemma Own.lastResult {s s' : Session (Accounted ω)} (h : Own s s') :
    Same Session.lastResult s s' := by
  rw [Same, Session.lastResult, h.hidden, Session.lastResult]

lemma keeps_call_lastResult (L : Library ω) (c : Call) :
    (call (Accounted.library L) c).Keeps (Same lastResult) := by
  have hcall : ((Accounted.library L).call c).Keeps (Same fun n => n.hidden.account) := by
    rw [Library.call]
    split
    · exact keeps_zoom_same _ fun _ _ => rfl
    · exact keeps_throw _
  exact hcall.zoom fun s n h => congrArg Account.lastResult h

lemma keeps_fitness_lastResult (problem : Problem ω) (x : List Float) :
    (aside (Accounted.aside (problem.fitness x))).Keeps (Same lastResult) := by
  have haccount : (Accounted.aside (problem.fitness x)).Keeps (Same Accounted.account) :=
    keeps_zoom_same _ fun _ _ => rfl
  exact haccount.zoom fun s w h => congrArg Account.lastResult h

end Session

namespace Evolution

/-! ## A solve -/

/-- Up to the end of its loop a solve leaves the result alone. -/
lemma framed_lastResult (a : Algorithm ω) (problem : Problem ω) (L : Library ω) :
    Framed a problem L (Same Session.lastResult) where
  own _ _ h := h.lastResult
  call := Session.keeps_call_lastResult L
  service :=
    { fitness := fun x => Account.keeps_evaluate (fun _ _ => rfl) (fun _ _ _ => rfl) problem
        (Session.keeps_fitness_lastResult problem x)
      report := by
        intro b hb
        obtain ⟨listener, -, rfl⟩ := Option.map_eq_some_iff.mp hb
        exact keeps_zoom_same _ fun _ _ => rfl }

section

variable (env : Surroundings ω) (a : Algorithm ω) (problem : Problem ω) (L : Library ω)
  (bounds : Bounds) (seed : Candidate)

/-- After the course of a solve there is the status that its loop has answered, or what there was
before. -/
lemma lastResult_course (r : Running (Accounted ω)) :
    ((course env a problem L bounds seed).runOn r).2.session.lastResult =
      match ((approach env a problem L bounds seed).runOn r).1 with
      | .ok status => some status
      | .error _ => r.session.lastResult := by
  have hread : (Session.readCandidate fun x => Accounted.aside (problem.fitness x)).Keeps
      (Same Session.lastResult) := by
    refine Session.keeps_readDecision.bind fun x => ?_
    exact (Session.keeps_fitness_lastResult problem x).bind fun f => keeps_pure _
  have hend : (do
      let candidate ← Loop.onSession
        (Session.readCandidate fun x => Accounted.aside (problem.fitness x))
      let r ← get
      return { candidate, termination := r.session.termination (Accounted.library L),
               rounds := r.memo.rounds } : Action (Running (Accounted ω)) Outcome).Keeps
        (Same fun r => r.session.lastResult) :=
    (Loop.keeps_onSession hread).bind fun candidate => keeps_get.bind fun r => keeps_pure _
  rw [course, runOn_bind]
  rcases happroach : (approach env a problem L bounds seed).runOn r with ⟨fault | status, v⟩
  · exact ((framed_lastResult a problem L).approach env bounds seed).run happroach
  · exact hend { v with session.hidden.account.lastResult := some status }

end

/-- The result in the account of the algorithm. -/
def lastResult (e : Evolution ω) : Option ℤ := e.algorithm.account.lastResult

/-- Neither leaving the session nor closing the library changes it. -/
lemma lastResult_solve (env : Surroundings ω) (problem : Problem ω) (L : Library ω)
    (bounds : Bounds) (seed : Candidate) (a : Algorithm ω) (e : Evolution ω) :
    ((solve env a problem L bounds seed).runOn e).2.lastResult =
      match ((approach env a problem L bounds seed).runOn
        (outset e.algorithm e.messages e.hidden)).1 with
      | .ok status => some status
      | .error _ => e.lastResult := by
  have hclose : (aside (do let _ ← L.close) : Action (Evolution ω) Unit).Keeps
      (Same lastResult) := keeps_zoom_same _ fun _ _ => rfl
  have hleave := (framed_lastResult a problem L).leave
  have hend : ((solve env a problem L bounds seed).runOn e).2.lastResult =
      ((course env a problem L bounds seed).runOn
        (outset e.algorithm e.messages e.hidden)).2.session.lastResult := by
    rw [solve, runOn_ensuring_snd, solving, runOn_zoom, runOn_ensuring_snd]
    exact (hclose _).trans (hleave _)
  exact hend.trans (lastResult_course env a problem L bounds seed _)

/-! ## A call -/

/-- A solve from a seed has a loop that runs to its end with a status: the library loads, the problem
names its bounds, the session is opened, and the loop answers the status. -/
def LoopEndsFrom (env : Surroundings ω) (problem : Problem ω) (e : Evolution ω) (seed : Candidate)
    (L : Library ω) (status : ℤ) : Prop :=
  ∃ loader bounds r r',
    (Loading.load env.host.isFile env.registry e.algorithm.settings.library
      e.algorithm.settings.binder).runOn ⟨e.coordinator, e.messages, e.hidden⟩ = (.ok L, loader) ∧
    problem.bounds = .ok bounds ∧
    (opening env e.algorithm problem L bounds seed).runOn
      (outset e.algorithm loader.messages loader.hidden) = (.ok (), r) ∧
    (Loop.run (Accounted.library L) (service e.algorithm problem L) env.budget).runOn r =
      (.ok status, r')

/-- The loop of a call runs to its end with a status.  What the account held before does not
matter. -/
def LoopEnds (env : Surroundings ω) (problem : Problem ω) (e : Evolution ω) (L : Library ω)
    (status : ℤ) : Prop :=
  ∃ selected seed e₁,
    (prepare problem).runOn { e with algorithm.account := .blank } = (.ok (selected, seed), e₁) ∧
    LoopEndsFrom env problem e₁ seed L status

lemma lastResult_arrive (env : Surroundings ω) (problem : Problem ω) {e : Evolution ω}
    (seed : Candidate) (blank : e.lastResult = none) (status : ℤ) :
    ((arrive env problem seed).runOn e).2.lastResult = some status ↔
      ∃ L, LoopEndsFrom env problem e seed L status := by
  unfold LoopEndsFrom
  rcases hload : (Loading.load env.host.isFile env.registry e.algorithm.settings.library
    e.algorithm.settings.binder).runOn ⟨e.coordinator, e.messages, e.hidden⟩ with ⟨fault | L, loader⟩
  · have hnone : ((arrive env problem seed).runOn e).2.lastResult = none := by
      simp only [arrive, runOn_bind, runOn_get, loading, runOn_zoom, hload]
      exact blank
    rw [hnone]
    simp
  · cases hbounds : problem.bounds with
    | error fault =>
      have hnone : ((arrive env problem seed).runOn e).2.lastResult = none := by
        simp only [arrive, runOn_bind, runOn_get, loading, runOn_zoom, hload, runOn_liftExcept,
          hbounds]
        exact blank
      rw [hnone]
      simp
    | ok bounds =>
      have hsolve : ((arrive env problem seed).runOn e).2.lastResult =
          ((solve env e.algorithm problem L bounds seed).runOn
            { e with coordinator := loader.coordinator, messages := loader.messages,
                     hidden := loader.hidden }).2.lastResult := by
        simp only [arrive, runOn_bind, runOn_get, loading, runOn_zoom, hload, runOn_liftExcept,
          hbounds]
      rw [hsolve, lastResult_solve, approach_eq_opening]
      constructor
      · intro h
        split at h
        · rename_i status' hanswer
          cases h
          obtain ⟨_, r, hopen, hrun⟩ := runOn_bind_eq_ok_iff.mp (Prod.ext hanswer rfl)
          exact ⟨L, loader, bounds, r, _, rfl, rfl, hopen, hrun⟩
        · exact absurd (blank.symm.trans h) (by simp)
      · rintro ⟨L', loader', bounds', r, r', hL, hb, hopen, hrun⟩
        cases hL
        cases hb
        rw [runOn_bind_of_ok hopen, hrun]

/-- After a call there is a status in the account exactly if the loop of that call ended with it. -/
lemma lastResult_evolve (env : Surroundings ω) (problem : Problem ω) (e : Evolution ω)
    (status : ℤ) : ((evolve env problem).runOn e).2.lastResult = some status ↔
      ∃ L, LoopEnds env problem e L status := by
  have hevolve : (evolve env problem).runOn e =
      (prepare problem >>= fun drawn => do
        let outcome ← arrive env problem drawn.2
        settle problem drawn.1 drawn.2 outcome).runOn { e with algorithm.account := .blank } := rfl
  have hprepared : (prepare problem).Keeps (Same (lastResult (ω := ω))) :=
    keeps_prepare (fun _ _ => rfl) problem
  unfold LoopEnds
  rw [hevolve, runOn_bind]
  rcases hprepare : (prepare problem).runOn { e with algorithm.account := .blank } with
    ⟨fault | ⟨selected, seed⟩, e₁⟩
  · have hnone : e₁.lastResult = none := hprepared.run hprepare
    simp [hnone]
  · have hblank : e₁.lastResult = none := hprepared.run hprepare
    have hsettle : ∀ o, (settle problem selected seed o).Keeps (Same (lastResult (ω := ω))) :=
      keeps_settle (fun _ _ _ _ => rfl) problem selected seed
    dsimp only
    rw [view_runOn_bind _ hsettle, lastResult_arrive env problem seed hblank]
    constructor
    · rintro ⟨L, hends⟩
      exact ⟨L, selected, seed, e₁, rfl, hends⟩
    · rintro ⟨L, _, _, _, heq, hends⟩
      cases heq
      exact ⟨L, hends⟩

/-- The status that a loop ends with is not one of a solver that is still iterating. -/
lemma LoopEnds.terminated {env : Surroundings ω} {problem : Problem ω} {e : Evolution ω}
    {L : Library ω} {status : ℤ} (h : LoopEnds env problem e L status) :
    L.successThreshold ≤ status ∨ status ≤ L.errorThreshold := by
  obtain ⟨_, _, _, -, _, _, _, _, -, -, -, hrun⟩ := h
  have hstatus : (Accounted.library L).successThreshold ≤ status ∨
      status ≤ (Accounted.library L).errorThreshold := Loop.terminated_of_run hrun
  exact hstatus

/-- A call that returns has been through its loop. -/
lemma loopEnds_of_evolve {env : Surroundings ω} {problem : Problem ω} {e e' : Evolution ω}
    (h : (evolve env problem).runOn e = (.ok (), e')) :
    ∃ L status, LoopEnds env problem e L status := by
  obtain ⟨i, seed, e₁, o, e₂, hprepare, harrive, -⟩ := evolve_eq_ok h
  obtain ⟨x, f, ⟨L, loader, bounds, status, r, w, hload, hbounds, happroach, -, -⟩, -⟩ :=
    arrive_eq_ok harrive
  rw [approach_eq_opening] at happroach
  obtain ⟨_, r, hopen, hrun⟩ := runOn_bind_eq_ok_iff.mp happroach
  exact ⟨L, status, i, seed, e₁, hprepare, loader, bounds, r, _, hload, hbounds, hopen, hrun⟩

/-! ## Many calls on one algorithm -/

/-- A call of `evolve` as its caller arranges it. -/
structure Occasion (ω : Type) where
  env : Surroundings ω
  problem : Problem ω
  arranged : Evolution ω

/-- What the call starts from if it is made on an algorithm that has seen calls before: the generator
and the account are those that the algorithm has by then. -/
def Occasion.evolution (o : Occasion ω) (a : Algorithm ω) : Evolution ω :=
  { o.arranged with
    algorithm :=
      { o.arranged.algorithm with generator := a.generator, account := a.account } }

/-- The call, made on an algorithm. -/
def Occasion.call (o : Occasion ω) (a : Algorithm ω) : Except Fault Unit × Evolution ω :=
  (evolve o.env o.problem).runOn (o.evolution a)

/-- The algorithm after some calls, each of which may have raised a fault. -/
def career (a : Algorithm ω) (occasions : List (Occasion ω)) : Algorithm ω :=
  occasions.foldl (fun a o => (o.call a).2.algorithm) a

/-- **The result of the latest call.**  An algorithm has been through calls of `evolve`, each of which
returned or raised a fault, and there is one more.  After that the algorithm has no status if the
loop of that very call did not run to its end; else it has the one that the loop ended with, which is
beyond one of the thresholds of the library.  If the call returns, there is one. -/
theorem last_result_of_latest_call (a : Algorithm ω) (occasions : List (Occasion ω))
    (o : Occasion ω) :
    let before := career a occasions
    let after := career a (occasions ++ [o])
    (after.account.lastResult = none ↔
      ¬ ∃ L status, LoopEnds o.env o.problem (o.evolution before) L status) ∧
    (∀ status, after.account.lastResult = some status ↔
      ∃ L, LoopEnds o.env o.problem (o.evolution before) L status) ∧
    (∀ L status, LoopEnds o.env o.problem (o.evolution before) L status →
      L.successThreshold ≤ status ∨ status ≤ L.errorThreshold) ∧
    ((o.call before).1 = .ok () → ∃ status, after.account.lastResult = some status) := by
  intro before after
  have hafter : after = (o.call before).2.algorithm := by
    simp only [after, before, career, List.foldl_append, List.foldl_cons, List.foldl_nil]
  have hresult : ∀ status, after.account.lastResult = some status ↔
      ∃ L, LoopEnds o.env o.problem (o.evolution before) L status := by
    rw [hafter]
    exact lastResult_evolve o.env o.problem (o.evolution before)
  refine ⟨?_, hresult, fun L status h => h.terminated, fun hok => ?_⟩
  · rw [Option.eq_none_iff_forall_ne_some, exists_comm, not_exists]
    exact forall_congr' fun status => not_congr (hresult status)
  · obtain ⟨L, status, hends⟩ := loopEnds_of_evolve (Prod.ext hok rfl)
    exact ⟨status, (hresult status).mpr ⟨L, hends⟩⟩

/-- A solver that goes to a decision vector in its only step, and whose library fails to close. -/
def clinging (x : List Float) : Library Unit :=
  { Library.endingAt x with release := throw (.run (.external "busy")) }

/-- A call with that solver. -/
def clingingOccasion : Occasion Unit :=
  ⟨.ofLibrary (clinging [-1]) 1, rootProblem, rootEvolution⟩

/-- A call on an empty population. -/
def emptyOccasion : Occasion Unit :=
  ⟨.ofLibrary (.endingAt [-1]) 1, rootProblem, { rootEvolution with population := ⟨1, 2, [], 0⟩ }⟩

/-- Two calls in turn raise faults.  The first one does so after its loop, and leaves the status of
that loop.  The second one has none. -/
theorem last_result_of_two_failed_calls :
    let a := rootEvolution.algorithm
    ((clingingOccasion.call (career a [])).1.isOk = false ∧
      (career a [clingingOccasion]).account.lastResult = some 1000 ∧
      ∃ L, LoopEnds clingingOccasion.env clingingOccasion.problem
        (clingingOccasion.evolution (career a [])) L 1000) ∧
    (career a [clingingOccasion, emptyOccasion]).account.lastResult = none ∧
      ¬ ∃ L status, LoopEnds emptyOccasion.env emptyOccasion.problem
        (emptyOccasion.evolution (career a [clingingOccasion])) L status := by
  intro a
  have hfirst : (career a [clingingOccasion]).account.lastResult = some 1000 := by decide +kernel
  have hsecond : (career a [clingingOccasion, emptyOccasion]).account.lastResult = none := by
    decide +kernel
  have hfault : (clingingOccasion.call (career a [])).1.isOk = false := by decide +kernel
  have hstatus := (last_result_of_latest_call a [] clingingOccasion).2.1 1000
  have hnone := (last_result_of_latest_call a [clingingOccasion] emptyOccasion).1
  rw [List.nil_append] at hstatus
  rw [List.cons_append, List.nil_append] at hnone
  exact ⟨⟨hfault, hfirst, hstatus.mp hfirst⟩, hsecond, hnone.mp hsecond⟩

end Evolution

end ReverseComm
