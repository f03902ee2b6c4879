import ReverseComm.Proofs.Loop.Correspondence
import ReverseComm.Proofs.Loop.Protocol

/-!
# What remembering a fitness changes

The loop remembers the fitness that it evaluated last and uses it again while the decision vector
stays equal.  Does that show?  The loop is compared with one that evaluates every time
(`evaluateAfresh`), for a fitness `φ` that is a function of the decision vector and for runs of one
driver after each other (`runs`), where each run starts with what the one before it has remembered.

## The invariant

What is remembered has to be the fitness of the decision vector that it is remembered with
(`Memo.Coherent`).  A failed evaluation breaks that: it leaves a new decision vector next to
an old fitness.  Nothing is evaluated after it in the same run, and the next run forgets both, which
is why the two loops are only `Parted` after a fault, and `Alongside` each other otherwise.

## What equal means

Decision vectors are compared as numbers.  NaN is not equal to itself, which costs an evaluation and
changes nothing.  Zeros of both signs are equal, and a fitness may tell them apart: the second zero is
then given the fitness of the first one (`remembering_shows_at_zero`).  So the main result
(`remembering_does_not_show`) says two things: what is written is always the fitness of a decision
vector that the loop does not tell apart from the one in the buffer (`Memo.Near`); and if the fitness
does not tell such vectors apart either (`Numerical`), the two loops come to the same in every
respect.
-/

namespace ReverseComm

open ReverseComm.Action

variable {ω : Type}

/-- A service whose fitness is a function of the decision vector. -/
def Service.ofFunction (φ : List Float → Except Fault Tensor)
    (report : Option (Action (Session ω) Unit)) : Service ω := ⟨fun x => liftM (φ x), report⟩

/-- Two decision vectors that the loop does not tell apart: they are identical, or equal as
numbers. -/
def Memo.Near (x y : List Float) : Prop := x = y ∨ sameNumbers x y = true

/-- What is remembered is the fitness of the decision vector that it is remembered with. -/
def Memo.Coherent (φ : List Float → Except Fault Tensor) (m : Memo) : Prop :=
  ∀ y f, m.point = some y → m.fitness = some f → φ y = .ok f

section

variable {φ : List Float → Except Fault Tensor} {x : List Float} {f : Tensor}

lemma Memo.coherent_blank (φ : List Float → Except Fault Tensor) : Memo.blank.Coherent φ := by
  intro y f hy
  cases hy

lemma Memo.coherent_of_eq_ok (h : φ x = .ok f) (n : Nat) :
    Memo.Coherent φ ⟨some x, some f, n⟩ := by
  intro y g hy hg
  cases hy
  cases hg
  exact h

/-- What is remembered of a decision vector is the fitness of one that is equal as numbers. -/
lemma Memo.Coherent.of_find? {m : Memo} (hm : m.Coherent φ) (h : m.find? x = some f) :
    ∃ y, sameNumbers x y = true ∧ φ y = .ok f := by
  obtain ⟨y, hy, hf, hxy⟩ := find?_eq_some_iff.mp h
  exact ⟨y, hxy, hm y f hy hf⟩

end

namespace Loop

/-- Evaluate the fitness of the solver's decision vector, remembering nothing. -/
def evaluateAfresh (φ : List Float → Except Fault Tensor) : Action (Running ω) Tensor := do
  let x ← onSession Session.readDecision
  onSession (liftM (φ x))

variable {φ : List Float → Except Fault Tensor} {report : Option (Action (Session ω) Unit)}
  {r r' p : Running ω}

/-! ## The two evaluations -/

lemma runOn_evaluateAfresh :
    (evaluateAfresh φ).runOn r =
      match r.session.buffer .decision with
      | .error fault => (.error fault, r)
      | .ok x => (φ x, r) := by
  rw [evaluateAfresh, runOn_bind]
  cases h : r.session.buffer .decision with
  | error fault => simp [onSession, Session.readDecision, runOn_bind, h]
  | ok x => simp [onSession, Session.readDecision, runOn_bind, h]

lemma runOn_evaluate_ofFunction :
    (evaluate (.ofFunction φ report)).runOn r =
      match r.session.buffer .decision with
      | .error fault => (.error fault, r)
      | .ok x =>
        match r.memo.find? x with
        | some f => (.ok f, r)
        | none =>
          match φ x with
          | .error fault => (.error fault, { r with memo.point := some x })
          | .ok f => (.ok f, { r with memo := ⟨some x, some f, r.memo.rounds⟩ }) := by
  rw [runOn_evaluate]
  have hfitness : ∀ x, ((Service.ofFunction φ report).fitness x).runOn r.session =
      (φ x, r.session) := fun _ => rfl
  simp only [hfitness]
  cases r.session.buffer .decision with
  | error fault => rfl
  | ok x =>
    dsimp only
    cases r.memo.find? x with
    | some f => rfl
    | none =>
      cases φ x with
      | error fault => rfl
      | ok f => rfl

/-- What is remembered answers for a decision vector near the one in the buffer. -/
lemma evaluate_eq_ok {f : Tensor} (hm : r.memo.Coherent φ)
    (h : (evaluate (.ofFunction φ report)).runOn r = (.ok f, r')) :
    r'.session = r.session ∧ r'.memo.Coherent φ ∧
      ∃ x y, r.session.buffer .decision = .ok x ∧ Memo.Near x y ∧ φ y = .ok f := by
  rw [runOn_evaluate_ofFunction] at h
  cases hx : r.session.buffer .decision with
  | error fault =>
    rw [hx] at h
    cases h
  | ok x =>
    rw [hx] at h
    dsimp only at h
    cases hfind : r.memo.find? x with
    | some g =>
      rw [hfind] at h
      cases h
      obtain ⟨y, hxy, hy⟩ := hm.of_find? hfind
      exact ⟨rfl, hm, x, y, rfl, .inr hxy, hy⟩
    | none =>
      rw [hfind] at h
      dsimp only at h
      cases hφ : φ x with
      | error fault =>
        rw [hφ] at h
        cases h
      | ok g =>
        rw [hφ] at h
        cases h
        exact ⟨rfl, Memo.coherent_of_eq_ok hφ _, x, x, rfl, .inl rfl, hφ⟩

/-- The two states of a loop that remembers and of one that does not. -/
structure Alongside (φ : List Float → Except Fault Tensor) (r p : Running ω) : Prop where
  session : r.session = p.session
  rounds : r.memo.rounds = p.memo.rounds
  coherent : r.memo.Coherent φ

/-- Two states that differ in what is remembered of evaluations only. -/
structure Parted (r p : Running ω) : Prop where
  session : r.session = p.session
  rounds : r.memo.rounds = p.memo.rounds

lemma Alongside.parted (h : Alongside φ r p) : Parted r p := ⟨h.session, h.rounds⟩

/-- A function of decision vectors that answers the same for vectors that are equal as numbers. -/
def Numerical (φ : List Float → Except Fault Tensor) : Prop :=
  ∀ x y, Memo.sameNumbers x y = true → φ x = φ y

/-- Remembering does not show in what is answered.  A failed evaluation leaves a decision vector
next to the fitness of another one; nothing is evaluated after it in the same run. -/
lemma evaluate_matches (hφ : Numerical φ) :
    (evaluate (.ofFunction φ report)).Matches (Alongside φ) Parted (evaluateAfresh φ) := by
  intro r p h
  rw [runOn_evaluate_ofFunction, runOn_evaluateAfresh, ← h.session]
  cases hx : r.session.buffer .decision with
  | error fault => exact .error fault h.parted
  | ok x =>
    dsimp only
    cases hfind : r.memo.find? x with
    | some f =>
      obtain ⟨y, hxy, hy⟩ := h.coherent.of_find? hfind
      have hvalue : φ x = .ok f := (hφ x y hxy).trans hy
      rw [hvalue]
      exact .ok f h
    | none =>
      dsimp only
      cases hvalue : φ x with
      | error fault => exact .error fault ⟨h.session, h.rounds⟩
      | ok f => exact .ok f ⟨h.session, h.rounds, Memo.coherent_of_eq_ok hvalue _⟩

/-! ## The two loops -/

lemma onSession_matches {α : Type} (a : Action (Session ω) α) :
    (onSession a).Matches (Alongside φ) Parted (onSession a) := by
  intro r p h
  rw [onSession, runOn_zoom, runOn_zoom, ← h.session]
  rcases a.runOn r.session with ⟨fault | x, s⟩
  · exact .error fault ⟨rfl, h.rounds⟩
  · exact .ok x ⟨rfl, h.rounds, h.coherent⟩

lemma corresponds_alongside (L : Library ω) (hφ : Numerical φ) :
    Corresponds (Alongside φ) Parted L L (.ofFunction φ report) (.ofFunction φ report)
      (evaluate (.ofFunction φ report)) (evaluateAfresh φ) where
  call c := onSession_matches _
  report := onSession_matches _
  evaluation := evaluate_matches hφ
  objective value := onSession_matches _
  constraints values := onSession_matches _
  status r p h := by rw [h.session]
  termination r p h := by rw [h.session]
  count r p h := ⟨h.session, congrArg (· + 1) h.rounds, h.coherent⟩
  fault _ _ h := h.parted

/-- A run of a loop in a sequence of them. -/
structure Job (ω : Type) where
  library : Library ω
  /-- The session that is run, given the one that the run before it left. -/
  session : Session (Recorded ω) → Session (Recorded ω)
  budget : Nat

/-- What a run came to. -/
structure Finish (ω : Type) where
  outcome : Except Fault Int
  session : Session (Recorded ω)
  rounds : Nat

/-- Run jobs one after another.  What is remembered at the end of a run is what the next one starts
with. -/
def runs (service : Service (Recorded ω)) (evaluation : Action (Running (Recorded ω)) Tensor) :
    List (Job ω) → Running (Recorded ω) → List (Finish ω)
  | [], _ => []
  | job :: jobs, r =>
    let ended := (drive (Recorded.library job.library) service evaluation job.budget).runOn
      { r with session := job.session r.session }
    ⟨ended.1, ended.2.session, ended.2.memo.rounds⟩ :: runs service evaluation jobs ended.2

lemma runs_eq {φ : List Float → Except Fault Tensor} (hφ : Numerical φ)
    {report : Option (Action (Session (Recorded ω)) Unit)} (jobs : List (Job ω))
    {r p : Running (Recorded ω)} (h : r.session = p.session) :
    runs (.ofFunction φ report) (evaluate (.ofFunction φ report)) jobs r =
      runs (.ofFunction φ report) (evaluateAfresh φ) jobs p := by
  induction jobs generalizing r p with
  | nil => rfl
  | cons job jobs ih =>
    have halike : Alike (Alongside φ) Parted
        ((drive (Recorded.library job.library) (.ofFunction φ report)
          (evaluate (.ofFunction φ report)) job.budget).runOn ⟨job.session r.session, r.memo⟩)
        ((drive (Recorded.library job.library) (.ofFunction φ report) (evaluateAfresh φ)
          job.budget).runOn ⟨job.session p.session, p.memo⟩) :=
      (corresponds_alongside _ hφ).drive job.budget
        ⟨congrArg job.session h, rfl, Memo.coherent_blank φ⟩
    have hparted := halike.snd fun _ _ h => h.parted
    simp only [runs]
    rw [halike.fst_eq, hparted.session, hparted.rounds, ih hparted.session]

/-! ## The values that are written -/

/-- What serving a request writes, with the fitness of a decision vector that is `near` the one in
the buffer. -/
def Wrote (φ : List Float → Except Fault Tensor) (near : List Float → List Float → Prop) :
    Request → Session ω → Session ω → Prop
  | .objective, s, s' =>
    ∃ x y f value, s.buffer .decision = .ok x ∧ near x y ∧ φ y = .ok f ∧
      f.first >>= Tensor.toNumber = .ok value ∧
      s' = { s with memory.objective := s.objectiveScale * value }
  | .constraints, s, s' =>
    ∃ x y f values, s.buffer .decision = .ok x ∧ near x y ∧ φ y = .ok f ∧ f.rest = .ok values ∧
      s' = { s with memory := s.memory.write .constraints values.entries }
  | _, _, _ => True

lemma Wrote.mono {near near' : List Float → List Float → Prop} {a : Request} {s s' : Session ω}
    (h : Wrote φ near a s s')
    (hnear : ∀ x y, near x y → ∃ z, near' x z ∧ φ z = φ y) : Wrote φ near' a s s' := by
  cases a with
  | objective =>
    obtain ⟨x, y, f, value, hx, hxy, hf, hvalue, hs⟩ := h
    obtain ⟨z, hxz, hz⟩ := hnear x y hxy
    exact ⟨x, z, f, value, hx, hxz, hz.trans hf, hvalue, hs⟩
  | constraints =>
    obtain ⟨x, y, f, values, hx, hxy, hf, hvalues, hs⟩ := h
    obtain ⟨z, hxz, hz⟩ := hnear x y hxy
    exact ⟨x, z, f, values, hx, hxz, hz.trans hf, hvalues, hs⟩
  | solverStep | reportIteration | finiteDifference => trivial

/-- Did a step succeed? -/
def Step.Succeeds : Step → Prop
  | .poll _ (.ok _) | .serve _ (.ok _) | .acknowledge _ (.ok _) => True
  | _ => False

lemma Dealt.succeeds {a : Request} {steps : List Step} (h : Dealt a steps) :
    ∀ step ∈ steps, step.Succeeds := by
  cases h with
  | clear => simp [Step.Succeeds]
  | served => simp [Step.Succeeds]
  | acknowledged => simp [Step.Succeeds]

lemma AllDealt.succeeds {requests : List Request} {steps : List Step}
    (h : AllDealt requests steps) : ∀ step ∈ steps, step.Succeeds := by
  obtain ⟨parts, hparts, rfl⟩ := h
  induction hparts with
  | nil => simp
  | cons hdealt _ ih =>
    intro step hstep
    rw [List.flatten_cons, List.mem_append] at hstep
    rcases hstep with hstep | hstep
    · exact hdealt.succeeds step hstep
    · exact ih step hstep

/-- A state that a loop comes to without a fault, after some complete rounds and some steps of
another one. -/
def Reaches (L : Library ω) (service : Service ω) (s : Session ω) (r : Running ω) : Prop :=
  ∃ complete v steps, Rounds L service (evaluate service) ⟨s, .blank⟩ complete v ∧
    Path L service (evaluate service) v steps r ∧ ∀ step ∈ steps, step.Succeeds

section

variable {L : Library ω}

lemma memo_of_onSession {α : Type} {a : Action (Session ω) α} {outcome : Except Fault α}
    (h : (onSession a).runOn r = (outcome, r')) : r'.memo = r.memo :=
  (keeps_onSession_memo a).run h

/-- A step that succeeds leaves the fitness of the decision vector next to it. -/
lemma Leads.coherent {step : Step} (hm : r.memo.Coherent φ)
    (h : Leads L (.ofFunction φ report) (evaluate (.ofFunction φ report)) r step r')
    (hstep : step.Succeeds) : r'.memo.Coherent φ := by
  cases h with
  | poll h => rwa [memo_of_onSession h]
  | acknowledge h => rwa [memo_of_onSession h]
  | @serve a outcome _ _ h =>
    cases outcome with
    | error fault => cases hstep
    | ok _ =>
      cases a with
      | solverStep => rwa [memo_of_onSession h]
      | reportIteration => rwa [memo_of_onSession h]
      | objective =>
        obtain ⟨f, v, heval, h⟩ := runOn_bind_eq_ok_iff.mp h
        obtain ⟨-, hv, -⟩ := evaluate_eq_ok hm heval
        rwa [memo_of_onSession h]
      | constraints =>
        obtain ⟨f, v, heval, h⟩ := runOn_bind_eq_ok_iff.mp h
        obtain ⟨-, hv, -⟩ := evaluate_eq_ok hm heval
        obtain ⟨values, u, hrest, h⟩ := runOn_bind_eq_ok_iff.mp h
        rw [runOn_liftExcept] at hrest
        obtain ⟨-, rfl⟩ := Prod.mk.inj hrest
        rwa [memo_of_onSession h]
      | finiteDifference => rwa [memo_of_onSession h]

lemma Path.coherent {steps : List Step} (hm : r.memo.Coherent φ)
    (h : Path L (.ofFunction φ report) (evaluate (.ofFunction φ report)) r steps r')
    (hsteps : ∀ step ∈ steps, step.Succeeds) : r'.memo.Coherent φ := by
  induction h with
  | nil => exact hm
  | cons head _ ih =>
    have hhead := head.coherent hm (hsteps _ List.mem_cons_self)
    exact ih hhead fun step hstep => hsteps step (List.mem_cons_of_mem _ hstep)

lemma Rounds.coherent {rounds : List (List Step)} (hm : r.memo.Coherent φ)
    (h : Rounds L (.ofFunction φ report) (evaluate (.ofFunction φ report)) r rounds r') :
    r'.memo.Coherent φ := by
  induction h with
  | none => exact hm
  | more _ path complete _ ih =>
    have hpath := path.coherent hm complete.succeeds
    exact ih hpath

lemma Reaches.coherent {s : Session ω} (h : Reaches L (.ofFunction φ report) s r) :
    r.memo.Coherent φ := by
  obtain ⟨complete, v, steps, hrounds, hpath, hsteps⟩ := h
  exact hpath.coherent (hrounds.coherent (Memo.coherent_blank φ)) hsteps

lemma wrote_of_serve {a : Request} (hm : r.memo.Coherent φ)
    (h : (serve L (.ofFunction φ report) (evaluate (.ofFunction φ report)) a).runOn r =
      (.ok (), r')) : Wrote φ Memo.Near a r.session r'.session := by
  cases a with
  | objective =>
    obtain ⟨f, v, heval, h⟩ := runOn_bind_eq_ok_iff.mp h
    obtain ⟨hv, -, x, y, hx, hxy, hy⟩ := evaluate_eq_ok hm heval
    obtain ⟨s, hwrite, rfl⟩ := runOn_zoom_eq_iff.mp h
    obtain ⟨value, hvalue, rfl⟩ := Session.writeObjective_eq_ok hwrite
    refine ⟨x, y, f, value, hx, hxy, hy, hvalue, ?_⟩
    rw [hv]
  | constraints =>
    obtain ⟨f, v, heval, h⟩ := runOn_bind_eq_ok_iff.mp h
    obtain ⟨hv, -, x, y, hx, hxy, hy⟩ := evaluate_eq_ok hm heval
    obtain ⟨values, u, hrest, h⟩ := runOn_bind_eq_ok_iff.mp h
    rw [runOn_liftExcept] at hrest
    obtain ⟨hvalues, rfl⟩ := Prod.mk.inj hrest
    obtain ⟨s, hwrite, rfl⟩ := runOn_zoom_eq_iff.mp h
    obtain ⟨t, ht, rfl⟩ := Session.fill_eq_ok hwrite
    cases ht
    refine ⟨x, y, f, values, hx, hxy, hy, hvalues, ?_⟩
    rw [hv]
  | solverStep | reportIteration | finiteDifference => trivial

end

/-! ## Remembering does not show -/

/-- At every request of every run, a loop that remembers writes the fitness of a decision vector
that it does not tell apart from the one in the buffer.  If the fitness does not tell them apart
either, that is the fitness of the decision vector in the buffer itself, and no sequence of runs
shows that anything is remembered: every run comes to the same outcome after the same calls on the
same memory, and counts the same rounds, whatever the runs before it left behind. -/
theorem remembering_does_not_show (φ : List Float → Except Fault Tensor)
    (report : Option (Action (Session (Recorded ω)) Unit)) :
    (∀ (L : Library ω) s r a r', Reaches (Recorded.library L) (.ofFunction φ report) s r →
      Leads (Recorded.library L) (.ofFunction φ report) (evaluate (.ofFunction φ report)) r
        (.serve a (.ok ())) r' →
      Wrote φ Memo.Near a r.session r'.session) ∧
    (Numerical φ →
      (∀ (L : Library ω) s r a r', Reaches (Recorded.library L) (.ofFunction φ report) s r →
        Leads (Recorded.library L) (.ofFunction φ report) (evaluate (.ofFunction φ report)) r
          (.serve a (.ok ())) r' →
        Wrote φ Eq a r.session r'.session) ∧
      ∀ (jobs : List (Job ω)) s memo memo',
        runs (.ofFunction φ report) (evaluate (.ofFunction φ report)) jobs ⟨s, memo⟩ =
          runs (.ofFunction φ report) (evaluateAfresh φ) jobs ⟨s, memo'⟩) := by
  have hwrote : ∀ (L : Library ω) s r a r',
      Reaches (Recorded.library L) (.ofFunction φ report) s r →
      Leads (Recorded.library L) (.ofFunction φ report) (evaluate (.ofFunction φ report)) r
        (.serve a (.ok ())) r' →
      Wrote φ Memo.Near a r.session r'.session := by
    intro L s r a r' hreach hserve
    cases hserve with
    | serve h => exact wrote_of_serve hreach.coherent h
  refine ⟨hwrote, fun hφ => ⟨?_, fun jobs s memo memo' => runs_eq hφ jobs rfl⟩⟩
  intro L s r a r' hreach hserve
  refine (hwrote L s r a r' hreach hserve).mono fun x y hxy => ⟨x, rfl, ?_⟩
  rcases hxy with rfl | hxy
  · rfl
  · exact hφ x y hxy

/-- A fitness that depends on the number of variables only. -/
def countingFitness (x : List Float) : Except Fault Tensor :=
  .ok (.vector (List.replicate (x.length + 1) 2))

lemma numerical_countingFitness : Numerical countingFitness := by
  intro x y h
  have hlength : x.length = y.length := by
    simp only [Memo.sameNumbers, Bool.and_eq_true, beq_iff_eq] at h
    exact h.1
  rw [countingFitness, countingFitness, hlength]

/-- A brief run, and another one after it. -/
def briefJobs : List (Job Unit) := [⟨.brief, id, 1⟩, ⟨.brief, fun _ => briefStart.session, 1⟩]

/-- Two brief runs after each other come to the same, remembering or not. -/
theorem remembering_does_not_show_brief :
    Numerical countingFitness ∧
    (runs (.ofFunction countingFitness none) (evaluate (.ofFunction countingFitness none)) briefJobs
      ⟨briefStart.session, .blank⟩).map (·.session.memory.objective) = [2, 2] ∧
    runs (.ofFunction countingFitness none) (evaluate (.ofFunction countingFitness none)) briefJobs
        ⟨briefStart.session, .blank⟩ =
      runs (.ofFunction countingFitness none) (evaluateAfresh countingFitness) briefJobs
        ⟨briefStart.session, .blank⟩ := by
  refine ⟨numerical_countingFitness, by decide +kernel, ?_⟩
  exact ((remembering_does_not_show countingFitness none).2 numerical_countingFitness).2 briefJobs
    briefStart.session .blank .blank

/-! ## Zeros of both signs -/

/-- A fitness that tells the signs of a zero apart. -/
def reciprocal (x : List Float) : Except Fault Tensor := .ok (.vector [1 / x.headD 0])

/-- A solver that moves its only variable to zero, has it evaluated, and does so again with the
other zero. -/
def zerosLibrary : Library Unit where
  path := Path.ofString "zeros"
  successThreshold := ReverseComm.successThreshold
  errorThreshold := ReverseComm.errorThreshold
  bound := none
  machine
    | .readParams _ => pure 0
    | .getUserAction request => pure (request == .solverStep || request == .objective)
    | .step => modify fun n =>
      if n.memory.status = 0 then
        { n with memory := { n.memory.write .decision [0] with status := 1 } }
      else { n with memory := { n.memory.write .decision [-0] with status := 1000 } }
    | .preInit | .init | .doneUserAction _ | .iterationOutput | .statusMessage | .free
    | .finiteDifference => pure ()
  release := pure ()

/-- A session of that solver, just before its loop. -/
def zerosStart : Session (Recorded Unit) :=
  { Session.start [] (.start ()) with
    stage := some .running
    memory :=
      { Memory.blank with
        variableCount := 1
        buffers := Buffers.none.put .decision (some [1]) } }

/-- With a fitness that tells the signs of a zero apart, remembering does show: the second zero is
given the reciprocal of the first one. -/
theorem remembering_shows_at_zero :
    ¬ ∀ (φ : List Float → Except Fault Tensor) (jobs : List (Job Unit)) s memo,
      runs (.ofFunction φ none) (evaluate (.ofFunction φ none)) jobs ⟨s, memo⟩ =
        runs (.ofFunction φ none) (evaluateAfresh φ) jobs ⟨s, memo⟩ := by
  intro h
  have hobjective := congrArg (List.map (·.session.memory.objective))
    (h reciprocal [⟨zerosLibrary, id, 2⟩] zerosStart .blank)
  exact absurd hobjective (by decide +kernel)

end Loop

end ReverseComm
