import ReverseComm.Proofs.Evolution.Replacement
import ReverseComm.Proofs.Evolution.Reporting
import ReverseComm.Proofs.Evolution.Solve

/-!
# The evaluation log

What a call of `evolve` makes of its evaluations is determined by the decision vectors that the solver
asks it to evaluate (`asked`).  They are found along the course of the call, in the loop that comes
after the opening of a session; a call that does not get as far as a loop is asked for nothing.

The problem is watched, so all evaluations are seen.  `Logged` says what there is to see: the problem
is evaluated once for each change of the decision vector and perhaps once more at the end, the account
counts and describes the former, and the algorithm says their lines and headers, followed by what it
says at the end of a call.  That is shown of the loop, and then, from the inside out, of whatever the
loop stands in.

It is assumed that the problem is as large as it declares (`Problem.Sized`), and that the caller who is
told of iterations does not write into the diary, set the verbosity or speak for the algorithm
(`Listener.Discreet`).
The solver and its library, the surroundings and the account from before are arbitrary.
-/

namespace ReverseComm

open ReverseComm.Action

variable {ω : Type}

namespace Evolution

/-! ## What a call is asked for -/

/-- The decision vectors that a solve is asked to evaluate. -/
def askedInSolve (env : Surroundings ω) (problem : Problem ω) (L : Library ω) (bounds : Bounds)
    (seed : Candidate) (e : Evolution ω) : List (List Float) :=
  (opening env e.algorithm problem L bounds seed).afterwards
    (fun _ => Loop.asked (Accounted.library L) (service e.algorithm problem L) env.budget)
    (outset e.algorithm e.messages e.hidden)

/-- Those that are asked for once a member has been selected: none if no library loads, or if the
problem fails to name its bounds. -/
def askedOnArrival (env : Surroundings ω) (problem : Problem ω) (seed : Candidate)
    (e : Evolution ω) : List (List Float) :=
  (loading (Loading.load env.host.isFile env.registry e.algorithm.settings.library
    e.algorithm.settings.binder)).afterwards
    (fun L e' => match problem.bounds with
      | .ok bounds => askedInSolve env problem L bounds seed e'
      | .error _ => []) e

/-- The decision vectors that the solver asks to be evaluated in a call, in the order in which the
loop comes to serve its requests. -/
def asked (env : Surroundings ω) (problem : Problem ω) (e : Evolution ω) : List (List Float) :=
  (prepare problem).afterwards (fun drawn => askedOnArrival env problem drawn.2)
    { e with algorithm.account := .blank }

/-- What is seen of a call that was asked to evaluate some decision vectors: an evaluation for each
change among them, of which the last one may have raised a fault, and at most one more after them. -/
def Logged (problem : Problem ω) (asked : List (List Float))
    (before after : Booking) (closing : List String) : Prop :=
  ∃ evaluations others, evaluations.map Evaluation.point = Memo.changes asked ∧
    (∀ v ∈ evaluations.dropLast, v.Completed) ∧ others.length ≤ 1 ∧
    Tally problem before after evaluations others closing

/-- What the algorithm says at the end of a call, as far as it gets: that the solver has finished, and
what became of the result. -/
inductive Closing : List String → Prop
  | nothing : Closing []
  | finished (status : Option ℤ) (outcome : Outcome) : Closing [finishedText status outcome]
  | replaced (status : Option ℤ) (outcome : Outcome) (selected : ℕ) (index : Option ℕ) :
      Closing [finishedText status outcome, replacedText selected index]

/-- There is no header at the end. -/
lemma Closing.header_not_mem {closing : List String} (h : Closing closing) :
    Account.header ∉ closing := by
  have hheader : Account.header.toList.head? = some 'o' := by decide +kernel
  have hfinished : ∀ status outcome, Account.header ≠ finishedText status outcome := by
    intro status outcome h
    rw [h] at hheader
    simp [finishedText, algorithmName] at hheader
  have hreplaced : ∀ selected index, Account.header ≠ replacedText selected index := by
    intro selected index h
    rw [h] at hheader
    cases index with
    | none =>
      have htext : replacedText selected none =
          "No improvement on individual " ++ toString selected ++ ", population unchanged" := rfl
      simp [htext] at hheader
    | some i =>
      have htext : replacedText selected (some i) =
          "Individual " ++ toString i ++ " replaced by the optimized candidate" := rfl
      simp [htext] at hheader
  cases h with
  | nothing => exact List.not_mem_nil
  | finished status outcome => simpa using hfinished status outcome
  | replaced status outcome selected index =>
    intro hmem
    rcases List.mem_pair.mp hmem with h | h
    · exact hfinished status outcome h
    · exact hreplaced selected index h

lemma logged_nil (problem : Problem ω) {before : Booking} (hcount : before.count = 0)
    (hlines : before.lines = []) : Logged problem [] before before [] :=
  ⟨[], [], rfl, List.forall_mem_nil _, Nat.zero_le 1, tally_nil problem hcount hlines⟩

/-! ## A solve -/

/-- Once the session has been seeded, the problem has answered how many constraints it has. -/
lemma counts_of_opening {env : Surroundings ω} {a : Algorithm ω} {problem : Problem ω}
    {L : Library ω} {bounds : Bounds} {seed : Candidate} {r r' : Running (Accounted ω)}
    (h : (opening env a problem L bounds seed).runOn r = (.ok (), r')) :
    ∃ m n, problem.constraintCount = .ok m ∧ problem.equalityCount = .ok n := by
  simp only [opening, runOn_bind_eq_ok_iff, runOn_liftExcept, Prod.mk.injEq] at h
  obtain ⟨_, _, -, _, _, -, _, _, -, m, _, ⟨hm, -⟩, _, _, -, _, _, -, n, _, ⟨hn, -⟩, -⟩ := h
  exact ⟨m, n, hm, hn⟩

/-- At the end of a loop there is nothing to be seen but its evaluations. -/
lemma tallied_run {problem : Problem ω} (sized : problem.Sized)
    (single : problem.objectiveCount = .ok 1) {m n : ℤ} (hm : problem.constraintCount = .ok m)
    (hn : problem.equalityCount = .ok n) {a : Algorithm (Watched ω)} {L : Library (Watched ω)}
    (listeners : ∀ listener ∈ a.listener, listener.Discreet) (discreet : L.Discreet) {budget : ℕ}
    {r r' : Running (Accounted (Watched ω))} {outcome : Except Fault ℤ}
    (hcount : r.session.booking.count = 0) (hlines : r.session.booking.lines = [])
    (h : (Loop.run (Accounted.library L) (service a problem.watched L) budget).runOn r =
      (outcome, r')) :
    Tallied problem r.session.booking
      (Loop.asked (Accounted.library L) (service a problem.watched L) budget r) r' := by
  have henter : (Loop.onSession (Session.enterLoop (ω := Accounted (Watched ω)))).Keeps
      (Same fun r => r.session.booking) :=
    Loop.keeps_onSession (Session.keeps_enterLoop fun _ _ h => h.booking)
  rw [Loop.asked, afterwards]
  rcases runOn_bind_cases h with ⟨fault, hfault, rfl⟩ | ⟨_, v, hok, hdrive⟩
  · have hsame : r'.session.booking = r.session.booking := henter.run hfault
    rw [hfault]
    refine ⟨[], rfl, List.forall_mem_nil _, ?_⟩
    rw [hsame]
    exact tally_nil problem hcount hlines
  · have hsame : v.session.booking = r.session.booking := henter.run hok
    rw [hok]
    have hstart : Tallying problem r.session.booking []
        { v with memo := .blank } := by
      refine ⟨[], rfl, List.forall_mem_nil _, ?_, Memo.remembers_blank⟩
      show Tally problem _ v.session.booking _ _ _
      rw [hsame]
      exact tally_nil problem hcount hlines
    have tracked := tracked_service sized single hm hn a L r.session.booking listeners discreet
    obtain ⟨hanswer, hfault⟩ := tracked.drive budget hstart
    cases outcome with
    | ok status => exact (hanswer status r' hdrive).tallied
    | error fault => exact hfault fault r' hdrive

/-- Reading the candidate is one more evaluation at most, and it goes into the diary alone. -/
lemma booking_readCandidate (problem : Problem ω) (s : Session (Accounted (Watched ω))) :
    ∃ others, others.length ≤ 1 ∧
      ((Session.readCandidate fun x => Accounted.aside (problem.watched.fitness x)).runOn
        s).2.booking = { s.booking with diary := s.booking.diary ++ others } := by
  rw [Session.readCandidate, runOn_bind, Session.readDecision, runOn_bind, runOn_get]
  dsimp only
  rw [runOn_liftExcept]
  cases s.buffer .decision with
  | error fault => exact ⟨[], Nat.zero_le 1, by simp⟩
  | ok x =>
    refine ⟨[⟨x, ((problem.fitness x).runOn s.hidden.hidden.hidden).1⟩], le_refl 1, ?_⟩
    dsimp only
    rw [runOn_bind, Session.runOn_watched_fitness]
    cases ((problem.fitness x).runOn s.hidden.hidden.hidden).1 with
    | error fault => rfl
    | ok f => rfl

/-- One more evaluation at most may come after those of a loop. -/
lemma logged_of_tallied {problem : Problem ω} {before after : Booking}
    {asked : List (List Float)} {r : Running (Accounted (Watched ω))}
    (h : Tallied problem before asked r) (others : List Evaluation)
    (hothers : others.length ≤ 1)
    (hafter : after = { r.session.booking with diary := r.session.booking.diary ++ others }) :
    Logged problem asked before after [] := by
  obtain ⟨evaluations, hpoints, hcompleted, htally⟩ := h
  refine ⟨evaluations, others, hpoints, hcompleted, hothers, ?_⟩
  subst hafter
  exact
    { verbosity := htally.verbosity
      diary := by simp [htally.diary]
      count := htally.count
      lines := htally.lines
      texts := htally.texts }

section

variable {problem : Problem ω} (sized : problem.Sized) (single : problem.objectiveCount = .ok 1)
  {L : Library (Watched ω)} (discreet : L.Discreet) (env : Surroundings (Watched ω))
  (bounds : Bounds) (seed : Candidate)
include sized single discreet

/-- What is seen of a solve before its session is left. -/
lemma logged_course {a : Algorithm (Watched ω)}
    (listeners : ∀ listener ∈ a.listener, listener.Discreet)
    {r : Running (Accounted (Watched ω))} (hcount : r.session.booking.count = 0)
    (hlines : r.session.booking.lines = []) :
    Logged problem
      ((opening env a problem.watched L bounds seed).afterwards
        (fun _ => Loop.asked (Accounted.library L) (service a problem.watched L) env.budget) r)
      r.session.booking
      ((course env a problem.watched L bounds seed).runOn r).2.session.booking [] := by
  have hopening : (opening env a problem.watched L bounds seed).Keeps
      (Same fun r => r.session.booking) := keeps_opening (fun _ _ h => h.booking)
    (Session.keeps_call_booking discreet) env a problem.watched bounds seed
  rw [course, approach_eq_opening, bind_assoc, runOn_bind, afterwards]
  rcases hopen : (opening env a problem.watched L bounds seed).runOn r with ⟨fault | _, v⟩
  · have hsame : v.session.booking = r.session.booking := hopening.run hopen
    dsimp only
    rw [hsame]
    exact logged_nil problem hcount hlines
  · have hsame : v.session.booking = r.session.booking := hopening.run hopen
    obtain ⟨m, n, hm, hn⟩ := counts_of_opening hopen
    dsimp only
    rw [← hsame] at hcount hlines ⊢
    rw [runOn_bind]
    rcases hrun : (Loop.run (Accounted.library L) (service a problem.watched L) env.budget).runOn
      v with ⟨fault | status, u⟩
    · have htallied := tallied_run sized single hm hn listeners discreet hcount hlines hrun
      exact logged_of_tallied htallied [] (Nat.zero_le 1) (by simp)
    · have htallied := tallied_run sized single hm hn listeners discreet hcount hlines hrun
      let finished : Running (Accounted (Watched ω)) :=
        { u with session.hidden.account.lastResult := some status }
      obtain ⟨others, hothers, hread⟩ := booking_readCandidate problem finished.session
      refine logged_of_tallied htallied others hothers ?_
      have hanswer : ∀ candidate : Candidate, (do
          let r ← get
          return { candidate, termination := r.session.termination (Accounted.library L),
                   rounds := r.memo.rounds } :
          Action (Running (Accounted (Watched ω))) Outcome).Keeps
            (Same fun r => r.session.booking) :=
        fun candidate => keeps_get.bind fun r => keeps_pure _
      have hcourse := view_runOn_bind (Loop.onSession (Session.readCandidate fun x =>
        Accounted.aside (problem.watched.fitness x))) hanswer finished
      exact hcourse.trans hread

/-- Leaving the session and closing the library are not to be seen. -/
lemma logged_solve {e : Evolution (Watched ω)}
    (listeners : ∀ listener ∈ e.algorithm.listener, listener.Discreet)
    (hcount : e.booking.count = 0) (hlines : e.booking.lines = []) :
    Logged problem
      (askedInSolve env problem.watched L bounds seed e) e.booking
      ((solve env e.algorithm problem.watched L bounds seed).runOn e).2.booking [] := by
  set start : Running (Accounted (Watched ω)) :=
    outset e.algorithm e.messages e.hidden
  have hcourse : Logged problem
      (askedInSolve env problem.watched L bounds seed e) start.session.booking
      ((course env e.algorithm problem.watched L bounds seed).runOn start).2.session.booking [] :=
    logged_course sized single discreet env bounds seed listeners hcount hlines
  have hclose : (aside (do let _ ← L.close) : Action (Evolution (Watched ω)) Unit).Keeps
      (Same booking) := by
    have hrelease : (do let _ ← L.close : Action (Watched ω) Unit).Keeps (Same Watched.diary) :=
      (discreet.release.bind fun _ => keeps_pure _).bind fun _ => keeps_pure _
    refine hrelease.zoom fun e w h => ?_
    have hdiary : w.diary = e.hidden.diary := h
    simp only [Same, booking, hdiary]
  have hleave : (Loop.onSession (Session.leave (Accounted.library L))).Keeps
      (Same fun r => r.session.booking) :=
    Loop.keeps_onSession (Session.keeps_leave (fun _ _ h => h.booking)
      (Session.keeps_call_booking discreet))
  have hend : ((solve env e.algorithm problem.watched L bounds seed).runOn e).2.booking =
      ((course env e.algorithm problem.watched L bounds seed).runOn start).2.session.booking := by
    rw [solve, runOn_ensuring_snd, solving, runOn_zoom, runOn_ensuring_snd]
    exact (hclose _).trans (hleave _)
  rw [hend]
  exact hcourse

end

/-! ## A call -/

section

variable {problem : Problem ω} (sized : problem.Sized) (env : Surroundings ω)
  {e : Evolution (Watched ω)} (listeners : ∀ listener ∈ e.algorithm.listener, listener.Discreet)
  (hcount : e.booking.count = 0) (hlines : e.booking.lines = [])
include sized listeners hcount hlines

/-- Loading a library is not to be seen. -/
lemma logged_arrive (single : problem.objectiveCount = .ok 1) (seed : Candidate) :
    Logged problem
      (askedOnArrival env.watched problem.watched seed e) e.booking
      ((arrive env.watched problem.watched seed).runOn e).2.booking [] := by
  rcases hload : (Loading.load env.watched.host.isFile env.watched.registry
    e.algorithm.settings.library e.algorithm.settings.binder).runOn
      ⟨e.coordinator, e.messages, e.hidden⟩ with ⟨answer, l⟩
  set loaded : Evolution (Watched ω) :=
    { e with coordinator := l.coordinator, messages := l.messages, hidden := l.hidden }
  have hloading : (loading (Loading.load env.watched.host.isFile env.watched.registry
      e.algorithm.settings.library e.algorithm.settings.binder)).runOn e = (answer, loaded) := by
    rw [loading, runOn_zoom, hload]
  have hsame : loaded.booking = e.booking := by
    have hdiary : l.hidden.diary = e.hidden.diary := (Loading.keeps_load_diary env _ _).run hload
    have htexts : Speaker.algorithm.texts l.messages = Speaker.algorithm.texts e.messages :=
      (Loading.keeps_load_texts _ _ _ _).run hload
    simp only [booking, loaded, hdiary, htexts]
  rw [arrive, runOn_bind, runOn_get, askedOnArrival, afterwards, hloading]
  dsimp only
  rw [runOn_bind, hloading, ← hsame]
  rw [← hsame] at hcount hlines
  cases answer with
  | error fault => exact logged_nil problem hcount hlines
  | ok L =>
    have hbounds : problem.watched.bounds = problem.bounds := rfl
    dsimp only
    rw [runOn_bind, runOn_liftExcept, hbounds]
    cases problem.bounds with
    | error fault => exact logged_nil problem hcount hlines
    | ok bounds =>
      exact logged_solve sized single (Loading.discreet_of_load hload) env.watched bounds seed
        listeners hcount hlines

end

/-- Putting the result into the population is not to be seen, but for what the algorithm says of
it. -/
lemma booking_settle (problem : Problem ω) (selected : ℕ) (seed : Candidate) (outcome : Outcome)
    (e : Evolution (Watched ω)) :
    ∃ closing, Closing closing ∧
      ((settle problem.watched selected seed outcome).runOn e).2.booking =
        { e.booking with texts := e.booking.texts ++ closing } := by
  have hsaid : ∀ (e : Evolution (Watched ω)) text, ((say text).runOn e).2.booking =
      { e.booking with texts := e.booking.texts ++ [text] } := by
    intro e text
    simp [say, booking, Speaker.texts]
  have hreplace : (replacing (Selection.replace problem.watched e.algorithm.settings.replacement
      outcome.candidate seed)).Keeps (Same booking) :=
    keeps_replacing (fun _ _ _ => rfl) problem.watched _ _ _
  have hsettle : (settle problem.watched selected seed outcome).runOn e = (do
      let replaced ← replacing (Selection.replace problem.watched
        e.algorithm.settings.replacement outcome.candidate seed)
      say (replacedText selected replaced) : Action (Evolution (Watched ω)) Unit).runOn
        ((say (finishedText e.algorithm.account.lastResult outcome)).runOn e).2 := rfl
  have hfinished := hsaid e (finishedText e.algorithm.account.lastResult outcome)
  rw [hsettle, runOn_bind]
  rcases hrun : (replacing (Selection.replace problem.watched e.algorithm.settings.replacement
    outcome.candidate seed)).runOn
      ((say (finishedText e.algorithm.account.lastResult outcome)).runOn e).2 with
    ⟨fault | replaced, e'⟩
  · have hsame : e'.booking = _ := hreplace.run hrun
    exact ⟨_, .finished _ _, hsame.trans hfinished⟩
  · have hsame : e'.booking = _ := hreplace.run hrun
    refine ⟨_, .replaced e.algorithm.account.lastResult outcome selected replaced,
      (hsaid e' _).trans ?_⟩
    rw [hsame, hfinished]
    simp

/-- What the algorithm says at the end comes after everything else. -/
lemma Logged.closed {problem : Problem ω} {asked : List (List Float)}
    {before after after' : Booking} (h : Logged problem asked before after [])
    {closing : List String} (hafter : after' = { after with texts := after.texts ++ closing }) :
    Logged problem asked before after' closing := by
  obtain ⟨evaluations, others, hpoints, hcompleted, hothers, tally⟩ := h
  refine ⟨evaluations, others, hpoints, hcompleted, hothers, ?_⟩
  subst hafter
  exact
    { verbosity := tally.verbosity
      diary := tally.diary
      count := tally.count
      lines := tally.lines
      texts := by simp [tally.texts] }

/-- The account that a call starts from does not matter. -/
lemma Logged.of_blank {problem : Problem ω} {asked : List (List Float)}
    {e : Evolution (Watched ω)} {after : Booking} {closing : List String}
    (h : Logged problem asked { e with algorithm.account := .blank : Evolution _ }.booking
      after closing) : Logged problem asked e.booking after closing := by
  obtain ⟨evaluations, others, hpoints, hcompleted, hothers, tally⟩ := h
  exact ⟨evaluations, others, hpoints, hcompleted, hothers,
    { verbosity := tally.verbosity
      diary := tally.diary
      count := tally.count
      lines := tally.lines
      texts := tally.texts }⟩

/-- **The evaluation log.**  In a call of `evolve`, however it ends, the problem is evaluated at the
first decision vector that the solver asks for and at every one that is not equal as numbers to the
one before it, and at most once more after the loop.  The account counts those of them that are
completed, without the one after the loop, and has a line for every so many, from the first one on, or
no line if the verbosity is zero.  The algorithm says these lines as they come, with a header above the
first one and above every `headerInterval`-th one after it and with no other header.  Nothing is left
of what was in the account before. -/
theorem evaluation_log (env : Surroundings ω) {problem : Problem ω} (sized : problem.Sized)
    (e : Evolution (Watched ω))
    (listeners : ∀ listener ∈ e.algorithm.listener, listener.Discreet) :
    ∃ closing, Closing closing ∧ Account.header ∉ closing ∧
      Logged problem (asked env.watched problem.watched e) e.booking
        ((evolve env.watched problem.watched).runOn e).2.booking closing := by
  suffices hclosed : ∃ closing, Closing closing ∧
      Logged problem (asked env.watched problem.watched e) e.booking
        ((evolve env.watched problem.watched).runOn e).2.booking closing by
    obtain ⟨closing, hclosing, hlogged⟩ := hclosed
    exact ⟨closing, hclosing, hclosing.header_not_mem, hlogged⟩
  set e₀ : Evolution (Watched ω) := { e with algorithm.account := .blank }
  have hevolve : (evolve env.watched problem.watched).runOn e =
      (prepare problem.watched >>= fun drawn => do
        let outcome ← arrive env.watched problem.watched drawn.2
        settle problem.watched drawn.1 drawn.2 outcome).runOn e₀ := rfl
  rw [hevolve, asked, afterwards, runOn_bind]
  have hdrawn : (prepare problem.watched).Keeps (Same fun e : Evolution (Watched ω) =>
      (e.algorithm.listener, e.booking)) :=
    keeps_prepare (fun _ _ => rfl) _
  rcases hprepare : (prepare problem.watched).runOn e₀ with ⟨fault | ⟨selected, seed⟩, e₁⟩
  · have hsame : e₁.booking = e₀.booking := congrArg Prod.snd (hdrawn.run hprepare)
    have hlogged : Logged problem [] e₀.booking e₀.booking [] :=
      logged_nil problem rfl rfl
    dsimp only
    rw [hsame]
    exact ⟨[], .nothing, hlogged.of_blank⟩
  · obtain ⟨hlistener, hsame⟩ := Prod.mk.inj (hdrawn.run hprepare)
    have hlisteners : ∀ listener ∈ e₁.algorithm.listener, listener.Discreet := by
      rw [hlistener]
      exact listeners
    have hcount : e₁.booking.count = 0 := by
      rw [hsame]
      rfl
    have hlines : e₁.booking.lines = [] := by
      rw [hsame]
      rfl
    have single := single_of_prepare hprepare
    have hlogged := logged_arrive sized env hlisteners hcount hlines single seed
    rw [hsame] at hlogged
    dsimp only
    rw [runOn_bind]
    rcases harrive : (arrive env.watched problem.watched seed).runOn e₁ with ⟨fault | outcome, e₂⟩
    · rw [harrive] at hlogged
      exact ⟨[], .nothing, hlogged.of_blank⟩
    · rw [harrive] at hlogged
      obtain ⟨closing, hclosing, hsettle⟩ := booking_settle problem selected seed outcome e₂
      exact ⟨closing, hclosing, (hlogged.closed hsettle).of_blank⟩

/-- A solver that goes down by one in each step until it comes to one, and asks for the objective and
for the constraints on its way. -/
def countingDown : Library Unit :=
  { Library.endingAt [] with
    machine
      | .getUserAction request => pure (request == .solverStep || request.evaluates)
      | .step => modify fun n =>
        let x := ((n.memory.buffers.get .decision).getD []).map (· - 1)
        let status := if x == [1] then 1000 else n.memory.status
        { n with memory := { n.memory.write .decision x with status } }
      | c => (Library.endingAt []).machine c }

/-- The evolution of the population of `rootEvolution` that logs every second evaluation, and has a
log of seven evaluations from before. -/
def loggingEvolution : Evolution (Watched Unit) where
  algorithm :=
    ⟨{ Settings.default with verbosity := 2 }, ⟨0, 1, none⟩, none, ⟨some 1000, 7, [⟨7, 0, 0, 0, true⟩]⟩⟩
  population := rootEvolution.population
  coordinator := .fresh
  messages := []
  hidden := ⟨[], ()⟩

/-- Each decision vector is asked for twice and evaluated once, and the last one once more at the end.
Three evaluations have two lines. -/
theorem evaluation_log_countingDown :
    let env : Surroundings Unit := .ofLibrary countingDown 3
    let e := loggingEvolution
    let e' := ((evolve env.watched rootProblem.watched).runOn e).2
    rootProblem.Sized ∧ (∀ listener ∈ e.algorithm.listener, listener.Discreet) ∧
      asked env.watched rootProblem.watched e = [[3], [3], [2], [2], [1], [1]] ∧
      e'.hidden.diary.map Evaluation.point = [[3], [2], [1], [1]] ∧
      e'.algorithm.account.lines = [⟨1, Float.sqrt 3, 1, 2, false⟩, ⟨3, 1, 0, 0, true⟩] ∧
      ∃ closing, Closing closing ∧ Account.header ∉ closing ∧ Logged rootProblem
        (asked env.watched rootProblem.watched e) e.booking e'.booking closing := by
  have sized : rootProblem.Sized := by
    constructor
    · intro k m hk hm x w f w' hf
      obtain rfl : 1 = k := Except.ok.inj hk
      obtain rfl : 1 = m := Except.ok.inj hm
      cases hf
      exact ⟨_, rfl, rfl⟩
    · intro m hm
      obtain rfl : 1 = m := Except.ok.inj hm
      exact ⟨1, _, [0], rfl, rfl, Fitness.tolerancesFor_vector [0]⟩
  have listeners : ∀ listener ∈ loggingEvolution.algorithm.listener, listener.Discreet := nofun
  exact ⟨sized, listeners, by decide +kernel, by decide +kernel, by decide +kernel,
    evaluation_log (.ofLibrary countingDown 3) sized loggingEvolution listeners⟩

end Evolution

end ReverseComm
