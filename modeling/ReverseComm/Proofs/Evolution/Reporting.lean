import ReverseComm.Proofs.Evolution.Frame
import ReverseComm.Proofs.Evolution.Watching
import ReverseComm.Proofs.Loop.Changes

/-!
# What a solve reports of its evaluations

The evaluations that the loop makes are counted, every so many of them are reported by a line, and
every so many lines there is a header.  The three counters advance at different rates, so each is
described by the list that it counts: `due` says which evaluations have a line, and `logTexts` above
which lines there is a header.  `Tally` ties what can be seen to these lists.

One evaluation takes a tally to the next one (`tally_evaluate`), and what else happens in the loop
does not show in it; so does a loop, with one evaluation for each change of the decision vector that
it is asked for (`Evolution.tracked_service`).  A fault may cut the loop off in the middle of an
evaluation, which is then the last one and not completed.
-/

namespace ReverseComm

open ReverseComm.Action

variable {ω : Type}

/-! ## The log of some evaluations -/

namespace Account

/-- The completed evaluations that are to be reported, with their numbers: every so many, from the
first one on. -/
def due (verbosity : ℕ) (answers : List Tensor) : List (Tensor × ℕ) :=
  (answers.zipIdx 1).filter fun e => verbosity ≠ 0 ∧ verbosity ∣ e.2 - 1

/-- What is said about the lines of a log: each of them, and the header above the first one and above
every `headerInterval`-th one after it. -/
def logTexts (lines : List LogLine) : List String :=
  lines.zipIdx.flatMap fun e =>
    (if headerInterval ∣ e.2 then [header] else []) ++ [lineText e.1]

lemma due_concat (verbosity : ℕ) (answers : List Tensor) (f : Tensor) :
    due verbosity (answers ++ [f]) = due verbosity answers ++
      if isReported verbosity (answers.length + 1) then [(f, answers.length + 1)] else [] := by
  have hreported : isReported verbosity (answers.length + 1) = true ↔
      verbosity ≠ 0 ∧ verbosity ∣ answers.length := by
    simp [isReported, Nat.pos_iff_ne_zero, Nat.dvd_iff_mod_eq_zero]
  simp only [due, List.zipIdx_append, List.filter_append, List.zipIdx_singleton]
  congr 1
  by_cases h : isReported verbosity (answers.length + 1) = true
  · rw [if_pos h, List.filter_cons_of_pos]
    · simp [Nat.add_comm]
    · simpa [Nat.add_comm] using hreported.mp h
  · rw [if_neg h, List.filter_cons_of_neg]
    · rfl
    · simpa [Nat.add_comm] using fun hv hd => h (hreported.mpr ⟨hv, hd⟩)

lemma logTexts_concat (lines : List LogLine) (line : LogLine) :
    logTexts (lines ++ [line]) = logTexts lines ++
      ((if headerInterval ∣ lines.length then [header] else []) ++ [lineText line]) := by
  simp [logTexts, List.zipIdx_append]

end Account

/-- A line says of an evaluation, given with its number, what the problem says of it: the objective,
and what its constraints amount to. -/
def Problem.Describes (problem : Problem ω) (line : LogLine) (evaluation : Tensor × ℕ) : Prop :=
  ∃ objective constraints equalities tolerances summary,
    evaluation.1 = .vector (objective :: constraints) ∧
    problem.equalityCount = .ok equalities ∧ problem.tolerances = .ok tolerances ∧
    Fitness.check (.vector constraints) equalities tolerances = .ok summary ∧
    line = ⟨evaluation.2, objective, summary.violated, summary.norm, summary.feasible⟩

/-- The fitness vectors of a problem are as long as it declares, and its tolerances stretch to its
constraints. -/
structure Problem.Sized (problem : Problem ω) : Prop where
  fitness : ∀ k m, problem.objectiveCount = .ok k → problem.constraintCount = .ok m →
    ∀ x w f w', (problem.fitness x).runOn w = (.ok f, w') →
      ∃ fs, f = .vector fs ∧ (fs.length : ℤ) = k + m
  tolerances : ∀ m, problem.constraintCount = .ok m →
    ∃ (count : ℕ) (tolerances : Offer) (ts : List Float), m = count ∧
      problem.tolerances = .ok tolerances ∧ Fitness.tolerancesFor tolerances [count] = .ok ts

/-! ## Tallies -/

/-- What can be seen of some evaluations, from what could be seen before: they are in the diary, the
completed ones are counted, those of them that are due have their lines, and the lines have been
said.  The verbosity is the same throughout.  Other evaluations and other texts may come after
them. -/
structure Tally (problem : Problem ω) (before after : Booking)
    (evaluations others : List Evaluation) (closing : List String) : Prop where
  verbosity : after.verbosity = before.verbosity
  diary : after.diary = before.diary ++ evaluations ++ others
  count : after.count = (Evaluation.answers evaluations).length
  lines : List.Forall₂ problem.Describes after.lines
    (Account.due before.verbosity (Evaluation.answers evaluations))
  texts : after.texts = before.texts ++ Account.logTexts after.lines ++ closing

/-- Where nothing has been evaluated and the account is blank, there is nothing to be seen. -/
lemma tally_nil (problem : Problem ω) {before : Booking} (hcount : before.count = 0)
    (hlines : before.lines = []) : Tally problem before before [] [] [] where
  verbosity := rfl
  diary := by simp
  count := hcount
  lines := by
    rw [hlines]
    exact .nil
  texts := by
    rw [hlines]
    simp [Account.logTexts]

namespace Tally

variable {problem : Problem ω} {before b : Booking} {evaluations : List Evaluation}
  (tally : Tally problem before b evaluations [] []) (x : List Float)
include tally

/-- An evaluation that fails is in the diary, and that is all. -/
lemma failed (fault : Fault) : Tally problem before
    { b with diary := b.diary ++ [⟨x, .error fault⟩] } (evaluations ++ [⟨x, .error fault⟩]) [] [] where
  verbosity := tally.verbosity
  diary := by simp [tally.diary]
  count := by simpa using tally.count
  lines := by simpa using tally.lines
  texts := by simpa using tally.texts

/-- One that is completed is counted. -/
lemma counted (f : Tensor) (h : Account.isReported b.verbosity (b.count + 1) = false) :
    Tally problem before { b with diary := b.diary ++ [⟨x, .ok f⟩], count := b.count + 1 }
      (evaluations ++ [⟨x, .ok f⟩]) [] [] where
  verbosity := tally.verbosity
  diary := by simp [tally.diary]
  count := by simp [tally.count]
  lines := by
    rw [tally.verbosity, tally.count] at h
    simpa [Account.due_concat, h] using tally.lines
  texts := by simpa using tally.texts

/-- One that is due is reported. -/
lemma reported {f : Tensor} {line : LogLine}
    (h : Account.isReported b.verbosity (b.count + 1) = true)
    (hline : problem.Describes line (f, b.count + 1)) :
    Tally problem before
      { diary := b.diary ++ [⟨x, .ok f⟩]
        count := b.count + 1
        lines := b.lines ++ [line]
        texts := b.texts ++
          ((if Account.headerInterval ∣ b.lines.length then [Account.header] else []) ++
            [Account.lineText line])
        verbosity := b.verbosity }
      (evaluations ++ [⟨x, .ok f⟩]) [] [] where
  verbosity := tally.verbosity
  diary := by simp [tally.diary]
  count := by simp [tally.count]
  lines := by
    rw [tally.verbosity, tally.count] at h
    rw [tally.count] at hline
    rw [Evaluation.answers_concat_ok, Account.due_concat, if_pos h]
    exact List.rel_append tally.lines (.cons hline .nil)
  texts := by
    have htexts : b.texts = before.texts ++ Account.logTexts b.lines := by simpa using tally.texts
    rw [Account.logTexts_concat, htexts]
    simp

end Tally

section

variable {problem : Problem ω} (sized : problem.Sized) (single : problem.objectiveCount = .ok 1)
  {m n : ℤ} (hm : problem.constraintCount = .ok m) (hn : problem.equalityCount = .ok n)
include sized single hm hn

/-- Reporting an evaluation says the line about it, and above it the header if there is to be one. -/
lemma runOn_reportLine {x : List Float} {f : Tensor} {v v' : ω}
    (hf : (problem.fitness x).runOn v = (.ok f, v')) (number : ℕ)
    (s : Session (Accounted (Watched ω))) :
    ∃ line s', problem.Describes line (f, number) ∧
      (Account.reportLine problem.watched number f).runOn s = (.ok (), s') ∧
      s'.booking = { s.booking with
        lines := s.booking.lines ++ [line]
        texts := s.booking.texts ++
          ((if Account.headerInterval ∣ s.booking.lines.length then [Account.header] else []) ++
            [Account.lineText line]) } := by
  obtain ⟨fs, rfl, hlength⟩ := sized.fitness 1 m single hm x v f v' hf
  obtain ⟨count, tolerances, ts, rfl, ht, hts⟩ := sized.tolerances m hm
  obtain ⟨objective, constraints, rfl⟩ : ∃ o gs, fs = o :: gs :=
    List.exists_cons_of_length_pos (by omega)
  have hcount : constraints.length = count := by
    rw [List.length_cons] at hlength
    omega
  have hcheck := @Fitness.check_vector constraints n tolerances ts (hcount ▸ hts)
  set summary := Summary.of (Tensor.cut constraints.length n) constraints ts
  have hn' : problem.watched.equalityCount = .ok n := hn
  have ht' : problem.watched.tolerances = .ok tolerances := ht
  set line : LogLine := ⟨number, objective, summary.violated, summary.norm, summary.feasible⟩
  have hline : problem.Describes line (.vector (objective :: constraints), number) :=
    ⟨objective, constraints, n, tolerances, summary, rfl, hn, ht, hcheck, rfl⟩
  refine ⟨line, { s with
    messages := s.messages ++
      ((if Account.headerInterval ∣ s.hidden.account.lines.length
        then [⟨.algorithm, .info, Account.header⟩] else []) ++
        [⟨.algorithm, .info, Account.lineText line⟩])
    hidden.account.lines := s.hidden.account.lines ++ [line] }, hline, ?_, ?_⟩
  · simp only [Account.reportLine, runOn_bind, runOn_liftExcept, Tensor.rest_vector, List.tail_cons,
      hn', ht', hcheck, runOn_get]
    by_cases hheader : Account.headerInterval ∣ s.hidden.account.lines.length
    · have hmod : (s.hidden.account.lines.length % Account.headerInterval == 0) = true := by
        simpa using Nat.mod_eq_zero_of_dvd hheader
      simp [hmod, hheader, Account.say, runOn_bind, line]
    · have hmod : (s.hidden.account.lines.length % Account.headerInterval == 0) = false := by
        simpa using fun h => hheader (Nat.dvd_of_mod_eq_zero h)
      simp [hmod, hheader, Account.say, runOn_bind, line]
  · by_cases hheader : Account.headerInterval ∣ s.hidden.account.lines.length
    · simp [Session.booking, Speaker.texts, hheader]
    · simp [Session.booking, Speaker.texts, hheader]

/-- One more evaluation, whatever comes of it. -/
lemma tally_evaluate {before : Booking} {evaluations : List Evaluation}
    {x : List Float} {outcome : Except Fault Tensor} {s s' : Session (Accounted (Watched ω))}
    (tally : Tally problem before s.booking evaluations [] [])
    (h : (Account.evaluate problem.watched x).runOn s = (outcome, s')) :
    Tally problem before s'.booking (evaluations ++ [⟨x, outcome⟩]) [] [] := by
  rw [Account.evaluate, runOn_bind, Session.runOn_watched_fitness] at h
  rcases hf : (problem.fitness x).runOn s.hidden.hidden.hidden with ⟨fault | f, v⟩
  · rw [hf] at h
    cases h
    exact tally.failed x fault
  · rw [hf] at h
    simp only [runOn_bind, runOn_modify, runOn_get] at h
    by_cases hdue : Account.isReported s.hidden.settings.verbosity
        (s.hidden.account.evaluations + 1) = true
    · rw [if_pos hdue, runOn_bind] at h
      obtain ⟨line, s'', hline, hreport, hbooking⟩ := runOn_reportLine sized single hm hn hf
        (s.hidden.account.evaluations + 1) _
      rw [hreport] at h
      cases h
      rw [hbooking]
      exact tally.reported x hdue hline
    · rw [if_neg hdue] at h
      cases h
      exact tally.counted x f (Bool.eq_false_iff.mpr hdue)

end

/-! ## The evaluations of a loop -/

/-- While a loop goes on, there has been an evaluation for each change of the decision vector that was
asked for, all of them are completed, and the last change is remembered. -/
def Tallying (problem : Problem ω) (before : Booking) (past : List (List Float))
    (r : Running (Accounted (Watched ω))) : Prop :=
  ∃ evaluations, evaluations.map Evaluation.point = Memo.changes past ∧
    (∀ v ∈ evaluations, v.Completed) ∧
    Tally problem before r.session.booking evaluations [] [] ∧ r.memo.Remembers past

/-- When it is over, the last evaluation may not be completed. -/
def Tallied (problem : Problem ω) (before : Booking) (past : List (List Float))
    (r : Running (Accounted (Watched ω))) : Prop :=
  ∃ evaluations, evaluations.map Evaluation.point = Memo.changes past ∧
    (∀ v ∈ evaluations.dropLast, v.Completed) ∧
    Tally problem before r.session.booking evaluations [] []

/-- A listener that leaves the diary and the verbosity alone and does not speak for the algorithm,
if the library that it is handed leaves the diary alone. -/
def Algorithm.Listener.Discreet (listener : Algorithm.Listener (Watched ω)) : Prop :=
  ∀ L : Library (Watched ω), L.Discreet → (listener (Steered.library L)).Keeps (Same fun s =>
    (s.hidden.hidden.diary, s.hidden.settings.verbosity, Speaker.algorithm.texts s.messages))

section

variable {problem : Problem ω} {before : Booking} {past : List (List Float)}
  {r r' : Running (Accounted (Watched ω))}

lemma Tallying.tallied (h : Tallying problem before past r) :
    Tallied problem before past r := by
  obtain ⟨evaluations, hpoints, hcompleted, htally, -⟩ := h
  exact ⟨evaluations, hpoints, fun v hv => hcompleted v (List.mem_of_mem_dropLast hv), htally⟩

lemma Tallying.congr (h : Tallying problem before past r)
    (hbooking : r'.session.booking = r.session.booking) (hpoint : r'.memo.point = r.memo.point)
    (hfitness : r'.memo.fitness = r.memo.fitness) : Tallying problem before past r' := by
  obtain ⟨evaluations, hpoints, hcompleted, htally, hremembers⟩ := h
  exact ⟨evaluations, hpoints, hcompleted, hbooking ▸ htally, hremembers.congr hpoint hfitness⟩

/-- What cannot be seen of a session leaves it as it is. -/
lemma maintains_tallying {α : Type} {a : Action (Session (Accounted (Watched ω))) α}
    (ha : a.Keeps (Same Session.booking)) (past : List (List Float)) :
    (Loop.onSession a).Maintains (Tallying problem before past)
      (Tallied problem before past) := by
  refine Keeps.maintains (fun r hr => ?_) fun r hr => hr.tallied
  exact hr.congr (ha r.session) rfl rfl

lemma keeps_report {a : Algorithm (Watched ω)}
    (listeners : ∀ listener ∈ a.listener, listener.Discreet) {L : Library (Watched ω)}
    (discreet : L.Discreet) :
    ∀ b ∈ (Evolution.service a problem.watched L).report, b.Keeps (Same Session.booking) := by
  intro b hb
  obtain ⟨listener, hlistener, rfl⟩ := Option.map_eq_some_iff.mp hb
  refine (listeners listener hlistener L discreet).zoom fun s t ht => ?_
  obtain ⟨hdiary, hrest⟩ := Prod.mk.inj ht
  obtain ⟨hverbosity, htexts⟩ := Prod.mk.inj hrest
  simp only [Same, Session.booking, Accounted.steer, hdiary, hverbosity, htexts]
  rfl

end

namespace Evolution

section

variable {problem : Problem ω} (sized : problem.Sized) (single : problem.objectiveCount = .ok 1)
  {m n : ℤ} (hm : problem.constraintCount = .ok m) (hn : problem.equalityCount = .ok n)
  (a : Algorithm (Watched ω)) (L : Library (Watched ω)) (before : Booking)
include sized single hm hn

/-- A decision vector that is asked for is evaluated, unless it repeats the one before. -/
lemma tracks_evaluate :
    (Loop.evaluate (service a problem.watched L)).Tracks
      (Tallying problem before) (Tallied problem before)
      Loop.point := by
  intro past r hr
  have htallied := hr.tallied
  rw [Loop.runOn_evaluate, Loop.point]
  cases r.session.buffer .decision with
  | error fault =>
    dsimp only
    refine ⟨fun f v h => ?_, fun fault' v h => ?_⟩
    · cases h
    · cases h
      simpa using htallied
  | ok x =>
    obtain ⟨evaluations, hpoints, hcompleted, htally, hremembers⟩ := hr
    have hfind := hremembers x
    have hchanges := Memo.changes_concat past x
    dsimp only
    cases hmemo : r.memo.find? x with
    | some f =>
      have hrepeats : Memo.repeats past x = true := by simpa [hmemo] using hfind.symm
      rw [if_pos hrepeats] at hchanges
      refine ⟨fun f' v h => ?_, fun fault v h => ?_⟩
      · cases h
        exact ⟨evaluations, hpoints.trans hchanges.symm, hcompleted, htally,
          hremembers.concat hrepeats⟩
      · cases h
    | none =>
      have hnew : Memo.repeats past x = false := by simpa [hmemo] using hfind.symm
      rw [hnew, if_neg (by decide)] at hchanges
      have hpoint : ∀ outcome, (evaluations ++ [Evaluation.mk x outcome]).map Evaluation.point =
          Memo.changes (past ++ [x]) := by
        intro outcome
        simp [hpoints, hchanges]
      dsimp only
      rcases hrun : ((service a problem.watched L).fitness x).runOn r.session with ⟨fault | f, s⟩
      · have hlast := tally_evaluate sized single hm hn htally hrun
        refine ⟨fun f v h => ?_, fun fault' v h => ?_⟩
        · cases h
        · cases h
          exact ⟨_, hpoint _, by simpa using hcompleted, hlast⟩
      · have hlast := tally_evaluate sized single hm hn htally hrun
        have hall : ∀ v ∈ evaluations ++ [Evaluation.mk x (.ok f)], v.Completed := by
          intro v hv
          rcases List.mem_append.mp hv with hv | hv
          · exact hcompleted v hv
          · rw [List.mem_singleton.mp hv]
            exact ⟨f, rfl⟩
        refine ⟨fun f' v h => ?_, fun fault v h => ?_⟩
        · cases h
          exact ⟨_, hpoint _, hall, hlast, Memo.remembers_evaluated past x f _⟩
        · cases h

/-- What is seen of a solve is tracked by its loop. -/
lemma tracked_service (listeners : ∀ listener ∈ a.listener, listener.Discreet)
    (discreet : L.Discreet) :
    Loop.Tracked (Accounted.library L) (service a problem.watched L)
      (Loop.evaluate (service a problem.watched L))
      (Tallying problem before)
      (Tallied problem before) where
  call c _ past := maintains_tallying (Session.keeps_call_booking discreet c) past
  memory _ _ _ hr := hr.congr rfl rfl rfl
  report b hb past := maintains_tallying (keeps_report listeners discreet b hb) past
  evaluation := tracks_evaluate sized single hm hn a L before
  count _ _ hr := hr.congr rfl rfl rfl
  fault _ _ hr := hr.tallied

end

end Evolution

end ReverseComm
