import ReverseComm.Proofs.Evolution.Closing

/-!
# Calls after the release

The callback that reports iterations may finalize the session that it is handed.  What the loop does
then is up to the callback.  If it raises a fault, the loop is over, and nothing follows the release
(`nothing_after_release`), whatever else the callback has done with the session.  If it returns, the
loop goes on with memory that has been released: it acknowledges the request, and polls for the next
ones (`calls_after_release`).  Only those requests are refused that look at a buffer.
-/

namespace ReverseComm

open ReverseComm.Action
open Session (Handled Defers Ledgered Operation)

variable {ω : Type}

namespace Session

/-- An operation whose callback handles the session, and lets the loop go on with it only if it has
not finalized it. -/
def Operation.Careful (L : Library ω) (screenOutput : Bool) : Operation ω → Prop
  | .run _ report _ _ => ∀ a ∈ report, Handled False L screenOutput a ∧ Defers a
  | _ => True

lemma keeps_perform_ledgered {L : Library ω} {screenOutput : Bool} {op : Operation ω}
    (careful : op.Careful L screenOutput) :
    (op.perform L screenOutput).Keeps (Preserving Ledgered) := by
  cases op with
  | run fitness report memo budget =>
    have hendures : Endures L screenOutput { a | a ∈ report } Ledgered :=
      endures_ledgered (fun a ha => (careful a ha).1) fun a ha => (careful a ha).2
    exact hendures.keeps_run fitness memo budget
  | preInit | readParams | declare | init | seed | finalize | buffer | leave =>
    exact upheld_ledgered.perform _ trivial

lemma ledgered_after {L : Library ω} {screenOutput : Bool} {ops : List (Operation ω)}
    (careful : ∀ op ∈ ops, op.Careful L screenOutput) {s : Session (Recorded ω)}
    (hs : Ledgered s) : Ledgered (after L screenOutput s ops) := by
  induction ops generalizing s with
  | nil => exact hs
  | cons op ops ih =>
    have hop := keeps_perform_ledgered (careful op List.mem_cons_self) s hs
    exact ih (fun op hop => careful op (List.mem_cons_of_mem _ hop)) hop

end Session

namespace Evolution

lemma ledgered_start (messages : List Message) {w : Recorded ω} (h : w.entries = ([], [])) :
    Ledgered (Session.start messages w) := by
  have hreplies : (Session.start messages w).hidden.replies = [] := Recorded.replies_eq_nil h
  rw [Ledgered, hreplies]
  exact .early (show 0 < 4 by decide) (by simp)

lemma orderly_of_concludes {w : Recorded ω} (h : Concludes (Ledgered (ω := ω)) w.entries) :
    Session.Orderly w.replies := by
  obtain ⟨s, ledgered, -, hrecord⟩ := h
  have hreplies : w.replies = s.hidden.replies := Recorded.replies_congr (Prod.mk.inj hrecord).1
  rw [hreplies]
  exact ledgered.orderly

/-- **Nothing follows the release.**  Callbacks may carry out any operations of the session that
they are handed, and raise faults.  If they do not return with a session that they have finalized,
the calls of every session and of every call of `evolve` are in order: the memory is released once
at most, and no call follows. -/
theorem nothing_after_release (screenOutput : Bool) :
    (∀ (L : Library ω) (messages : List Message) (w : ω) (ops : List (Operation ω)),
      (∀ op ∈ ops, op.Careful L screenOutput) →
      Session.Orderly
        (Session.after L screenOutput (Session.fresh messages w) ops).hidden.replies) ∧
    ∀ (env : Surroundings ω) (problem : Problem ω) (e : Evolution (Recorded ω)),
      e.hidden.entries = ([], []) → e.algorithm.settings.screenOutput = screenOutput →
      (∀ L : Library ω, ∀ a ∈ e.algorithm.reports L, Handled False L screenOutput a ∧ Defers a) →
      Session.Orderly
        ((evolve env.recorded problem.recorded).runOn e).2.hidden.replies := by
  constructor
  · intro L messages w ops careful
    have hend : Ledgered (Session.after L screenOutput (Session.fresh messages w) ops) :=
      Session.ledgered_after careful (Session.ledger_fresh messages w)
    exact hend.orderly
  · rintro env problem e fresh rfl careful
    have hendures : ∀ L : Library ω, Session.Endures L e.algorithm.settings.screenOutput
        (e.algorithm.reports L) Ledgered := fun L =>
      Session.endures_ledgered (fun a ha => (careful L a ha).1) fun a ha => (careful L a ha).2
    have hstart : ∀ messages (w : Recorded ω), w.entries = e.hidden.entries →
        Ledgered (Session.start messages w) :=
      fun messages w h => ledgered_start messages (h.trans fresh)
    have hempty : ∀ w : Recorded ω, w.entries = ([], []) → Session.Orderly w.replies := by
      intro w h
      have hledger : Ledgered (Session.start [] w) := ledgered_start [] h
      exact hledger.orderly
    rcases record_of_evolve env problem hendures hstart with ⟨-, hsame⟩ | ⟨-, hasked⟩
    · exact hempty _ (hsame.trans fresh)
    · rcases hasked with ⟨-, hsame⟩ | ⟨-, hconcludes⟩
      · exact hempty _ (hsame.trans fresh)
      · exact orderly_of_concludes hconcludes

/-- Finalize the session, and break off. -/
def interrupt (L : Library ω) : Action (Session ω) Unit := do
  Session.finalize L
  throw (.run (.external "interrupted"))

lemma handled_interrupt (L : Library ω) (screenOutput : Bool) :
    Handled False L screenOutput (interrupt (Recorded.library L)) := by
  intro s inside
  have hend : id ((interrupt (Recorded.library L)).runOn s).2 =
      id ((Session.finalize (Recorded.library L)).runOn s).2 :=
    view_runOn_bind _ (fun _ => keeps_throw _) s
  have hstate : ((interrupt (Recorded.library L)).runOn s).2 =
      ((Session.finalize (Recorded.library L)).runOn s).2 := hend
  rw [hstate]
  exact .single (.perform .finalize s)

lemma defers_interrupt (L : Library ω) : Defers (interrupt (Recorded.library L)) := by
  intro s s' _ h
  obtain ⟨_, _, -, hthrow⟩ := runOn_bind_eq_ok_iff.mp h
  cases hthrow

/-- Next to settings it does the same. -/
lemma alongside_interrupt (settings : Settings) (L : Library ω) (s : Session ω) :
    (Session.alongside settings (interrupt (Steered.library L))).runOn s =
      (interrupt L).runOn s := by
  have hinterrupt : Session.Agrees Steered.hidden (interrupt (Steered.library L)) (interrupt L) :=
    (Session.agrees_finalize (Session.agrees_call (fun _ _ => rfl) L)).bind fun _ =>
      Session.agrees_throw _
  exact hinterrupt.runOn_within (fun _ => rfl) s

/-- The evolution of that population with a caller that finalizes the session and breaks off. -/
def interruptedEvolution : Evolution (Recorded Unit) :=
  { finalizingEvolution with
    algorithm := { finalizingEvolution.algorithm with listener := some interrupt } }

/-- The calls up to the report of an iteration, in a session or in a call of `evolve`, and the two
by which a callback finalizes the session. -/
def callsToRelease : List Call :=
  [.preInit, .readParams defaultParamFile, .init, .getUserAction .solverStep, .step,
    .getUserAction .reportIteration, .statusMessage, .free]

/-- A course of a session that reports to a callback. -/
def reportingCourse (report : Action (Session (Recorded Unit)) Unit) : List (Operation Unit) :=
  [.preInit, .readParams Session.briefHost none, .declare (.ok 0) (.ok 0), .init,
    .seed (.vector []) (.vector [2]) (.vector []) (.vector []) (.ok 0),
    .run (fun _ => pure (.vector [2])) (some report) .blank 1, .leave]

/-- A callback that finalizes the session and breaks off makes the last calls. -/
theorem nothing_after_release_interrupted :
    (∀ op ∈ reportingCourse (interrupt (Recorded.library (.reporting []))),
      op.Careful (.reporting []) false) ∧
    (Session.after (.reporting []) false (Session.fresh [] ())
      (reportingCourse (interrupt (Recorded.library (.reporting []))))).hidden.replies.map
        Reply.call = callsToRelease ∧
    Session.Orderly (Session.after (.reporting []) false (Session.fresh [] ())
      (reportingCourse (interrupt (Recorded.library (.reporting []))))).hidden.replies ∧
    ((evolve (Surroundings.ofLibrary (.reporting [-1]) 1).recorded
      rootProblem.recorded).runOn interruptedEvolution).2.hidden.replies.map Reply.call =
        callsToRelease ∧
    Session.Orderly ((evolve (Surroundings.ofLibrary (.reporting [-1]) 1).recorded
      rootProblem.recorded).runOn interruptedEvolution).2.hidden.replies := by
  have hcareful : ∀ op ∈ reportingCourse (interrupt (Recorded.library (.reporting []))),
      op.Careful (.reporting []) false := by
    intro op hop
    simp only [reportingCourse, List.mem_cons, List.not_mem_nil, or_false] at hop
    rcases hop with rfl | rfl | rfl | rfl | rfl | rfl | rfl
    case inr.inr.inr.inr.inr.inl =>
      rintro a ⟨⟩
      exact ⟨handled_interrupt _ _, defers_interrupt _⟩
    all_goals trivial
  refine ⟨hcareful, by decide +kernel, ?_, by decide +kernel, ?_⟩
  · exact (nothing_after_release false).1 (.reporting []) [] () _ hcareful
  · refine (nothing_after_release false).2 (.ofLibrary (.reporting [-1]) 1) rootProblem
      interruptedEvolution rfl rfl ?_
    rintro L a ⟨listener, ⟨⟩, settings, rfl⟩
    refine ⟨fun s inside => ?_, fun s s' hstage h => ?_⟩
    · rw [alongside_interrupt]
      exact handled_interrupt L false s inside
    · rw [alongside_interrupt] at h
      exact defers_interrupt L s s' hstage h

/-- A callback that finalizes the session and returns does not: its request is acknowledged, and the
round goes on, with memory that has been released. -/
theorem calls_after_release :
    (∀ L : Library Unit, ∀ a ∈ finalizingEvolution.algorithm.reports L, Handled False L false a) ∧
    ((evolve (Surroundings.ofLibrary (.reporting [-1]) 1).recorded
      rootProblem.recorded).runOn finalizingEvolution).2.hidden.replies.map Reply.call =
        callsToRelease ++ [.doneUserAction .reportIteration, .getUserAction .objective,
          .getUserAction .constraints, .getUserAction .finiteDifference] :=
  ⟨fun L => handled_finalizing False L false, by decide +kernel⟩

end Evolution

end ReverseComm
