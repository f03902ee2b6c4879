import ReverseComm.Proofs.Evolution.Replacement
import ReverseComm.Proofs.Evolution.Solve

/-!
# Closing the library

A call of `evolve` that loads a library closes it exactly once, after everything else it asks of it,
and after the release of a solver that had been initialized.  This does not depend on what raises a
fault, be it the solver, the fitness, the callback, or the release itself; and the callback may do
with the session and the solver whatever it likes, as long as it does not close the library itself.

There is one exception.  The bounds of the problem are looked at after the library has been loaded,
and before anything is ensured: if the problem fails to name them, the library stays open
(`left_open_without_bounds`).
-/

namespace ReverseComm

open ReverseComm.Action
open Session (Handled SettledSince)

variable {ω : Type}

namespace Recorded

/-- The library has been closed once, when all calls had been made, and a solver that was
initialized has been released among them. -/
structure Closed (w : Recorded ω) : Prop where
  once : w.closings = [w.calls.length]
  released : (∃ r ∈ w.replies, r.initializes = true) → ∃ r ∈ w.replies, r.releases = true

end Recorded

namespace Evolution

/-- A solver that is settled when its session has been left, is released when its library is
closed. -/
lemma closed_of_concludes {w : Recorded ω} (h : Concludes (SettledSince (ω := ω) []) w.entries) :
    w.Closed := by
  obtain ⟨s, ⟨settled, hclosings⟩, hstage, hrecord⟩ := h
  obtain ⟨hcalls, hclosed⟩ := Prod.mk.inj hrecord
  have hreplies : w.replies = s.hidden.replies := Recorded.replies_congr hcalls
  refine ⟨?_, fun hinit => ?_⟩
  · rw [hclosed, hcalls, hclosings]
    rfl
  · rw [hreplies] at hinit ⊢
    exact settled.releases hstage hinit

/-- In a session that starts with an empty record, the solver is settled. -/
lemma settledSince_start (messages : List Message) {w : Recorded ω} (h : w.entries = ([], [])) :
    SettledSince [] (Session.start messages w) := by
  have hreplies : (Session.start messages w).hidden.replies = [] := Recorded.replies_eq_nil h
  refine ⟨⟨?_, nofun⟩, congrArg Prod.snd h⟩
  rintro ⟨r, hr, -⟩
  rw [hreplies] at hr
  cases hr

/-- **The library is closed.**  Where evolving gets as far as a library, and the problem names its
bounds, the library is closed, whatever comes of the call.  If the problem fails to name its bounds,
nothing has been asked of the library, and it has not been closed either.  Where evolving gets as
far as no library, nothing is asked of any. -/
theorem library_closed (env : Surroundings ω) (problem : Problem ω) (e : Evolution (Recorded ω))
    (fresh : e.hidden.entries = ([], []))
    (handled : ∀ L : Library ω, ∀ a ∈ e.algorithm.reports L,
      Handled True L e.algorithm.settings.screenOutput a) :
    let e' := ((evolve env.recorded problem.recorded).runOn e).2
    (Loads env.recorded problem.recorded e →
      (∀ bounds, problem.bounds = .ok bounds → e'.hidden.Closed) ∧
      ∀ fault, problem.bounds = .error fault → e'.hidden.entries = ([], [])) ∧
    (¬ Loads env.recorded problem.recorded e → e'.hidden.entries = ([], [])) := by
  intro e'
  have hendures : ∀ L : Library ω, Session.Endures L e.algorithm.settings.screenOutput
      (e.algorithm.reports L) (SettledSince []) :=
    fun L => Session.endures_settledSince (handled L) []
  have hstart : ∀ messages (w : Recorded ω), w.entries = e.hidden.entries →
      SettledSince [] (Session.start messages w) :=
    fun messages w h => settledSince_start messages (h.trans fresh)
  rcases record_of_evolve env problem hendures hstart with ⟨hloads, hsame⟩ | ⟨hloads, hasked⟩
  · exact ⟨fun h => absurd h hloads, fun _ => hsame.trans fresh⟩
  · refine ⟨fun _ => ⟨fun bounds hbounds => ?_, fun fault hbounds => ?_⟩, fun h => absurd hloads h⟩
    · rcases hasked with ⟨⟨fault, hfault⟩, -⟩ | ⟨-, hconcludes⟩
      · rw [hbounds] at hfault
        cases hfault
      · exact closed_of_concludes hconcludes
    · rcases hasked with ⟨-, hsame⟩ | ⟨⟨bounds, hnamed⟩, -⟩
      · exact hsame.trans fresh
      · rw [hbounds] at hnamed
        cases hnamed

/-- The evolution of that population with a caller that finalizes the session when it is told of an
iteration. -/
def finalizingEvolution : Evolution (Recorded Unit) where
  algorithm := ⟨.default, ⟨0, 1, none⟩, some fun L => Session.finalize L, .blank⟩
  population := rootEvolution.population
  coordinator := .fresh
  messages := []
  hidden := .start ()

lemma handled_finalizing (direct : Prop) (L : Library Unit) (screenOutput : Bool) :
    ∀ a ∈ finalizingEvolution.algorithm.reports L, Handled direct L screenOutput a := by
  rintro a ⟨listener, ⟨⟩, settings, rfl⟩ s inside
  have hfinalize : Session.Agrees Steered.hidden (Session.finalize (Steered.library
      (Recorded.library L))) (Session.finalize (Recorded.library L)) :=
    Session.agrees_finalize (Session.agrees_call (fun _ _ => rfl) _)
  rw [Session.alongside, hfinalize.runOn_within fun _ => rfl]
  exact .single (.perform .finalize s)

/-- Even where the caller finalizes the session, and the loop goes on with it, the library is closed
after all calls, and the solver is released. -/
theorem library_closed_finalizing :
    let e' := ((evolve (Surroundings.ofLibrary (.reporting [-1]) 1).recorded
      rootProblem.recorded).runOn finalizingEvolution).2
    Loads (Surroundings.ofLibrary (.reporting [-1]) 1).recorded rootProblem.recorded
        finalizingEvolution ∧
      e'.hidden.closings = [12] ∧ e'.hidden.Closed := by
  have hloads : Loads (Surroundings.ofLibrary (.reporting [-1]) 1).recorded rootProblem.recorded
      finalizingEvolution := by decide +kernel
  have hclosed := library_closed (.ofLibrary (.reporting [-1]) 1) rootProblem finalizingEvolution
    rfl fun L => handled_finalizing True L _
  exact ⟨hloads, by decide +kernel, (hclosed.1 hloads).1 _ rfl⟩

/-- A problem that fails to name its bounds. -/
def unboundedProblem : Problem Unit :=
  { rootProblem with bounds := .error (.run (.external "no bounds")) }

/-- Such a problem leaves the library open. -/
theorem left_open_without_bounds :
    Loads (Surroundings.ofLibrary (.reporting [-1]) 1).recorded unboundedProblem.recorded
        finalizingEvolution ∧
      ((evolve (Surroundings.ofLibrary (.reporting [-1]) 1).recorded
        unboundedProblem.recorded).runOn finalizingEvolution).2.hidden.closings = [] := by
  decide +kernel

end Evolution

end ReverseComm
