import Mathlib.Data.List.Forall2
import ReverseComm.Proofs.Loop.Frame

/-!
# The protocol of the loop

A solver may raise and clear any flag and change its status at every call, so what the loop does is a
matter of what it is answered.  This module says which sequences of calls can come about.

A `Step` is one thing that a round does, with what came of it, and `Leads` ties a step to the action
that it is about: the step happens between two states exactly if that action, run on the first, comes
to that outcome and leaves the second.  A `Path` is a sequence of steps.

* `Dealt` and `Broken` are the steps of one request: dealt with, or broken off by a fault.
* `AllDealt` and `CutShort` are those of some requests in turn.
* `Rounds` are complete rounds, each of which started while the solver was iterating, and `Ending`
  is how a loop ends after them.

`poll_path`, `forM_poll_path`, `round_path` and `rounds_path` take the loop apart into these, by an
induction over the rounds and, inside, one over the requests of a round.  They hold for every library,
every service and every evaluation.

On a recorded library each step adds the calls that it makes (`Step.replies`) to the record, if what
serves the solver makes no calls itself; hence `calls_of_drive`, the protocol as a property of the
calls.

The budget stands in for the patience of the caller: `rounds_of_budget_le` shows that a loop which
its budget did not end does not depend on it.
-/

namespace ReverseComm.Loop

open ReverseComm.Action

variable {ω : Type}

/-! ## Steps and paths -/

/-- What a round is made of: polling for a request, serving it, and acknowledging it, each with what
came of it. -/
inductive Step where
  | poll (request : Request) (outcome : Except Fault Bool)
  | serve (request : Request) (outcome : Except Fault Unit)
  | acknowledge (request : Request) (outcome : Except Fault Unit)

/-- A step leads from a state to another one: the action that the step is about, run on the first
state, comes to the outcome of the step and leaves the second one. -/
inductive Leads (L : Library ω) (service : Service ω) (evaluation : Action (Running ω) Tensor) :
    Running ω → Step → Running ω → Prop
  | poll {a outcome r r'}
      (h : (onSession (Session.call L (.getUserAction a))).runOn r = (outcome, r')) :
      Leads L service evaluation r (.poll a outcome) r'
  | serve {a outcome r r'} (h : (serve L service evaluation a).runOn r = (outcome, r')) :
      Leads L service evaluation r (.serve a outcome) r'
  | acknowledge {a outcome r r'}
      (h : (onSession (Session.call L (.doneUserAction a))).runOn r = (outcome, r')) :
      Leads L service evaluation r (.acknowledge a outcome) r'

/-- Steps that follow each other, each from the state that the one before it left. -/
inductive Path (L : Library ω) (service : Service ω) (evaluation : Action (Running ω) Tensor) :
    Running ω → List Step → Running ω → Prop
  | nil (r) : Path L service evaluation r [] r
  | cons {r step v steps r'} (head : Leads L service evaluation r step v)
      (tail : Path L service evaluation v steps r') :
      Path L service evaluation r (step :: steps) r'

lemma Path.append {L : Library ω} {service : Service ω} {evaluation : Action (Running ω) Tensor}
    {r v r' : Running ω} {first second : List Step} (h : Path L service evaluation r first v)
    (h' : Path L service evaluation v second r') :
    Path L service evaluation r (first ++ second) r' := by
  induction h with
  | nil => exact h'
  | cons head _ ih => exact .cons head (ih h')

/-! ## Rounds as sequences of steps -/

/-- The steps of a request that has been dealt with: it is served if the poll says so, and then
acknowledged if the caller has to. -/
inductive Dealt (a : Request) : List Step → Prop
  | clear : Dealt a [.poll a (.ok false)]
  | served (h : a.acknowledged = false) : Dealt a [.poll a (.ok true), .serve a (.ok ())]
  | acknowledged (h : a.acknowledged = true) :
      Dealt a [.poll a (.ok true), .serve a (.ok ()), .acknowledge a (.ok ())]

/-- The steps of a request at which a fault broke off. -/
inductive Broken (a : Request) (fault : Fault) : List Step → Prop
  | poll : Broken a fault [.poll a (.error fault)]
  | serve : Broken a fault [.poll a (.ok true), .serve a (.error fault)]
  | acknowledge (h : a.acknowledged = true) :
      Broken a fault [.poll a (.ok true), .serve a (.ok ()), .acknowledge a (.error fault)]

/-- The steps of some requests in turn, all of which have been dealt with. -/
def AllDealt (requests : List Request) (steps : List Step) : Prop :=
  ∃ parts, List.Forall₂ Dealt requests parts ∧ steps = parts.flatten

/-- The steps of some requests in turn, up to the one at which a fault broke off. -/
def CutShort (requests : List Request) (fault : Fault) (steps : List Step) : Prop :=
  ∃ done a rest first last, requests = done ++ a :: rest ∧ AllDealt done first ∧
    Broken a fault last ∧ steps = first ++ last

lemma AllDealt.nil : AllDealt [] [] := ⟨[], .nil, rfl⟩

lemma AllDealt.cons {a : Request} {requests : List Request} {first rest : List Step}
    (h : Dealt a first) (h' : AllDealt requests rest) :
    AllDealt (a :: requests) (first ++ rest) := by
  obtain ⟨parts, hparts, rfl⟩ := h'
  exact ⟨first :: parts, .cons h hparts, rfl⟩

lemma CutShort.head {a : Request} {requests : List Request} {fault : Fault} {steps : List Step}
    (h : Broken a fault steps) : CutShort (a :: requests) fault steps :=
  ⟨[], a, requests, [], steps, rfl, .nil, h, rfl⟩

lemma CutShort.cons {a : Request} {requests : List Request} {fault : Fault}
    {first rest : List Step} (h : Dealt a first) (h' : CutShort requests fault rest) :
    CutShort (a :: requests) fault (first ++ rest) := by
  obtain ⟨done, b, others, before, last, rfl, hdone, hlast, rfl⟩ := h'
  exact ⟨a :: done, b, others, first ++ before, last, rfl, .cons h hdone, hlast,
    (List.append_assoc ..).symm⟩

/-! ## What a round takes -/

section

variable {L : Library ω} {service : Service ω} {evaluation : Action (Running ω) Tensor}

/-- Polling for a request takes the steps of a request that is dealt with, or broken off. -/
lemma poll_path {a : Request} {r r' : Running ω} {outcome : Except Fault Unit}
    (h : (poll L service evaluation a).runOn r = (outcome, r')) :
    ∃ steps, Path L service evaluation r steps r' ∧
      (outcome = .ok () ∧ Dealt a steps ∨ ∃ fault, outcome = .error fault ∧ Broken a fault steps) := by
  rcases runOn_bind_cases h with ⟨fault, hpoll, rfl⟩ | ⟨raised, v, hpoll, h⟩
  · exact ⟨_, .cons (.poll hpoll) (.nil _), .inr ⟨fault, rfl, .poll⟩⟩
  cases raised with
  | false =>
    cases h
    exact ⟨_, .cons (.poll hpoll) (.nil _), .inl ⟨rfl, .clear⟩⟩
  | true =>
    rw [if_pos rfl] at h
    rcases runOn_bind_cases h with ⟨fault, hserve, rfl⟩ | ⟨_, u, hserve, h⟩
    · exact ⟨_, .cons (.poll hpoll) (.cons (.serve hserve) (.nil _)), .inr ⟨fault, rfl, .serve⟩⟩
    by_cases hack : a.acknowledged = true
    · rw [if_pos hack] at h
      refine ⟨_, .cons (.poll hpoll) (.cons (.serve hserve) (.cons (.acknowledge h) (.nil _))), ?_⟩
      cases outcome with
      | error fault => exact .inr ⟨fault, rfl, .acknowledge hack⟩
      | ok _ => exact .inl ⟨rfl, .acknowledged hack⟩
    · rw [if_neg hack] at h
      cases h
      have hnot : a.acknowledged = false := by simpa using hack
      exact ⟨_, .cons (.poll hpoll) (.cons (.serve hserve) (.nil _)), .inl ⟨rfl, .served hnot⟩⟩

/-- Polling for several requests takes their steps in turn. -/
lemma forM_poll_path {requests : List Request} {r r' : Running ω} {outcome : Except Fault Unit}
    (h : (requests.forM (poll L service evaluation)).runOn r = (outcome, r')) :
    ∃ steps, Path L service evaluation r steps r' ∧
      (outcome = .ok () ∧ AllDealt requests steps ∨
        ∃ fault, outcome = .error fault ∧ CutShort requests fault steps) := by
  induction requests generalizing r with
  | nil =>
    cases h
    exact ⟨[], .nil _, .inl ⟨rfl, .nil⟩⟩
  | cons a requests ih =>
    change (poll L service evaluation a >>= fun _ => requests.forM _).runOn r = _ at h
    rcases runOn_bind_cases h with ⟨fault, hpoll, rfl⟩ | ⟨_, v, hpoll, h⟩
    · obtain ⟨steps, hpath, hsteps⟩ := poll_path hpoll
      rcases hsteps with ⟨hf, -⟩ | ⟨fault', hf, hbroken⟩
      · cases hf
      · exact ⟨steps, hpath, .inr ⟨fault', hf, .head hbroken⟩⟩
    · obtain ⟨first, hfirst, hdealt⟩ := poll_path hpoll
      obtain ⟨rest, hrest, hsteps⟩ := ih h
      refine ⟨first ++ rest, hfirst.append hrest, ?_⟩
      rcases hdealt with ⟨-, hdealt⟩ | ⟨fault, hf, -⟩
      · rcases hsteps with ⟨ho, hsteps⟩ | ⟨fault, ho, hsteps⟩
        · exact .inl ⟨ho, .cons hdealt hsteps⟩
        · exact .inr ⟨fault, ho, .cons hdealt hsteps⟩
      · cases hf

/-- Does the status of a session lie strictly between the thresholds of a library? -/
def Iterating (L : Library ω) (r : Running ω) : Prop :=
  L.errorThreshold < r.session.memory.status.toInt ∧
    r.session.memory.status.toInt < L.successThreshold

lemma iterating_iff {r : Running ω} :
    r.session.termination L = .running ↔ Iterating L r :=
  Termination.ofStatus_eq_running_iff

/-- Rounds that follow each other.  Each starts while the solver is iterating, deals with all
requests in their order, and is counted at its end. -/
inductive Rounds (L : Library ω) (service : Service ω) (evaluation : Action (Running ω) Tensor) :
    Running ω → List (List Step) → Running ω → Prop
  | none (r) : Rounds L service evaluation r [] r
  | more {r steps v rounds r'} (start : Iterating L r) (path : Path L service evaluation r steps v)
      (complete : AllDealt Request.all steps)
      (rest : Rounds L service evaluation { v with memo.rounds := v.memo.rounds + 1 } rounds r') :
      Rounds L service evaluation r (steps :: rounds) r'

/-- How the rounds of a loop end: with the solver's termination between two rounds, with a fault
within a round that had started, or with the budget used up. -/
inductive Ending (L : Library ω) (budget : Nat) (v : Running ω) :
    Except Fault Unit → List (List Step) → List Step → Prop
  | terminated {rounds} (h : ¬ Iterating L v) : Ending L budget v (.ok ()) rounds []
  | broken {fault rounds steps} (h : Iterating L v) (cut : CutShort Request.all fault steps) :
      Ending L budget v (.error fault) rounds steps
  | exhausted {rounds} (h : Iterating L v) (spent : rounds.length = budget) :
      Ending L budget v (.error (.run .roundsExhausted)) rounds []

/-- A round takes the steps of all requests in their order, and is counted if it is complete. -/
lemma round_path {r r' : Running ω} {outcome : Except Fault Unit}
    (h : (round L service evaluation).runOn r = (outcome, r')) :
    ∃ steps v, Path L service evaluation r steps v ∧
      (outcome = .ok () ∧ AllDealt Request.all steps ∧
          r' = { v with memo.rounds := v.memo.rounds + 1 } ∨
        ∃ fault, outcome = .error fault ∧ CutShort Request.all fault steps ∧ r' = v) := by
  rcases runOn_bind_cases h with ⟨fault, hforM, rfl⟩ | ⟨_, v, hforM, hcount⟩
  · obtain ⟨steps, hpath, hsteps⟩ := forM_poll_path hforM
    rcases hsteps with ⟨hf, -⟩ | ⟨fault', hf, hcut⟩
    · cases hf
    · exact ⟨steps, r', hpath, .inr ⟨fault', hf, hcut, rfl⟩⟩
  · obtain ⟨steps, hpath, hsteps⟩ := forM_poll_path hforM
    cases hcount
    rcases hsteps with ⟨-, hdealt⟩ | ⟨fault, hf, -⟩
    · exact ⟨steps, v, hpath, .inl ⟨rfl, hdealt, rfl⟩⟩
    · cases hf

/-- The rounds of a loop: complete ones, and then an ending. -/
lemma rounds_path {budget : Nat} {r r' : Running ω} {outcome : Except Fault Unit}
    (h : (rounds L service evaluation budget).runOn r = (outcome, r')) :
    ∃ complete last v, Rounds L service evaluation r complete v ∧
      Path L service evaluation v last r' ∧ Ending L budget v outcome complete last := by
  -- The budget is what the loop recurses on; the status is looked at before it.
  induction budget generalizing r with
  | zero =>
    unfold rounds at h
    simp only [runOn_bind, runOn_get] at h
    split at h
    · rename_i hrun
      cases h
      exact ⟨[], [], _, .none _, .nil _, .exhausted (iterating_iff.mp hrun) rfl⟩
    · rename_i hrun
      cases h
      exact ⟨[], [], _, .none _, .nil _, .terminated fun hi => hrun (iterating_iff.mpr hi)⟩
  | succ budget ih =>
    unfold rounds at h
    rw [runOn_bind, runOn_get] at h
    dsimp only at h
    split at h
    · rename_i hrun
      rcases runOn_bind_cases h with ⟨fault, hround, rfl⟩ | ⟨_, u, hround, hrest⟩
      · obtain ⟨steps, v, hpath, hsteps⟩ := round_path hround
        rcases hsteps with ⟨hf, -⟩ | ⟨fault', hf, hcut, rfl⟩
        · cases hf
        · cases hf
          exact ⟨[], steps, r, .none _, hpath, .broken (iterating_iff.mp hrun) hcut⟩
      · -- The round is complete, so the rest of the loop starts with it counted.
        obtain ⟨steps, v, hpath, hsteps⟩ := round_path hround
        rcases hsteps with ⟨-, hdealt, rfl⟩ | ⟨fault, hf, -⟩
        · obtain ⟨complete, last, w, hrounds, hlast, hend⟩ := ih hrest
          refine ⟨steps :: complete, last, w, .more (iterating_iff.mp hrun) hpath hdealt hrounds,
            hlast, ?_⟩
          cases hend with
          | terminated hi => exact .terminated hi
          | broken hi hcut => exact .broken hi hcut
          | exhausted hi hspent => exact .exhausted hi (congrArg Nat.succ hspent)
        · cases hf
    · rename_i hrun
      cases h
      exact ⟨[], [], _, .none _, .nil _, .terminated fun hi => hrun (iterating_iff.mpr hi)⟩

end

/-! ## The calls of the steps -/

/-- The calls that a step makes itself, with what came of them. -/
def Step.replies (service : Service ω) : Step → List Reply
  | .poll a outcome => [⟨.getUserAction a, outcome⟩]
  | .serve .solverStep outcome => [⟨.step, outcome⟩]
  | .serve .reportIteration outcome =>
    if service.report.isNone then [⟨.iterationOutput, outcome⟩] else []
  | .serve .objective _ => []
  | .serve .constraints _ => []
  | .serve .finiteDifference outcome => [⟨.finiteDifference, outcome⟩]
  | .acknowledge a outcome => [⟨.doneUserAction a, outcome⟩]

section

variable {L : Library ω} {service : Service (Recorded ω)} {r r' : Running (Recorded ω)}

lemma replies_of_call {c : Call} {outcome : Except Fault c.Answer}
    (h : (onSession (Session.call (Recorded.library L) c)).runOn r = (outcome, r')) :
    r'.session.hidden.replies = r.session.hidden.replies ++ [⟨c, outcome⟩] := by
  obtain ⟨s, hs, rfl⟩ := runOn_zoom_eq_iff.mp h
  exact Session.replies_call hs

/-- What makes no calls leaves the record of them. -/
lemma replies_of_keeps {α : Type} {a : Action (Running (Recorded ω)) α} {outcome : Except Fault α}
    (ha : a.Keeps (OfSession (Same fun s => s.hidden.calls))) (h : a.runOn r = (outcome, r')) :
    r'.session.hidden.replies = r.session.hidden.replies := by
  have hcalls : r'.session.hidden.calls = r.session.hidden.calls := ha.run h
  exact congrArg (List.map CallRecord.toReply) hcalls

variable (silent : service.Keeps (Same fun s => s.hidden.calls))
include silent

lemma keeps_evaluate_calls :
    (evaluate service).Keeps (OfSession (Same fun s => s.hidden.calls)) :=
  keeps_evaluate (keeps_onSession Session.keeps_readDecision)
    (fun x => keeps_onSession (silent.fitness x)) fun _ _ _ => refl _

lemma replies_of_serve {a : Request} {outcome : Except Fault Unit}
    (h : (serve (Recorded.library L) service (evaluate service) a).runOn r = (outcome, r')) :
    r'.session.hidden.replies =
      r.session.hidden.replies ++ (Step.serve a outcome).replies service := by
  have hmemory : ∀ (s : Session (Recorded ω)) m,
      Same (fun s => s.hidden.calls) s { s with memory := m } := fun _ _ => rfl
  cases a with
  | solverStep => exact replies_of_call h
  | reportIteration =>
    cases hreport : service.report with
    | none =>
      rw [serve, hreport] at h
      simpa [Step.replies, hreport] using replies_of_call h
    | some a =>
      rw [serve, hreport] at h
      simpa [Step.replies, hreport] using
        replies_of_keeps (keeps_onSession (silent.report a hreport)) h
  | objective =>
    rw [replies_of_keeps ((keeps_evaluate_calls silent).bind fun f =>
      keeps_onSession (Session.keeps_writeObjective (fun s _ => hmemory s _) _)) h]
    exact (List.append_nil _).symm
  | constraints =>
    rw [replies_of_keeps ((keeps_evaluate_calls silent).bind fun f =>
      (keeps_liftExcept _).bind fun values =>
        keeps_onSession (Session.keeps_fill (fun s _ => hmemory s _) _)) h]
    exact (List.append_nil _).symm
  | finiteDifference => exact replies_of_call h

/-- A step adds its calls to the record. -/
lemma Leads.replies {step : Step}
    (h : Leads (Recorded.library L) service (evaluate service) r step r') :
    r'.session.hidden.replies = r.session.hidden.replies ++ step.replies service := by
  cases h with
  | poll h => exact replies_of_call h
  | serve h => exact replies_of_serve silent h
  | acknowledge h => exact replies_of_call h

lemma Path.replies {steps : List Step}
    (h : Path (Recorded.library L) service (evaluate service) r steps r') :
    r'.session.hidden.replies =
      r.session.hidden.replies ++ steps.flatMap (Step.replies service) := by
  induction h with
  | nil => simp
  | cons head _ ih => simp [ih, head.replies silent]

lemma Rounds.replies {rounds : List (List Step)}
    (h : Rounds (Recorded.library L) service (evaluate service) r rounds r') :
    r'.session.hidden.replies =
      r.session.hidden.replies ++ rounds.flatten.flatMap (Step.replies service) := by
  induction h with
  | none => simp
  | more _ path _ _ ih => simp [ih, path.replies silent]

end

/-! ## The number of rounds -/

section

variable {L : Library ω} {service : Service ω} {r r' : Running ω}

lemma keeps_onSession_rounds {α : Type} (a : Action (Session ω) α) :
    (onSession a).Keeps (Same fun r => r.memo.rounds) :=
  keeps_zoom_same a fun _ _ => rfl

lemma keeps_evaluate_rounds (service : Service ω) :
    (evaluate service).Keeps (Same fun r => r.memo.rounds) :=
  keeps_evaluate (keeps_onSession_rounds _) (fun _ => keeps_onSession_rounds _) fun _ _ _ => rfl

/-- No step counts a round. -/
lemma Leads.rounds {step : Step} (h : Leads L service (evaluate service) r step r') :
    r'.memo.rounds = r.memo.rounds := by
  cases h with
  | poll h => exact (keeps_onSession_rounds _).run h
  | acknowledge h => exact (keeps_onSession_rounds _).run h
  | @serve a _ _ _ h =>
    cases a with
    | solverStep => exact (keeps_onSession_rounds _).run h
    | reportIteration => exact (keeps_onSession_rounds _).run h
    | objective =>
      exact ((keeps_evaluate_rounds service).bind fun _ => keeps_onSession_rounds _).run h
    | constraints =>
      exact ((keeps_evaluate_rounds service).bind fun _ =>
        (keeps_liftExcept _).bind fun _ => keeps_onSession_rounds _).run h
    | finiteDifference => exact (keeps_onSession_rounds _).run h

lemma Path.rounds {steps : List Step} (h : Path L service (evaluate service) r steps r') :
    r'.memo.rounds = r.memo.rounds := by
  induction h with
  | nil => rfl
  | cons head _ ih => exact ih.trans head.rounds

lemma Rounds.rounds {rounds : List (List Step)}
    (h : Rounds L service (evaluate service) r rounds r') :
    r'.memo.rounds = r.memo.rounds + rounds.length := by
  induction h with
  | none => rfl
  | more _ path _ _ ih =>
    have hpath := path.rounds
    dsimp only at ih
    rw [List.length_cons]
    omega

end

/-! ## The protocol -/

/-- The loop ends as its rounds do, and answers the status that they left. -/
lemma runOn_drive_cases {L : Library ω} {service : Service ω}
    {evaluation : Action (Running ω) Tensor} {budget : Nat} {r r' : Running ω}
    {outcome : Except Fault Int}
    (h : (drive L service evaluation budget).runOn r = (outcome, r')) :
    ∃ ended, (rounds L service evaluation budget).runOn ⟨r.session, .blank⟩ = (ended, r') ∧
      outcome = ended.map fun _ => r'.session.memory.status.toInt := by
  rcases runOn_bind_cases h with ⟨fault, hblank, -⟩ | ⟨_, v, hblank, h⟩
  · cases hblank
  cases hblank
  rcases runOn_bind_cases h with ⟨fault, hrounds, rfl⟩ | ⟨_, v, hrounds, h⟩
  · exact ⟨_, hrounds, rfl⟩
  · cases h
    exact ⟨_, hrounds, rfl⟩

/-- The calls of a loop are those of its rounds, in their order, and of a last one that a fault may
have cut short.  A round starts only while the status lies strictly between the thresholds; it polls
for every request in turn, serves the ones that are raised, and acknowledges those that the solver
does not clear itself.  A fault is the end of the round and of the loop, and the rounds that are
counted are the complete ones. -/
theorem calls_of_drive {L : Library ω} {service : Service (Recorded ω)}
    (silent : service.Keeps (Same fun s => s.hidden.calls)) {budget : Nat}
    {r r' : Running (Recorded ω)} {outcome : Except Fault Int}
    (h : (drive (Recorded.library L) service (evaluate service) budget).runOn r = (outcome, r')) :
    ∃ complete last v ended,
      Rounds (Recorded.library L) service (evaluate service) ⟨r.session, .blank⟩ complete v ∧
      Path (Recorded.library L) service (evaluate service) v last r' ∧
      Ending (Recorded.library L) budget v ended complete last ∧
      outcome = ended.map (fun _ => r'.session.memory.status.toInt) ∧
      r'.session.hidden.replies = r.session.hidden.replies ++
        (complete.flatten ++ last).flatMap (Step.replies service) ∧
      r'.memo.rounds = complete.length := by
  obtain ⟨ended, hrounds, houtcome⟩ := runOn_drive_cases h
  obtain ⟨complete, last, v, hcomplete, hlast, hending⟩ := rounds_path hrounds
  refine ⟨complete, last, v, ended, hcomplete, hlast, hending, houtcome, ?_, ?_⟩
  · rw [hlast.replies silent, hcomplete.replies silent, List.flatMap_append, List.append_assoc]
  · rw [hlast.rounds, hcomplete.rounds]
    exact Nat.zero_add _

/-- A session of the brief solver, just before its loop. -/
def briefStart : Running (Recorded Unit) :=
  ⟨{ Session.start [] (.start ()) with stage := some .running }, .blank⟩

/-- What serves the brief solver. -/
def briefService : Service (Recorded Unit) := .constant (.vector [2])

/-- The loop of the brief solver, with room for one round. -/
def briefEnd : Except Fault Int × Running (Recorded Unit) :=
  (drive (Recorded.library .brief) briefService (evaluate briefService) 1).runOn briefStart

/-- The brief solver terminates well within its only round. -/
theorem calls_of_drive_brief :
    briefEnd.1.toOption = some 1000 ∧
    briefEnd.2.session.hidden.replies.map Reply.call =
      [.getUserAction .solverStep, .step, .getUserAction .reportIteration,
        .getUserAction .objective, .doneUserAction .objective, .getUserAction .constraints,
        .getUserAction .finiteDifference] ∧
    ∃ complete last v ended,
      Rounds (Recorded.library .brief) briefService (evaluate briefService)
        ⟨briefStart.session, .blank⟩ complete v ∧
      Path (Recorded.library .brief) briefService (evaluate briefService) v last briefEnd.2 ∧
      Ending (Recorded.library .brief) 1 v ended complete last ∧
      briefEnd.1 = ended.map (fun _ => briefEnd.2.session.memory.status.toInt) ∧
      briefEnd.2.session.hidden.replies = briefStart.session.hidden.replies ++
        (complete.flatten ++ last).flatMap (Step.replies briefService) ∧
      briefEnd.2.memo.rounds = complete.length := by
  refine ⟨by decide +kernel, by decide +kernel, ?_⟩
  exact calls_of_drive (Service.constant_keeps _) (Prod.eta _).symm

/-! ## The budget -/

/-- A loop that its budget did not end comes to the same under every larger budget. -/
theorem rounds_of_budget_le {L : Library ω} {service : Service ω}
    {evaluation : Action (Running ω) Tensor} {budget more : Nat} {r r' : Running ω}
    {outcome : Except Fault Unit} (hle : budget ≤ more)
    (h : (rounds L service evaluation budget).runOn r = (outcome, r'))
    (hspent : outcome ≠ .error (.run .roundsExhausted)) :
    (rounds L service evaluation more).runOn r = (outcome, r') := by
  induction budget generalizing r more with
  | zero =>
    unfold rounds at h ⊢
    rw [runOn_bind, runOn_get] at h ⊢
    dsimp only at h ⊢
    split at h
    · cases h
      exact absurd rfl hspent
    · rename_i hrun
      rw [if_neg hrun]
      exact h
  | succ budget ih =>
    obtain ⟨more, rfl⟩ : ∃ k, more = k + 1 := ⟨more - 1, by omega⟩
    have hle' : budget ≤ more := by omega
    unfold rounds at h ⊢
    rw [runOn_bind, runOn_get] at h ⊢
    dsimp only at h ⊢
    split at h
    · rename_i hrun
      rw [if_pos hrun]
      rcases runOn_bind_cases h with ⟨fault, hround, rfl⟩ | ⟨_, u, hround, hrest⟩
      · rw [runOn_bind, hround]
      · rw [runOn_bind, hround]
        exact ih hle' hrest
    · rename_i hrun
      rw [if_neg hrun]
      exact h

end ReverseComm.Loop
