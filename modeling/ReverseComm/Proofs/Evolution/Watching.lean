import ReverseComm.Proofs.Evolution.Surroundings
import ReverseComm.Proofs.Session.Frame

/-!
# Watching the evaluations of a problem

What a solve evaluates is seen best from the problem.  A watched problem answers as it does, and
writes down each evaluation: the decision vector, and what came of it.  The diary is out of the reach
of binders and libraries (`Library.Discreet`).

`Booking` is all that can be seen of the evaluations of a call: the diary, the account of the
algorithm, what the algorithm has said, and the verbosity by which it reports.
-/

namespace ReverseComm

open ReverseComm.Action

variable {ω α : Type}

/-- An evaluation of the fitness, and what came of it. -/
structure Evaluation where
  point : List Float
  outcome : Except Fault Tensor

/-- Has an evaluation been completed? -/
def Evaluation.Completed (v : Evaluation) : Prop := ∃ f, v.outcome = .ok f

/-- The fitness vectors that completed evaluations came to. -/
def Evaluation.answers (evaluations : List Evaluation) : List Tensor :=
  evaluations.filterMap fun v => v.outcome.toOption

@[simp] lemma Evaluation.answers_concat_ok (evaluations : List Evaluation) (x : List Float)
    (f : Tensor) : answers (evaluations ++ [⟨x, .ok f⟩]) = answers evaluations ++ [f] := by
  simp [answers, Except.toOption]

@[simp] lemma Evaluation.answers_concat_error (evaluations : List Evaluation) (x : List Float)
    (fault : Fault) : answers (evaluations ++ [⟨x, .error fault⟩]) = answers evaluations := by
  simp [answers, Except.toOption]

/-- A state next to the diary of the evaluations that were made. -/
structure Watched (ω : Type) where
  diary : List Evaluation
  hidden : ω

namespace Watched

/-- Change the state and leave the diary. -/
def put (v : ω) (w : Watched ω) : Watched ω := { w with hidden := v }

/-- Act on the state; the diary stays. -/
def aside (a : Action ω α) : Action (Watched ω) α := a.zoom hidden put

lemma keeps_aside (a : Action ω α) : (aside a).Keeps (Same diary) :=
  keeps_zoom_same a fun _ _ => rfl

/-- A binder whose libraries leave the diary. -/
def binder (b : Binder ω) : Binder (Watched ω) where
  label := b.label
  supports := b.supports
  create path := do
    let L ← aside (b.create path)
    return L.within hidden put

end Watched

/-- Surroundings next to a diary that they do not see. -/
def Surroundings.watched (env : Surroundings ω) : Surroundings (Watched ω) where
  host := env.host
  registry := env.registry.map (Loading.Registry.lift Watched.binder)
  budget := env.budget

/-- A problem whose evaluations are written down. -/
def Problem.watched (p : Problem ω) : Problem (Watched ω) where
  name := p.name
  dimension := p.dimension
  objectiveCount := p.objectiveCount
  constraintCount := p.constraintCount
  equalityCount := p.equalityCount
  stochastic := p.stochastic
  bounds := p.bounds
  tolerances := p.tolerances
  fitness x := .of fun w =>
    let (outcome, v) := (p.fitness x).runOn w.hidden
    (outcome, ⟨w.diary ++ [⟨x, outcome⟩], v⟩)

/-- A library that leaves the diary alone. -/
structure Library.Discreet (L : Library (Watched ω)) : Prop where
  machine : ∀ c, (L.machine c).Keeps (Same fun n => n.hidden.diary)
  release : L.release.Keeps (Same Watched.diary)

namespace Loading

/-- Loading leaves the diary. -/
lemma keeps_load_diary (env : Surroundings ω) (path : Path) (name : Option String) :
    (load env.watched.host.isFile env.watched.registry path name).Keeps
      (Same fun l => l.hidden.diary) := by
  refine keeps_load_lift (f := Watched.binder) (fun b path => ?_) _ env.registry path name
  exact (Watched.keeps_aside _).bind fun L => keeps_pure _

/-- Whatever library is loaded in watched surroundings leaves it as well. -/
lemma discreet_of_load {env : Surroundings ω} {path : Path} {name : Option String}
    {l l' : Loader (Watched ω)} {N : Library (Watched ω)}
    (h : (load env.watched.host.isFile env.watched.registry path name).runOn l = (.ok N, l')) :
    N.Discreet := by
  refine library_of_load_lift (f := Watched.binder) (Q := Library.Discreet) ?_ h
  intro b path w N w' hcreate
  obtain ⟨L, _, -, hL⟩ := runOn_bind_eq_ok_iff.mp hcreate
  cases hL
  exact ⟨fun c => keeps_zoom_same _ fun _ _ => rfl, keeps_zoom_same _ fun _ _ => rfl⟩

lemma algorithm_texts_settled {l : Loader ω} {path : Path}
    (outcome : Except Fault (Library ω) × ω) :
    Speaker.algorithm.texts (l.settled path outcome).2.messages =
      Speaker.algorithm.texts l.messages := by
  rcases outcome with ⟨fault | L, w⟩
  · rfl
  · simp [Loader.settled, Speaker.texts]

/-- Loading says nothing for the algorithm. -/
lemma keeps_load_texts (isFile : Path → Except OsFault Bool) (r : Except Fault (Registry ω))
    (path : Path) (name : Option String) :
    (load isFile r path name).Keeps (Same fun l => Speaker.algorithm.texts l.messages) := by
  intro l
  rcases runOn_load_cases (l := l) r with ⟨fault, hload⟩ | ⟨r', b, -, -, hload⟩
  · rw [hload]
    rfl
  · rw [hload]
    exact algorithm_texts_settled _

end Loading

/-! ## Bookings -/

/-- What can be seen of the evaluations that were made. -/
structure Booking where
  diary : List Evaluation
  /-- How many evaluations are in the account. -/
  count : ℕ
  lines : List LogLine
  /-- What the algorithm has said. -/
  texts : List String
  /-- Every so many evaluations are reported. -/
  verbosity : ℕ

/-- What can be seen in a session next to its account. -/
def Session.booking (s : Session (Accounted (Watched ω))) : Booking where
  diary := s.hidden.hidden.diary
  count := s.hidden.account.evaluations
  lines := s.hidden.account.lines
  texts := Speaker.algorithm.texts s.messages
  verbosity := s.hidden.settings.verbosity

/-- What can be seen between two calls. -/
def Evolution.booking (e : Evolution (Watched ω)) : Booking where
  diary := e.hidden.diary
  count := e.algorithm.account.evaluations
  lines := e.algorithm.account.lines
  texts := Speaker.algorithm.texts e.messages
  verbosity := e.algorithm.settings.verbosity

namespace Session

/-- An evaluation of a watched problem goes into the diary. -/
lemma runOn_watched_fitness (problem : Problem ω) (x : List Float)
    (s : Session (Accounted (Watched ω))) :
    (aside (Accounted.aside (problem.watched.fitness x))).runOn s =
      (((problem.fitness x).runOn s.hidden.hidden.hidden).1,
        { s with hidden.hidden :=
          ⟨s.hidden.hidden.diary ++ [⟨x, ((problem.fitness x).runOn s.hidden.hidden.hidden).1⟩],
            ((problem.fitness x).runOn s.hidden.hidden.hidden).2⟩ }) := rfl

/-- What only the session has changed does not show in what can be seen. -/
lemma Own.booking {s s' : Session (Accounted (Watched ω))} (h : Own s s') :
    Same booking s s' := by
  rw [Same, Session.booking, Session.booking, h.hidden, h.texts]

/-- A discreet library does not show in it either. -/
lemma keeps_call_booking {L : Library (Watched ω)} (discreet : L.Discreet) (c : Call) :
    (call (Accounted.library L) c).Keeps (Same booking) := by
  have hcall : ((Accounted.library L).call c).Keeps
      (Same fun n => (n.hidden.account, n.hidden.settings, n.hidden.hidden.diary)) := by
    rw [Library.call]
    split
    · exact (discreet.machine c).zoom fun n m h =>
        congrArg (fun diary => (n.hidden.account, n.hidden.settings, diary)) h
    · exact keeps_throw _
  refine hcall.zoom fun s n h => ?_
  obtain ⟨haccount, hrest⟩ := Prod.mk.inj h
  obtain ⟨hsettings, hdiary⟩ := Prod.mk.inj hrest
  simp only [Same, booking, haccount, hsettings, hdiary]

end Session

end ReverseComm
