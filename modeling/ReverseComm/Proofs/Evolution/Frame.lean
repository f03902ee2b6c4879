import ReverseComm.Algorithm.Evolve
import ReverseComm.Proofs.Loop.Frame
import ReverseComm.Proofs.Session.Frame

/-!
# What a solve leaves alone

During a solve a session is reached by its own operations, by the library, and by what serves the
solver.  What all of them keep is kept by the solve (`Framed`), up to the loop, in the loop, and
after it.  Up to its loop (`opening`) a solve is not served at all.

An evaluation changes the account besides what the problem changes (`Account.keeps_evaluate`).  The
caller who is told of iterations changes what it likes but the account, the settings of the
algorithm among them.  A caller that leaves these as they are is `Steady`, and if it is, a whole
solve leaves them (`settings_arrive`).
-/

namespace ReverseComm

open ReverseComm.Action

variable {ω : Type}

/-! ## Evaluations -/

namespace Account

section

variable {R : Session (Accounted ω) → Session (Accounted ω) → Prop}
  [IsPreorder (Session (Accounted ω)) R]
  (said : ∀ s messages, R s { s with messages := messages })
  (counted : ∀ s n lines, R s { s with
    hidden.account := ⟨s.hidden.account.lastResult, n, lines⟩ })
include said counted

lemma keeps_reportLine (problem : Problem ω) (number : ℕ) (f : Tensor) :
    (reportLine problem number f).Keeps R := by
  have hsay : ∀ text, (say (ω := ω) text).Keeps R := fun _ => keeps_modify fun s => said s _
  refine (keeps_liftExcept _).bind fun constraints => (keeps_liftExcept _).bind fun equalities => ?_
  refine (keeps_liftExcept _).bind fun tolerances => (keeps_liftExcept _).bind fun summary => ?_
  refine keeps_get.bind fun s => ?_
  have hline : (do
      let objective ← (f.first >>= Tensor.toNumber : Except Fault Float)
      let line : LogLine :=
        { evaluations := number, objective, violated := summary.violated, norm := summary.norm,
          feasible := summary.feasible }
      say (lineText line)
      modify fun s => { s with hidden.account.lines := s.hidden.account.lines ++ [line] } :
      Action (Session (Accounted ω)) Unit).Keeps R := by
    refine (keeps_liftExcept _).bind fun objective => (hsay _).bind fun _ => ?_
    exact keeps_modify fun s => counted s _ _
  split
  · exact (hsay _).bind fun _ => hline
  · exact hline

lemma keeps_evaluate (problem : Problem ω) {x : List Float}
    (fitness : (Session.aside (Accounted.aside (problem.fitness x))).Keeps R) :
    (evaluate problem x).Keeps R := by
  refine fitness.bind fun f => (keeps_modify fun s => counted s _ _).bind fun _ => ?_
  refine keeps_get.bind fun s => ?_
  dsimp only
  split
  · exact (keeps_reportLine said counted problem _ f).bind fun _ => keeps_pure _
  · exact keeps_pure _

end

end Account

namespace Evolution

/-! ## The course of a solve -/

/-- The course of a solve from a seed up to its loop. -/
def opening (env : Surroundings ω) (a : Algorithm ω) (problem : Problem ω) (L : Library ω)
    (bounds : Bounds) (seed : Candidate) : Action (Running (Accounted ω)) Unit := do
  let native := Accounted.library L
  Loop.onSession (Session.preInit native)
  let _ ← Loop.onSession (Session.readParams native env.host (a.settings.paramFile.map Path.text))
  let dimension ← problem.dimension
  let constraints ← problem.constraintCount
  Loop.onSession (Session.declare (.ok dimension) (.ok constraints))
  Loop.onSession (Session.init native)
  let equalities ← problem.equalityCount
  Loop.onSession (Session.seed a.settings.screenOutput (.ok seed.x) (.ok seed.f)
    (.ok bounds.lower) (.ok bounds.upper) (.ok equalities))

lemma approach_eq_opening (env : Surroundings ω) (a : Algorithm ω) (problem : Problem ω)
    (L : Library ω) (bounds : Bounds) (seed : Candidate) :
    approach env a problem L bounds seed = opening env a problem L bounds seed >>= fun _ =>
      Loop.run (Accounted.library L) (service a problem L) env.budget := by
  simp only [approach, opening, bind_assoc]

/-- Up to its loop, a solve keeps what a session keeps that calls its library. -/
lemma keeps_opening {R : Session (Accounted ω) → Session (Accounted ω) → Prop}
    [IsPreorder (Session (Accounted ω)) R] (own : ∀ s s', Session.Own s s' → R s s')
    {L : Library ω} (call : ∀ c, (Session.call (Accounted.library L) c).Keeps R)
    (env : Surroundings ω) (a : Algorithm ω) (problem : Problem ω) (bounds : Bounds)
    (seed : Candidate) : (opening env a problem L bounds seed).Keeps (Loop.OfSession R) := by
  refine (Loop.keeps_onSession (Session.keeps_preInit own call)).bind fun _ => ?_
  refine (Loop.keeps_onSession (Session.keeps_readParams own call _ _)).bind fun _ => ?_
  refine (keeps_liftExcept _).bind fun dimension => (keeps_liftExcept _).bind fun constraints => ?_
  refine (Loop.keeps_onSession (Session.keeps_declare own _ _)).bind fun _ => ?_
  refine (Loop.keeps_onSession (Session.keeps_init own call)).bind fun _ => ?_
  refine (keeps_liftExcept _).bind fun equalities => ?_
  exact Loop.keeps_onSession (Session.keeps_seed own _ _ _ _ _ _)

/-- A relation between sessions that everything keeps that reaches a session before the loop of a
solve is over. -/
structure Framed (a : Algorithm ω) (problem : Problem ω) (L : Library ω)
    (R : Session (Accounted ω) → Session (Accounted ω) → Prop) : Prop where
  own : ∀ s s', Session.Own s s' → R s s'
  call : ∀ c, (Session.call (Accounted.library L) c).Keeps R
  service : (service a problem L).Keeps R

namespace Framed

variable {a : Algorithm ω} {problem : Problem ω} {L : Library ω}
  {R : Session (Accounted ω) → Session (Accounted ω) → Prop} [IsPreorder (Session (Accounted ω)) R]
  (framed : Framed a problem L R) (env : Surroundings ω) (bounds : Bounds) (seed : Candidate)
include framed

lemma approach : (approach env a problem L bounds seed).Keeps (Loop.OfSession R) := by
  have loop : Loop.Framed (Accounted.library L) (Evolution.service a problem L) R :=
    { call := fun c _ => framed.call c
      memory := fun s m => framed.own s _ ⟨rfl, rfl⟩
      service := framed.service }
  have hrun : (Loop.run (Accounted.library L) (Evolution.service a problem L) env.budget).Keeps
      (Loop.OfSession R) :=
    (Loop.keeps_onSession (Session.keeps_enterLoop framed.own)).bind fun _ => loop.drive env.budget
  rw [approach_eq_opening]
  exact (keeps_opening framed.own framed.call env a problem bounds seed).bind fun _ => hrun

/-- After the loop its status is kept, and the fitness is evaluated once more. -/
lemma course (ended : ∀ s status, R s { s with hidden.account.lastResult := status })
    (fitness : ∀ x, (Session.aside (Accounted.aside (problem.fitness x))).Keeps R) :
    (course env a problem L bounds seed).Keeps (Loop.OfSession R) := by
  have hread : (Session.readCandidate fun x => Accounted.aside (problem.fitness x)).Keeps R :=
    Session.keeps_readDecision.bind fun x => (fitness x).bind fun f => keeps_pure _
  refine (framed.approach env bounds seed).bind fun status => ?_
  refine Keeps.bind (keeps_modify ?_) fun _ => ?_
  · exact fun r => ended r.session status
  exact (Loop.keeps_onSession hread).bind fun candidate => keeps_get.bind fun r => keeps_pure _

lemma leave : (Loop.onSession (Session.leave (Accounted.library L))).Keeps (Loop.OfSession R) :=
  Loop.keeps_onSession (Session.keeps_leave framed.own framed.call)

end Framed

end Evolution

/-! ## The settings -/

/-- A caller that leaves the settings as they are. -/
def Algorithm.Listener.Steady (listener : Algorithm.Listener ω) : Prop :=
  ∀ L : Library ω, (listener (Steered.library L)).Keeps (Same fun s => s.hidden.settings)

namespace Evolution

lemma keeps_fitness_settings (problem : Problem ω) (x : List Float) :
    (Session.aside (Accounted.aside (problem.fitness x))).Keeps
      (Same fun s => s.hidden.settings) := by
  have haccounted : (Accounted.aside (problem.fitness x)).Keeps (Same Accounted.settings) :=
    keeps_zoom_same _ fun _ _ => rfl
  exact haccounted.zoom fun s w h => h

lemma framed_settings {a : Algorithm ω} (steady : ∀ listener ∈ a.listener, listener.Steady)
    (problem : Problem ω) (L : Library ω) :
    Framed a problem L (Same fun s => s.hidden.settings) where
  own s s' h := congrArg Accounted.settings h.hidden
  call c := by
    have hcall : ((Accounted.library L).call c).Keeps (Same fun n => n.hidden.settings) := by
      rw [Library.call]
      split
      · exact keeps_zoom_same _ fun _ _ => rfl
      · exact keeps_throw _
    exact hcall.zoom fun s n h => h
  service :=
    { fitness := fun x => Account.keeps_evaluate (fun _ _ => rfl) (fun _ _ _ => rfl) problem
        (keeps_fitness_settings problem x)
      report := by
        intro b hb
        obtain ⟨listener, hlistener, rfl⟩ := Option.map_eq_some_iff.mp hb
        exact (steady listener hlistener L).zoom fun s t h => h }

/-- A caller that leaves the settings as they are is the only one who could change them. -/
lemma settings_solve (env : Surroundings ω) (problem : Problem ω) (L : Library ω) (bounds : Bounds)
    (seed : Candidate) (e : Evolution ω)
    (steady : ∀ listener ∈ e.algorithm.listener, listener.Steady) :
    ((solve env e.algorithm problem L bounds seed).runOn e).2.algorithm.settings =
      e.algorithm.settings := by
  have framed := framed_settings steady problem L
  have hcourse := framed.course env bounds seed (fun _ _ => rfl) (keeps_fitness_settings problem)
  have hsession := (hcourse.ensuring framed.leave) (outset e.algorithm e.messages e.hidden)
  have hclose : (aside (do let _ ← L.close) : Action (Evolution ω) Unit).Keeps
      (Same fun e => e.algorithm.settings) := keeps_zoom_same _ fun _ _ => rfl
  rw [solve, runOn_ensuring_snd, solving, runOn_zoom]
  exact (hclose _).trans hsession

lemma settings_arrive (env : Surroundings ω) (problem : Problem ω) (seed : Candidate)
    (e : Evolution ω) (steady : ∀ listener ∈ e.algorithm.listener, listener.Steady) :
    ((arrive env problem seed).runOn e).2.algorithm.settings = e.algorithm.settings := by
  rw [arrive, runOn_bind, runOn_get]
  dsimp only
  rw [runOn_bind, loading, runOn_zoom]
  rcases (Loading.load env.host.isFile env.registry e.algorithm.settings.library
    e.algorithm.settings.binder).runOn ⟨e.coordinator, e.messages, e.hidden⟩ with ⟨fault | L, l⟩
  · rfl
  · dsimp only
    rw [runOn_bind, runOn_liftExcept]
    cases problem.bounds with
    | error fault => rfl
    | ok bounds => exact settings_solve env problem L bounds seed _ steady

end Evolution

end ReverseComm
