import ReverseComm.Proofs.Evolution.Population
import ReverseComm.Proofs.Evolution.Surroundings
import ReverseComm.Proofs.Session.Handling
import ReverseComm.Proofs.Session.Nested

/-!
# What evolving asks of a library

In recorded surroundings everything that a call of `evolve` asks of its library is written down.  Up
to the loop a solve carries out operations of its session, and after the loop it evaluates the
fitness, so what `Endures` a session endures a solve, next to the account that the algorithm keeps.

* `concludes_solve`: a solve ends with a session that has been left, and with the closing of the
  library, however it ends.
* `record_of_evolve`: a call of `evolve` asks what a solve asks, or nothing.  The latter are the
  calls that do not get as far as a library, and those with a problem that fails to name its bounds.
-/

namespace ReverseComm

open ReverseComm.Action

variable {ω α : Type}

/-! ## The course of a session -/

/-- What is done to a session next to some settings, as it looks without them. -/
def Session.alongside (settings : Settings) (a : Action (Session (Steered ω)) α) :
    Action (Session ω) α :=
  within (Steered.mk settings) (fun t _ => t.hidden) a

/-- What the callback of an algorithm, if it has one, does with the sessions of a recorded library,
for any settings that it may find. -/
def Algorithm.reports (a : Algorithm (Recorded ω)) (L : Library ω) :
    Set (Action (Session (Recorded ω)) Unit) :=
  { b | ∃ listener ∈ a.listener, ∃ settings,
    b = Session.alongside settings (listener (Steered.library (Recorded.library L))) }

/-- A session with the account and the settings set aside. -/
abbrev Session.unaccounted (s : Session (Accounted ω)) : Session ω := inner Accounted.hidden s

namespace Evolution

open Session (Agrees Carried Endures unaccounted agrees_call agrees_preInit agrees_readParams
  agrees_declare agrees_init agrees_seed)

lemma hidden_put (w : ω) (a : Accounted ω) : (Accounted.put w a).hidden = w := rfl

/-- What the caller does in a solve is done next to the settings of that moment, with the account set
aside. -/
lemma runOn_alongside (a : Action (Session (Steered ω)) α) (s : Session (Accounted ω)) :
    (Session.alongside s.hidden.settings a).runOn (unaccounted s) =
      (((Session.within Accounted.steered Accounted.steer a).runOn s).1,
        unaccounted ((Session.within Accounted.steered Accounted.steer a).runOn s).2) := rfl

/-- A property of the recorded session, with the account set aside. -/
abbrev OnRecord (Inv : Session (Recorded ω) → Prop) (r : Running (Accounted (Recorded ω))) : Prop :=
  Inv (unaccounted r.session)

lemma keeps_of_agrees {Inv : Session (Recorded ω) → Prop}
    {a : Action (Session (Accounted (Recorded ω))) α} {b : Action (Session (Recorded ω)) α}
    (hab : Agrees Accounted.hidden a b) (hb : b.Keeps (Preserving Inv)) :
    (Loop.onSession a).Keeps (Preserving (OnRecord Inv)) := by
  intro r hr
  have hend := (hab r.session _ rfl).snd fun _ _ h => h
  have hInv := hb _ hr
  rw [hend] at hInv
  exact hInv

/-- An evaluation does not reach the session. -/
lemma keeps_fitness (problem : Problem ω) (x : List Float) :
    (Session.aside (Accounted.aside (problem.recorded.fitness x))).Keeps
      (Same fun s => Session.trace (unaccounted s)) := by
  have hrecord := Recorded.keeps_aside (problem.fitness x)
  have haccount : (Accounted.aside (problem.recorded.fitness x)).Keeps
      (Same fun a => a.hidden.entries) := hrecord.zoom fun _ _ h => h
  exact haccount.zoom fun s _ h => congrArg (Prod.mk s.stage) h

/-- Neither does accounting for one, even if it is reported. -/
lemma keeps_evaluate (problem : Problem ω) (x : List Float) :
    (Account.evaluate problem.recorded x).Keeps (Same fun s => Session.trace (unaccounted s)) :=
  Account.keeps_evaluate (fun _ _ => rfl) (fun _ _ _ => rfl) problem.recorded
    (keeps_fitness problem x)

section

variable {L : Library ω} {a : Algorithm (Recorded ω)} {Inv : Session (Recorded ω) → Prop}

/-- The loop of a solve carries what the loop of a session does, next to the account. -/
lemma guarded_service {P E : Session (Recorded ω) → Prop}
    (carried : Carried L (a.reports L) P E)
    (problem : Problem ω) :
    Loop.Guarded (Accounted.library (Recorded.library L))
      (service a problem.recorded (Recorded.library L))
      (fun s => P (unaccounted s)) fun s => E (unaccounted s) where
  call c hc := (agrees_call hidden_put _ c).maintains (carried.call c hc)
  memory s m hs := carried.ofTrace (unaccounted s) _ rfl hs
  fitness x := by
    have hevaluate := keeps_evaluate problem x
    have hpreserving := hevaluate.mono fun s s' h => carried.ofTrace (unaccounted s) _ h
    exact Keeps.maintains hpreserving fun s => carried.fault (unaccounted s)
  report b hb := by
    obtain ⟨listener, hlistener, rfl⟩ := Option.map_eq_some_iff.mp hb
    intro s hs
    have hreport : Session.alongside s.hidden.settings
        (listener (Steered.library (Recorded.library L))) ∈ a.reports L :=
      ⟨listener, hlistener, _, rfl⟩
    obtain ⟨hanswer, hfault⟩ := carried.report _ hreport (unaccounted s) hs
    have hrun := runOn_alongside (listener (Steered.library (Recorded.library L))) s
    refine ⟨fun x v h => ?_, fun fault v h => ?_⟩
    · rw [h] at hrun
      exact hanswer x _ hrun
    · rw [h] at hrun
      exact hfault fault _ hrun
  fault s := carried.fault (unaccounted s)

variable (endures : Endures L a.settings.screenOutput (a.reports L) Inv)
include endures

lemma keeps_run (problem : Problem ω) (budget : ℕ) :
    (Loop.run (Accounted.library (Recorded.library L))
      (service a problem.recorded (Recorded.library L)) budget).Keeps
        (Preserving (OnRecord Inv)) := by
  obtain ⟨P, E, carried, enter, leave⟩ := endures.loop
  have guarded := guarded_service carried problem
  exact guarded.run (fun s hstage hs => enter (unaccounted s) hstage hs) (fun s => leave _) budget

/-- What endures a session endures the course of a solve: up to the loop it goes through operations,
and after the loop the fitness is evaluated, which does not reach the session. -/
lemma keeps_course (env : Surroundings ω) (problem : Problem ω) (bounds : Bounds)
    (seed : Candidate) :
    (course env.recorded a problem.recorded (Recorded.library L) bounds seed).Keeps
      (Preserving (OnRecord Inv)) := by
  have calls := agrees_call hidden_put (Recorded.library L)
  have hpreInit := endures.perform .preInit trivial
  have hreadParams := fun file => endures.perform (.readParams env.host file) trivial
  have hdeclare := fun n m => endures.perform (.declare n m) trivial
  have hinit := endures.perform .init trivial
  have hseed := fun x f lower upper n => endures.perform (.seed x f lower upper n) trivial
  refine Keeps.bind ?_ fun status => ?_
  · refine (keeps_of_agrees (agrees_preInit calls) hpreInit).bind fun _ => ?_
    refine (keeps_of_agrees (agrees_readParams calls _ _) (keeps_of_drop (hreadParams _))).bind
      fun _ => ?_
    refine (keeps_liftExcept _).bind fun n => (keeps_liftExcept _).bind fun m => ?_
    refine (keeps_of_agrees (agrees_declare _ _) (hdeclare (.ok n) (.ok m))).bind fun _ => ?_
    refine (keeps_of_agrees (agrees_init calls) hinit).bind fun _ => ?_
    refine (keeps_liftExcept _).bind fun equalities => ?_
    refine (keeps_of_agrees (agrees_seed _ _ _ _ _ _) (hseed _ _ _ _ _)).bind fun _ => ?_
    exact keeps_run endures problem env.budget
  · refine Keeps.bind (keeps_modify ?_) fun _ => ?_
    · exact fun _ => id
    have hread : (Session.readCandidate fun x =>
        Accounted.aside (problem.recorded.fitness x)).Keeps
          (Same fun s => Session.trace (unaccounted s)) := by
      refine Session.keeps_readDecision.bind fun x => ?_
      exact (keeps_fitness problem x).bind fun f => keeps_pure _
    refine Keeps.bind ?_ fun candidate => keeps_get.bind fun r => keeps_pure _
    exact hread.zoom fun r s h => endures.ofTrace _ _ h

end

/-! ## The record of a solve -/

/-- A record is that of a session with the property `Inv` that has been left, after which the
library has been closed. -/
def Concludes (Inv : Session (Recorded ω) → Prop) (record : List CallRecord × List ℕ) : Prop :=
  ∃ s, Inv s ∧ Stage.allocated s.stage = false ∧
    record = (s.hidden.calls, s.hidden.closings ++ [s.hidden.calls.length])

/-- Closing a library is one more entry of the record, whatever comes of it. -/
lemma entries_close (L : Library ω) (e : Evolution (Recorded ω)) :
    ((aside (do let _ ← (Recorded.library L).close)).runOn e).2.hidden.entries =
      (e.hidden.calls, e.hidden.closings ++ [e.hidden.calls.length]) := by
  have hrelease : ((Recorded.library L).release.runOn e.hidden).2.entries =
      (e.hidden.calls, e.hidden.closings ++ [e.hidden.calls.length]) := rfl
  rw [aside, runOn_zoom, Library.close, runOn_bind, runOn_bind]
  rcases h : (Recorded.library L).release.runOn e.hidden with ⟨fault | _, w⟩
  · rw [h] at hrelease
    exact hrelease
  · rw [h] at hrelease
    exact hrelease

/-- However a solve ends, its session is left, and the library is closed after that. -/
lemma concludes_solve {L : Library ω} {a : Algorithm (Recorded ω)}
    {Inv : Session (Recorded ω) → Prop}
    (endures : Endures L a.settings.screenOutput (a.reports L) Inv)
    (env : Surroundings ω) (problem : Problem ω) (bounds : Bounds) (seed : Candidate)
    (e : Evolution (Recorded ω)) (start : Inv (Session.start e.messages e.hidden)) :
    Concludes Inv ((solve env.recorded a problem.recorded (Recorded.library L) bounds seed).runOn
      e).2.hidden.entries := by
  set r := ((course env.recorded a problem.recorded (Recorded.library L) bounds seed).runOn
    (outset e.algorithm e.messages e.hidden)).2 with hr
  have hcourse : Inv (unaccounted r.session) := keeps_course endures env problem bounds seed _ start
  set s := ((Session.leave (Recorded.library L)).runOn (unaccounted r.session)).2 with hs
  have hleft : Inv s := endures.perform .leave trivial _ hcourse
  have hstage : Stage.allocated s.stage = false := by
    have hrun :=
      (Prod.eta ((Session.leave (Recorded.library L)).runOn (unaccounted r.session))).symm
    obtain ⟨added, -, heffect⟩ := Session.comes_leave hrun
    exact heffect.allocated_of_leave
  have hend : s = unaccounted ((Session.leave (Accounted.library (Recorded.library L))).runOn
      r.session).2 :=
    (Session.agrees_leave (agrees_call hidden_put (Recorded.library L)) r.session _ rfl).snd
      fun _ _ h => h
  refine ⟨s, hleft, hstage, ?_⟩
  rw [solve, runOn_ensuring_snd, entries_close, solving, runOn_zoom, runOn_ensuring_snd, ← hr, hend]
  rfl

/-! ## The record of a call of evolve -/

/-- The library loads. -/
def Opens (env : Surroundings ω) (e : Evolution ω) : Prop :=
  ((Loading.load env.host.isFile env.registry e.algorithm.settings.library
    e.algorithm.settings.binder).runOn ⟨e.coordinator, e.messages, e.hidden⟩).1.isOk = true

/-- Evolving gets as far as a library: a member can be selected, and the library loads. -/
def Loads (env : Surroundings ω) (problem : Problem ω) (e : Evolution ω) : Prop :=
  ((prepare problem).runOn { e with algorithm.account := .blank }).1.isOk = true ∧ Opens env e

instance (env : Surroundings ω) (problem : Problem ω) (e : Evolution ω) :
    Decidable (Loads env problem e) := inferInstanceAs (Decidable (_ = true ∧ _ = true))

/-- What a library has been asked once it has been loaded, with `before` asked before: nothing if
the problem fails to name its bounds, and else what a solve asks. -/
def Asked (problem : Problem ω) (Inv : Session (Recorded ω) → Prop)
    (before after : List CallRecord × List ℕ) : Prop :=
  (∃ fault, problem.bounds = .error fault) ∧ after = before ∨
    (∃ bounds, problem.bounds = .ok bounds) ∧ Concludes Inv after

section

variable (env : Surroundings ω) (problem : Problem ω) {e : Evolution (Recorded ω)}
  {Inv : Session (Recorded ω) → Prop}
  (endures : ∀ L : Library ω,
    Endures L e.algorithm.settings.screenOutput (e.algorithm.reports L) Inv)
  (start : ∀ messages w, Recorded.entries w = e.hidden.entries → Inv (Session.start messages w))
include endures start

lemma record_of_arrive (seed : Candidate) :
    let record := ((arrive env.recorded problem.recorded seed).runOn e).2.hidden.entries
    ¬ Opens env.recorded e ∧ record = e.hidden.entries ∨
      Opens env.recorded e ∧ Asked problem Inv e.hidden.entries record := by
  intro record
  rcases hload : (Loading.load env.recorded.host.isFile env.recorded.registry
    e.algorithm.settings.library e.algorithm.settings.binder).runOn
      ⟨e.coordinator, e.messages, e.hidden⟩ with ⟨fault | N, l⟩
  · refine .inl ⟨?_, ?_⟩
    · intro h
      rw [Opens, hload] at h
      cases h
    · have hkept : l.hidden.entries = e.hidden.entries := (Loading.keeps_load _ _ _ _).run hload
      show ((arrive env.recorded problem.recorded seed).runOn e).2.hidden.entries = _
      simp only [arrive, runOn_bind, runOn_get, loading, runOn_zoom, hload]
      exact hkept
  · have hkept : l.hidden.entries = e.hidden.entries := (Loading.keeps_load _ _ _ _).run hload
    obtain ⟨L, rfl⟩ := Loading.exists_library_of_load hload
    have hopens : Opens env.recorded e := by
      rw [Opens, hload]
      rfl
    refine .inr ⟨hopens, ?_⟩
    show Asked _ _ _ ((arrive env.recorded problem.recorded seed).runOn e).2.hidden.entries
    have hbounds : problem.recorded.bounds = problem.bounds := rfl
    simp only [arrive, runOn_bind, runOn_get, loading, runOn_zoom, hload, runOn_liftExcept, hbounds]
    cases hcase : problem.bounds with
    | error fault => exact .inl ⟨⟨fault, hcase⟩, hkept⟩
    | ok bounds =>
      refine .inr ⟨⟨bounds, hcase⟩, ?_⟩
      exact concludes_solve (endures L) env problem bounds seed _ (start _ _ hkept)

/-- What has been asked of libraries when a call of `evolve` is over: nothing that it had not been
before, unless a library loads. -/
lemma record_of_evolve :
    let record := ((evolve env.recorded problem.recorded).runOn e).2.hidden.entries
    ¬ Loads env.recorded problem.recorded e ∧ record = e.hidden.entries ∨
      Loads env.recorded problem.recorded e ∧ Asked problem Inv e.hidden.entries record := by
  intro record
  have hrecord : record = (runOn (prepare problem.recorded >>= fun drawn => do
      let outcome ← arrive env.recorded problem.recorded drawn.2
      settle problem.recorded drawn.1 drawn.2 outcome)
        { e with algorithm.account := .blank }).2.hidden.entries := rfl
  rw [hrecord, runOn_bind]
  rcases hprepare : (prepare problem.recorded).runOn { e with algorithm.account := .blank } with
    ⟨fault | ⟨i, seed⟩, e₁⟩
  · have hprepared : (prepare problem.recorded).Keeps (Same Evolution.hidden) :=
      keeps_prepare (fun _ _ => rfl) _
    have hkept := hprepared.run hprepare
    refine .inl ⟨?_, congrArg _ hkept⟩
    rintro ⟨h, -⟩
    rw [hprepare] at h
    cases h
  · have hprepared : ((prepare problem.recorded).runOn
        { e with algorithm.account := .blank }).1.isOk = true := by
      rw [hprepare]
      rfl
    obtain ⟨m, g, -, -, rfl⟩ := prepare_eq_ok hprepare
    dsimp only
    -- Putting the result into the population asks nothing of anybody.
    have hsettle : ∀ o, (settle problem.recorded i seed o).Keeps
        (Same fun e : Evolution (Recorded ω) => e.hidden.entries) :=
      keeps_settle (fun _ _ _ _ => rfl) problem.recorded i seed
    rw [view_runOn_bind _ hsettle]
    -- Selecting the member has left all that the rest depends on.
    have harrive := record_of_arrive env problem
      (e := { e with algorithm := { e.algorithm with account := .blank, generator := g } })
      endures start seed
    rcases harrive with ⟨hopens, hsame⟩ | ⟨hopens, hasked⟩
    · exact .inl ⟨fun h => hopens h.2, hsame⟩
    · exact .inr ⟨⟨hprepared, hopens⟩, hasked⟩

end

end Evolution

end ReverseComm
