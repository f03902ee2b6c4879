import ReverseComm.Proofs.Evolution.Hearing
import ReverseComm.Proofs.Loop.Correspondence

/-!
# Hearing changes nothing

The list of what has been heard goes along with a call of `evolve`, and nothing looks at it.  So the
call comes to what it comes to without the list: the same answer or fault, and the same state apart
from the list (`matches_evolve_heard`).

That is shown from the inside out: of what serves a session and of its library (`serves_heard`), of
the course of a solve, of loading, and of the call as a whole.  `raisedOutside` is the list that a
call ends with, and `runOn_evolve_heard` says that it is the list of that very call.
-/

namespace ReverseComm

open ReverseComm.Action

variable {ω α : Type}

/-- The first state is the second one next to a list. -/
def Heard.Holds (h : Heard ω) (w : ω) : Prop := w = h.hidden

lemma Heard.matches_aside (a : Action ω α) : (aside a).Matches Holds Holds a := by
  rintro h _ rfl
  rw [aside, runOn_noting, runOn_zoom]
  rcases a.runOn h.hidden with ⟨fault | x, w⟩
  · exact .error fault rfl
  · exact .ok x rfl

/-! ## Solves -/

/-- The state of a solve without the list. -/
def Accounted.unheard (a : Accounted (Heard ω)) : Accounted ω :=
  ⟨a.account, a.settings, a.hidden.hidden⟩

namespace Session

/-- Notes that do not show in the part do not show. -/
lemma Agrees.noting {σ : Type} {part : σ → ω} {note : Fault → Session σ → Session σ}
    {a : Action (Session σ) α} {b : Action (Session ω) α} (hab : Agrees part a b)
    (unseen : ∀ fault s, inner part (note fault s) = inner part s) :
    Agrees part (a.noting note) b := by
  refine agrees_of_runOn fun s => ?_
  have hrun := hab s _ rfl
  refine Prod.ext ?_ ?_
  · exact hrun.fst_eq.symm.trans (fst_runOn_noting s).symm
  · exact (hrun.snd fun _ _ h => h).trans (view_runOn_noting (inner part) unseen s).symm

lemma agrees_heard_call (L : Library ω) (c : Call) :
    Agrees Accounted.unheard (call (Accounted.library L.heard) c)
      (call (Accounted.library L) c) := by
  refine agrees_of_runOn fun s => ?_
  have hbinds : (Accounted.library L.heard).binds c.entryPoint =
      (Accounted.library L).binds c.entryPoint := rfl
  obtain ⟨houtcome, hstate⟩ := L.runOn_heard c ⟨s.memory, s.hidden.hidden⟩
  rw [runOn_call, runOn_call, Library.call, Library.call, hbinds]
  split
  · refine Prod.ext houtcome.symm ?_
    exact congrArg (fun n : Native ω => { inner Accounted.unheard s with
      memory := n.memory
      hidden.hidden := n.hidden }) hstate.symm
  · rfl

lemma agrees_heard_aside (a : Action ω α) :
    Agrees Accounted.unheard (aside (Accounted.aside (Heard.aside a)))
      (aside (Accounted.aside a)) := by
  refine Matches.zoom (R := fun h w => w = h.unheard) ((Heard.matches_aside a).zoom ?_ ?_) ?_ ?_
  · rintro h _ rfl
    rfl
  · rintro h _ v _ rfl rfl
    rfl
  · rintro s _ rfl
    rfl
  · rintro s _ h _ rfl rfl
    rfl

end Session

namespace Account

open Session (Agrees agrees_liftExcept agrees_get_bind agrees_modify agrees_pure)

lemma agrees_say (text : String) :
    Agrees (Accounted.unheard (ω := ω)) (say text) (say text) :=
  agrees_modify fun _ => rfl

lemma agrees_reportLine (problem : Problem ω) (number : ℕ) (f : Tensor) :
    Agrees Accounted.unheard (reportLine problem.heard number f) (reportLine problem number f) := by
  refine (agrees_liftExcept _).bind fun constraints => ?_
  refine (agrees_liftExcept problem.equalityCount).bind fun equalities => ?_
  refine (agrees_liftExcept problem.tolerances).bind fun tolerances => ?_
  refine (agrees_liftExcept _).bind fun summary => agrees_get_bind fun s => ?_
  have hline : Agrees Accounted.unheard (do
      let objective ← (f.first >>= Tensor.toNumber : Except Fault Float)
      let line : LogLine :=
        { evaluations := number, objective, violated := summary.violated, norm := summary.norm,
          feasible := summary.feasible }
      say (lineText line)
      modify fun s => { s with hidden.account.lines := s.hidden.account.lines ++ [line] } :
      Action (Session (Accounted (Heard ω))) Unit) (do
      let objective ← (f.first >>= Tensor.toNumber : Except Fault Float)
      let line : LogLine :=
        { evaluations := number, objective, violated := summary.violated, norm := summary.norm,
          feasible := summary.feasible }
      say (lineText line)
      modify fun s => { s with hidden.account.lines := s.hidden.account.lines ++ [line] }) := by
    refine (agrees_liftExcept _).bind fun objective => (agrees_say _).bind fun _ => ?_
    exact agrees_modify fun _ => rfl
  have hlines : (Session.inner Accounted.unheard s).hidden.account = s.hidden.account := rfl
  rw [hlines]
  split
  · exact (agrees_say _).bind fun _ => hline
  · exact hline

lemma agrees_evaluate (problem : Problem ω) (x : List Float) :
    Agrees Accounted.unheard (evaluate problem.heard x) (evaluate problem x) := by
  refine (Session.agrees_heard_aside (problem.fitness x)).bind fun f => ?_
  refine Matches.bind (agrees_modify ?_) fun _ => agrees_get_bind fun s => ?_
  · exact fun _ => rfl
  have haccount : (Session.inner Accounted.unheard s).hidden.account = s.hidden.account := rfl
  have hsettings : (Session.inner Accounted.unheard s).hidden.settings = s.hidden.settings := rfl
  dsimp only
  rw [haccount, hsettings]
  split
  · exact (agrees_reportLine problem _ f).bind fun _ => agrees_pure _
  · exact agrees_pure _

end Account

namespace Evolution

open Session (Agrees agrees_heard_call)

/-- What a caller does when it is heard is what it does. -/
lemma agrees_listener (listener : Algorithm.Listener ω) (L : Library ω) :
    Agrees Accounted.unheard
      (Session.within Accounted.steered Accounted.steer
        (listener.heard (Steered.library L.heard)))
      (Session.within Accounted.steered Accounted.steer (listener (Steered.library L))) := by
  have hlistener : Agrees (fun s : Steered (Heard ω) => (⟨s.settings, s.hidden.hidden⟩ : Steered ω))
      (listener.heard (Steered.library L.heard)) (listener (Steered.library L)) := by
    rw [Algorithm.Listener.heard, Library.unheard_heard]
    refine (Session.agrees_within ?_ _).noting ?_
    · exact fun _ _ => rfl
    · exact fun _ _ => rfl
  refine hlistener.zoom ?_ ?_
  · rintro s _ rfl
    rfl
  · rintro s _ t _ rfl rfl
    rfl

lemma serves_heard (a : Algorithm ω) (problem : Problem ω) (L : Library ω) :
    Loop.Serves Accounted.unheard (Accounted.library L.heard) (Accounted.library L)
      (service a.heard problem.heard L.heard) (service a problem L) where
  call := agrees_heard_call L
  termination := rfl
  fitness := Account.agrees_evaluate problem
  report := by
    rcases hlistener : a.listener with _ | listener
    · simp only [service, Algorithm.heard, hlistener]
      exact agrees_heard_call L .iterationOutput
    · simp only [service, Algorithm.heard, hlistener]
      exact agrees_listener listener L

/-- A solve that is heard comes to what it comes to. -/
lemma matches_course (env : Surroundings ω) (a : Algorithm ω) (problem : Problem ω)
    (L : Library ω) (bounds : Bounds) (seed : Candidate) :
    (course env.heard a.heard problem.heard L.heard bounds seed).Matches
      (Loop.Inner Accounted.unheard) (Loop.Inner Accounted.unheard)
      (course env a problem L bounds seed) := by
  have lift : ∀ {β : Type} (r : Except Fault β), (liftM r : Action _ β).Matches
      (Loop.Inner (Accounted.unheard (ω := ω))) (Loop.Inner Accounted.unheard) (liftM r) :=
    fun r => matches_liftExcept (fun _ _ h => h) r
  have calls := agrees_heard_call L
  have serves := serves_heard a problem L
  refine Matches.bind ?_ fun status => ?_
  · refine (Loop.matches_onSession (Session.agrees_preInit calls)).bind fun _ => ?_
    refine (Loop.matches_onSession (Session.agrees_readParams calls _ _)).bind fun _ => ?_
    refine (lift problem.dimension).bind fun dimension => ?_
    refine (lift problem.constraintCount).bind fun constraints => ?_
    refine (Loop.matches_onSession (Session.agrees_declare _ _)).bind fun _ => ?_
    refine (Loop.matches_onSession (Session.agrees_init calls)).bind fun _ => ?_
    refine (lift problem.equalityCount).bind fun equalities => ?_
    refine (Loop.matches_onSession (Session.agrees_seed _ _ _ _ _ _)).bind fun _ => ?_
    exact serves.run env.budget
  · refine Matches.bind (Loop.matches_modify_inner ?_) fun _ => ?_
    · exact fun _ => rfl
    refine (Loop.matches_onSession (Session.agrees_readCandidate fun x =>
      Session.agrees_heard_aside (problem.fitness x))).bind fun candidate => ?_
    rintro r _ rfl
    exact .ok _ rfl

/-! ## Calls -/

/-- The first state is the second one next to a list. -/
def Overheard (h : Evolution (Heard ω)) (e : Evolution ω) : Prop :=
  ∃ faults, h = { e.heard with hidden := ⟨faults, e.hidden⟩ }

lemma matches_close (L : Library ω) :
    (do let _ ← L.heard.close : Action (Heard ω) Unit).Matches Heard.Holds Heard.Holds
      (do let _ ← L.close) := by
  rw [Library.close, Library.close, bind_assoc, bind_assoc]
  exact (Heard.matches_aside L.release).bind fun _ => matches_pure ()

lemma matches_solve (env : Surroundings ω) (a : Algorithm ω) (problem : Problem ω)
    (L : Library ω) (bounds : Bounds) (seed : Candidate) :
    (solve env.heard a.heard problem.heard L.heard bounds seed).Matches Overheard Overheard
      (solve env a problem L bounds seed) := by
  have hcourse := matches_course env a problem L bounds seed
  have hleave := Loop.matches_onSession (Session.agrees_leave (agrees_heard_call L))
  refine Matches.ensuring ((hcourse.ensuring hleave).zoom ?_ ?_) ((matches_close L).zoom ?_ ?_)
  · rintro _ e ⟨faults, rfl⟩
    rfl
  · rintro _ e r _ ⟨faults, rfl⟩ rfl
    exact ⟨r.session.hidden.hidden.faults, rfl⟩
  · rintro _ e ⟨faults, rfl⟩
    rfl
  · rintro _ e h _ ⟨faults, rfl⟩ rfl
    exact ⟨h.faults, rfl⟩

lemma matches_liftExcept_overheard (r : Except Fault α) :
    (liftM r : Action (Evolution (Heard ω)) α).Matches Overheard Overheard
      (liftM r : Action (Evolution ω) α) :=
  matches_liftExcept (fun _ _ h => h) r

/-- A binder that is heard makes the libraries that it makes, and these are heard. -/
lemma runOn_create_heard (b : Binder ω) (path : Path) (h : Heard ω) :
    (((Heard.binder b).create path).runOn h).1 =
        ((b.create path).runOn h.hidden).1.map Library.heard ∧
      (((Heard.binder b).create path).runOn h).2.hidden = ((b.create path).runOn h.hidden).2 := by
  have hcreate := Heard.matches_aside (b.create path) h _ rfl
  rw [Heard.binder, runOn_bind]
  revert hcreate
  generalize (Heard.aside (b.create path)).runOn h = p
  generalize (b.create path).runOn h.hidden = q
  intro hcreate
  cases hcreate with
  | ok L hstate => exact ⟨rfl, hstate.symm⟩
  | error fault hstate => exact ⟨rfl, hstate.symm⟩

/-- Loading in surroundings that are heard comes to what it comes to, and the library is heard. -/
lemma runOn_load_heard (env : Surroundings ω) (path : Path) (name : Option String)
    (l : Loading.Loader (Heard ω)) {outcome : Except Fault (Library ω)} {l' : Loading.Loader ω}
    (h : (Loading.load env.host.isFile env.registry path name).runOn
      ⟨l.coordinator, l.messages, l.hidden.hidden⟩ = (outcome, l')) :
    ∃ faults, (Loading.load env.heard.host.isFile env.heard.registry path name).runOn l =
      (outcome.map Library.heard, ⟨l'.coordinator, l'.messages, ⟨faults, l'.hidden⟩⟩) := by
  obtain ⟨w, hw, hload⟩ := Loading.runOn_load_lift Heard.hidden Library.heard
    (fun _ => rfl) runOn_create_heard env.host.isFile path name l h
  exact ⟨w.faults, hw ▸ hload⟩

/-- Where a solve arrives, it arrives when it is heard. -/
lemma matches_arrive (env : Surroundings ω) (problem : Problem ω) (seed : Candidate) :
    (arrive env.heard problem.heard seed).Matches Overheard Overheard
      (arrive env problem seed) := by
  rintro _ e ⟨faults, rfl⟩
  rcases hload : (Loading.load env.host.isFile env.registry e.algorithm.settings.library
    e.algorithm.settings.binder).runOn ⟨e.coordinator, e.messages, e.hidden⟩ with ⟨outcome, l⟩
  obtain ⟨faults', hheard⟩ := runOn_load_heard env _ _
    ⟨e.coordinator, e.messages, ⟨faults, e.hidden⟩⟩ hload
  have hloading : (loading (Loading.load env.host.isFile env.registry e.algorithm.settings.library
      e.algorithm.settings.binder)).runOn e = (outcome, { e with
        coordinator := l.coordinator, messages := l.messages, hidden := l.hidden }) :=
    runOn_zoom_eq_iff.mpr ⟨l, hload, rfl⟩
  have hloading' : (loading (Loading.load env.heard.host.isFile env.heard.registry
      e.algorithm.settings.library e.algorithm.settings.binder)).runOn
        { e.heard with hidden := ⟨faults, e.hidden⟩ } = (outcome.map Library.heard, { e.heard with
          coordinator := l.coordinator, messages := l.messages, hidden := ⟨faults', l.hidden⟩ }) :=
    runOn_zoom_eq_iff.mpr ⟨_, hheard, rfl⟩
  have hsettings : e.heard.algorithm.settings = e.algorithm.settings := rfl
  rw [arrive, arrive, runOn_bind, runOn_bind, runOn_get, runOn_get]
  dsimp only
  rw [runOn_bind, runOn_bind, hsettings, hloading, hloading']
  cases outcome with
  | error fault => exact .error fault ⟨faults', rfl⟩
  | ok L =>
    refine Matches.bind (matches_liftExcept_overheard problem.bounds) (fun bounds => ?_) _ _
      ⟨faults', rfl⟩
    exact matches_solve env e.algorithm problem L bounds seed

end Evolution

/-! ### Replacing a member -/

/-- The first habitat is the second one next to a list. -/
def Habitat.Overheard (h : Habitat (Heard ω)) (k : Habitat ω) : Prop :=
  k = ⟨h.population, h.hidden.hidden⟩

lemma Population.matches_replace (problem : Problem ω) (i : ℤ) (x f : Offer) :
    (replace problem.heard i x (some f)).Matches Habitat.Overheard Habitat.Overheard
      (replace problem i x (some f)) := by
  have lift : ∀ {β : Type} (r : Except Fault β), (liftM r : Action (Habitat (Heard ω)) β).Matches
      Habitat.Overheard Habitat.Overheard (liftM r : Action (Habitat ω) β) :=
    fun r => matches_liftExcept (fun _ _ h => h) r
  have hcheck : (checkMember problem.heard x (some f)).Matches Habitat.Overheard Habitat.Overheard
      (checkMember problem x (some f)) := by
    rintro h _ rfl
    rw [checkMember, checkMember, runOn_bind, runOn_bind, runOn_get, runOn_get]
    refine Matches.bind (lift _) (fun row => ?_) h _ rfl
    exact (lift f).bind fun t => (lift _).bind fun values => matches_pure _
  rintro h _ rfl
  rw [replace, replace, runOn_bind, runOn_bind, runOn_get, runOn_get]
  dsimp only
  split
  · exact .error _ rfl
  · refine hcheck.bind (fun m => matches_modify ?_) h _ rfl
    rintro h _ rfl
    rfl

namespace Selection

/-- The first setting is the second one next to a list. -/
def Overheard (h : Setting (Heard ω)) (s : Setting ω) : Prop :=
  s = ⟨⟨h.habitat.population, h.habitat.hidden.hidden⟩, h.generator⟩

lemma matches_replace (problem : Problem ω) (policy : Policy) (result seed : Candidate) :
    (replace problem.heard policy result seed).Matches Overheard Overheard
      (replace problem policy result seed) := by
  have lift : ∀ {β : Type} (r : Except Fault β), (liftM r : Action (Setting (Heard ω)) β).Matches
      Overheard Overheard (liftM r : Action (Setting ω) β) :=
    fun r => matches_liftExcept (fun _ _ h => h) r
  refine (lift problem.equalityCount).bind fun equalities => ?_
  refine (lift problem.tolerances).bind fun tolerances => (lift _).bind fun better => ?_
  split
  · rintro h _ rfl
    rw [runOn_bind, runOn_bind, runOn_get, runOn_get]
    refine Matches.bind (Matches.zoom (matches_self _) ?_ ?_) (fun index => ?_) h _ rfl
    · rintro h _ rfl
      rfl
    · rintro h _ g _ rfl rfl
      rfl
    refine (lift _).bind fun m => (lift _).bind fun better => ?_
    split
    · exact matches_pure _
    · refine Matches.bind ((Population.matches_replace problem index _ _).zoom ?_ ?_) fun _ =>
        matches_pure _
      · rintro h _ rfl
        rfl
      · rintro h _ k _ rfl rfl
        rfl
  · exact matches_pure _

end Selection

namespace Evolution

lemma matches_prepare (problem : Problem ω) :
    (prepare problem.heard).Matches Overheard Overheard (prepare problem) := by
  rintro _ e ⟨faults, rfl⟩
  rw [prepare, prepare, runOn_bind, runOn_bind, runOn_get, runOn_get]
  refine Matches.bind (matches_liftExcept_overheard (checkProblem problem e.population))
    (fun _ => ?_) _ _ ⟨faults, rfl⟩
  refine Matches.bind (Matches.zoom (matches_self _) ?_ ?_) fun selected => ?_
  · rintro _ e ⟨faults, rfl⟩
    rfl
  · rintro _ e g _ ⟨faults, rfl⟩ rfl
    exact ⟨faults, rfl⟩
  exact (matches_liftExcept_overheard _).bind fun _ => matches_pure selected

lemma matches_settle (problem : Problem ω) (selected : ℕ) (seed : Candidate) (outcome : Outcome) :
    (settle problem.heard selected seed outcome).Matches Overheard Overheard
      (settle problem selected seed outcome) := by
  have hsay : ∀ text, (say text : Action (Evolution (Heard ω)) Unit).Matches Overheard Overheard
      (say text) := by
    refine fun text => matches_modify ?_
    rintro _ e ⟨faults, rfl⟩
    exact ⟨faults, rfl⟩
  rintro _ e ⟨faults, rfl⟩
  rw [settle, settle, runOn_bind, runOn_bind, runOn_get, runOn_get]
  refine Matches.bind (hsay _) (fun _ => ?_) _ _ ⟨faults, rfl⟩
  refine Matches.bind ((Selection.matches_replace problem _ _ _).zoom ?_ ?_) fun _ => hsay _
  · rintro _ e ⟨faults, rfl⟩
    rfl
  · rintro _ e s _ ⟨faults, rfl⟩ rfl
    exact ⟨s.habitat.hidden.faults, rfl⟩

/-- A call of `evolve` that is heard comes to what it comes to. -/
theorem matches_evolve_heard (env : Surroundings ω) (problem : Problem ω) :
    (evolve env.heard problem.heard).Matches Overheard Overheard (evolve env problem) := by
  refine Matches.bind (matches_modify ?_) fun _ => ?_
  · rintro _ e ⟨faults, rfl⟩
    exact ⟨faults, rfl⟩
  refine (matches_prepare problem).bind fun selected => ?_
  refine (matches_arrive env problem selected.2).bind fun outcome => ?_
  exact matches_settle problem _ _ outcome

/-- The faults that are raised outside in a call: by the fitness, by the library and the binder that
makes it, and by the caller who is told of iterations. -/
def raisedOutside (env : Surroundings ω) (problem : Problem ω) (e : Evolution ω) : List Fault :=
  ((evolve env.heard problem.heard).runOn e.heard).2.hidden.faults

/-- A call that is heard ends as the call does, next to the faults that are raised in it. -/
theorem runOn_evolve_heard (env : Surroundings ω) (problem : Problem ω) (e : Evolution ω) :
    (evolve env.heard problem.heard).runOn e.heard =
      (((evolve env problem).runOn e).1,
        { ((evolve env problem).runOn e).2.heard with
          hidden := ⟨raisedOutside env problem e, ((evolve env problem).runOn e).2.hidden⟩ }) := by
  have halike := matches_evolve_heard env problem e.heard e ⟨[], rfl⟩
  obtain ⟨faults, hstate⟩ := halike.snd fun _ _ h => h
  have hfaults : raisedOutside env problem e = faults := by rw [raisedOutside, hstate]
  exact Prod.ext halike.fst_eq (hfaults ▸ hstate)

end Evolution

end ReverseComm
