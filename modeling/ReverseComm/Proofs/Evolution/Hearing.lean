import ReverseComm.Proofs.Evolution.Faults
import ReverseComm.Proofs.Evolution.Surroundings

/-!
# Hearing what comes from outside

Whether a fault comes from outside is seen best where it is raised.  Next to the state of solver,
problem and caller there is a list of the faults that these have raised so far (`Heard`).  Whatever
acts on the state does what it did without the list, and adds the fault to it with which it ends, if
it ends with one: the fitness, a library and the binder that makes it, and the caller who is told of
iterations.  None of them reaches the list; the caller is handed the library that it would be handed
without it (`Library.unheard_heard`).

That a fault is on the list is a property of faults which all that is raised outside has, and which
is never lost again (`Evolution.brings_heard`).
-/

namespace ReverseComm

open ReverseComm.Action

variable {ω W α : Type}

/-! ## Noting faults -/

/-- Run an action, and take note of the fault that it raises. -/
def Action.noting (note : Fault → W → W) (a : Action W α) : Action W α :=
  .of fun w =>
    let (outcome, v) := a.runOn w
    match outcome with
    | .ok x => (.ok x, v)
    | .error fault => (.error fault, note fault v)

section

variable {note : Fault → W → W} {a : Action W α}

lemma runOn_noting (w : W) :
    (a.noting note).runOn w = ((a.runOn w).1,
      match (a.runOn w).1 with
      | .ok _ => (a.runOn w).2
      | .error fault => note fault (a.runOn w).2) := by
  simp only [noting, runOn_of]
  rcases a.runOn w with ⟨fault | x, v⟩
  · rfl
  · rfl

lemma fst_runOn_noting (w : W) : ((a.noting note).runOn w).1 = (a.runOn w).1 := by
  rw [runOn_noting]

/-- What does not show the notes does not show that they are taken. -/
lemma view_runOn_noting {V : Type} (view : W → V) (unseen : ∀ fault w, view (note fault w) = view w)
    (w : W) : view ((a.noting note).runOn w).2 = view (a.runOn w).2 := by
  rw [runOn_noting]
  rcases a.runOn w with ⟨fault | x, v⟩
  · exact unseen fault v
  · rfl

lemma raises_noting {Q : Fault → W → Prop} (noted : ∀ fault w, Q fault (note fault w)) :
    (a.noting note).Raises Q := by
  intro w fault w' h
  rw [runOn_noting] at h
  rcases ha : a.runOn w with ⟨fault' | x, v⟩
  · rw [ha] at h
    cases h
    exact noted fault v
  · rw [ha] at h
    cases h

lemma keeps_noting {R : W → W → Prop} [IsPreorder W R] (noted : ∀ fault w, R w (note fault w))
    (ha : a.Keeps R) : (a.noting note).Keeps R := by
  intro w
  rw [runOn_noting]
  rcases h : a.runOn w with ⟨fault | x, v⟩
  · exact trans_of R (ha.run h) (noted fault v)
  · exact ha.run h

end

/-- A state next to the faults that have been raised by what acts on it. -/
structure Heard (ω : Type) where
  faults : List Fault
  hidden : ω

namespace Heard

/-- A state where nothing has been heard yet. -/
def silent (w : ω) : Heard ω := ⟨[], w⟩

/-- Change the state and leave the list. -/
def put (w : ω) (h : Heard ω) : Heard ω := { h with hidden := w }

/-- Add a fault to the list. -/
def note (fault : Fault) (h : Heard ω) : Heard ω := { h with faults := h.faults ++ [fault] }

/-- Act on the state, and be heard. -/
def aside (a : Action ω α) : Action (Heard ω) α := (a.zoom hidden put).noting note

end Heard

/-- A library that is heard. -/
def Library.heard (L : Library ω) : Library (Heard ω) where
  path := L.path
  successThreshold := L.successThreshold
  errorThreshold := L.errorThreshold
  bound := L.bound
  machine c := ((L.within Heard.hidden Heard.put).machine c).noting
    fun fault n => { n with hidden := n.hidden.note fault }
  release := Heard.aside L.release

lemma Library.heard_machine (L : Library ω) (c : Call) :
    L.heard.machine c = ((L.within Heard.hidden Heard.put).machine c).noting
      fun fault n => { n with hidden := n.hidden.note fault } := rfl

/-- A binder that is heard, and so are its libraries. -/
def Heard.binder (b : Binder ω) : Binder (Heard ω) where
  label := b.label
  supports := b.supports
  create path := do
    let L ← aside (b.create path)
    return L.heard

/-- Surroundings in which all binders are heard. -/
def Surroundings.heard (env : Surroundings ω) : Surroundings (Heard ω) where
  host := env.host
  registry := env.registry.map (Loading.Registry.lift Heard.binder)
  budget := env.budget

/-- A problem whose fitness is heard. -/
def Problem.heard (p : Problem ω) : Problem (Heard ω) where
  name := p.name
  dimension := p.dimension
  objectiveCount := p.objectiveCount
  constraintCount := p.constraintCount
  equalityCount := p.equalityCount
  stochastic := p.stochastic
  bounds := p.bounds
  tolerances := p.tolerances
  fitness x := Heard.aside (p.fitness x)

/-- The library that a caller is handed, without the list. -/
def Library.unheard (L : Library (Steered (Heard ω))) : Library (Steered ω) :=
  L.within (fun s => ⟨s.settings, .silent s.hidden⟩) fun t _ => ⟨t.settings, t.hidden.hidden⟩

/-- A caller that is heard. -/
def Algorithm.Listener.heard (listener : Algorithm.Listener ω) : Algorithm.Listener (Heard ω) :=
  fun L => (Session.within (fun s => ⟨s.settings, s.hidden.hidden⟩)
    (fun t s => ⟨t.settings, s.hidden.put t.hidden⟩) (listener L.unheard)).noting
      fun fault s => { s with hidden.hidden := s.hidden.hidden.note fault }

/-- An algorithm whose caller is heard. -/
def Algorithm.heard (a : Algorithm ω) : Algorithm (Heard ω) where
  settings := a.settings
  generator := a.generator
  listener := a.listener.map Listener.heard
  account := a.account

/-- An algorithm at work whose caller is heard, before anything is. -/
def Evolution.heard (e : Evolution ω) : Evolution (Heard ω) where
  algorithm := e.algorithm.heard
  population := e.population
  coordinator := e.coordinator
  messages := e.messages
  hidden := .silent e.hidden

/-- The list does not show in what is heard. -/
lemma Heard.runOn_aside (a : Action ω α) (h : Heard ω) :
    ((aside a).runOn h).1 = (a.runOn h.hidden).1 ∧
      ((aside a).runOn h).2.hidden = (a.runOn h.hidden).2 := by
  refine ⟨fst_runOn_noting h, view_runOn_noting hidden ?_ h⟩
  exact fun _ _ => rfl

lemma Library.runOn_heard (L : Library ω) (c : Call) (n : Native (Heard ω)) :
    ((L.heard.machine c).runOn n).1 = ((L.machine c).runOn ⟨n.memory, n.hidden.hidden⟩).1 ∧
      Native.mk ((L.heard.machine c).runOn n).2.memory
          ((L.heard.machine c).runOn n).2.hidden.hidden =
        ((L.machine c).runOn ⟨n.memory, n.hidden.hidden⟩).2 := by
  refine ⟨fst_runOn_noting n,
    view_runOn_noting (fun m : Native (Heard ω) => Native.mk m.memory m.hidden.hidden) ?_ n⟩
  exact fun _ _ => rfl

/-- The list does not show in the library that a caller is handed. -/
lemma Library.unheard_heard (L : Library ω) :
    (Steered.library L.heard).unheard = Steered.library L := by
  have hmachine : (Steered.library L.heard).unheard.machine = (Steered.library L).machine := by
    funext c n
    obtain ⟨houtcome, hstate⟩ := L.runOn_heard c ⟨n.memory, .silent n.hidden.hidden⟩
    exact Prod.ext houtcome (congrArg
      (fun m : Native ω => Native.mk m.memory (Steered.mk n.hidden.settings m.hidden)) hstate)
  have hrelease : (Steered.library L.heard).unheard.release = (Steered.library L).release := by
    funext s
    obtain ⟨houtcome, hstate⟩ := Heard.runOn_aside L.release (.silent s.hidden)
    exact Prod.ext houtcome (congrArg (Steered.mk s.settings) hstate)
  calc (Steered.library L.heard).unheard
      = { Steered.library L with
          machine := (Steered.library L.heard).unheard.machine
          release := (Steered.library L.heard).unheard.release } := rfl
    _ = Steered.library L := by rw [hmachine, hrelease]

/-! ## What has been heard -/

/-- A fault, if it is one of the configuration, has been heard, or is among some others. -/
def Heard.Known (others : Fault → Prop) (fault : Fault) (h : Heard ω) : Prop :=
  fault.isConfig = true → fault ∈ h.faults ∨ others fault

namespace Heard

variable {others : Fault → Prop}

lemma plain_known : Plain (Known (ω := ω) others) := by
  intro fault hplain h hconfig
  rw [hplain] at hconfig
  cases hconfig

lemma known_note (fault : Fault) (h : Heard ω) : Known others fault (h.note fault) :=
  fun _ => .inl (List.mem_append_right _ List.mem_cons_self)

/-- What has been heard once stays heard. -/
lemma retaining_note (fault : Fault) (h : Heard ω) :
    Retaining (Known others) h (h.note fault) :=
  fun _ hknown hconfig => (hknown hconfig).imp_left (List.mem_append_left _)

lemma raises_aside (a : Action ω α) : (aside a).Raises (Known others) :=
  raises_noting known_note

lemma keeps_aside (a : Action ω α) : (aside a).Keeps (Retaining (Known others)) := by
  refine keeps_noting retaining_note fun h fault hknown => ?_
  exact hknown

end Heard

namespace Loading

/-- Whatever library is loaded in surroundings that are heard is one that is heard. -/
lemma exists_heard_of_load {env : Surroundings ω} {path : Path} {name : Option String}
    {l l' : Loader (Heard ω)} {N : Library (Heard ω)}
    (h : (load env.heard.host.isFile env.heard.registry path name).runOn l = (.ok N, l')) :
    ∃ L : Library ω, N = L.heard := by
  refine library_of_load_lift (f := Heard.binder) (Q := fun N => ∃ L : Library ω, N = L.heard) ?_ h
  intro b path w N w' hcreate
  obtain ⟨L, _, -, hL⟩ := runOn_bind_eq_ok_iff.mp hcreate
  cases hL
  exact ⟨L, rfl⟩

end Loading

/-- All that is raised outside is known. -/
lemma Evolution.brings_heard {others : Fault → Prop} {problem : Problem ω}
    (responds : problem.heard.Responds (Heard.Known (ω := ω) others)) (a : Algorithm ω)
    (L : Library ω) : Brings (Heard.Known others) a.heard problem.heard L.heard where
  responds := responds
  fitness _ := Heard.raises_aside _
  machine c := by
    rw [Library.heard_machine]
    exact raises_noting fun fault n => Heard.known_note fault n.hidden
  release := Heard.raises_aside _
  listener listener hlistener := by
    obtain ⟨listener, -, rfl⟩ := Option.map_eq_some_iff.mp hlistener
    refine raises_noting ?_
    exact fun fault s => Heard.known_note fault s.hidden.hidden
  retained c := by
    rw [Library.heard_machine]
    refine keeps_noting ?_ ?_
    · exact fun fault n => Heard.retaining_note fault n.hidden
    · exact fun _ _ hknown => hknown
  closed := Heard.keeps_aside _

end ReverseComm
