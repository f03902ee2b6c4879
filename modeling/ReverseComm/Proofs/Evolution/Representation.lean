import ReverseComm.Proofs.Evolution.History
import ReverseComm.Proofs.Evolution.Watching

/-!
# The rows of a population

A population is two tables of numbers and a counter.  Members are added and replaced by calls that
may be refused at four places: the index, the decision vector, the evaluation of the fitness, and the
fitness vector.  After any calls whatever, refused or not, the tables have one row each per member,
of the widths that the problem declares, and the counter says how many evaluations have been
completed (`representation`).

The counter goes up before the fitness vector is looked at, so a call that is refused may have moved
it.  It moves nothing else.  `Enters` says which member a call would bring in, if any, and it brings
that in exactly if there is a place for it (`Edit.HasPlace`).

What the problem evaluates is read off its diary, which begins empty when the population is made.
-/

namespace ReverseComm

open ReverseComm.Action

variable {ω : Type}

namespace Population

/-! ## What comes in -/

/-- The member that comes of a decision vector, with a fitness vector that is given or evaluated in
the state that the problem is in. -/
inductive Enters (problem : Problem ω) (p : Population) (w : ω) : Offer → Option Offer → Member → Prop
  | given {t u : Tensor} (decision : t.IsRow p.width) (fitness : u.IsRow p.fitnessWidth) :
    Enters problem p w (.ok t) (some (.ok u)) ⟨t.entries, u.entries⟩
  | evaluated {t u : Tensor} (decision : t.IsRow p.width)
      (answered : ((problem.fitness t.entries).runOn w).1 = .ok u)
      (fitness : u.IsRow p.fitnessWidth) :
    Enters problem p w (.ok t) none ⟨t.entries, u.entries⟩

lemma Enters.length_x {problem : Problem ω} {p : Population} {w : ω} {x : Offer}
    {f : Option Offer} {m : Member} (h : Enters problem p w x f m) : m.x.length = p.width := by
  cases h with
  | given decision _ | evaluated decision _ _ => exact decision.length_eq

lemma Enters.length_f {problem : Problem ω} {p : Population} {w : ω} {x : Offer}
    {f : Option Offer} {m : Member} (h : Enters problem p w x f m) :
    m.f.length = p.fitnessWidth := by
  cases h with
  | given _ fitness | evaluated _ _ fitness => exact fitness.length_eq

section

variable {problem : Problem ω} {x : Offer} {f : Option Offer} {h : Habitat ω} {m : Member}

lemma enters_of_checkMember {v : Habitat ω} (hm : (checkMember problem x f).runOn h = (.ok m, v)) :
    Enters problem h.population h.hidden x f m := by
  cases f with
  | some f =>
    simp only [checkMember, runOn_bind_eq_ok_iff, runOn_get, runOn_liftExcept, Prod.mk.injEq] at hm
    obtain ⟨_, _, ⟨⟨⟩, rfl⟩, xs, _, ⟨hx, rfl⟩, u, _, ⟨rfl, rfl⟩, fs, _, ⟨hf, rfl⟩, hm⟩ := hm
    cases hm
    obtain ⟨t, rfl, decision, rfl⟩ := checkDecision_eq_ok_iff.mp hx
    obtain ⟨fitness, rfl⟩ := checkFitness_eq_ok_iff.mp hf
    exact .given decision fitness
  | none =>
    simp only [checkMember, evaluate, runOn_bind_eq_ok_iff, runOn_get, runOn_zoom_eq_iff,
      runOn_modify, runOn_liftExcept, Prod.mk.injEq] at hm
    obtain ⟨_, _, ⟨⟨⟩, rfl⟩, xs, _, ⟨hx, rfl⟩, u, _, ⟨u', _, ⟨w, hu, rfl⟩, _, _, -, hu'⟩, fs, _,
      ⟨hf, -⟩, hm⟩ := hm
    cases hu'
    cases hm
    obtain ⟨t, rfl, decision, rfl⟩ := checkDecision_eq_ok_iff.mp hx
    obtain ⟨fitness, rfl⟩ := checkFitness_eq_ok_iff.mp hf
    exact .evaluated decision (congrArg Prod.fst hu) fitness

lemma checkMember_of_enters (henters : Enters problem h.population h.hidden x f m) :
    ∃ v, (checkMember problem x f).runOn h = (.ok m, v) := by
  cases henters with
  | given decision fitness =>
    have hx := checkDecision_eq_ok_iff.mpr ⟨_, rfl, decision, rfl⟩
    have hf := checkFitness_eq_ok_iff.mpr ⟨fitness, rfl⟩
    simp [checkMember, runOn_bind, hx, hf, -bind_pure_comp]
  | evaluated decision answered fitness =>
    have hx := checkDecision_eq_ok_iff.mpr ⟨_, rfl, decision, rfl⟩
    have hf := checkFitness_eq_ok_iff.mpr ⟨fitness, rfl⟩
    simp [checkMember, evaluate, runOn_bind, hx, hf, answered, -bind_pure_comp]

end

/-! ## Calls -/

/-- A call that adds a member or replaces one. -/
inductive Edit where
  | push (x : Offer) (f : Option Offer)
  | replace (index : ℤ) (x : Offer) (f : Option Offer)

namespace Edit

/-- The decision vector that a call brings. -/
def x : Edit → Offer
  | push x _ | replace _ x _ => x

/-- The fitness vector that a call brings, if any. -/
def f : Edit → Option Offer
  | push _ f | replace _ _ f => f

def perform (problem : Problem ω) : Edit → Action (Habitat ω) Unit
  | push x f => Population.push problem x f
  | replace index x f => Population.replace problem index x f

/-- The index that a call names is one of a member. -/
def HasPlace (p : Population) : Edit → Prop
  | push _ _ => True
  | replace index _ _ => 0 ≤ index ∧ index < p.size

/-- Where a row goes: after the others, or in the place of the one at the index. -/
def place {α : Type} : Edit → List α → α → List α
  | push _ _, rows, row => rows ++ [row]
  | replace index _ _, rows, row => rows.set index.toNat row

lemma mem_place {α : Type} {edit : Edit} {rows : List α} {row a : α}
    (h : a ∈ edit.place rows row) : a = row ∨ a ∈ rows := by
  cases edit with
  | push x f => simpa [place, or_comm] using h
  | replace index x f => exact (List.mem_or_eq_of_mem_set h).symm

lemma map_place {α β : Type} (edit : Edit) (g : α → β) (rows : List α) (row : α) :
    (edit.place rows row).map g = edit.place (rows.map g) (g row) := by
  cases edit with
  | push x f => simp [place]
  | replace index x f => simp [place, List.map_set]

variable {problem : Problem ω} {h : Habitat ω} {edit : Edit}

/-- A call without a place is refused before anything is looked at. -/
lemma runOn_perform_of_not_hasPlace (problem : Problem ω) (hplace : ¬ edit.HasPlace h.population) :
    ∃ fault, (edit.perform problem).runOn h = (.error fault, h) := by
  cases edit with
  | push x f => exact absurd trivial hplace
  | replace index x f =>
    have hindex : isIndex h.population index = false := by
      simpa [isIndex, HasPlace] using hplace
    exact ⟨_, by simp [perform, Population.replace, runOn_bind, hindex]; rfl⟩

/-- A call with a place checks the member, and puts it there. -/
lemma runOn_perform_of_hasPlace (hplace : edit.HasPlace h.population) :
    (edit.perform problem).runOn h = (do
      let m ← checkMember problem edit.x edit.f
      modify fun v : Habitat ω =>
        { v with population.members := edit.place v.population.members m }).runOn h := by
  cases edit with
  | push x f => rfl
  | replace index x f =>
    have hindex : isIndex h.population index = true := by
      simpa [isIndex, HasPlace] using hplace
    rw [perform, Population.replace, runOn_bind_of_ok (runOn_get h)]
    dsimp only
    rw [hindex]
    rfl

lemma perform_eq_ok {h' : Habitat ω} (hrun : (edit.perform problem).runOn h = (.ok (), h')) :
    edit.HasPlace h.population ∧ ∃ m, Enters problem h.population h.hidden edit.x edit.f m ∧
      h'.population.members = edit.place h.population.members m := by
  by_cases hplace : edit.HasPlace h.population
  · rw [runOn_perform_of_hasPlace hplace] at hrun
    obtain ⟨m, v, hm, hput⟩ := runOn_bind_eq_ok_iff.mp hrun
    have hkept := (keeps_checkMember problem edit.x edit.f).run hm
    cases hput
    refine ⟨hplace, m, enters_of_checkMember hm, ?_⟩
    exact congrArg (fun rows => edit.place rows m) (Prod.mk.inj hkept).1
  · obtain ⟨fault, herror⟩ := runOn_perform_of_not_hasPlace problem hplace
    rw [herror] at hrun
    cases hrun

lemma perform_of_enters {m : Member} (hplace : edit.HasPlace h.population)
    (henters : Enters problem h.population h.hidden edit.x edit.f m) :
    ∃ h', (edit.perform problem).runOn h = (.ok (), h') := by
  obtain ⟨v, hm⟩ := checkMember_of_enters henters
  rw [runOn_perform_of_hasPlace hplace, runOn_bind_of_ok hm]
  exact ⟨_, rfl⟩

/-- A call that is refused leaves the members. -/
lemma atomic_perform (problem : Problem ω) (edit : Edit) :
    (edit.perform problem).Atomic fun h => h.population.members := by
  intro h fault h' hrun
  by_cases hplace : edit.HasPlace h.population
  · have hchecked : (checkMember problem edit.x edit.f).Keeps
        (Same fun h : Habitat ω => h.population.members) :=
      (keeps_checkMember problem edit.x edit.f).mono fun _ _ h => (Prod.mk.inj h).1
    rw [runOn_perform_of_hasPlace hplace] at hrun
    exact hchecked.atomic.bind_total (fun m v => ⟨(), _, rfl⟩) h fault h' hrun
  · obtain ⟨fault', herror⟩ := runOn_perform_of_not_hasPlace problem hplace
    rw [herror] at hrun
    cases hrun
    rfl

end Edit

end Population

/-! ## The tables and the counter -/

/-- A population next to the diary of its problem: both tables have the widths that the problem
declares, and as many rows as each other, and the counter says how many evaluations have been
completed. -/
structure Habitat.Represents (problem : Problem ω) (h : Habitat (Watched ω)) : Prop where
  width : problem.dimension = .ok (h.population.width : ℤ)
  fitnessWidth : ∃ objectives constraints : ℤ, problem.objectiveCount = .ok objectives ∧
    problem.constraintCount = .ok constraints ∧ objectives + constraints = h.population.fitnessWidth
  rows : h.population.decisions.length = h.population.fitnesses.length
  decisions : ∀ row ∈ h.population.decisions, row.length = h.population.width
  fitnesses : ∀ row ∈ h.population.fitnesses, row.length = h.population.fitnessWidth
  evaluations : h.population.evaluations = (Evaluation.answers h.hidden.diary).length

namespace Population

variable {problem : Problem ω}

/-- An evaluation goes into the diary in any case, and is counted if it is completed. -/
lemma runOn_evaluate_watched (x : List Float) (h : Habitat (Watched ω)) :
    (evaluate problem.watched x).runOn h =
      match (problem.fitness x).runOn h.hidden.hidden with
      | (.ok t, w) => (.ok t, ⟨{ h.population with evaluations := h.population.evaluations + 1 },
          ⟨h.hidden.diary ++ [⟨x, .ok t⟩], w⟩⟩)
      | (.error fault, w) => (.error fault, ⟨h.population,
          ⟨h.hidden.diary ++ [⟨x, .error fault⟩], w⟩⟩) := by
  rw [evaluate, runOn_bind, runOn_zoom]
  simp only [Problem.watched, runOn_of]
  rcases (problem.fitness x).runOn h.hidden.hidden with ⟨fault | t, w⟩
  · rfl
  · rfl

lemma keeps_represents_evaluate (x : List Float) :
    (evaluate problem.watched x).Keeps (Preserving (Habitat.Represents problem)) := by
  rintro h ⟨width, fitnessWidth, rows, decisions, fitnesses, evaluations⟩
  rw [runOn_evaluate_watched]
  rcases (problem.fitness x).runOn h.hidden.hidden with ⟨fault | t, w⟩
  · refine ⟨width, fitnessWidth, rows, decisions, fitnesses, ?_⟩
    rw [Evaluation.answers_concat_error, evaluations]
  · refine ⟨width, fitnessWidth, rows, decisions, fitnesses, ?_⟩
    rw [Evaluation.answers_concat_ok, List.length_append, evaluations]
    rfl

lemma keeps_represents_checkMember (x : Offer) (f : Option Offer) :
    (checkMember problem.watched x f).Keeps (Preserving (Habitat.Represents problem)) := by
  refine keeps_get.bind fun h => (keeps_liftExcept _).bind fun x => ?_
  cases f with
  | some f =>
    exact (keeps_liftExcept f).bind fun u => (keeps_liftExcept _).bind fun f => keeps_pure _
  | none =>
    exact (keeps_represents_evaluate x).bind fun u => (keeps_liftExcept _).bind fun f =>
      keeps_pure _

/-- A row of the right widths may be put where a call says. -/
lemma represents_place {h : Habitat (Watched ω)} (hh : h.Represents problem) (edit : Edit)
    {m : Member} (hx : m.x.length = h.population.width)
    (hf : m.f.length = h.population.fitnessWidth) :
    Habitat.Represents problem
      { h with population.members := edit.place h.population.members m } where
  width := hh.width
  fitnessWidth := hh.fitnessWidth
  rows := by simp [Population.decisions, fitnesses]
  decisions := by
    intro row hrow
    rw [Population.decisions, Edit.map_place] at hrow
    rcases Edit.mem_place hrow with rfl | hrow
    · exact hx
    · exact hh.decisions row hrow
  fitnesses := by
    intro row hrow
    rw [Population.fitnesses, Edit.map_place] at hrow
    rcases Edit.mem_place hrow with rfl | hrow
    · exact hf
    · exact hh.fitnesses row hrow
  evaluations := hh.evaluations

/-- Whatever becomes of a call, the tables and the counter are right afterwards. -/
lemma keeps_represents_perform (edit : Edit) :
    (edit.perform problem.watched).Keeps (Preserving (Habitat.Represents problem)) := by
  intro h hh
  by_cases hplace : edit.HasPlace h.population
  · rw [Edit.runOn_perform_of_hasPlace hplace, runOn_bind]
    have hkept := keeps_checkMember problem.watched edit.x edit.f h
    have hrepresents := keeps_represents_checkMember edit.x edit.f h hh
    rcases hm : (checkMember problem.watched edit.x edit.f).runOn h with ⟨fault | m, v⟩
    · rw [hm] at hrepresents
      exact hrepresents
    · rw [hm] at hkept hrepresents
      obtain ⟨-, hwidths⟩ := Prod.mk.inj hkept
      obtain ⟨hwidth, hfitnessWidth⟩ := Prod.mk.inj hwidths
      have henters := enters_of_checkMember hm
      exact represents_place hrepresents edit (henters.length_x.trans hwidth.symm)
        (henters.length_f.trans hfitnessWidth.symm)
  · obtain ⟨fault, hrun⟩ := Edit.runOn_perform_of_not_hasPlace problem.watched hplace
    rw [hrun]
    exact hh

lemma represents_of_empty {p : Population} (h : empty problem.watched = .ok p) (w : ω) :
    Habitat.Represents problem ⟨p, ⟨[], w⟩⟩ := by
  simp only [empty, outcome_bind_eq_ok_iff] at h
  obtain ⟨n, hn, width, hwidth, objectives, hobjectives, constraints, hconstraints, fitnessWidth,
    hfitnessWidth, hp⟩ := h
  cases hp
  obtain rfl := eq_of_length hwidth
  exact ⟨hn, ⟨objectives, constraints, hobjectives, hconstraints, eq_of_length hfitnessWidth⟩, rfl,
    fun _ h => absurd h List.not_mem_nil, fun _ h => absurd h List.not_mem_nil, rfl⟩

/-! ## Any calls -/

/-- A population and its problem after some calls, each of which may have been refused. -/
def edited (problem : Problem ω) (h : Habitat ω) (edits : List Edit) : Habitat ω :=
  edits.foldl (fun h edit => ((edit.perform problem).runOn h).2) h

lemma represents_edited {h : Habitat (Watched ω)} (hh : h.Represents problem)
    (edits : List Edit) : (edited problem.watched h edits).Represents problem := by
  induction edits generalizing h with
  | nil => exact hh
  | cons edit edits ih => exact ih (keeps_represents_perform edit h hh)

/-- A population that has been made, with drawn members or without any, and has seen calls since. -/
def Reached (problem : Problem ω) (h : Habitat (Watched ω)) : Prop :=
  ∃ (size : ℕ) (seed : ℤ) (w : ω) (p : Population) (w' : Watched ω) (edits : List Edit),
    (make problem.watched size seed).runOn ⟨[], w⟩ = (.ok p, w') ∧
      h = edited problem.watched ⟨p, w'⟩ edits

lemma Reached.represents {h : Habitat (Watched ω)} (reached : Reached problem h) :
    h.Represents problem := by
  obtain ⟨size, seed, w, p, w', edits, hmake, rfl⟩ := reached
  have hmade : Habitat.Represents problem ⟨p, w'⟩ :=
    holds_of_make (fun x => keeps_represents_perform (.push x none))
      (fun q hq => represents_of_empty hq w) hmake
  exact represents_edited hmade edits

lemma enters_watched_iff {p : Population} {w : Watched ω} {x : Offer} {f : Option Offer}
    {m : Member} : Enters problem.watched p w x f m ↔ Enters problem p w.hidden x f m := by
  constructor
  · rintro (⟨decision, fitness⟩ | ⟨decision, answered, fitness⟩)
    · exact .given decision fitness
    · exact .evaluated decision answered fitness
  · rintro (⟨decision, fitness⟩ | ⟨decision, answered, fitness⟩)
    · exact .given decision fitness
    · exact .evaluated decision answered fitness

/-- **The rows of a population.**  Whatever calls it has seen, the tables and the counter of a
population are right.  The next call succeeds exactly if there is a place for a member and one may
come in; then each table gets one more row, or another one at the index, and has its other rows as
before.  A call that raises a fault leaves both tables as they were. -/
theorem representation {h : Habitat (Watched ω)} (reached : Reached problem h) :
    h.Represents problem ∧ ∀ edit : Edit,
      ((∃ h', (edit.perform problem.watched).runOn h = (.ok (), h')) ↔
        edit.HasPlace h.population ∧
          ∃ m, Enters problem h.population h.hidden.hidden edit.x edit.f m) ∧
      (∀ h', (edit.perform problem.watched).runOn h = (.ok (), h') →
        ∃ m, Enters problem h.population h.hidden.hidden edit.x edit.f m ∧
          h'.population.decisions = edit.place h.population.decisions m.x ∧
          h'.population.fitnesses = edit.place h.population.fitnesses m.f) ∧
      ∀ fault h', (edit.perform problem.watched).runOn h = (.error fault, h') →
        h'.population.decisions = h.population.decisions ∧
          h'.population.fitnesses = h.population.fitnesses := by
  refine ⟨reached.represents, fun edit => ⟨⟨?_, ?_⟩, ?_, ?_⟩⟩
  · rintro ⟨h', hrun⟩
    obtain ⟨hplace, m, henters, -⟩ := Edit.perform_eq_ok hrun
    exact ⟨hplace, m, enters_watched_iff.mp henters⟩
  · rintro ⟨hplace, m, henters⟩
    exact Edit.perform_of_enters hplace (enters_watched_iff.mpr henters)
  · intro h' hrun
    obtain ⟨-, m, henters, hmembers⟩ := Edit.perform_eq_ok hrun
    refine ⟨m, enters_watched_iff.mp henters, ?_, ?_⟩
    · rw [decisions, hmembers, Edit.map_place, decisions]
    · rw [fitnesses, hmembers, Edit.map_place, fitnesses]
  · intro fault h' hrun
    have hmembers : h'.population.members = h.population.members :=
      Edit.atomic_perform problem.watched edit h fault h' hrun
    exact ⟨congrArg (List.map Member.x) hmembers, congrArg (List.map Member.f) hmembers⟩

/-- A fitness that is undefined left of zero, and has an entry too many right of five. -/
def fickleProblem : Problem Unit :=
  { Evolution.leftProblem with
    fitness := fun x =>
      if x.headD 0 < 0 then throw (.run (.external "undefined"))
      else pure (.vector (if 5 < x.headD 0 then [1, 2] else [1])) }

/-- Two calls that succeed, the first and the last one, and one for each way to be refused. -/
def fickleEdits : List Edit :=
  [.push (.vector [4]) none, .push (.vector [4, 4]) none, .push (.vector [-1]) none,
    .push (.vector [6]) none, .replace 1 (.vector [3]) (some (.vector [7])),
    .replace 0 (.ok (.number 3)) (some (.ok (.number 7)))]

/-- Of the six calls, two have changed the rows, and two have moved the counter.  Another one would be
refused for its fitness. -/
theorem representation_fickle :
    ∃ h, Reached fickleProblem h ∧ h.Represents fickleProblem ∧
      h.population = ⟨1, 1, [⟨[3], [7]⟩], 2⟩ ∧
      (∃ h', (push fickleProblem.watched (.ok (.number 2)) none).runOn h = (.ok (), h')) ∧
      ¬ ∃ h', (push fickleProblem.watched (.ok (.number 6)) none).runOn h = (.ok (), h') := by
  obtain ⟨h, reached, hpopulation⟩ : ∃ h, Reached fickleProblem h ∧
      h.population = ⟨1, 1, [⟨[3], [7]⟩], 2⟩ := by
    have hmake : (make fickleProblem.watched 0 7).runOn ⟨[], ()⟩ =
        (.ok ⟨1, 1, [], 0⟩, ⟨[], ()⟩) := rfl
    exact ⟨_, ⟨0, 7, (), _, _, fickleEdits, hmake, rfl⟩, by decide +kernel⟩
  obtain ⟨hrepresents, hedit⟩ := representation reached
  refine ⟨h, reached, hrepresents, hpopulation, ?_, ?_⟩
  · have hanswer : ((fickleProblem.fitness (Tensor.number 2).entries).runOn ()).1 =
        .ok (.vector [1]) := by decide +kernel
    have henters : Enters fickleProblem ⟨1, 1, [⟨[3], [7]⟩], 2⟩ () (.ok (.number 2)) none
        ⟨(Tensor.number 2).entries, (Tensor.vector [1]).entries⟩ :=
      .evaluated (.inr ⟨rfl, rfl⟩) hanswer (.inl rfl)
    rw [← hpopulation] at henters
    exact (hedit (.push (.ok (.number 2)) none)).1.mpr ⟨trivial, _, henters⟩
  · intro hpush
    obtain ⟨-, m, henters⟩ := (hedit (.push (.ok (.number 6)) none)).1.mp hpush
    rw [hpopulation] at henters
    have hanswer : ((fickleProblem.fitness (Tensor.number 6).entries).runOn ()).1 =
        .ok (.vector [1, 2]) := by decide +kernel
    cases henters with
    | evaluated decision answered fitness =>
      cases hanswer.symm.trans answered
      exact absurd fitness (by simp [Tensor.IsRow])

end Population

end ReverseComm
