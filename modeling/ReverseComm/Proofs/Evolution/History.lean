import ReverseComm.Proofs.Evolution.Replacement

/-!
# Populations over many calls

A population lives through many calls of `evolve`, each with its own settings, generator, solver and
callback.  `history` is such a sequence of calls, some of which may raise a fault.  If the fitness
vectors never contain NaN, no member of the population ever gets worse (`no_member_gets_worse`).

One call says that the member that was there is not better than the one that is there now.  Over
several calls this needs that "not better" is transitive, which is where NaN would break it: the
order of fitness vectors is linear among vectors of one length without NaN
(`Problem.NotBetter.trans`).  That each fitness vector of a population has the length that the
population fixes is no assumption about the caller: it holds of every population that is made, and
adding and replacing members keep it (`rectangular_make`, `keeps_rectangular_push`,
`keeps_rectangular_replace`).

The best member needs no argument of its own.  At the end it is no worse than the member that has
come of the best one at the start, and that one is no worse than the best one at the start.
-/

namespace ReverseComm

open ReverseComm.Action
open Double (NaNFree)

variable {ω : Type}

namespace Population

/-! ## What all members have in common -/

/-- All members have a property, which may depend on the length that the population fixes. -/
def Every (Q : ℕ → Member → Prop) (p : Population) : Prop := ∀ m ∈ p.members, Q p.fitnessWidth m

/-- A habitat whose members all have a property stays one. -/
abbrev KeepsEvery (Q : ℕ → Member → Prop) : Habitat ω → Habitat ω → Prop :=
  Preserving fun h => h.population.Every Q

/-- Checking a member may count an evaluation, and leaves the members and the widths. -/
lemma keeps_checkMember (problem : Problem ω) (x : Offer) (f : Option Offer) :
    (checkMember problem x f).Keeps (Same fun h : Habitat ω =>
      (h.population.members, h.population.width, h.population.fitnessWidth)) := by
  refine keeps_get.bind fun h => ?_
  refine (keeps_liftExcept _).bind fun x => ?_
  cases f with
  | some f =>
    refine (keeps_liftExcept f).bind fun f => ?_
    exact (keeps_liftExcept _).bind fun f => keeps_pure _
  | none =>
    have hevaluate : (evaluate problem x).Keeps (Same fun h : Habitat ω =>
        (h.population.members, h.population.width, h.population.fitnessWidth)) := by
      refine Keeps.bind (keeps_zoom_same _ ?_) fun f => ?_
      · exact fun _ _ => rfl
      refine Keeps.bind (keeps_modify ?_) fun _ => keeps_pure _
      exact fun _ => rfl
    exact hevaluate.bind fun f => (keeps_liftExcept _).bind fun f => keeps_pure _

section

variable (Q : ℕ → Member → Prop) {problem : Problem ω}

/-- A member that has the property once it is checked may be put anywhere into the population. -/
lemma keeps_every_of_checkMember {x : Offer} {f : Option Offer}
    (checked : ∀ h m h', (checkMember problem x f).runOn h = (.ok m, h') →
      Q h.population.fitnessWidth m)
    (put : Member → List Member → List Member)
    (hput : ∀ m ms, ∀ m' ∈ put m ms, m' = m ∨ m' ∈ ms) :
    (checkMember problem x f >>= fun m => modify fun h : Habitat ω =>
      { h with population.members := put m h.population.members }).Keeps (KeepsEvery Q) := by
  intro h hevery
  have hkept := keeps_checkMember problem x f h
  rw [runOn_bind]
  rcases hm : (checkMember problem x f).runOn h with ⟨fault | m, v⟩
  · rw [hm] at hkept
    obtain ⟨hmembers, hwidths⟩ := Prod.mk.inj hkept
    obtain ⟨-, hwidth⟩ := Prod.mk.inj hwidths
    intro m' hm'
    rw [hmembers] at hm'
    rw [hwidth]
    exact hevery m' hm'
  · rw [hm] at hkept
    obtain ⟨hmembers, hwidths⟩ := Prod.mk.inj hkept
    obtain ⟨-, hwidth⟩ := Prod.mk.inj hwidths
    intro m' hm'
    have hcases := hput m v.population.members m' hm'
    rw [hmembers] at hcases
    show Q v.population.fitnessWidth m'
    rw [hwidth]
    rcases hcases with rfl | hold
    · exact checked h m' v hm
    · exact hevery m' hold

lemma keeps_every_push {x : Offer} {f : Option Offer}
    (checked : ∀ h m h', (checkMember problem x f).runOn h = (.ok m, h') →
      Q h.population.fitnessWidth m) : (push problem x f).Keeps (KeepsEvery Q) := by
  refine keeps_every_of_checkMember Q checked (fun m ms => ms ++ [m]) fun m ms m' hm' => ?_
  rcases List.mem_append.mp hm' with hm' | hm'
  · exact .inr hm'
  · exact .inl (List.mem_singleton.mp hm')

end

/-- Drawing members keeps what adding a member keeps. -/
lemma keeps_fill {R : Habitat ω → Habitat ω → Prop} [IsPreorder (Habitat ω) R]
    {problem : Problem ω} (hpush : ∀ x, (push problem x none).Keeps R) (bounds : Bounds) (n : ℕ)
    (g : Generator) : (fill problem bounds n g).Keeps R := by
  induction n generalizing g with
  | zero => exact keeps_pure _
  | succ n ih => exact (hpush _).bind fun _ => ih _

lemma eq_of_length {n : ℤ} {k : ℕ} (h : length n = .ok k) : n = k := by
  unfold length at h
  split at h
  · cases h
    exact (Int.toNat_of_nonneg ‹_›).symm
  · cases h

lemma members_of_empty {problem : Problem ω} {p : Population} (h : empty problem = .ok p) :
    p.members = [] := by
  simp only [empty, outcome_bind_eq_ok_iff] at h
  obtain ⟨_, -, width, -, _, -, _, -, fitnessWidth, -, hp⟩ := h
  cases hp
  rfl

/-- What holds of the population without members, and is kept by adding members that are evaluated,
holds of every population that is made. -/
lemma holds_of_make {P : Habitat ω → Prop} {problem : Problem ω}
    (hpush : ∀ x, (push problem x none).Keeps (Preserving P))
    {size : ℕ} {seed : ℤ} {w w' : ω} {p : Population}
    (hempty : ∀ p, empty problem = .ok p → P ⟨p, w⟩)
    (h : (make problem size seed).runOn w = (.ok p, w')) : P ⟨p, w'⟩ := by
  simp only [make, runOn_of] at h
  cases hq : empty problem with
  | error fault =>
    rw [hq] at h
    cases h
  | ok q =>
    have hbuild : (do
        let g ← Generator.ofInt? seed
        let bounds ← problem.bounds
        fill problem bounds size g : Action (Habitat ω) Unit).Keeps (Preserving P) := by
      refine (keeps_liftExcept _).bind fun g => ?_
      exact (keeps_liftExcept _).bind fun bounds => keeps_fill hpush bounds size g
    rw [hq] at h
    dsimp only at h
    split at h
    · rename_i h' hrun
      cases h
      exact hbuild.run hrun (hempty q hq)
    · cases h

/-- What every evaluated member has, all members of a population have that is made. -/
lemma every_make (Q : ℕ → Member → Prop) {problem : Problem ω}
    (checked : ∀ x h m h', (checkMember problem x none).runOn h = (.ok m, h') →
      Q h.population.fitnessWidth m)
    {size : ℕ} {seed : ℤ} {w w' : ω} {p : Population}
    (h : (make problem size seed).runOn w = (.ok p, w')) : p.Every Q := by
  refine holds_of_make (P := fun h => h.population.Every Q)
    (fun x => keeps_every_push Q (checked x)) (fun q hq m hm => ?_) h
  rw [members_of_empty hq] at hm
  cases hm

/-! ## Fitness vectors of one length -/

/-- All fitness vectors have the length that the population fixes. -/
def Rectangular (p : Population) : Prop := ∀ m ∈ p.members, m.f.length = p.fitnessWidth

/-- A habitat whose population is rectangular stays one. -/
abbrev KeepsRectangular : Habitat ω → Habitat ω → Prop :=
  Preserving fun h => h.population.Rectangular

lemma length_of_checkMember {problem : Problem ω} {x : Offer} {f : Option Offer}
    {h h' : Habitat ω} {m : Member} (hm : (checkMember problem x f).runOn h = (.ok m, h')) :
    m.f.length = h.population.fitnessWidth := by
  cases f with
  | some | none =>
    simp only [checkMember, runOn_bind_eq_ok_iff, runOn_get, runOn_liftExcept, Prod.mk.injEq] at hm
    obtain ⟨_, _, ⟨⟨⟩, rfl⟩, xs, _, -, t, _, -, fs, _, ⟨hf, rfl⟩, hm⟩ := hm
    cases hm
    obtain ⟨hrow, rfl⟩ := checkFitness_eq_ok_iff.mp hf
    exact hrow.length_eq

/-- Adding a member keeps the fitness vectors at one length. -/
theorem keeps_rectangular_push (problem : Problem ω) (x : Offer) (f : Option Offer) :
    (push problem x f).Keeps KeepsRectangular :=
  keeps_every_push (fun width m => m.f.length = width) fun _ _ _ hm => length_of_checkMember hm

/-- So does replacing one. -/
theorem keeps_rectangular_replace (problem : Problem ω) (i : ℤ) (x : Offer) (f : Option Offer) :
    (replace problem i x f).Keeps KeepsRectangular := by
  refine keeps_get.bind fun h => ?_
  dsimp only
  split
  · exact keeps_throw _
  · refine keeps_every_of_checkMember (fun width m => m.f.length = width)
      (fun _ _ _ hm => length_of_checkMember hm) (fun m ms => ms.set i.toNat m) ?_
    exact fun m ms m' hm' => (List.mem_or_eq_of_mem_set hm').symm

/-- Every population that is made has fitness vectors of one length. -/
theorem rectangular_make {problem : Problem ω} {size : ℕ} {seed : ℤ} {w w' : ω} {p : Population}
    (h : (make problem size seed).runOn w = (.ok p, w')) : p.Rectangular :=
  every_make (fun width m => m.f.length = width) (fun _ _ _ _ hm => length_of_checkMember hm) h

/-! ## From one population to a later one -/

lemma numeric_of_rectangular {p : Population} (hp : p.Rectangular)
    (hnan : ∀ m ∈ p.members, NaNFree m.f) : p.Numeric :=
  fun m hm => ⟨hp m hm, hnan m hm⟩

/-- What has become of a population in which no member got worse. -/
structure NoneWorse (problem : Problem ω) (p p' : Population) : Prop where
  numeric : p'.Numeric
  size : p'.size = p.size
  width : p'.fitnessWidth = p.fitnessWidth
  members : ∀ (i : ℕ) (m m' : Member), p.members[i]? = some m → p'.members[i]? = some m' →
    problem.NotBetter m.f m'.f

section

variable {problem : Problem ω} {p p' p'' : Population}

lemma noneWorse_self (hp : p.Numeric) : NoneWorse problem p p where
  numeric := hp
  size := rfl
  width := rfl
  members i m m' hm hm' := by
    rw [hm] at hm'
    cases hm'
    exact Problem.notBetter_self (hp m (List.mem_of_getElem? hm))

/-- At every index of a population there is a member of one that has the same size. -/
lemma exists_member_of_size_eq {i : ℕ} {m : Member} (hsize : p'.size = p.size)
    (hm : p.members[i]? = some m) : ∃ m', p'.members[i]? = some m' := by
  have hlt : i < p.size := (List.getElem?_eq_some_iff.mp hm).1
  have hlt' : i < p'.members.length := lt_of_lt_of_eq hlt hsize.symm
  exact ⟨_, List.getElem?_eq_getElem hlt'⟩

lemma NoneWorse.numeric_at (h : NoneWorse problem p p') {i : ℕ} {m : Member}
    (hm : p'.members[i]? = some m) : Fitness.Numeric p.fitnessWidth m.f := by
  rw [← h.width]
  exact h.numeric m (List.mem_of_getElem? hm)

lemma NoneWorse.trans (hp : p.Numeric) (h : NoneWorse problem p p')
    (h' : NoneWorse problem p' p'') : NoneWorse problem p p'' where
  numeric := h'.numeric
  size := h'.size.trans h.size
  width := h'.width.trans h.width
  members i m m'' hm hm'' := by
    obtain ⟨m', hm'⟩ := exists_member_of_size_eq h.size hm
    have hlast := h'.numeric_at hm''
    rw [h.width] at hlast
    exact (h.members i m m' hm hm').trans (hp m (List.mem_of_getElem? hm)) (h.numeric_at hm') hlast
      (h'.members i m' m'' hm' hm'')

/-- The best member is no worse either. -/
lemma NoneWorse.best (hp : p.Numeric) (h : NoneWorse problem p p') {b : ℕ}
    (hb : p.best problem = .ok b) :
    ∃ b' m m', p'.best problem = .ok b' ∧ p.members[b]? = some m ∧
      p'.members[b']? = some m' ∧ problem.NotBetter m.f m'.f := by
  obtain ⟨b', hb'⟩ := exists_best hp h.numeric h.size h.width hb
  obtain ⟨m, hm, -⟩ := notBetter_best hp hb
  obtain ⟨m', hm', hleast⟩ := notBetter_best h.numeric hb'
  -- What has become of the best member at the start stands between the two.
  obtain ⟨between, hbetween⟩ := exists_member_of_size_eq h.size hm
  have hfirst := h.members b m between hm hbetween
  have hsecond := hleast between (List.mem_of_getElem? hbetween)
  exact ⟨b', m, m', hb', hm, hm', hfirst.trans (hp m (List.mem_of_getElem? hm))
    (h.numeric_at hbetween) (h.numeric_at hm') hsecond⟩

end

end Population

/-! ## Calls one after another -/

/-- The fitness never contains NaN. -/
def Problem.NeverNaN (problem : Problem ω) : Prop :=
  ∀ x w t w', (problem.fitness x).runOn w = (.ok t, w') → NaNFree t.entries

namespace Evolution

open Selection (Displaces)

/-- A displaced member is not better than the one that displaces it. -/
lemma noneWorse_of_displaces {problem : Problem ω} {seed : List Float} {p p' : Population} {i : ℕ}
    {old new : Member} (hp : p.Numeric) (h : Displaces problem seed p i old new p')
    (hnew : NaNFree new.f) : Population.NoneWorse problem p p' := by
  have hold := hp old (List.mem_of_getElem? h.held)
  have hlength : new.f.length = p.fitnessWidth := by
    rw [← hold.1]
    exact (Problem.length_eq_of_better h.yields).symm
  have hsize : p'.size = p.size := by rw [h.after, Population.size_withMember]
  have hwidth : p'.fitnessWidth = p.fitnessWidth := by rw [h.after, Population.withMember]
  refine ⟨fun m hm => ?_, hsize, hwidth, fun j m m' hm hm' => ?_⟩
  · rw [hwidth]
    rw [h.after, Population.withMember] at hm
    rcases List.mem_or_eq_of_mem_set hm with hm | rfl
    · exact hp m hm
    · exact ⟨hlength, hnew⟩
  · rcases h.eq_or hm hm' with rfl | ⟨rfl, rfl⟩
    · exact Problem.notBetter_self (hp m' (List.mem_of_getElem? hm))
    · exact .inl h.yields

/-- No member gets worse in a call, whatever becomes of it. -/
lemma noneWorse_evolve (env : Surroundings ω) {problem : Problem ω} {e : Evolution ω}
    (numbers : problem.NeverNaN) (hp : e.population.Numeric) :
    Population.NoneWorse problem e.population ((evolve env problem).runOn e).2.population := by
  rcases evolve_cases (Prod.eta ((evolve env problem).runOn e)).symm with
    hsame | ⟨_, seed, _, i, old, new, -, hdisplaces, w, w', hfitness⟩
  · rw [hsame]
    exact Population.noneWorse_self hp
  · exact noneWorse_of_displaces hp hdisplaces (numbers _ _ _ _ hfitness)

/-- What becomes of a population over a sequence of calls.  Each call has its own surroundings and
its own algorithm, and runs on the population that the calls before it have left, whether they have
raised a fault or not. -/
def history (problem : Problem ω) (p : Population) :
    List (Surroundings ω × Evolution ω) → Population
  | [] => p
  | (env, e) :: calls =>
    history problem ((evolve env problem).runOn { e with population := p }).2.population calls

lemma noneWorse_history {problem : Problem ω} {p : Population} (numbers : problem.NeverNaN)
    (hp : p.Numeric) (calls : List (Surroundings ω × Evolution ω)) :
    Population.NoneWorse problem p (history problem p calls) := by
  induction calls generalizing p with
  | nil => exact Population.noneWorse_self hp
  | cons call calls ih =>
    have hfirst := noneWorse_evolve call.1 (e := { call.2 with population := p }) numbers hp
    exact hfirst.trans hp (ih hfirst.numeric)

/-- **No member ever gets worse.**  Over any sequence of calls on a problem whose fitness never
contains NaN, a population without NaN keeps its size; at no index is the member at the start better
than the one at the end; and neither is the best member at the start better than the best one at the
end, which there is if there was one at the start. -/
theorem no_member_gets_worse {problem : Problem ω} (numbers : problem.NeverNaN) {p : Population}
    (rectangular : p.Rectangular) (nanFree : ∀ m ∈ p.members, NaNFree m.f)
    (calls : List (Surroundings ω × Evolution ω)) :
    (history problem p calls).size = p.size ∧
    (∀ (i : ℕ) (m m' : Member), p.members[i]? = some m →
      (history problem p calls).members[i]? = some m' → problem.NotBetter m.f m'.f) ∧
    ∀ b, p.best problem = .ok b → ∃ b' m m', (history problem p calls).best problem = .ok b' ∧
      p.members[b]? = some m ∧ (history problem p calls).members[b']? = some m' ∧
      problem.NotBetter m.f m'.f := by
  have hp := Population.numeric_of_rectangular rectangular nanFree
  have hhistory := noneWorse_history numbers hp calls
  exact ⟨hhistory.size, hhistory.members, fun b hb => hhistory.best hp hb⟩

/-- An objective without constraints that is lower to the left of zero. -/
def leftProblem : Problem Unit :=
  { rootProblem with
    constraintCount := .ok 0
    tolerances := .ok (.ok (.number 0))
    fitness := fun x => pure (.vector [if x.headD 0 < 0 then 1 else 2]) }

lemma neverNaN_leftProblem : leftProblem.NeverNaN := by
  intro x w t w' h
  by_cases hx : x.headD 0 < 0
  · simp only [leftProblem, hx, if_true, runOn_pure] at h
    cases h
    decide +kernel
  · simp only [leftProblem, hx, if_false, runOn_pure] at h
    cases h
    decide +kernel

/-- A population with one member to the right of zero. -/
def rightPopulation : Population := ⟨1, 1, [⟨[4], [2]⟩], 0⟩

/-- A solve that goes left, and one that goes back. -/
def leftAndRight : List (Surroundings Unit × Evolution Unit) :=
  [(.ofLibrary (.endingAt [-1]) 1, rootEvolution), (.ofLibrary (.endingAt [4]) 1, rootEvolution)]

/-- What the first of the two calls gains the second one does not lose. -/
theorem no_member_gets_worse_left :
    leftProblem.NeverNaN ∧ rightPopulation.Rectangular ∧
    (∀ m ∈ rightPopulation.members, NaNFree m.f) ∧
    (history leftProblem rightPopulation leftAndRight).fitnesses = [[1]] ∧
    (history leftProblem rightPopulation leftAndRight).size = rightPopulation.size ∧
    leftProblem.NotBetter [2] [1] := by
  have rectangular : rightPopulation.Rectangular := by
    intro m hm
    rw [List.mem_singleton.mp hm]
    rfl
  have nanFree : ∀ m ∈ rightPopulation.members, NaNFree m.f := by
    intro m hm
    rw [List.mem_singleton.mp hm]
    decide +kernel
  obtain ⟨hsize, hmembers, -⟩ :=
    no_member_gets_worse neverNaN_leftProblem rectangular nanFree leftAndRight
  refine ⟨neverNaN_leftProblem, rectangular, nanFree, by decide +kernel, hsize, ?_⟩
  exact hmembers 0 ⟨[4], [2]⟩ ⟨[-1], [1]⟩ rfl (by decide +kernel)

end Evolution

end ReverseComm
