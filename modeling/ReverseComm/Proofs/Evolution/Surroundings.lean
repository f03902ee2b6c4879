import ReverseComm.Algorithm.Evolve
import ReverseComm.Proofs.Loading.Outcome
import ReverseComm.Proofs.Recording

/-!
# Surroundings that are recorded

Whatever binder is in charge in recorded surroundings, the library that it makes keeps a record, and
neither binders nor problems reach the record.

That is a matter of the binders alone: where every binder of a registry has been put in the place of
another one (`Registry.lift`), loading leaves what all of them leave, and a library that is loaded has
what all of theirs have.
-/

namespace ReverseComm

open ReverseComm.Action

variable {ω σ α V : Type}

namespace Loading

/-! ## Binders in the place of others -/

/-- A registry in which each binder has been put in the place of another one. -/
def Registry.lift (f : Binder ω → Binder σ) (r : Registry ω) : Registry σ :=
  ⟨r.entries.map fun e => (e.1, f e.2)⟩

section

variable {f : Binder ω → Binder σ} {r : Except Fault (Registry ω)}

lemma exists_binder_of_choose {r' : Registry σ} (hr : r.map (Registry.lift f) = .ok r')
    {path : Path} {name : Option String} {b : Binder σ} (h : r'.choose path name = .ok b) :
    ∃ b', b = f b' := by
  cases r with
  | error fault => cases hr
  | ok r =>
    cases hr
    obtain ⟨e, he, rfl⟩ := Registry.mem_of_choose h
    obtain ⟨e', -, rfl⟩ := List.mem_map.mp he
    exact ⟨e'.2, rfl⟩

/-- Binders that support the same paths as those whose place they take are chosen in their place. -/
lemma choose_lift (supports : ∀ b, (f b).supports = b.supports) (r : Registry ω) (path : Path)
    (name : Option String) :
    (Registry.lift f r).choose path name = (r.choose path name).map f := by
  cases name with
  | some n =>
    have hlookup : (Registry.lift f r).lookup? (Text.lower n) =
        (r.lookup? (Text.lower n)).map f := by
      simp only [Registry.lookup?, Registry.lift, List.find?_map, Option.map_map]
      rfl
    rw [Registry.choose, Registry.choose, hlookup]
    cases r.lookup? (Text.lower n) with
    | none => rfl
    | some b => rfl
  | none =>
    have hfind : ((Registry.lift f r).order.find? fun e => e.2.supports path) =
        (r.order.find? fun e => e.2.supports path).map fun e => (e.1, f e.2) := by
      simp only [Registry.order, Registry.lift, List.filter_map, ← List.map_append, List.find?_map]
      simp only [Function.comp_def, supports]
    rw [Registry.choose, Registry.choose, hfind]
    cases r.order.find? fun e => e.2.supports path with
    | none => rfl
    | some e => rfl

/-- Let the state be a part of a larger one, and let the binders that take the place of others do to
the part what these do, and make libraries of theirs.  Then so does loading. -/
lemma runOn_load_lift (part : σ → ω) (whole : Library ω → Library σ)
    (supports : ∀ b, (f b).supports = b.supports)
    (create : ∀ b path w, (((f b).create path).runOn w).1 =
        ((b.create path).runOn (part w)).1.map whole ∧
      part (((f b).create path).runOn w).2 = ((b.create path).runOn (part w)).2)
    (isFile : Path → Except OsFault Bool) (path : Path) (name : Option String) (l : Loader σ)
    {q : Except Fault (Library ω) × Loader ω}
    (h : (load isFile r path name).runOn ⟨l.coordinator, l.messages, part l.hidden⟩ = q) :
    ∃ w, part w = q.2.hidden ∧ (load isFile (r.map (Registry.lift f)) path name).runOn l =
      (q.1.map whole, ⟨q.2.coordinator, q.2.messages, w⟩) := by
  subst h
  rcases hfile : isFile path with fault | _ | _
  · rw [runOn_load_of_unanswered hfile, runOn_load_of_unanswered hfile]
    exact ⟨l.hidden, rfl, rfl⟩
  · rw [runOn_load_of_not_isFile hfile, runOn_load_of_not_isFile hfile]
    exact ⟨l.hidden, rfl, rfl⟩
  cases r with
  | error fault =>
    rw [Except.map, runOn_load_of_error hfile, runOn_load_of_error hfile]
    exact ⟨l.hidden, rfl, rfl⟩
  | ok r =>
    rw [Except.map, runOn_load_of_isFile hfile, runOn_load_of_isFile hfile, choose_lift supports]
    rcases r.choose path name with fault | b
    · exact ⟨l.hidden, rfl, rfl⟩
    · obtain ⟨houtcome, hpart⟩ := create b path l.hidden
      dsimp only [Except.map]
      revert houtcome hpart
      generalize ((f b).create path).runOn l.hidden = p
      generalize (b.create path).runOn (part l.hidden) = q
      rcases p with ⟨outcome, w⟩
      rcases q with ⟨fault | L, v⟩
      · rintro rfl hpart
        exact ⟨w, hpart, rfl⟩
      · rintro rfl hpart
        exact ⟨w, hpart, rfl⟩

/-- Loading leaves what all binders leave. -/
lemma keeps_load_lift {view : σ → V} (create : ∀ b path, ((f b).create path).Keeps (Same view))
    (isFile : Path → Except OsFault Bool) (r : Except Fault (Registry ω)) (path : Path)
    (name : Option String) :
    (load isFile (r.map (Registry.lift f)) path name).Keeps (Same fun l => view l.hidden) := by
  intro l
  rcases runOn_load_cases (l := l) (r.map (Registry.lift f)) with
    ⟨fault, hload⟩ | ⟨r', b, hr, hb, hload⟩
  · rw [hload]
    rfl
  · obtain ⟨b', rfl⟩ := exists_binder_of_choose hr hb
    rw [hload, Same, hidden_settled]
    exact create b' path l.hidden

/-- A library that is loaded has what the libraries of all binders have. -/
lemma library_of_load_lift {Q : Library σ → Prop}
    (create : ∀ b path w N w', ((f b).create path).runOn w = (.ok N, w') → Q N)
    {isFile : Path → Except OsFault Bool} {path : Path} {name : Option String} {l l' : Loader σ}
    {N : Library σ}
    (h : (load isFile (r.map (Registry.lift f)) path name).runOn l = (.ok N, l')) : Q N := by
  rcases runOn_load_cases (r.map (Registry.lift f)) with
    ⟨fault, hload⟩ | ⟨r', b, hr, hb, hload⟩
  · rw [h] at hload
    cases hload
  · obtain ⟨b', rfl⟩ := exists_binder_of_choose hr hb
    have hcreate := congrArg Prod.fst (hload.symm.trans h)
    rw [fst_settled] at hcreate
    exact create b' path _ N _ (Prod.ext hcreate rfl)

end

end Loading

/-! ## Recorded surroundings -/

namespace Recorded

/-- A binder whose libraries keep a record. -/
def binder (b : Binder ω) : Binder (Recorded ω) where
  label := b.label
  supports := b.supports
  create path := do
    let L ← aside (b.create path)
    return library L

/-- A registry of such binders. -/
def registry (r : Loading.Registry ω) : Loading.Registry (Recorded ω) :=
  ⟨r.entries.map fun e => (e.1, binder e.2)⟩

end Recorded

/-- Surroundings whose libraries keep a record. -/
def Surroundings.recorded (env : Surroundings ω) : Surroundings (Recorded ω) where
  host := env.host
  registry := env.registry.map Recorded.registry
  budget := env.budget

/-- A problem whose state is next to a record that it does not see. -/
def Problem.recorded (p : Problem ω) : Problem (Recorded ω) where
  name := p.name
  dimension := p.dimension
  objectiveCount := p.objectiveCount
  constraintCount := p.constraintCount
  equalityCount := p.equalityCount
  stochastic := p.stochastic
  bounds := p.bounds
  tolerances := p.tolerances
  fitness x := Recorded.aside (p.fitness x)

namespace Loading

open Recorded (registry binder)

/-- Loading leaves the record. -/
lemma keeps_load (isFile : Path → Except OsFault Bool) (r : Except Fault (Registry ω))
    (path : Path) (name : Option String) :
    (load isFile (r.map registry) path name).Keeps (Same fun l => l.hidden.entries) := by
  refine keeps_load_lift (f := binder) (fun b path => ?_) isFile r path name
  exact (Recorded.keeps_aside _).bind fun L => keeps_pure _

lemma exists_library_of_load {isFile : Path → Except OsFault Bool}
    {r : Except Fault (Registry ω)} {path : Path} {name : Option String}
    {l l' : Loader (Recorded ω)} {N : Library (Recorded ω)}
    (h : (load isFile (r.map registry) path name).runOn l = (.ok N, l')) :
    ∃ L, N = Recorded.library L := by
  refine library_of_load_lift (f := binder) (Q := fun N => ∃ L, N = Recorded.library L) ?_ h
  intro b path w N w' hcreate
  obtain ⟨L, _, -, hL⟩ := runOn_bind_eq_ok_iff.mp hcreate
  cases hL
  exact ⟨L, rfl⟩

end Loading

end ReverseComm
