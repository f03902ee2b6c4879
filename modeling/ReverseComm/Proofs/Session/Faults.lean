import ReverseComm.Loop
import ReverseComm.Proofs.Action

/-!
# The faults of a session

A session and its loop raise faults of their own: they are driven out of order, a buffer is not
there, a vector does not fit.  They raise no fault of the configuration.  Whatever else comes out of
them was raised by the library, by what serves the solver, or by an offer that did not read.

`Plain Q` says of a property of faults that all faults have it, in any state, but those of the
configuration.  If the library and the service raise faults with such a property only, and lose it
for none of the faults that were raised before, so does the whole loop (`Loop.raises_run`).
-/

namespace ReverseComm

open ReverseComm.Action

variable {ω : Type}

/-- Is a fault one of the configuration? -/
def Fault.isConfig : Fault → Bool
  | .config _ => true
  | _ => false

/-- All faults have a property but those of the configuration. -/
def Plain {W : Type} (Q : Fault → W → Prop) : Prop :=
  ∀ fault : Fault, fault.isConfig = false → ∀ w, Q fault w

lemma Plain.within {W S : Type} {Q : Fault → W → Prop} (plain : Plain Q) (part : S → W) :
    Plain (Within part Q) :=
  fun fault h s => plain fault h (part s)

/-! ## Tensors -/

section

variable {W : Type} {Q : Fault → W → Prop} (plain : Plain Q)
include plain

lemma Tensor.reports_first (t : Tensor) : Reports Q t.first := by
  intro fault h
  unfold first at h
  split at h
  · cases h
    exact plain _ rfl
  · cases h
    exact plain _ rfl
  · cases h

lemma Tensor.reports_rest (t : Tensor) : Reports Q t.rest := by
  intro fault h
  unfold rest at h
  split at h
  · cases h
    exact plain _ rfl
  · cases h

lemma Tensor.reports_toNumber (t : Tensor) : Reports Q t.toNumber := by
  unfold toNumber
  split
  · exact reports_ok _
  · exact reports_error (plain _ rfl)

lemma Tensor.reports_objective (t : Tensor) : Reports Q (t.first >>= Tensor.toNumber) :=
  (reports_first plain t).bind fun x => reports_toNumber plain x

lemma raises_probe (isFile : Path → Except OsFault Bool) (path : Path) :
    (probe isFile path : Action W Bool).Raises Q := by
  refine raises_liftExcept fun fault h => ?_
  cases hfile : isFile path with
  | ok found =>
    rw [hfile] at h
    cases h
  | error fault' =>
    rw [hfile] at h
    cases h
    exact plain _ rfl

end

variable {Q : Fault → Session ω → Prop} (plain : Plain Q)
include plain

namespace Session

/-! ## Exchange -/

lemma reports_buffer (s : Session ω) (name : BufferName) : Reports Q (s.buffer name) := by
  unfold buffer
  split
  · split
    · exact reports_ok _
    · split
      · exact reports_error (plain _ rfl)
      · split
        · exact reports_error (plain _ rfl)
        · exact reports_ok _
  · exact reports_error (plain _ rfl)

lemma raises_fill (name : BufferName) {values : Offer} (hvalues : Reports Q values) :
    (fill name values : Action (Session ω) Unit).Raises Q := by
  refine raises_get.bind fun s => ?_
  refine (raises_liftExcept (reports_buffer plain s name)).bind fun xs => ?_
  refine (raises_liftExcept hvalues).bind fun t => ?_
  split
  · exact raises_modify _
  · exact raises_throw (plain _ rfl)

omit plain in
lemma raises_writeObjective {objective : Except Fault Float} (h : Reports Q objective) :
    (writeObjective objective : Action (Session ω) Unit).Raises Q :=
  (raises_liftExcept h).bind fun _ => raises_modify _

lemma raises_writeCandidate {x f : Offer} (hx : Reports Q x) (hf : Reports Q f) :
    (writeCandidate x f : Action (Session ω) Unit).Raises Q := by
  refine (raises_liftExcept hf).bind fun t => ?_
  refine (raises_fill plain _ hx).bind fun _ => ?_
  refine (raises_writeObjective (Tensor.reports_objective plain t)).bind fun _ => ?_
  exact raises_fill plain _ (Tensor.reports_rest plain t)

lemma raises_writeBounds {lower upper : Offer} {equalities : Except Fault Int}
    (hlower : Reports Q lower) (hupper : Reports Q upper) (hequalities : Reports Q equalities) :
    (writeBounds lower upper equalities : Action (Session ω) Unit).Raises Q := by
  refine (raises_fill plain _ hlower).bind fun _ => ?_
  refine (raises_fill plain _ hupper).bind fun _ => ?_
  refine raises_get.bind fun s => ?_
  refine (raises_liftExcept (reports_buffer plain s _)).bind fun below => ?_
  refine raises_get.bind fun s => ?_
  refine (raises_liftExcept (reports_buffer plain s _)).bind fun above => ?_
  refine (raises_liftExcept hequalities).bind fun equalities => ?_
  dsimp only
  split
  · exact (raises_throw (plain _ rfl)).bind fun _ => raises_modify _
  · exact raises_modify _

lemma raises_readDecision : (readDecision : Action (Session ω) (List Float)).Raises Q :=
  raises_get.bind fun s => raises_liftExcept (reports_buffer plain s _)

lemma raises_readCandidate {fitness : List Float → Action ω Tensor}
    (hfitness : ∀ x, (aside (fitness x)).Raises Q) : (readCandidate fitness).Raises Q := by
  refine (raises_readDecision plain).bind fun x => ?_
  exact (hfitness x).bind fun f => raises_pure _

/-! ## The course of a session -/

lemma raises_require (stage : Option Stage) :
    (require stage : Action (Session ω) Unit).Raises Q := by
  refine raises_get.bind fun s => ?_
  split
  · exact raises_pure _
  · exact raises_throw (plain _ rfl)

omit plain in
lemma raises_reach (stage : Stage) : (reach stage : Action (Session ω) Unit).Raises Q :=
  raises_modify _

lemma raises_declare {width height : Except Fault Int} (hwidth : Reports Q width)
    (hheight : Reports Q height) :
    (declare width height : Action (Session ω) Unit).Raises Q := by
  refine (raises_require plain _).bind fun _ => ?_
  refine (raises_liftExcept hwidth).bind fun n => ?_
  refine (raises_modify _).bind fun _ => ?_
  refine (raises_liftExcept hheight).bind fun m => ?_
  exact (raises_modify _).bind fun _ => raises_reach _

lemma raises_seed (screenOutput : Bool) {x f lower upper : Offer} {equalities : Except Fault Int}
    (hx : Reports Q x) (hf : Reports Q f) (hlower : Reports Q lower) (hupper : Reports Q upper)
    (hequalities : Reports Q equalities) :
    (seed screenOutput x f lower upper equalities : Action (Session ω) Unit).Raises Q := by
  refine (raises_require plain _).bind fun _ => ?_
  refine (raises_modify _).bind fun _ => ?_
  refine (raises_writeCandidate plain hx hf).bind fun _ => ?_
  exact (raises_writeBounds plain hlower hupper hequalities).bind fun _ => raises_reach _

lemma raises_enterLoop : (enterLoop : Action (Session ω) Unit).Raises Q :=
  (raises_require plain _).bind fun _ => raises_reach _

section

variable {L : Library ω} (hcall : ∀ c, (call L c).Raises Q)
include hcall

lemma raises_preInit : (preInit L).Raises Q := by
  refine (raises_require plain _).bind fun _ => ?_
  exact (hcall _).bind fun _ => raises_reach _

lemma raises_readParams (host : Host) (file : Option String) :
    (readParams L host file).Raises Q := by
  refine (raises_require plain _).bind fun _ => ?_
  have hread : (do
      let count ← call L (.readParams (host.chooseParamFile file))
      modify fun s => { s with paramCount := count }
      reach .paramsLoaded
      return count : Action (Session ω) Int).Raises Q := by
    refine (hcall _).bind fun count => ?_
    refine (raises_modify _).bind fun _ => ?_
    exact (raises_reach _).bind fun _ => raises_pure _
  refine (raises_probe plain _ _).bind fun found => ?_
  dsimp only
  split
  · exact (raises_modify _).bind fun _ => hread
  · exact hread

lemma raises_init : (init L).Raises Q := by
  refine (raises_require plain _).bind fun _ => ?_
  refine (hcall _).bind fun _ => ?_
  exact (raises_modify _).bind fun _ => raises_reach _

variable (retains : ∀ c, (call L c).Keeps (Retaining Q))
include retains

lemma raises_finalize : (finalize L).Raises Q := by
  refine raises_get.bind fun s => ?_
  split
  · exact (raises_reach _).bind fun _ => (hcall _).ensuring (hcall _) (retains _)
  · exact raises_throw (plain _ rfl)

lemma raises_leave : (leave L).Raises Q := by
  refine raises_get.bind fun s => ?_
  split
  · exact raises_finalize plain hcall retains
  · exact raises_pure _

end

end Session

/-! ## The loop -/

namespace Loop

/-- What a library and a service raise has a property. -/
structure Brings (Q : Fault → Session ω → Prop) (L : Library ω) (service : Service ω) : Prop where
  call : ∀ c, (Session.call L c).Raises Q
  fitness : ∀ x, (service.fitness x).Raises Q
  report : ∀ a ∈ service.report, a.Raises Q

omit plain in
lemma raises_onSession {α : Type} {a : Action (Session ω) α} (ha : a.Raises Q) :
    (onSession a).Raises (Within Running.session Q) :=
  ha.zoom fun _ _ _ h => h

lemma raises_evaluate {service : Service ω} (hfitness : ∀ x, (service.fitness x).Raises Q) :
    (evaluate service).Raises (Within Running.session Q) := by
  refine (raises_onSession (Session.raises_readDecision plain)).bind fun x => ?_
  refine raises_get.bind fun r => ?_
  split
  · exact raises_pure _
  · refine (raises_modify _).bind fun _ => ?_
    refine (raises_onSession (hfitness x)).bind fun f => ?_
    exact (raises_modify _).bind fun _ => raises_pure _

section

variable {L : Library ω} {service : Service ω} (brings : Brings Q L service)
include brings

lemma raises_serve (a : Request) :
    (serve L service (evaluate service) a).Raises (Within Running.session Q) := by
  cases a with
  | solverStep => exact raises_onSession (brings.call .step)
  | reportIteration =>
    refine raises_onSession ?_
    cases h : service.report with
    | none => exact brings.call _
    | some a => exact brings.report a h
  | objective =>
    refine (raises_evaluate plain brings.fitness).bind fun f => ?_
    exact raises_onSession (Session.raises_writeObjective (Tensor.reports_objective plain f))
  | constraints =>
    refine (raises_evaluate plain brings.fitness).bind fun f => ?_
    refine (raises_liftExcept ((Tensor.reports_rest plain f).within _)).bind fun values => ?_
    exact raises_onSession (Session.raises_fill plain _ (reports_ok _))
  | finiteDifference => exact raises_onSession (brings.call .finiteDifference)

lemma raises_poll (a : Request) :
    (poll L service (evaluate service) a).Raises (Within Running.session Q) := by
  refine (raises_onSession (brings.call (.getUserAction a))).bind fun raised => ?_
  split
  · refine (raises_serve plain brings a).bind fun _ => ?_
    split
    · exact raises_onSession (brings.call (.doneUserAction a))
    · exact raises_pure _
  · exact raises_pure _

lemma raises_rounds (budget : ℕ) :
    (rounds L service (evaluate service) budget).Raises (Within Running.session Q) := by
  induction budget with
  | zero =>
    unfold rounds
    refine raises_get.bind fun r => ?_
    split
    · exact raises_throw fun _ => plain _ rfl _
    · exact raises_pure _
  | succ budget ih =>
    unfold rounds
    refine raises_get.bind fun r => ?_
    dsimp only
    split
    · refine Raises.bind ?_ fun _ => ih
      exact (raises_forM fun a => raises_poll plain brings a).bind fun _ => raises_modify _
    · exact raises_pure _

/-- A loop raises no fault of the configuration on its own account. -/
theorem raises_run (budget : ℕ) : (run L service budget).Raises (Within Running.session Q) := by
  refine (raises_onSession (Session.raises_enterLoop plain)).bind fun _ => ?_
  refine (raises_modify _).bind fun _ => ?_
  exact (raises_rounds plain brings budget).bind fun _ => raises_get.bind fun r => raises_pure _

end

end Loop

end ReverseComm
