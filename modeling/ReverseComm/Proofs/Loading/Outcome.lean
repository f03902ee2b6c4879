import ReverseComm.Loading.Load
import ReverseComm.Proofs.Action
import ReverseComm.Proofs.Loading.Registry

/-!
# What loading comes to

Loading a library can fail at the file, at the choice of a binder and at the binder, in this order
(`Precedence`).  Whatever happens, the coordinator has counted one more load and is free again.

A path that names no regular file is refused with a failure to load.  That is so where the system
can say what the path names; where it cannot, its own fault ends the load
(`lookup_fault_escapes`).

The system binder makes a library exactly if the file opens and exports every entry point, and then
all of them are bound.  Otherwise it reports the first entry point that is missing, in the order of
the table, or why the file does not open (`AllOrNothing`).

All of it together is `loading_is_all_or_nothing`.
-/

namespace ReverseComm.Loading

open ReverseComm.Action

variable {ω : Type}

/-! ## Binding entry points -/

/-- The first entry point of the table that is not among the exported symbols. -/
def FirstMissing (exports : List String) (e : EntryPoint) : Prop :=
  ∃ before after, EntryPoint.all = before ++ e :: after ∧
    (∀ d ∈ before, d.symbol ∈ exports) ∧ e.symbol ∉ exports

section Binding

variable {exports : List String} {table bound bound' : List EntryPoint} {e : EntryPoint}

lemma bind_of_mem (h : e.symbol ∈ exports) : bind exports bound e = .ok (bound ++ [e]) := by
  rw [bind, if_pos (List.contains_iff_mem.mpr h)]

lemma bind_of_not_mem (h : e.symbol ∉ exports) : bind exports bound e = .error e := by
  rw [bind, if_neg (mt List.contains_iff_mem.mp h)]

lemma foldlM_bind_cons_of_mem (h : e.symbol ∈ exports) :
    (e :: table).foldlM (bind exports) bound = table.foldlM (bind exports) (bound ++ [e]) := by
  rw [List.foldlM_cons, bind_of_mem h]
  rfl

lemma foldlM_bind_cons_of_not_mem (h : e.symbol ∉ exports) :
    (e :: table).foldlM (bind exports) bound = .error e := by
  rw [List.foldlM_cons, bind_of_not_mem h]
  rfl

/-- Binding the entry points of a table one by one gets through it exactly if all are exported. -/
lemma foldlM_bind_eq_ok_iff : table.foldlM (bind exports) bound = .ok bound' ↔
    (∀ e ∈ table, e.symbol ∈ exports) ∧ bound' = bound ++ table := by
  induction table generalizing bound with
  | nil => simp [pure, Except.pure, eq_comm]
  | cons e table ih =>
    by_cases h : e.symbol ∈ exports
    · rw [foldlM_bind_cons_of_mem h, ih, List.forall_mem_cons, List.append_assoc]
      simp [h]
    · rw [foldlM_bind_cons_of_not_mem h]
      simp [h]

/-- It stops at the first entry point that is missing. -/
lemma foldlM_bind_eq_error_iff : table.foldlM (bind exports) bound = .error e ↔
    ∃ before after, table = before ++ e :: after ∧ (∀ d ∈ before, d.symbol ∈ exports) ∧
      e.symbol ∉ exports := by
  induction table generalizing bound with
  | nil => simp [pure, Except.pure]
  | cons d table ih =>
    by_cases h : d.symbol ∈ exports
    · rw [foldlM_bind_cons_of_mem h, ih]
      constructor
      · rintro ⟨before, after, rfl, hbefore, he⟩
        exact ⟨d :: before, after, rfl, List.forall_mem_cons.mpr ⟨h, hbefore⟩, he⟩
      · rintro ⟨before, after, htable, hbefore, he⟩
        cases before with
        | nil =>
          obtain ⟨rfl, -⟩ := List.cons.inj htable
          exact absurd h he
        | cons d' before =>
          obtain ⟨-, rfl⟩ := List.cons.inj htable
          exact ⟨before, after, rfl, (List.forall_mem_cons.mp hbefore).2, he⟩
    · rw [foldlM_bind_cons_of_not_mem h]
      constructor
      · rintro ⟨⟩
        exact ⟨[], table, rfl, by simp, h⟩
      · rintro ⟨before, after, htable, hbefore, -⟩
        cases before with
        | nil =>
          obtain ⟨rfl, -⟩ := List.cons.inj htable
          rfl
        | cons d' before =>
          obtain ⟨rfl, -⟩ := List.cons.inj htable
          exact absurd (hbefore d List.mem_cons_self) h

lemma bindAll_eq_ok_iff : bindAll exports = .ok bound ↔
    (∀ e : EntryPoint, e.symbol ∈ exports) ∧ bound = EntryPoint.all := by
  rw [bindAll, foldlM_bind_eq_ok_iff, List.nil_append]
  exact and_congr_left fun _ => ⟨fun h e => h e (EntryPoint.mem_all e), fun h e _ => h e⟩

lemma bindAll_eq_error_iff : bindAll exports = .error e ↔ FirstMissing exports e :=
  foldlM_bind_eq_error_iff

example : bindAll ["WorhpPreInit", "WorhpInit", "Worhp"] = .error .readParams := by decide

end Binding

/-! ## The system binder -/

section System

variable {platform : Platform} {machine : Machine ω} {release : Action ω Unit} {path : Path}

/-- The library that the system binder makes of a file. -/
def boundLibrary (machine : Machine ω) (release : Action ω Unit) (path : Path) : Library ω where
  path := path
  successThreshold := successThreshold
  errorThreshold := errorThreshold
  bound := some EntryPoint.all
  machine := conventional machine
  release := release

/-- What the system binder comes to. -/
structure AllOrNothing (platform : Platform) (path : Path)
    (outcome : Except Fault (Library ω)) : Prop where
  loads_iff : (∃ L, outcome = .ok L) ↔
    ∃ exports, platform.openLibrary path.text = .ok exports ∧ ∀ e : EntryPoint, e.symbol ∈ exports
  bound : ∀ L, outcome = .ok L → L.path = path ∧ L.bound = some EntryPoint.all
  /-- A file that opens but lacks an entry point: the first one that is missing is named. -/
  missing : ∀ exports, platform.openLibrary path.text = .ok exports →
    (∃ e : EntryPoint, e.symbol ∉ exports) →
      ∃ e failure, FirstMissing exports e ∧ outcome = .error (.load failure) ∧
        failure.path = path ∧ failure.check = .symbolNotFound ∧ failure.symbol = some e.symbol
  /-- A file that does not open: no entry point is named. -/
  unopened : ∀ report, platform.openLibrary path.text = .error report →
    ∃ failure, outcome = .error (.load failure) ∧ failure.path = path ∧
      failure.detail = report ∧ failure.symbol = none ∧
      (failure.check = .openFailed ∨ failure.check = .dependencyFailed)

lemma openAndBind_of_report {report : String}
    (h : platform.openLibrary path.text = .error report) :
    openAndBind platform machine release path = .error (openFailure path report) := by
  simp only [openAndBind, h]

lemma openAndBind_of_complete {exports : List String}
    (h : platform.openLibrary path.text = .ok exports)
    (complete : ∀ e : EntryPoint, e.symbol ∈ exports) :
    openAndBind platform machine release path = .ok (boundLibrary machine release path) := by
  simp only [openAndBind, h, bindAll_eq_ok_iff.mpr ⟨complete, rfl⟩]
  rfl

lemma openAndBind_of_missing {exports : List String} {e : EntryPoint}
    (h : platform.openLibrary path.text = .ok exports) (missing : FirstMissing exports e) :
    openAndBind platform machine release path = .error (symbolFailure path e) := by
  simp only [openAndBind, h, bindAll_eq_error_iff.mpr missing]

lemma runOn_create_systemBinder (w : ω) :
    ((systemBinder platform machine release).create path).runOn w =
      ((openAndBind platform machine release path).mapError Fault.load, w) := rfl

lemma complete_or_missing (exports : List String) :
    (∀ e : EntryPoint, e.symbol ∈ exports) ∨ ∃ e, FirstMissing exports e := by
  cases h : bindAll exports with
  | error e => exact .inr ⟨e, bindAll_eq_error_iff.mp h⟩
  | ok bound => exact .inl (bindAll_eq_ok_iff.mp h).1

lemma check_openFailure_cases (path : Path) (report : String) :
    (openFailure path report).check = .openFailed ∨
      (openFailure path report).check = .dependencyFailed := by
  cases h : blamesDependency path report <;> simp [openFailure, h]

lemma allOrNothing_openAndBind : AllOrNothing platform path
    ((openAndBind platform machine release path).mapError Fault.load) := by
  rcases hopen : platform.openLibrary path.text with report | exports
  · rw [openAndBind_of_report hopen]
    refine ⟨?_, ?_, ?_, ?_⟩
    · simp [hopen, Except.mapError]
    · simp [Except.mapError]
    · simp [hopen]
    · intro report' h
      rw [hopen] at h
      cases h
      exact ⟨_, rfl, rfl, rfl, rfl, check_openFailure_cases path report⟩
  · rcases complete_or_missing exports with complete | ⟨e, missing⟩
    · rw [openAndBind_of_complete hopen complete]
      refine ⟨?_, ?_, ?_, ?_⟩
      · exact ⟨fun _ => ⟨exports, hopen, complete⟩, fun _ => ⟨_, rfl⟩⟩
      · rintro L ⟨⟩
        exact ⟨rfl, rfl⟩
      · rintro exports' h ⟨e, he⟩
        rw [hopen] at h
        cases h
        exact absurd (complete e) he
      · simp [hopen]
    · rw [openAndBind_of_missing hopen missing]
      refine ⟨?_, ?_, ?_, ?_⟩
      · have ⟨_, _, _, _, he⟩ := missing
        constructor
        · rintro ⟨L, ⟨⟩⟩
        · rintro ⟨exports', h, complete⟩
          rw [hopen] at h
          cases h
          exact absurd (complete e) he
      · rintro L ⟨⟩
      · rintro exports' h -
        rw [hopen] at h
        cases h
        exact ⟨e, _, missing, rfl, rfl, rfl, rfl⟩
      · simp [hopen]

end System

/-! ## Loading -/

/-- The loader after a load that did not get to a binder. -/
def Loader.counted (l : Loader ω) : Loader ω :=
  { l with coordinator := ⟨l.coordinator.loads + 1, false⟩ }

/-- The end of a load that got to a binder: a library is announced, and a fault is raised. -/
def Loader.settled (l : Loader ω) (path : Path) :
    Except Fault (Library ω) × ω → Except Fault (Library ω) × Loader ω
  | (.ok L, w) =>
    (.ok L, { l.counted with
      hidden := w
      messages := l.messages ++ [⟨.loader, .debug, "Loaded solver library " ++ path.text⟩] })
  | (.error fault, w) => (.error fault, { l.counted with hidden := w })

section Load

variable {isFile : Path → Except OsFault Bool} {path : Path} {name : Option String} {l : Loader ω}

lemma runOn_locked {α : Type} (body : Action (Loader ω) α) (l : Loader ω) :
    (locked body).runOn l =
      ((body.runOn { l with coordinator := ⟨l.coordinator.loads + 1, true⟩ }).1,
        { (body.runOn { l with coordinator := ⟨l.coordinator.loads + 1, true⟩ }).2 with
          coordinator.held := false }) := by
  rw [locked, runOn_bind_of_ok (runOn_modify _ l), runOn_ensuring]
  rfl

lemma runOn_probe_bind {W α : Type} {found : Bool} (h : isFile path = .ok found)
    (f : Bool → Action W α) (w : W) : (probe isFile path >>= f).runOn w = (f found).runOn w := by
  rw [runOn_bind, runOn_probe, h]
  rfl

lemma runOn_load_of_unanswered {registry : Except Fault (Registry ω)} {fault : OsFault}
    (h : isFile path = .error fault) :
    (load isFile registry path name).runOn l = (.error (.os fault), l.counted) := by
  rw [load, runOn_bind, runOn_locked]
  simp only [runOn_bind, runOn_probe, h]
  rfl

lemma runOn_load_of_not_isFile {registry : Except Fault (Registry ω)}
    (h : isFile path = .ok false) :
    (load isFile registry path name).runOn l =
      (.error (.load (notAFile path)), l.counted) := by
  rw [load, runOn_bind, runOn_locked, runOn_probe_bind h]
  rfl

lemma runOn_load_of_error {fault : Fault} (h : isFile path = .ok true) :
    (load isFile (.error fault) path name).runOn l = (.error fault, l.counted) := by
  rw [load, runOn_bind, runOn_locked, runOn_probe_bind h]
  rfl

lemma runOn_load_of_isFile {r : Registry ω} (h : isFile path = .ok true) :
    (load isFile (.ok r) path name).runOn l =
      match r.choose path name with
      | .error fault => (.error fault, l.counted)
      | .ok b => l.settled path ((b.create path).runOn l.hidden) := by
  rw [load, runOn_bind, runOn_locked, runOn_probe_bind h, Bool.not_true,
    if_neg Bool.false_ne_true]
  rcases hchoose : r.choose path name with fault | b
  · simp only [runOn_bind, runOn_liftExcept, hchoose]
    rfl
  · rcases hcreate : (b.create path).runOn l.hidden with ⟨fault | L, w⟩
    · simp only [runOn_bind, runOn_liftExcept, hchoose, runOn_zoom, hcreate]
      rfl
    · simp only [runOn_bind, runOn_liftExcept, hchoose, runOn_zoom, hcreate]
      rfl

/-- A load changes nothing but the count, or it ends as the binder that is chosen does. -/
lemma runOn_load_cases (registry : Except Fault (Registry ω)) :
    (∃ fault, (load isFile registry path name).runOn l = (.error fault, l.counted)) ∨
      ∃ r b, registry = .ok r ∧ r.choose path name = .ok b ∧
        (load isFile registry path name).runOn l =
          l.settled path ((b.create path).runOn l.hidden) := by
  rcases hfile : isFile path with fault | _ | _
  · exact .inl ⟨_, runOn_load_of_unanswered hfile⟩
  · exact .inl ⟨_, runOn_load_of_not_isFile hfile⟩
  · cases registry with
    | error fault => exact .inl ⟨fault, runOn_load_of_error hfile⟩
    | ok r =>
      cases hchoose : r.choose path name with
      | error fault => exact .inl ⟨fault, by rw [runOn_load_of_isFile hfile, hchoose]⟩
      | ok b => exact .inr ⟨r, b, rfl, hchoose, by rw [runOn_load_of_isFile hfile, hchoose]⟩

lemma coordinator_settled (outcome : Except Fault (Library ω) × ω) :
    (l.settled path outcome).2.coordinator = ⟨l.coordinator.loads + 1, false⟩ := by
  rcases outcome with ⟨fault | L, w⟩
  · rfl
  · rfl

lemma hidden_settled (outcome : Except Fault (Library ω) × ω) :
    (l.settled path outcome).2.hidden = outcome.2 := by
  rcases outcome with ⟨fault | L, w⟩
  · rfl
  · rfl

lemma fst_settled (outcome : Except Fault (Library ω) × ω) :
    (l.settled path outcome).1 = outcome.1 := by
  rcases outcome with ⟨fault | L, w⟩
  · rfl
  · rfl

lemma coordinator_load (registry : Except Fault (Registry ω)) :
    ((load isFile registry path name).runOn l).2.coordinator =
      ⟨l.coordinator.loads + 1, false⟩ := by
  rcases runOn_load_cases registry with ⟨fault, hload⟩ | ⟨r, b, -, -, hload⟩
  · rw [hload]
    rfl
  · rw [hload]
    exact coordinator_settled _

/-- What a load comes to, fault before fault.  A path that names no regular file is refused as such,
and one that the system cannot look up ends the load with the fault of the system. -/
structure Precedence (isFile : Path → Except OsFault Bool) (r : Registry ω) (path : Path)
    (name : Option String) (l : Loader ω) (result : Except Fault (Library ω) × Loader ω) :
    Prop where
  unanswered : ∀ fault, isFile path = .error fault → result = (.error (.os fault), l.counted)
  no_file : isFile path = .ok false → result = (.error (.load (notAFile path)), l.counted)
  unknown : isFile path = .ok true → ∀ n, name = some n → Text.lower n ∉ r.names →
    result = (.error (.config (.unknownBinder n)), l.counted)
  unsupported : isFile path = .ok true → name = none →
    (∀ e ∈ r.entries, e.2.supports path = false) →
      result = (.error (.config (.unsupportedLibrary path)), l.counted)
  chosen : isFile path = .ok true → (∀ n, name = some n → Text.lower n ∈ r.names) →
    (name = none → ∃ e ∈ r.entries, e.2.supports path = true) →
      ∃ b, r.choose path name = .ok b ∧
        result = l.settled path ((b.create path).runOn l.hidden)

lemma precedence_load (r : Registry ω) :
    Precedence isFile r path name l ((load isFile (.ok r) path name).runOn l) := by
  refine ⟨fun _ => runOn_load_of_unanswered, runOn_load_of_not_isFile, ?_, ?_, ?_⟩
  · rintro h n rfl hn
    rw [runOn_load_of_isFile h, Registry.choose_named_eq_error_iff.mpr ⟨hn, rfl⟩]
  · rintro h rfl hall
    rw [runOn_load_of_isFile h, Registry.choose_unnamed_eq_error_iff.mpr ⟨hall, rfl⟩]
  · intro h hnamed hsupported
    rw [runOn_load_of_isFile h]
    cases hchoose : r.choose path name with
    | ok b => exact ⟨b, rfl, rfl⟩
    | error fault =>
      cases name with
      | some n =>
        exact absurd (hnamed n rfl) (Registry.choose_named_eq_error_iff.mp hchoose).1
      | none =>
        obtain ⟨e, he, hsupports⟩ := hsupported rfl
        have hnot := (Registry.choose_unnamed_eq_error_iff.mp hchoose).1 e he
        rw [hsupports] at hnot
        cases hnot

/-- **Loading is all or nothing.**  Whatever happens, a load counts once and leaves the coordinator
free.  Its faults come in a fixed order, and none of them leaves a library or announces one.  The
system binder makes a library exactly if the file opens and exports all entry points. -/
theorem loading_is_all_or_nothing (isFile : Path → Except OsFault Bool) (path : Path)
    (name : Option String) (l : Loader ω) :
    (∀ registry : Except Fault (Registry ω),
      ((load isFile registry path name).runOn l).2.coordinator =
        ⟨l.coordinator.loads + 1, false⟩) ∧
    (∀ r : Registry ω,
      Precedence isFile r path name l ((load isFile (.ok r) path name).runOn l)) ∧
    ∀ (platform : Platform) (machine : Machine ω) (release : Action ω Unit) (w : ω),
      ∃ outcome, ((systemBinder platform machine release).create path).runOn w = (outcome, w) ∧
        AllOrNothing platform path outcome :=
  ⟨coordinator_load, precedence_load, fun _ _ _ w =>
    ⟨_, runOn_create_systemBinder w, allOrNothing_openAndBind⟩⟩

end Load

/-! ### A library with less than all entry points -/

/-- A directory with a library that exports the first entry points of the table only. -/
def unfinished : Platform where
  files := ⟨[(["lib".toList], .directory),
    (["lib".toList, "half.so".toList],
      .file (.library ["WorhpPreInit", "WorhpInit", "Worhp"]))]⟩
  installed := fun _ => none

/-- The system binder is the only one on this platform. -/
def unfinishedRegistry : Registry Unit :=
  ⟨[(systemBinderName,
    systemBinder unfinished (fun _ => throw (.run (.external "no solver"))) (pure ()))]⟩

/-- Where a library has less than all entry points, an unknown binder is refused before that is
found out.  Without a name, the load ends at the first entry point that is missing.  Both loads are
counted, and neither is announced. -/
theorem loading_unfinished_library :
    (load unfinished.files.isFile (.ok unfinishedRegistry) (.ofString "lib/half.so")
        (some "other")).runOn ⟨.fresh, [], ()⟩ =
      (.error (.config (.unknownBinder "other")), ⟨⟨1, false⟩, [], ()⟩) ∧
    ∃ failure, (load unfinished.files.isFile (.ok unfinishedRegistry) (.ofString "lib/half.so")
        none).runOn ⟨.fresh, [], ()⟩ = (.error (.load failure), ⟨⟨1, false⟩, [], ()⟩) ∧
      failure.check = .symbolNotFound ∧ failure.symbol = some "ReadParams" := by
  have his : unfinished.files.isFile (.ofString "lib/half.so") = .ok true := by decide +kernel
  constructor
  · obtain ⟨-, precedence, -⟩ := loading_is_all_or_nothing unfinished.files.isFile
      (.ofString "lib/half.so") (some "other") (⟨.fresh, [], ()⟩ : Loader Unit)
    exact (precedence unfinishedRegistry).unknown his "other" rfl (by decide +kernel)
  · obtain ⟨-, precedence, system⟩ := loading_is_all_or_nothing unfinished.files.isFile
      (.ofString "lib/half.so") none (⟨.fresh, [], ()⟩ : Loader Unit)
    obtain ⟨b, hb, hload⟩ := (precedence unfinishedRegistry).chosen his (by simp)
      fun _ => ⟨_, List.mem_singleton.mpr rfl, rfl⟩
    obtain ⟨outcome, hcreate, allOrNothing⟩ :=
      system unfinished (fun _ => throw (.run (.external "no solver"))) (pure ()) ()
    obtain rfl : _ = b := Except.ok.inj hb
    obtain ⟨e, failure, first, rfl, -, hcheck, hsymbol⟩ := allOrNothing.missing
      ["WorhpPreInit", "WorhpInit", "Worhp"] (by decide +kernel) ⟨.readParams, by decide⟩
    obtain rfl : EntryPoint.readParams = e :=
      Except.error.inj ((by decide : bindAll _ = .error .readParams).symm.trans
        (bindAll_eq_error_iff.mpr first))
    refine ⟨failure, ?_, hcheck, hsymbol⟩
    rw [hload]
    exact congrArg _ hcreate

/-! ### A path that cannot be looked up -/

/-- A name that is too long to stand in a directory. -/
def overlong : Path := .ofString (String.ofList (List.replicate 300 'a'))

lemma chars_overlong : overlong.chars = List.replicate 300 'a' := by
  rw [overlong, Path.ofString, String.toList_ofList]
  decide +kernel

lemma file?_overlong : (FileTree.mk []).file? overlong.text = none := by
  rw [FileTree.file?, Path.text, String.toList_ofList, chars_overlong]
  decide +kernel

lemma isFile_overlong : (FileTree.mk []).isFile overlong = .error .nameTooLong := by
  rw [FileTree.isFile, file?_overlong, chars_overlong]
  decide +kernel

/-- No regular file goes by a name that is too long to stand in a directory, and the load does not
say so: it ends with the fault of the question, before the binders are asked. -/
theorem lookup_fault_escapes :
    (FileTree.mk []).file? overlong.text = none ∧
    (load (FileTree.mk []).isFile (.ok unfinishedRegistry) overlong none).runOn ⟨.fresh, [], ()⟩ =
      (.error (.os .nameTooLong), ⟨⟨1, false⟩, [], ()⟩) :=
  ⟨file?_overlong, runOn_load_of_unanswered isFile_overlong⟩

end ReverseComm.Loading
