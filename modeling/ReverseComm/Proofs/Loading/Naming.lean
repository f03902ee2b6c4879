import ReverseComm.Proofs.Loading.Outcome

/-!
# Which file is loaded

A text names a library file twice over: it is walked to see whether a regular file is there, and the
path that was read from it goes to the platform in writing.  Writing leaves out what stays in place,
which takes a walk nowhere else (`file?_text_ofString`).  But with the leading dot goes the slash
after it, and a writing without a slash is not walked: the platform looks it up among the installed
libraries.

So the file that is there is the one that gets loaded, unless the path is a bare name
(`loads_the_named_file`), and a bare name can miss it (`bare_name_is_not_walked`).
-/

namespace ReverseComm

namespace Path

/-- A path that is written without a slash: a single name, or none, from here. -/
def Bare (p : Path) : Prop := p.anchor = .here ∧ p.names.length ≤ 1

instance (p : Path) : Decidable p.Bare := inferInstanceAs (Decidable (_ ∧ _))

lemma slash_mem_chars_iff {p : Path} (h : p.Normal) : '/' ∈ p.chars ↔ ¬ p.Bare := by
  obtain ⟨anchor, names⟩ := p
  cases anchor with
  | here =>
    match names, h with
    | [], _ => simp [chars, Bare]
    | [name], h =>
      have hname : '/' ∉ name := (h name List.mem_cons_self).2
      simp [chars, Bare, Anchor.text, joinSlashes, hname]
    | name :: next :: rest, _ => simp [chars, Bare, Anchor.text, joinSlashes]
  | root => simp [chars, Bare, Anchor.text]
  | doubleRoot => simp [chars, Bare, Anchor.text]

/-- The writing of a path goes through its names, after some that stay in place. -/
lemma exists_splitSlashes_chars {p : Path} (h : p.Normal) :
    ∃ idle, (∀ name ∈ idle, isStep name = false) ∧ splitSlashes p.chars = idle ++ p.names := by
  obtain ⟨anchor, names⟩ := p
  have hjoin : ∃ idle, (∀ name ∈ idle, isStep name = false) ∧
      splitSlashes (joinSlashes names) = idle ++ names := by
    cases names with
    | nil => exact ⟨[[]], by decide, rfl⟩
    | cons name rest =>
      have hslash : ∀ n ∈ name :: rest, '/' ∉ n := fun n hn => (h n hn).2
      exact ⟨[], by simp, splitSlashes_joinSlashes (List.cons_ne_nil _ _) hslash⟩
  obtain ⟨idle, hidle, hsplit⟩ := hjoin
  have hempty : isStep [] = false := rfl
  cases anchor with
  | here =>
    cases names with
    | nil => exact ⟨[['.']], by decide, rfl⟩
    | cons name rest => exact ⟨idle, hidle, hsplit⟩
  | root =>
    refine ⟨[] :: idle, List.forall_mem_cons.mpr ⟨hempty, hidle⟩, ?_⟩
    rw [List.cons_append, ← hsplit]
    rfl
  | doubleRoot =>
    refine ⟨[] :: [] :: idle,
      List.forall_mem_cons.mpr ⟨hempty, List.forall_mem_cons.mpr ⟨hempty, hidle⟩⟩, ?_⟩
    rw [List.cons_append, List.cons_append, ← hsplit]
    rfl

lemma joinSlashes_cons_of_ne_nil {name : List Char} {rest : List (List Char)} (h : rest ≠ []) :
    joinSlashes (name :: rest) = name ++ '/' :: joinSlashes rest := by
  cases rest with
  | nil => exact absurd rfl h
  | cons next rest => rfl

lemma joinSlashes_splitSlashes (cs : List Char) : joinSlashes (splitSlashes cs) = cs := by
  induction cs with
  | nil => rfl
  | cons c cs ih =>
    obtain ⟨name, rest, hsplit⟩ := List.exists_cons_of_ne_nil (splitSlashes_ne_nil cs)
    by_cases hc : c = '/'
    · subst hc
      have h : splitSlashes ('/' :: cs) = [] :: splitSlashes cs := rfl
      rw [h, joinSlashes_cons_of_ne_nil (splitSlashes_ne_nil cs), ih]
      rfl
    · have h : splitSlashes (c :: cs) = (c :: name) :: rest := by
        simp [splitSlashes, hc, hsplit]
      rw [h, ← ih, hsplit]
      cases rest <;> rfl

/-- Leaving names out leaves characters out. -/
lemma joinSlashes_filter_sublist (keep : List Char → Bool) (names : List (List Char)) :
    (joinSlashes (names.filter keep)).Sublist (joinSlashes names) := by
  induction names with
  | nil => exact .refl _
  | cons name rest ih =>
    cases rest with
    | nil =>
      by_cases h : keep name <;> simp [h, joinSlashes]
    | cons next rest =>
      rw [joinSlashes_cons_of_ne_nil (List.cons_ne_nil next rest)]
      have htail : (joinSlashes ((next :: rest).filter keep)).Sublist
          (name ++ '/' :: joinSlashes (next :: rest)) :=
        (ih.cons '/').trans (List.sublist_append_right name _)
      by_cases hname : keep name
      · rw [List.filter_cons_of_pos hname]
        by_cases hrest : (next :: rest).filter keep = []
        · rw [hrest]
          exact List.sublist_append_left name _
        · rw [joinSlashes_cons_of_ne_nil hrest]
          exact (ih.cons_cons '/').append_left name
      · rw [List.filter_cons_of_neg hname]
        exact htail

lemma exists_of_anchorOf {cs : List Char} (h : anchorOf cs ≠ .here) :
    ∃ rest, cs = (anchorOf cs).text ++ rest := by
  match cs with
  | [] => exact absurd rfl h
  | [c] =>
    by_cases hc : c = '/'
    · subst hc
      exact ⟨[], rfl⟩
    · simp [anchorOf, hc] at h
  | c :: d :: rest =>
    by_cases hc : c = '/'
    · subst hc
      cases hanchor : anchorOf ('/' :: d :: rest) with
      | here => exact absurd hanchor h
      | root => exact ⟨d :: rest, rfl⟩
      | doubleRoot =>
        by_cases hd : d = '/'
        · subst hd
          exact ⟨rest, rfl⟩
        · simp [anchorOf, hd] at hanchor
    · simp [anchorOf, hc] at h

/-- Writing a path that was read leaves characters out, unless it writes the dot for here. -/
lemma chars_ofChars_sublist (cs : List Char) :
    (ofChars cs).chars.Sublist cs ∨ (ofChars cs).chars = ['.'] := by
  have hnames : ∀ cs, (joinSlashes ((splitSlashes cs).filter isStep)).Sublist cs := fun cs => by
    simpa only [joinSlashes_splitSlashes] using joinSlashes_filter_sublist isStep (splitSlashes cs)
  by_cases hhere : anchorOf cs = .here
  · cases hsteps : (splitSlashes cs).filter isStep with
    | nil => exact .inr (by simp [ofChars, chars, hhere, hsteps])
    | cons name rest =>
      refine .inl ?_
      have := hnames cs
      rw [hsteps] at this
      simpa [ofChars, chars, hhere, hsteps, Anchor.text] using this
  · obtain ⟨rest, hrest⟩ := exists_of_anchorOf hhere
    have hsteps : (splitSlashes cs).filter isStep = (splitSlashes rest).filter isStep := by
      rw [hrest]
      cases anchorOf cs <;> rfl
    have hchars : (ofChars cs).chars =
        (anchorOf cs).text ++ joinSlashes ((splitSlashes rest).filter isStep) := by
      rw [ofChars, chars, hsteps]
      cases hanchor : anchorOf cs with
      | here => exact absurd hanchor hhere
      | root => rfl
      | doubleRoot => rfl
    left
    rw [hchars]
    conv_rhs => rw [hrest]
    exact (hnames rest).append_left _

end Path

namespace FileTree

variable {tree : FileTree} {place target : Place} {name : List Char} {names idle : List (List Char)}

/-! ## Walks -/

lemma enter_idle (h : Path.isStep name = false) : tree.enter place name = place := by
  simp [enter, h]

lemma walk_cons_eq_some_iff : tree.walk place (name :: names) = some target ↔
    tree.entryAt place = some .directory ∧
      tree.walk (tree.enter place name) names = some target := by
  simp [walk]

/-- A walk gets to where its steps alone get to. -/
lemma walk_steps (h : tree.walk place names = some target) :
    tree.walk place (names.filter Path.isStep) = some target := by
  induction names generalizing place with
  | nil => exact h
  | cons name names ih =>
    obtain ⟨hdir, hrest⟩ := walk_cons_eq_some_iff.mp h
    by_cases hstep : Path.isStep name = true
    · rw [List.filter_cons_of_pos hstep]
      exact walk_cons_eq_some_iff.mpr ⟨hdir, ih hrest⟩
    · rw [enter_idle (Bool.eq_false_iff.mpr hstep)] at hrest
      rw [List.filter_cons_of_neg hstep]
      exact ih hrest

/-- Staying in a directory before a walk changes nothing. -/
lemma walk_idle_append (hdir : tree.entryAt place = some .directory)
    (hidle : ∀ name ∈ idle, Path.isStep name = false) :
    tree.walk place (idle ++ names) = tree.walk place names := by
  induction idle with
  | nil => rfl
  | cons name idle ih =>
    obtain ⟨hname, hidle⟩ := List.forall_mem_cons.mp hidle
    rw [List.cons_append, walk, if_pos hdir, enter_idle hname, ih hidle]

/-- A text starts where its path is anchored. -/
lemma start_eq (text : List Char) :
    start text = if Path.anchorOf text = .here then [] else root := by
  cases text with
  | nil => rfl
  | cons c cs =>
    by_cases hc : c = '/'
    · subst hc
      have hanchor : Path.anchorOf ('/' :: cs) ≠ .here := by
        simp only [Path.anchorOf, List.takeWhile_cons, beq_self_eq_true, if_true, List.length_cons]
        split <;> simp_all
      rw [if_neg hanchor]
      rfl
    · simp [start, Path.anchorOf, hc]

lemma start_chars_ofChars (text : List Char) : start (Path.ofChars text).chars = start text := by
  have hanchor : Path.anchorOf (Path.ofChars text).chars = Path.anchorOf text :=
    congrArg Path.anchor (Path.ofChars_chars (Path.normal_ofChars text))
  rw [start_eq, start_eq, hanchor]

/-- A walk along a text also gets there along the writing of its path. -/
lemma walk_chars_ofChars {text : List Char}
    (h : tree.walk (start text) (Path.splitSlashes text) = some target) :
    tree.walk (start (Path.ofChars text).chars) (Path.splitSlashes (Path.ofChars text).chars) =
      some target := by
  obtain ⟨idle, hidle, hsplit⟩ := Path.exists_splitSlashes_chars (Path.normal_ofChars text)
  have hdir : tree.entryAt (start text) = some .directory := by
    obtain ⟨name, names, hnames⟩ := List.exists_cons_of_ne_nil (Path.splitSlashes_ne_nil text)
    rw [hnames] at h
    exact (walk_cons_eq_some_iff.mp h).1
  rw [start_chars_ofChars, hsplit, walk_idle_append hdir hidle]
  exact walk_steps h

lemma bytes_le_of_sublist {short text : List Char} (h : short.Sublist text) :
    bytes short ≤ bytes text := by
  induction h with
  | slnil => exact Nat.le_refl _
  | cons c _ ih =>
    simp only [bytes]
    omega
  | cons_cons c _ ih =>
    simp only [bytes]
    omega

/-- A text that is short enough is so after its path was read and written. -/
lemma fits_chars_ofChars {text : List Char} (h : fits text = true) :
    fits (Path.ofChars text).chars = true := by
  rcases Path.chars_ofChars_sublist text with hsublist | hdot
  · have hshort := bytes_le_of_sublist hsublist
    simp only [fits, decide_eq_true_eq] at h ⊢
    omega
  · rw [hdot]
    decide

lemma file?_eq_some_iff {text : String} {found : Place × Image} :
    tree.file? text = some found ↔ fits text.toList = true ∧
      ∃ target, tree.walk (start text.toList) (Path.splitSlashes text.toList) = some target ∧
        tree.fileAt? target = some found := by
  by_cases hfits : fits text.toList = true
  · simp only [file?, hfits, if_true, Option.bind_eq_some_iff, true_and]
  · simp [file?, hfits]

/-- The file that a text names is the one that the writing of its path names. -/
lemma file?_text_ofString {text : String} {found : Place × Image}
    (h : tree.file? text = some found) : tree.file? (Path.ofString text).text = some found := by
  obtain ⟨hfits, target, hwalk, hfile⟩ := file?_eq_some_iff.mp h
  rw [file?_eq_some_iff, Path.text, String.toList_ofList]
  exact ⟨fits_chars_ofChars hfits, target, walk_chars_ofChars hwalk, hfile⟩

lemma fileAt?_fst {found : Place × Image} (h : tree.fileAt? place = some found) :
    found.1 = place := by
  rw [fileAt?] at h
  split at h
  · cases h
    rfl
  · cases h

lemma fileAt?_of_file? {text : String} {found : Place × Image} (h : tree.file? text = some found) :
    tree.fileAt? found.1 = some found := by
  obtain ⟨-, target, -, hfile⟩ := file?_eq_some_iff.mp h
  rw [fileAt?_fst hfile]
  exact hfile

end FileTree

namespace Loading

open ReverseComm.Action

variable {ω : Type}

/-! ## What the platform opens -/

section Platform

variable {platform : Platform} {p : Path} {place : Place} {image : Image}

lemma find?_text (h : p.Normal) : platform.find? p.text =
    if p.Bare then (platform.installed p.text).bind platform.files.fileAt?
    else platform.files.file? p.text := by
  have hslash : p.text.toList.contains '/' = true ↔ ¬ p.Bare := by
    rw [List.contains_iff_mem, Path.text, String.toList_ofList]
    exact Path.slash_mem_chars_iff h
  by_cases hbare : p.Bare
  · rw [Platform.find?, if_neg (mt hslash.mp (not_not_intro hbare)), if_pos hbare]
  · rw [Platform.find?, if_pos (hslash.mpr hbare), if_neg hbare]

/-- The platform opens the file that a path names, unless the path is a bare name by which this file
is not installed. -/
lemma find?_eq_file?_iff (h : p.Normal)
    (named : platform.files.file? p.text = some (place, image)) :
    platform.find? p.text = some (place, image) ↔
      ¬ p.Bare ∨ platform.installed p.text = some place := by
  rw [find?_text h]
  by_cases hbare : p.Bare
  · rw [if_pos hbare]
    simp only [hbare, not_true_eq_false, false_or]
    constructor
    · intro hfound
      obtain ⟨q, hinstalled, hfile⟩ := Option.bind_eq_some_iff.mp hfound
      rw [hinstalled, ← FileTree.fileAt?_fst hfile]
    · intro hinstalled
      rw [hinstalled]
      exact FileTree.fileAt?_of_file? named
  · simp [hbare, named]

lemma openLibrary_of_find? {text : String} {exports : List String}
    (h : platform.find? text = some (place, .library exports)) :
    platform.openLibrary text = .ok exports := by
  rw [Platform.openLibrary, h]

lemma openLibrary_of_not_find? {text : String} (h : platform.find? text = none) :
    platform.openLibrary text = .error (Platform.report text Platform.nothingFound) := by
  rw [Platform.openLibrary, h]

end Platform

/-! ## What is loaded -/

/-- **A library file that is there is the one that gets loaded**, unless its path is a bare name.
Let a text, or the writing of its path, name a library file with all entry points, and the system
binder be the one that is chosen.  The platform opens this very file exactly if the path is not a
bare name or names this file among the installed libraries, and then the file is loaded.  If nothing
is installed by a bare name, loading it fails. -/
theorem loads_the_named_file {platform : Platform} {machine : Machine ω} {release : Action ω Unit}
    {r : Registry ω} {name : Option String} {text : String} {place : Place} {exports : List String}
    (named : platform.files.file? text = some (place, .library exports) ∨
      platform.files.file? (Path.ofString text).text = some (place, .library exports))
    (complete : ∀ e : EntryPoint, e.symbol ∈ exports)
    (chosen : r.choose (.ofString text) name = .ok (systemBinder platform machine release))
    (l : Loader ω) :
    let path := Path.ofString text
    let loaded := (load platform.files.isFile (.ok r) path name).runOn l
    (platform.find? path.text = some (place, .library exports) ↔
      ¬ path.Bare ∨ platform.installed path.text = some place) ∧
    (platform.find? path.text = some (place, .library exports) →
      loaded = l.settled path (.ok (boundLibrary machine release path), l.hidden)) ∧
    (path.Bare → platform.installed path.text = none →
      loaded = (.error (.load (openFailure path (Platform.report path.text Platform.nothingFound))),
        l.counted)) := by
  intro path loaded
  have hnormal : path.Normal := Path.normal_ofChars _
  have hfile : platform.files.file? path.text = some (place, .library exports) :=
    named.elim FileTree.file?_text_ofString id
  have hloaded : loaded = l.settled path
      ((openAndBind platform machine release path).mapError Fault.load, l.hidden) := by
    have his : platform.files.isFile path = .ok true := by rw [FileTree.isFile, hfile]; rfl
    show (load platform.files.isFile (.ok r) path name).runOn l = _
    rw [runOn_load_of_isFile his, chosen, ← runOn_create_systemBinder]
  refine ⟨find?_eq_file?_iff hnormal hfile, fun hfound => ?_, fun hbare hnothing => ?_⟩
  · rw [hloaded, openAndBind_of_complete (openLibrary_of_find? hfound) complete]
    rfl
  · have hnone : platform.find? path.text = none := by
      rw [find?_text hnormal, if_pos hbare, hnothing]
      rfl
    rw [hloaded, openAndBind_of_report (openLibrary_of_not_find? hnone)]
    rfl

/-- The symbols of all entry points. -/
def allSymbols : List String := EntryPoint.all.map (·.symbol)

/-- A working directory with a complete library, and with another one in a directory of libraries.
Nothing is installed. -/
def shelf : Platform where
  files := ⟨[(["lib".toList], .directory),
    (["lib".toList, "libworhp.so".toList], .file (.library allSymbols)),
    (["libbare.so".toList], .file (.library allSymbols))]⟩
  installed := fun _ => none

/-- The system binder on this platform, for libraries whose entry points do nothing but fail. -/
def shelfBinder : Binder Unit :=
  systemBinder shelf (fun _ => throw (.run (.external "no solver"))) (pure ())

/-- No other binder is registered. -/
def shelfRegistry : Registry Unit := ⟨[(systemBinderName, shelfBinder)]⟩

/-- A library in a directory is loaded, however the way to it is written. -/
theorem loads_library_in_directory :
    shelf.files.file? "./lib//../lib/./libworhp.so" =
      some (["lib".toList, "libworhp.so".toList], .library allSymbols) ∧
    (∀ e : EntryPoint, e.symbol ∈ allSymbols) ∧
    shelfRegistry.choose (.ofString "./lib//../lib/./libworhp.so") none = .ok shelfBinder ∧
    shelf.find? (Path.ofString "./lib//../lib/./libworhp.so").text =
      some (["lib".toList, "libworhp.so".toList], .library allSymbols) ∧
    ∃ L l, (load shelf.files.isFile (.ok shelfRegistry)
        (.ofString "./lib//../lib/./libworhp.so") none).runOn ⟨.fresh, [], ()⟩ = (.ok L, l) ∧
      L.path.text = "lib/../lib/libworhp.so" ∧ L.bound = some EntryPoint.all := by
  have named : shelf.files.file? "./lib//../lib/./libworhp.so" =
      some (["lib".toList, "libworhp.so".toList], .library allSymbols) := by decide +kernel
  have complete : ∀ e : EntryPoint, e.symbol ∈ allSymbols :=
    fun e => List.mem_map_of_mem (EntryPoint.mem_all e)
  have chosen : shelfRegistry.choose (.ofString "./lib//../lib/./libworhp.so") none =
      .ok shelfBinder := rfl
  obtain ⟨hfound, hloaded, -⟩ :=
    loads_the_named_file (.inl named) complete chosen ⟨.fresh, [], ()⟩
  have hopened := hfound.mpr (.inl (by decide +kernel))
  exact ⟨named, complete, chosen, hopened, _, _, hloaded hopened, by decide +kernel, rfl⟩

/-- A library in the working directory is there, is complete and is written with a slash, but it is
looked up where nothing is installed. -/
theorem bare_name_is_not_walked :
    shelf.files.file? "./libbare.so" = some (["libbare.so".toList], .library allSymbols) ∧
    (∀ e : EntryPoint, e.symbol ∈ allSymbols) ∧
    shelfRegistry.choose (.ofString "./libbare.so") none = .ok shelfBinder ∧
    shelf.find? (Path.ofString "./libbare.so").text = none ∧
    ∃ failure l, (load shelf.files.isFile (.ok shelfRegistry) (.ofString "./libbare.so") none).runOn
        ⟨.fresh, [], ()⟩ = (.error (.load failure), l) ∧
      failure.check = .openFailed ∧ failure.path.text = "libbare.so" := by
  refine ⟨by decide +kernel, fun e => List.mem_map_of_mem (EntryPoint.mem_all e), rfl, ?_, ?_⟩
  · decide +kernel
  · exact ⟨_, _, rfl, by decide +kernel, by decide +kernel⟩

end Loading

end ReverseComm
