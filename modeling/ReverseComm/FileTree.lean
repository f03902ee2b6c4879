import ReverseComm.Fault

/-!
# File trees

A file tree says what stands at a place: a directory, a regular file with what the platform finds
when it opens it as a library, or a link.  A place is given by the names that lead to it, from the
working directory or from the root, which goes by a name that no text can spell.

A text is walked name by name, from the root if it starts with a slash and from the working
directory otherwise.  Every name but the last has to lead to a directory.  An empty name and a
single dot stay where they are, a step up leads back to the directory above, and links are followed.

A text is taken up to a length, and so is a name that is looked up in a directory.  Whoever asks for
more is not told that there is nothing: the question itself fails.
-/

namespace ReverseComm

/-- What the platform finds when it opens a file as a library. -/
inductive Image where
  /-- A library with its exported symbols. -/
  | library (exports : List String)
  /-- A file that does not open, and why; the file at fault is another one if it is named. -/
  | broken (culprit : Option String) (reason : String)
  deriving DecidableEq, Repr

/-- A place: the names that lead to it. -/
abbrev Place := List (List Char)

/-- What stands at a place of a file tree. -/
inductive FileTree.Entry where
  | directory
  | file (image : Image)
  /-- A link, and the place where it leads in the end. -/
  | link (target : Place)
  deriving DecidableEq, Repr

/-- What stands where.  The root, the working directory and what is above it are directories without
being listed. -/
structure FileTree where
  entries : List (Place × FileTree.Entry)
  deriving DecidableEq, Repr

namespace FileTree

/-- The root. -/
def root : Place := [['/']]

/-- The step to the directory above. -/
def up : List Char := ['.', '.']

/-- The place above a place.  Above the root is the root; what is above the working directory is
reached by steps up alone. -/
def above (place : Place) : Place :=
  if place == root then root
  else if place.getLast?.all (· == up) then place ++ [up]
  else place.dropLast

/-- What stands at a place. -/
def entryAt (tree : FileTree) (place : Place) : Option Entry :=
  if place == root || place.all (· == up) then some .directory
  else (tree.entries.find? fun e => e.1 == place).map (·.2)

/-- Follow the link at a place, if there is one. -/
def follow (tree : FileTree) (place : Place) : Place :=
  match tree.entryAt place with
  | some (.link target) => target
  | _ => place

/-- The place that a name leads to from a directory. -/
def enter (tree : FileTree) (place : Place) (name : List Char) : Place :=
  if !Path.isStep name then place
  else if name == up then tree.follow (above place)
  else tree.follow (place ++ [name])

/-- Walk along names from a place. -/
def walk (tree : FileTree) (place : Place) : List (List Char) → Option Place
  | [] => some place
  | name :: rest =>
    if tree.entryAt place = some .directory then tree.walk (tree.enter place name) rest else none

/-- Where a text starts. -/
def start (text : List Char) : Place := if text.head? = some '/' then root else []

/-- The regular file at a place, next to the place. -/
def fileAt? (tree : FileTree) (place : Place) : Option (Place × Image) :=
  match tree.entryAt place with
  | some (.file image) => some (place, image)
  | _ => none

/-- The size of a text in bytes. -/
def bytes : List Char → Nat
  | [] => 0
  | c :: text => c.utf8Size + bytes text

/-- The bytes of a text, with the null after it. -/
def textLimit : Nat := 4096

/-- The bytes of a name in a directory. -/
def nameLimit : Nat := 255

/-- Is a text short enough to be taken? -/
def fits (text : List Char) : Bool := bytes text < textLimit

/-- Does a walk come to a directory with a name that is too long to be looked up in it? -/
def strains (tree : FileTree) (place : Place) : List (List Char) → Bool
  | [] => false
  | name :: rest =>
    tree.entryAt place = some .directory &&
      (nameLimit < bytes name || tree.strains (tree.enter place name) rest)

/-- The regular file that a text names, next to the place where it stands. -/
def file? (tree : FileTree) (text : String) : Option (Place × Image) :=
  if fits text.toList then
    (tree.walk (start text.toList) (Path.splitSlashes text.toList)).bind tree.fileAt?
  else none

/-- Does a path name a regular file?  A text with a null character in it is not even passed on. -/
def isFile (tree : FileTree) (path : Path) : Except OsFault Bool :=
  if (tree.file? path.text).isSome then .ok true
  else if path.chars.contains '\x00' then .ok false
  else if !fits path.chars || tree.strains (start path.chars) (Path.splitSlashes path.chars) then
    .error .nameTooLong
  else .ok false

end FileTree

end ReverseComm
