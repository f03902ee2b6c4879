import ReverseComm.FileTree

/-!
# The platform's loader

The platform opens a library by a text.  A text with a slash is a path; one without is a name that
is looked up among the installed libraries, and not in the working directory.  A library that does
not open is reported in one line that starts with the file at fault.
-/

namespace ReverseComm.Loading

/-- The platform that libraries are opened on. -/
structure Platform where
  files : FileTree
  /-- Where the installed libraries stand, by name. -/
  installed : String → Option Place

namespace Platform

/-- The file that the platform opens by a text, next to the place where it stands. -/
def find? (platform : Platform) (text : String) : Option (Place × Image) :=
  if text.toList.contains '/' then platform.files.file? text
  else (platform.installed text).bind platform.files.fileAt?

/-- What the platform says where it finds nothing. -/
def nothingFound : String := "cannot open shared object file: No such file or directory"

/-- The report of a library that does not open: the file at fault, and why. -/
def report (culprit reason : String) : String := culprit ++ ": " ++ reason

/-- Open a library: its exported symbols, or the report why it does not open. -/
def openLibrary (platform : Platform) (text : String) : Except String (List String) :=
  match platform.find? text with
  | none => .error (report text nothingFound)
  | some (_, .broken culprit reason) => .error (report (culprit.getD text) reason)
  | some (_, .library exports) => .ok exports

end Platform

end ReverseComm.Loading
