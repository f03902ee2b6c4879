import ReverseComm.Action

/-!
# The host

What the library asks of the machine that it runs on: which paths name regular files, and which
parameter file the environment names.  A path that leads nowhere names no regular file; but the
machine can also fail to say, as for a path that is too long for it.
-/

namespace ReverseComm

/-- The machine that the library runs on. -/
structure Host where
  /-- Does a path name a regular file? -/
  isFile : Path → Except OsFault Bool
  /-- The parameter file that the environment names, if it names one. -/
  paramFile : Option String

/-- Ask whether a path names a regular file. -/
def probe {W : Type} (isFile : Path → Except OsFault Bool) (path : Path) : Action W Bool :=
  liftM ((isFile path).mapError Fault.os)

@[simp] theorem runOn_probe {W : Type} (isFile : Path → Except OsFault Bool) (path : Path) (w : W) :
    (probe isFile path).runOn w = ((isFile path).mapError Fault.os, w) := rfl

/-- The parameter file that is read where no other one is named. -/
def defaultParamFile : String := "param.xml"

/-- The parameter file of a session: the one that is asked for, or else the one of the
environment. -/
def Host.chooseParamFile (host : Host) (file : Option String) : String :=
  file.getD (host.paramFile.getD defaultParamFile)

end ReverseComm
