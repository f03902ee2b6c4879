/-!
# Messages

What the library tells its log: who speaks, how much it matters, and the text.
-/

namespace ReverseComm

/-- The parts of the library that speak. -/
inductive Speaker where
  | algorithm
  | session
  | loader
  deriving DecidableEq, Repr

/-- The name of a speaker in the log. -/
def Speaker.name : Speaker → String
  | .algorithm => "algorithm"
  | .session => "session"
  | .loader => "native.loader"

/-- How much a message matters. -/
inductive Level where
  | debug
  | info
  deriving DecidableEq, Repr

/-- The name of a level in the log. -/
def Level.name : Level → String
  | .debug => "DEBUG"
  | .info => "INFO"

/-- A message to the log. -/
structure Message where
  speaker : Speaker
  level : Level
  text : String
  deriving DecidableEq, Repr

end ReverseComm
