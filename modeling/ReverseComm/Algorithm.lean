import ReverseComm.Algorithm.Account
import ReverseComm.Generator
import ReverseComm.Settings

/-!
# The algorithm

The algorithm carries its settings, the generator of the random policies, the caller that is told of
iterations, and the account of its latest solve.

The setters replace one setting each.  They validate what they are given, and a setter that refuses
leaves everything as it was.  The solver's own output and a verbosity are never set together.
-/

namespace ReverseComm

/-- What a caller does when it is told of an iteration.  It is handed the session with its library,
and may change the settings of the algorithm: what is looked up in them later is looked up in the
changed ones. -/
abbrev Algorithm.Listener (ω : Type) := Library (Steered ω) → Action (Session (Steered ω)) Unit

/-- The algorithm with its settings. -/
structure Algorithm (ω : Type) where
  settings : Settings
  generator : Generator
  /-- Who is told of iterations; the solver reports them itself where nobody is. -/
  listener : Option (Algorithm.Listener ω)
  account : Account

namespace Algorithm

variable {ω : Type}

/-- The algorithm with validated settings; without a seed the generator starts from `entropy`. -/
def ofSettings (settings : Settings) (entropy : Nat) : Except Fault (Algorithm ω) := do
  Settings.checkOutput settings.screenOutput (.int settings.verbosity)
  return { settings, generator := Generator.ofSeed (settings.seed.getD entropy), listener := none,
           account := .blank }

/-- The algorithm with settings from a value of any kind, or with the default settings. -/
def ofValue (value : Option Value) (entropy : Nat) : Except Fault (Algorithm ω) := do
  let settings ← match value with
    | none => .ok Settings.default
    | some v => Settings.validate v
  ofSettings settings entropy

/-- Replace one setting. -/
def set (a : Algorithm ω) (key : String) (v : Value) : Except Fault (Algorithm ω) := do
  return { a with settings := ← a.settings.update key v }

/-- Log every so many evaluations. -/
def setVerbosity (a : Algorithm ω) (v : Value) : Except Fault (Algorithm ω) := do
  Settings.checkOutput a.settings.screenOutput v
  a.set "verbosity" v

/-- Set which member is optimised. -/
def setSelection (a : Algorithm ω) (v : Value) : Except Fault (Algorithm ω) := a.set "selection" v

/-- Set which member is replaced. -/
def setReplacement (a : Algorithm ω) (v : Value) : Except Fault (Algorithm ω) :=
  a.set "replacement" v

/-- Set who is told of iterations. -/
def setListener (a : Algorithm ω) (listener : Option (Algorithm.Listener ω)) : Algorithm ω :=
  { a with listener }

/-- Who writes to the screen, in words. -/
def outputText (s : Settings) : String :=
  if s.screenOutput then "(worhp)" else s!"(worhp_rc) - verbosity {s.verbosity}"

/-- The settings in words. -/
def info (a : Algorithm ω) : String :=
  "\tWorhp library filename: " ++ a.settings.library.text ++
  "\n\tScreen output: " ++ outputText a.settings ++
  "\n\tIndividual selection " ++ a.settings.selection.text ++
  "\n\tIndividual replacement " ++ a.settings.replacement.text ++ "\n"

end Algorithm

end ReverseComm
