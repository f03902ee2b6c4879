import ReverseComm.Decimal.General
import ReverseComm.Problem
import ReverseComm.Fitness.Check
import ReverseComm.Report
import ReverseComm.Session.State
import ReverseComm.Settings

/-!
# The account of a solve

The algorithm keeps an account of its latest solve: the status that the solver ended with, how many
fitness evaluations the solver asked for, and a line for every so many of them.  The lines are also
given as messages, under a header that is repeated now and then.

During a solve the account stands next to the settings of the algorithm and the state `ω` of solver,
problem and caller (`Accounted ω`).  Nobody but the algorithm reaches the account.  The settings are
reached by the caller who is told of iterations, as long as that lasts: it acts on them and on the
state (`Steered ω`), while solver and problem act on the state alone.
-/

namespace ReverseComm

/-- What the algorithm keeps of a solve. -/
structure Account where
  /-- The status that the solver ended with, once it has. -/
  lastResult : Option Int
  evaluations : Nat
  lines : List LogLine
  deriving DecidableEq, Repr

/-- The account of a solve in which nothing has happened. -/
def Account.blank : Account := ⟨none, 0, []⟩

/-- A state next to the settings of the algorithm. -/
structure Steered (ω : Type) where
  settings : Settings
  hidden : ω

namespace Steered

variable {ω : Type}

/-- Change the state and leave the settings. -/
def put (w : ω) (s : Steered ω) : Steered ω := { s with hidden := w }

/-- A library whose state has settings beside it. -/
def library (L : Library ω) : Library (Steered ω) := L.within hidden put

end Steered

/-- A state next to the account of a solve and the settings of the algorithm. -/
structure Accounted (ω : Type) where
  account : Account
  settings : Settings
  hidden : ω

namespace Accounted

variable {ω α : Type}

/-- Change the state and leave the rest. -/
def put (w : ω) (a : Accounted ω) : Accounted ω := { a with hidden := w }

/-- Run an action on the state; the rest stays. -/
def aside (a : Action ω α) : Action (Accounted ω) α := a.zoom hidden put

/-- A library whose state has an account and settings beside it. -/
def library (L : Library ω) : Library (Accounted ω) := L.within hidden put

/-- The part without the account. -/
def steered (a : Accounted ω) : Steered ω := ⟨a.settings, a.hidden⟩

/-- Change settings and state, and leave the account. -/
def steer (s : Steered ω) (a : Accounted ω) : Accounted ω :=
  { a with settings := s.settings, hidden := s.hidden }

end Accounted

namespace Account

open Decimal

variable {ω : Type}

/-- After how many lines the header is repeated. -/
def headerInterval : Nat := 50

/-- The header above the lines of the log. -/
def header : String :=
  padLeft 9 "objevals:" ++ " " ++ padLeft 15 "objval:" ++ " " ++ padLeft 15 "violated:" ++ " " ++
    padLeft 15 "viol. norm:"

/-- A line of the log in words; infeasible ones are marked. -/
def lineText (l : LogLine) : String :=
  padLeft 9 (toString l.evaluations) ++ " " ++ padLeft 15 (report l.objective) ++ " " ++
    padLeft 15 (toString l.violated) ++ " " ++ padLeft 15 (report l.norm) ++
    if l.feasible then "" else " i"

/-- Give a message. -/
def say (text : String) : Action (Session (Accounted ω)) Unit :=
  modify fun s => { s with messages := s.messages ++ [⟨.algorithm, .info, text⟩] }

/-- Is the evaluation of this number to be reported? -/
def isReported (verbosity number : Nat) : Bool := 0 < verbosity && (number - 1) % verbosity == 0

/-- Report an evaluation. -/
def reportLine (problem : Problem ω) (number : Nat) (f : Tensor) :
    Action (Session (Accounted ω)) Unit := do
  let constraints ← f.rest
  let equalities ← problem.equalityCount
  let summary ← Fitness.check constraints equalities (← problem.tolerances)
  if (← get).hidden.account.lines.length % headerInterval == 0 then say header
  let objective ← (f.first >>= Tensor.toNumber : Except Fault Float)
  let line : LogLine :=
    { evaluations := number, objective, violated := summary.violated, norm := summary.norm,
      feasible := summary.feasible }
  say (lineText line)
  modify fun s => { s with hidden.account.lines := s.hidden.account.lines ++ [line] }

/-- Evaluate the fitness of a decision vector, count the evaluation, and report it if its turn has
come by the verbosity of that moment. -/
def evaluate (problem : Problem ω) (x : List Float) : Action (Session (Accounted ω)) Tensor := do
  let f ← Session.aside (Accounted.aside (problem.fitness x))
  modify fun s => { s with hidden.account.evaluations := s.hidden.account.evaluations + 1 }
  let s ← get
  let number := s.hidden.account.evaluations
  if isReported s.hidden.settings.verbosity number then reportLine problem number f
  return f

end Account

end ReverseComm
