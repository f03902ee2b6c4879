/-!
# Termination

The solver's status is a number of its own.  Two thresholds divide it: from the success threshold up
the solver has terminated well, from the error threshold down it has failed, and in between it is
still iterating.  A status at or above the success threshold counts as a success even where the
thresholds cross.
-/

namespace ReverseComm

/-- What a status says about the solver. -/
inductive Termination where
  | running
  | success
  | error
  deriving DecidableEq, Repr

namespace Termination

/-- The terminations in the order of their numbers. -/
def all : List Termination := [.running, .success, .error]

/-- The name of a termination. -/
def name : Termination → String
  | .running => "RUNNING"
  | .success => "SUCCESS"
  | .error => "ERROR"

/-- The name in running text. -/
def word : Termination → String
  | .running => "running"
  | .success => "success"
  | .error => "error"

/-- Classify a status by the two thresholds. -/
def ofStatus (success error status : Int) : Termination :=
  if success ≤ status then .success
  else if status ≤ error then .error
  else .running

theorem ofStatus_eq_running_iff {success error status : Int} :
    ofStatus success error status = .running ↔ error < status ∧ status < success := by
  unfold ofStatus
  split
  · simp; omega
  · split
    · simp; omega
    · simp; omega

end Termination

/-- From this status up the solver has terminated well, unless its binder says otherwise. -/
def successThreshold : Int := 1000

/-- From this status down the solver has failed, unless its binder says otherwise. -/
def errorThreshold : Int := -1000

end ReverseComm
