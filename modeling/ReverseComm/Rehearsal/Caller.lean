import ReverseComm.Rehearsal.Record
import ReverseComm.Session.Exchange

/-!
# The caller of a rehearsal

What a caller does when it is told of an iteration: it looks at the decision vector, and then goes
on, moves the decision vector, or breaks off.
-/

namespace ReverseComm.Rehearsal

/-- What a caller does when it is told of an iteration. -/
inductive Caller where
  | goesOn
  | moves (x : Offer)
  | breaksOff

/-- Tell the caller of an iteration. -/
def Caller.report (c : Caller) : Action (Session Record) Unit := do
  let s ← get
  let x ← s.buffer .decision
  Session.aside (modify (Record.add (.reported s.stage x)))
  match c with
  | .goesOn => return
  | .moves x => Session.cover .decision x
  | .breaksOff => throw (.run (.external "interrupted"))

end ReverseComm.Rehearsal
