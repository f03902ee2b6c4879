import ReverseComm.Fault
import ReverseComm.Settings.Fields
import ReverseComm.Text.Case

/-!
# Policies

A policy designates a member of a population, by a fixed index or by a named strategy.  It says
which member is optimised and which one is replaced.

`Policy.ofValue` reads a policy from a value of any kind.  A number stands for an index and a text
for a strategy; both become the record that says so in full.  A record is then read as an index
and as a strategy, and what reads is the policy.  `Policy.toValue` writes the record in full.
-/

namespace ReverseComm

/-- The named strategies. -/
inductive Strategy where
  /-- The best member. -/
  | best
  /-- The worst member. -/
  | worst
  /-- A member drawn uniformly. -/
  | random
  deriving DecidableEq, Repr

/-- The name of a strategy. -/
def Strategy.name : Strategy → String
  | .best => "best"
  | .worst => "worst"
  | .random => "random"

/-- The strategies by name. -/
def Strategy.table : List (String × Strategy) :=
  [("best", .best), ("worst", .worst), ("random", .random)]

/-- How a member of a population is designated. -/
inductive Policy where
  | index (n : Nat)
  | strategy (s : Strategy)
  deriving DecidableEq, Repr

namespace Policy

open Settings

/-- A policy in words. -/
def text : Policy → String
  | .index n => s!"idx: {n}"
  | .strategy s => "policy: " ++ s.name

/-- A policy as a record. -/
def toValue : Policy → Value
  | .index n => .record [("kind", .text "index"), ("index", .int n)]
  | .strategy s => .record [("kind", .text "name"), ("name", .text s.name)]

/-- A number or a text in place of a record, written out; a truth value is neither. -/
def expand : Value → Checked Value
  | .bool b => .error [⟨[], .custom ("invalid policy value: " ++ if b then "True" else "False")⟩]
  | .int n => .ok (.record [("kind", .text "index"), ("index", .int n)])
  | .text s => .ok (.record [("kind", .text "name"), ("name", .text (Text.lower (Text.strip s)))])
  | v => .ok v

/-- Read a record with the fields `kind` and `key`. -/
def readTagged {α : Type} (key : String) (read : Value → Checked α) : Value → Checked α
  | .record fields =>
    let kind := field fields "kind" (.ok ()) (oneOf [(key, ())])
    let content := field fields key missing read
    match issues kind ++ issues content ++ strangers ["kind", key] fields with
    | [] => content
    | is => .error is
  | _ => .error [⟨[], .record⟩]

/-- Read a record as an index. -/
def readIndex (v : Value) : Checked Policy :=
  Policy.index <$> readTagged "index" (checked natural) v

/-- Read a record as a strategy. -/
def readStrategy (v : Value) : Checked Policy :=
  Policy.strategy <$> readTagged "name" (oneOf Strategy.table) v

/-- Read a written-out policy. -/
def readRecord (v : Value) : Checked Policy :=
  match readIndex v, readStrategy v with
  | .ok p, _ => .ok p
  | .error _, .ok p => .ok p
  | .error is, .error js => .error (is.map (Issue.under "ByIndex") ++ js.map (Issue.under "ByName"))

/-- Read a policy. -/
def ofValue (v : Value) : Checked Policy := expand v >>= readRecord

/-- A policy from a value of any kind. -/
def validate (v : Value) : Except Fault Policy := (ofValue v).mapError .invalid

/-- Policies cannot be changed: assigning any field is refused. -/
def assign (_ : Policy) (key : String) (_ : Value) : Except Fault Policy :=
  .error (.invalid [⟨[key], .frozen⟩])

end Policy

end ReverseComm
