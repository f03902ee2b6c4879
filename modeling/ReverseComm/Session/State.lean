import ReverseComm.Message
import ReverseComm.Session.Stage
import ReverseComm.Solver.Library

/-!
# The state of a session

A session is one solve.  It owns the memory shared with the solver and keeps the stage it has
reached, the number of parameters read, and the objective scale, which is fixed once the solver
has allocated its buffers.  The messages it has given and the state that the solver, the problem
and the caller keep to themselves go along with it.

Buffers are looked at through `Session.buffer`, which refuses to do so outside the stages in which
they are allocated.
-/

namespace ReverseComm

/-- One solve. -/
structure Session (ω : Type) where
  memory : Memory
  /-- The stage that has been reached, if any has. -/
  stage : Option Stage
  /-- How many parameters were read. -/
  paramCount : Int
  /-- The factor by which the objective is scaled. -/
  objectiveScale : Float
  /-- The messages given so far. -/
  messages : List Message
  hidden : ω

namespace Session

variable {ω : Type}

/-- A session in which nothing has been done. -/
def start (messages : List Message) (hidden : ω) : Session ω where
  memory := .blank
  stage := none
  paramCount := 0
  objectiveScale := 1
  messages := messages
  hidden := hidden

/-- Give a message. -/
def say (text : String) (s : Session ω) : Session ω :=
  { s with messages := s.messages ++ [⟨.session, .info, text⟩] }

/-- Call the solver on the memory of the session. -/
def call (L : Library ω) (c : Call) : Action (Session ω) c.Answer :=
  (L.call c).zoom (fun s => ⟨s.memory, s.hidden⟩)
    fun n s => { s with memory := n.memory, hidden := n.hidden }

@[simp] theorem runOn_call (L : Library ω) (c : Call) (s : Session ω) :
    (call L c).runOn s =
      (((L.call c).runOn ⟨s.memory, s.hidden⟩).1,
        { s with
          memory := ((L.call c).runOn ⟨s.memory, s.hidden⟩).2.memory
          hidden := ((L.call c).runOn ⟨s.memory, s.hidden⟩).2.hidden }) := rfl

/-- Act on the state that goes along with the session. -/
def aside {α : Type} (a : Action ω α) : Action (Session ω) α :=
  a.zoom Session.hidden fun w s => { s with hidden := w }

/-- Run an action of a session whose hidden state is a part of a larger one. -/
def within {σ α : Type} (get : σ → ω) (put : ω → σ → σ) (a : Action (Session ω) α) :
    Action (Session σ) α :=
  a.zoom (fun s => { s with hidden := get s.hidden })
    fun t s => { t with hidden := put t.hidden s.hidden }

/-- What the status says about the solver. -/
def termination (L : Library ω) (s : Session ω) : Termination := L.termination s.memory.status

/-- The content of a buffer.  A buffer without entries is there even if it is not allocated. -/
def buffer (s : Session ω) (name : BufferName) : Except Fault (List Float) :=
  if Stage.allocated s.stage then
    if s.memory.lengthOf name = 0 then .ok []
    else
      match s.memory.buffers.get name with
      | none => .error (.run (.unallocatedBuffer name.symbol))
      | some xs => if s.memory.lengthOf name < 0 then .error (.value .negativeLength) else .ok xs
  else .error (.stage (some .initialized) s.stage)

/-- The content of the buffer with a symbol. -/
def bufferOf (s : Session ω) (symbol : String) : Except Fault (List Float) :=
  match BufferName.ofSymbol? symbol with
  | none => .error (.key (.unknownBuffer symbol))
  | some name => s.buffer name

/-- Write one entry of a buffer; a negative index counts from the end. -/
def pokeEntry (name : BufferName) (index : Int) (value : Except Fault Float) :
    Action (Session ω) Unit := do
  let xs ← (← get).buffer name
  let i := if index < 0 then index + xs.length else index
  if i < 0 ∨ xs.length ≤ i then throw (.index .element)
  let x ← value
  modify fun s => { s with memory := s.memory.write name (xs.set i.toNat x) }

/-- Write one entry of the buffer with a symbol. -/
def poke (symbol : String) (index : Int) (value : Except Fault Float) : Action (Session ω) Unit :=
  match BufferName.ofSymbol? symbol with
  | none => throw (.key (.unknownBuffer symbol))
  | some name => pokeEntry name index value

end Session

end ReverseComm
