import ReverseComm.Action
import ReverseComm.Generator.Seed
import ReverseComm.Tensor

/-!
# The random generator

A permuted congruential generator: its state steps linearly in 128 bits, and each step gives a
word of 64 bits, the two halves of the state combined and rotated by its top six bits.  Words of
32 bits are taken from a word of 64 bits in turn, lower half first; a double takes a word of its
own.

`Generator.below` draws a whole number below a bound without bias: a product that falls into the
uneven rest of the range is drawn again.
-/

namespace ReverseComm

/-- The state of the random generator. -/
structure Generator where
  state : BitVec 128
  increment : BitVec 128
  /-- The upper half of a word whose lower half has been given out. -/
  half : Option UInt32
  deriving DecidableEq, Repr

namespace Generator

open Seed (wordCount)

/-- The multiplier of the linear step. -/
def multiplier : BitVec 128 := 0x2360ed051fc65da44385df649fccf645#128

/-- One linear step. -/
def step (g : Generator) : Generator := { g with state := g.state * multiplier + g.increment }

/-- The generator of a seed. -/
def ofSeed (seed : Nat) : Generator :=
  match Seed.wide (Seed.output seed) with
  | [a, b, c, d] =>
    let start : BitVec 128 := BitVec.ofNat 128 (a * wordCount * wordCount + b)
    let increment : BitVec 128 := BitVec.ofNat 128 (2 * (c * wordCount * wordCount + d) + 1)
    let g := step ⟨0, increment, none⟩
    step { g with state := g.state + start }
  | _ => ⟨0, 1, none⟩

/-- The generator of a seed that may be negative, which no seed is. -/
def ofInt? (seed : Int) : Except Fault Generator :=
  if 0 ≤ seed then .ok (ofSeed seed.toNat) else .error (.value .negativeSeed)

/-- The next word of 64 bits. -/
def word64 (g : Generator) : UInt64 × Generator :=
  let g := g.step
  let n := g.state.toNat
  let folded : BitVec 64 := BitVec.ofNat 64 (n / Nat.pow 2 64) ^^^ BitVec.ofNat 64 n
  (⟨folded.rotateRight (n / Nat.pow 2 122)⟩, g)

/-- The next word of 32 bits. -/
def word32 (g : Generator) : UInt32 × Generator :=
  match g.half with
  | some v => (v, { g with half := none })
  | none =>
    let (v, g) := g.word64
    (v.toUInt32, { g with half := some (v >>> 32).toUInt32 })

/-- The next double in the unit interval. -/
def unit (g : Generator) : Float × Generator :=
  let (v, g) := g.word64
  (Float.ofNat (v.toNat / Nat.pow 2 11) / Float.ofNat (Nat.pow 2 53), g)

/-- How often an uneven draw is repeated before it is accepted as it is; with every repetition the
chance of another one at least halves. -/
def maxRedraws : Nat := 1000

/-- The product of a word with a bound; its upper half is a number below the bound. -/
def product (bound : Nat) (g : Generator) : Nat × Generator :=
  let (v, g) := g.word32
  (v.toNat * bound, g)

/-- Draw products again while they fall into the uneven rest. -/
def redraw (bound rest : Nat) : Nat → Nat × Generator → Nat × Generator
  | 0, drawn => drawn
  | tries + 1, drawn =>
    if drawn.1 % wordCount < rest then redraw bound rest tries (drawn.2.product bound) else drawn

/-- A whole number below a bound.  Below one there is only zero, and nothing is drawn. -/
def below (bound : Nat) (g : Generator) : Except Fault Nat × Generator :=
  if bound == 0 then (.error (.value .emptyDraw), g)
  else if bound == 1 then (.ok 0, g)
  else
    let drawn := g.product bound
    let (n, g) :=
      if drawn.1 % wordCount < bound then
        redraw bound ((wordCount - bound) % bound) maxRedraws drawn
      else drawn
    (.ok (n / wordCount), g)

/-- A point between bounds, coordinate by coordinate. -/
def point : List (Float × Float) → Generator → List Float × Generator
  | [], g => ([], g)
  | (low, range) :: rest, g =>
    let (u, g) := g.unit
    let (xs, g) := point rest g
    ((low + range * u) :: xs, g)

/-- Does a double carry the minus sign?  Negative zero does. -/
def isSigned (x : Float) : Bool := x.toBits >>> 63 == 1

/-- The lower bounds, each with the range above it, in the shape to which both bounds stretch. -/
def ranges (lower upper : Tensor) : Option (List Nat × List (Float × Float)) := do
  let shape ← Tensor.commonShape lower.shape upper.shape
  let lows ← lower.stretch shape
  let highs ← upper.stretch shape
  return (shape, lows.zipWith (fun l u => (l, u - l)) highs)

/-- A point drawn uniformly between bounds.  A range that is not finite, or carries the minus sign,
is refused before anything is drawn. -/
def uniform (lower upper : Tensor) (g : Generator) : Except Fault Tensor × Generator :=
  match ranges lower upper with
  | none => (.error (.value .unmatchedShapes), g)
  | some (shape, ranges) =>
    if ranges.any fun r => !r.2.isFinite then (.error (.overflow .infiniteRange), g)
    else if ranges.any fun r => isSigned r.2 then (.error (.value .reversedRange), g)
    else
      let (xs, g) := point ranges g
      (Tensor.build shape xs, g)

/-! ## Draws are in range -/

theorem product_lt {bound : Nat} (hb : 0 < bound) (g : Generator) :
    (g.product bound).1 < wordCount * bound := by
  have : (g.word32).1.toNat < wordCount := UInt32.toNat_lt _
  exact Nat.mul_lt_mul_of_pos_right this hb

theorem redraw_lt {bound rest : Nat} (hb : 0 < bound) (tries : Nat) {drawn : Nat × Generator}
    (h : drawn.1 < wordCount * bound) : (redraw bound rest tries drawn).1 < wordCount * bound := by
  induction tries generalizing drawn with
  | zero => exact h
  | succ tries ih =>
    unfold redraw
    split
    · exact ih (product_lt hb _)
    · exact h

/-- A number drawn below a bound is below it. -/
theorem below_lt {bound n : Nat} {g : Generator} (h : (below bound g).1 = .ok n) : n < bound := by
  unfold below at h
  split at h
  · simp at h
  · rename_i h0
    split at h
    · rename_i h1
      simp only [Except.ok.injEq] at h
      simp only [beq_iff_eq] at h1
      omega
    · have hb : 0 < bound := by
        simp only [beq_iff_eq] at h0
        omega
      simp only [Except.ok.injEq] at h
      rw [← h]
      apply Nat.div_lt_of_lt_mul
      split
      · exact redraw_lt hb _ (product_lt hb g)
      · exact product_lt hb g

end Generator

end ReverseComm
