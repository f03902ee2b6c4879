/-!
# Seeds

A seed is a natural number of any size.  It is cut into words, the words are hashed into a pool of
four, every word of the pool is mixed into every other, further words are mixed into all of them,
and the pool is hashed once more into as many words as a generator needs.

All arithmetic is on words of 32 bits and wraps around.
-/

namespace ReverseComm.Seed

/-- How many words of 32 bits there are. -/
abbrev wordCount : Nat := 4294967296

/-- The words of a seed, least significant first; zero has one. -/
def words (n : Nat) : List UInt32 :=
  if n < wordCount then [n.toUInt32]
  else n.toUInt32 :: words (n / wordCount)
termination_by n
decreasing_by
  rename_i h
  exact Nat.div_lt_self (Nat.lt_of_lt_of_le (by decide) (Nat.not_lt.1 h)) (by decide)

/-- Fold the upper half of a word into the lower one. -/
def foldHalves (v : UInt32) : UInt32 := v ^^^ (v >>> 16)

/-- Hash a word; the multiplier changes with every word. -/
def hash (v : UInt32) : StateM UInt32 UInt32 := fun h =>
  let next := h * 0x931e8875
  (foldHalves ((v ^^^ h) * next), next)

/-- Mix two words. -/
def mix (x y : UInt32) : UInt32 := foldHalves (0xca01f9dd * x - 0x4973f715 * y)

/-- Mix a hashed word into one word of the pool. -/
def absorb (pool : List UInt32) (target : Nat) (word : UInt32) : StateM UInt32 (List UInt32) := do
  let hashed ← hash word
  return pool.set target (mix (pool[target]?.getD 0) hashed)

/-- Every ordered pair of different places of the pool. -/
def crossings : List (Nat × Nat) :=
  (List.range 4).flatMap fun s => ((List.range 4).filter (· != s)).map fun d => (s, d)

/-- The pool of a seed. -/
def pool (seed : Nat) : List UInt32 :=
  let ws := words seed
  let fill : StateM UInt32 (List UInt32) := do
    let start ← (List.range 4).mapM fun i => hash (ws[i]?.getD 0)
    let crossed ← crossings.foldlM (fun pool p => absorb pool p.2 (pool[p.1]?.getD 0)) start
    (ws.drop 4).foldlM
      (fun pool w => (List.range 4).foldlM (fun pool d => absorb pool d w) pool) crossed
  (fill 0x43b0d7e5).1

/-- The eight words that a generator is seeded with. -/
def output (seed : Nat) : List UInt32 :=
  let p := pool seed
  let draw : Nat → StateM UInt32 UInt32 := fun i h =>
    let next := h * 0x58f38ded
    (foldHalves (((p[i % 4]?.getD 0) ^^^ h) * next), next)
  (((List.range 8).mapM draw) 0x8b51f9dd).1

/-- The words two by two, as words of 64 bits. -/
def wide : List UInt32 → List Nat
  | low :: high :: rest => (low.toNat + high.toNat * wordCount) :: wide rest
  | _ => []

end ReverseComm.Seed
