import ReverseComm.Action

/-!
# Tensors

A tensor is a rectangular block of reals: its shape, and its entries row by row.  The empty shape is
a plain number.  Decision and fitness vectors are tensors of one axis; other shapes arise only from
what callers hand in, and most operations refuse them.

Taking a tensor apart along its first axis (`first`, `rest`) and stretching it to a shape
(`stretch`, `commonShape`) are all that the library needs.
-/

namespace ReverseComm

/-- The number of entries of a shape. -/
def volume : List Nat → Nat
  | [] => 1
  | n :: shape => n * volume shape

/-- A rectangular block of reals, row by row. -/
structure Tensor where
  shape : List Nat
  entries : List Float
  length_entries : entries.length = volume shape
  deriving DecidableEq, Repr

namespace Tensor

/-- The number of entries. -/
def size (t : Tensor) : Nat := t.entries.length

/-- A tensor of a shape and as many entries as that has. -/
def build (shape : List Nat) (entries : List Float) : Except Fault Tensor :=
  if h : entries.length = volume shape then .ok ⟨shape, entries, h⟩ else .error (.value .ragged)

/-- A plain number. -/
def number (x : Float) : Tensor := ⟨[], [x], rfl⟩

/-- A vector. -/
def vector (xs : List Float) : Tensor := ⟨[xs.length], xs, by simp [volume]⟩

@[simp] theorem shape_vector (xs : List Float) : (vector xs).shape = [xs.length] := rfl

@[simp] theorem entries_vector (xs : List Float) : (vector xs).entries = xs := rfl

@[simp] theorem size_vector (xs : List Float) : (vector xs).size = xs.length := rfl

theorem eq_vector_of_shape {t : Tensor} {n : Nat} (h : t.shape = [n]) : t = vector t.entries := by
  obtain ⟨shape, entries, hl⟩ := t
  subst h
  simp only [volume, Nat.mul_one] at hl
  subst hl
  rfl

theorem length_of_shape {t : Tensor} {n : Nat} (h : t.shape = [n]) : t.entries.length = n := by
  have hl := t.length_entries
  rwa [h, volume, volume, Nat.mul_one] at hl

/-- A plain number counts as a vector of one entry. -/
def atLeastVector (t : Tensor) : Tensor := if t.shape = [] then vector t.entries else t

/-- The first part along the first axis.  A plain number has no axis, and an empty one no first
part. -/
def first (t : Tensor) : Except Fault Tensor :=
  match hs : t.shape with
  | 0 :: _ | [] => .error (.index .element)
  | (n + 1) :: shape =>
    .ok ⟨shape, t.entries.take (volume shape), by
      have := t.length_entries
      rw [hs, volume, Nat.succ_mul] at this
      simp only [List.length_take]
      omega⟩

/-- All but the first part along the first axis. -/
def rest (t : Tensor) : Except Fault Tensor :=
  match hs : t.shape with
  | [] => .error (.index .element)
  | n :: shape =>
    .ok ⟨(n - 1) :: shape, t.entries.drop (volume shape), by
      have := t.length_entries
      rw [hs, volume] at this
      simp only [List.length_drop, volume, Nat.sub_mul, Nat.one_mul]
      omega⟩

@[simp] theorem first_vector_cons (x : Float) (xs : List Float) :
    (vector (x :: xs)).first = .ok (number x) := by
  simp [first, vector, volume, number]

@[simp] theorem rest_vector (xs : List Float) : (vector xs).rest = .ok (vector xs.tail) := by
  cases xs <;> simp [rest, vector, volume]

/-- The number that a plain number is; no other tensor counts as one, however few its entries. -/
def toNumber (t : Tensor) : Except Fault Float :=
  match t.shape, t.entries with
  | [], [x] => .ok x
  | _, _ => .error (.kind .notNumeric)

@[simp] theorem toNumber_number (x : Float) : (number x).toNumber = .ok x := rfl

/-! ## Stretching -/

/-- Split entries into parts of one length. -/
def parts (count length : Nat) (xs : List Float) : List (List Float) :=
  (List.range count).map fun i => (xs.drop (i * length)).take length

/-- Stretch entries of one shape to another of the same number of axes: an axis of length one is
repeated, any other must agree. -/
def stretchEntries : List Nat → List Nat → List Float → Option (List Float)
  | [], [], xs => some xs
  | s :: shape, d :: target, xs =>
    if s = d then do
      let stretched ← (parts s (volume shape) xs).mapM (stretchEntries shape target)
      return stretched.flatten
    else if s = 1 then do
      let stretched ← stretchEntries shape target xs
      return (List.replicate d stretched).flatten
    else none
  | _, _, _ => none

/-- Stretch a tensor to a shape.  Missing axes in front count as axes of length one. -/
def stretch (t : Tensor) (target : List Nat) : Option (List Float) :=
  if t.shape.length ≤ target.length then
    stretchEntries (List.replicate (target.length - t.shape.length) 1 ++ t.shape) target t.entries
  else none

/-- The axes to which the axes of two shapes stretch, from the last one on. -/
def commonAxes : List Nat → List Nat → Option (List Nat)
  | [], target => some target
  | shape, [] => some shape
  | s :: shape, d :: target =>
    if s = d ∨ d = 1 then (s :: ·) <$> commonAxes shape target
    else if s = 1 then (d :: ·) <$> commonAxes shape target
    else none

/-- The shape to which two shapes stretch. -/
def commonShape (s t : List Nat) : Option (List Nat) :=
  (commonAxes s.reverse t.reverse).map List.reverse

/-- A plain number stretches to any vector. -/
theorem stretch_number (x : Float) (n : Nat) :
    (number x).stretch [n] = some (List.replicate n x) := by
  by_cases h : 1 = n
  · subst h; simp [stretch, number, stretchEntries, parts, volume, List.range_succ]
  · simp [stretch, number, stretchEntries, h]

theorem flatten_parts_one (xs : List Float) : (parts xs.length 1 xs).flatten = xs := by
  induction xs with
  | nil => rfl
  | cons x xs ih =>
    simp only [parts, Nat.mul_one] at ih ⊢
    rw [List.length_cons, List.range_succ_eq_map, List.map_cons, List.map_map, List.flatten_cons]
    exact congrArg (x :: ·) ih

/-- A vector stretches to its own length. -/
theorem stretch_vector (xs : List Float) : (vector xs).stretch [xs.length] = some xs := by
  have hall : (parts xs.length 1 xs).mapM (fun ys => some ys) = some (parts xs.length 1 xs) := by
    have hpure := List.mapM_pure (m := Option) (l := parts xs.length 1 xs) (f := id)
    rwa [List.map_id] at hpure
  simp [stretch, stretchEntries, volume, hall, flatten_parts_one]

/-- What is stretched to a length has it. -/
theorem length_of_stretch {t : Tensor} {n : Nat} {xs : List Float}
    (h : t.stretch [n] = some xs) : xs.length = n := by
  match hs : t.shape with
  | [] =>
    have hone := t.length_entries
    rw [hs, volume] at hone
    obtain ⟨x, hx⟩ := List.length_eq_one_iff.mp hone
    have ht : t = number x := by cases t; simp_all [number]
    rw [ht, stretch_number, Option.some.injEq] at h
    rw [← h, List.length_replicate]
  | [k] =>
    rw [eq_vector_of_shape hs] at h
    have hk : t.entries.length = k := length_of_shape hs
    by_cases hkn : k = n
    · rw [← hkn, ← hk, stretch_vector, Option.some.injEq] at h
      rw [← h, hk, hkn]
    · by_cases hone : k = 1
      · have hne : ¬ 1 = n := hone ▸ hkn
        have hflat : (List.replicate n t.entries).flatten = xs := by
          simpa [stretch, stretchEntries, hk, hone, hne] using h
        simp [← hflat, hk, hone]
      · simp [stretch, stretchEntries, hk, hkn, hone] at h
  | _ :: _ :: _ => simp [stretch, hs] at h

/-! ## Cutting -/

/-- Where a cut at a position falls among `n` parts: a negative position counts from the end, and a
position outside falls on the nearer end. -/
def cut (n : Nat) (position : Int) : Nat :=
  if position < 0 then (n + position).toNat else min n position.toNat

theorem cut_of_le {n k : Nat} (h : k ≤ n) : cut n k = k := by
  unfold cut
  rw [if_neg (by omega), Int.toNat_natCast, Nat.min_eq_right h]

end Tensor

/-- A tensor as a caller offers it: what it reads as, or why it does not read.  Operations look at
what they are offered when they come to use it, so that what they did before stands. -/
abbrev Offer := Except Fault Tensor

/-- An offered vector. -/
def Offer.vector (xs : List Float) : Offer := .ok (.vector xs)

end ReverseComm
