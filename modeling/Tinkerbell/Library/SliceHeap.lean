import Mathlib.Data.List.GetD
import Tinkerbell.Library.PatternSearch

/-!
Owns: arrays in memory and the slices that look at them: reading, allocating and
copying, and that what is written to a new array is not seen through the slices
that were there before.
-/

namespace SliceHeap

open PatternSearch

universe u

variable {α : Type u}

/-- The arrays, by address. -/
abbrev Heap (α : Type u) := List (List α)

structure Slice where
  (array offset length : Nat)

def read (heap : Heap α) (slice : Slice) : List α :=
  ((heap.getD slice.array []).drop slice.offset).take slice.length

/-- The slice lies within an array. -/
structure Slice.Valid (slice : Slice) (heap : Heap α) : Prop where
  allocated : slice.array < heap.length
  inside : slice.offset + slice.length ≤ (heap.getD slice.array []).length

instance (slice : Slice) (heap : Heap α) : Decidable (slice.Valid heap) :=
  decidable_of_iff (slice.array < heap.length ∧
      slice.offset + slice.length ≤ (heap.getD slice.array []).length)
    ⟨fun ⟨allocated, inside⟩ => ⟨allocated, inside⟩,
      fun valid => ⟨valid.allocated, valid.inside⟩⟩

def make (heap : Heap α) (zero : α) (count : Nat) : Heap α × Slice :=
  (heap ++ [List.replicate count zero], ⟨heap.length, 0, count⟩)

def Slice.behind (slice : Slice) (start : Nat) : Slice :=
  ⟨slice.array, slice.offset + start, slice.length - start⟩

def copy (heap : Heap α) (target : Slice) (source : List α) : Heap α :=
  heap.set target.array
    (splice (heap.getD target.array []) target.offset (source.take target.length))

variable {heap : Heap α} {slice : Slice}

theorem length_read (valid : slice.Valid heap) : (read heap slice).length = slice.length := by
  have inside := valid.inside
  unfold read
  rw [List.length_take, List.length_drop]
  omega

theorem read_append (valid : slice.Valid heap) (added : Heap α) :
    read (heap ++ added) slice = read heap slice := by
  unfold read
  rw [List.getD_append _ _ _ _ valid.allocated]

theorem Slice.Valid.append (valid : slice.Valid heap) (added : Heap α) :
    slice.Valid (heap ++ added) := by
  constructor
  · have allocated := valid.allocated
    rw [List.length_append]
    omega
  · rw [List.getD_append _ _ _ _ valid.allocated]
    exact valid.inside

theorem getD_last (heap : Heap α) (array : List α) :
    (heap ++ [array]).getD heap.length [] = array := by
  rw [List.getD_append_right _ _ _ _ (Nat.le_refl _), Nat.sub_self]
  rfl

theorem read_last (heap : Heap α) (array : List α) :
    read (heap ++ [array]) ⟨heap.length, 0, array.length⟩ = array := by
  unfold read
  rw [getD_last, List.drop_zero, List.take_length]

theorem copy_last (heap : Heap α) (array : List α) (start count : Nat) (source : List α) :
    copy (heap ++ [array]) ⟨heap.length, start, count⟩ source =
      heap ++ [splice array start (source.take count)] := by
  unfold copy
  rw [getD_last, List.set_append_right _ _ (Nat.le_refl _), Nat.sub_self]
  rfl

theorem splice_replicate (zero : α) (source : List α) :
    splice (List.replicate source.length zero) 0 source = source := by
  unfold splice
  rw [List.take_zero, List.nil_append, Nat.zero_add, List.drop_eq_nil_of_le, List.append_nil]
  rw [List.length_replicate]

end SliceHeap
