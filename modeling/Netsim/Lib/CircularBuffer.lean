import Mathlib.Data.Nat.Notation
import Mathlib.Tactic.SplitIfs
import Mathlib.Data.List.Basic

/-!
# Circular buffers

A bounded queue that can be resized while it is in use. The bound is a field of the
structure, so every operation keeps it.

* `pushBack` on a full buffer overwrites the oldest entry;
* `resize` pads at the back when it grows, drops the newest entries when it shrinks, and
  never lowers the capacity.
-/

/-- The contents of a circular buffer, oldest entry first. -/
structure CircularBuffer (α : Type*) where
  /-- The number of entries that fit. -/
  capacity : ℕ
  /-- The entries, oldest first. -/
  items : List α
  /-- The entries fit. -/
  length_le : items.length ≤ capacity

namespace CircularBuffer

variable {α : Type*}

/-- The empty buffer of the given capacity. -/
def empty (capacity : ℕ) : CircularBuffer α := ⟨capacity, [], Nat.zero_le _⟩

/-- Append an entry, overwriting the oldest one of a full buffer. Nothing fits in a buffer
of capacity zero. -/
def pushBack (b : CircularBuffer α) (x : α) : CircularBuffer α :=
  if h : b.items.length < b.capacity then
    ⟨b.capacity, b.items ++ [x], by
      simp only [List.length_append, List.length_singleton]
      omega⟩
  else if h0 : b.capacity = 0 then b
  else ⟨b.capacity, b.items.drop 1 ++ [x], by
    have := b.length_le
    simp only [List.length_append, List.length_drop, List.length_singleton]
    omega⟩

/-- Give the buffer exactly `n` entries: pad with `fill` at the back or drop the newest. -/
def resize (b : CircularBuffer α) (n : ℕ) (fill : α) : CircularBuffer α :=
  if h : b.items.length < n then
    ⟨max b.capacity n, b.items ++ List.replicate (n - b.items.length) fill, by
      simp only [List.length_append, List.length_replicate]
      omega⟩
  else
    ⟨b.capacity, b.items.take n, by
      have := b.length_le
      simp only [List.length_take]
      omega⟩

/-- The buffer with all entries removed. -/
def clear (b : CircularBuffer α) : CircularBuffer α := ⟨b.capacity, [], Nat.zero_le _⟩

@[simp]
theorem items_clear (b : CircularBuffer α) : b.clear.items = [] := rfl

@[simp]
theorem capacity_clear (b : CircularBuffer α) : b.clear.capacity = b.capacity := rfl

@[simp]
theorem capacity_pushBack (b : CircularBuffer α) (x : α) :
    (b.pushBack x).capacity = b.capacity := by
  unfold pushBack
  split_ifs <;> rfl

/-- The newest entries that fit are kept. -/
theorem items_pushBack (b : CircularBuffer α) (x : α) :
    (b.pushBack x).items =
      (b.items ++ [x]).drop (b.items.length + 1 - b.capacity) := by
  have hlength := b.length_le
  unfold pushBack
  split_ifs with hlt hzero
  · have hnone : b.items.length + 1 - b.capacity = 0 := by omega
    rw [hnone, List.drop_zero]
  · have hnil : b.items = [] := List.length_eq_zero_iff.1 (by omega)
    simp [hnil, hzero]
  -- exactly the oldest entry does not fit any more
  · have hone : b.items.length + 1 - b.capacity = 1 := by omega
    have hpos : 1 ≤ b.items.length := by omega
    rw [hone, List.drop_append_of_le_length hpos]

end CircularBuffer
