import Mathlib.Data.List.Basic

/-!
# Reading the latest again

A value that is read, and replaced by later ones at any time, is read any number of times, or never.
What was read from a list of values so comes in their order, and once a value is replaced it is not
read again. Such readings compose (`Repeats.trans`), and losing values on the way is one of them
(`Repeats.of_sublist`).
-/

/-- The second list is read from the values of the first one, each of which is read any number of
times before the next. -/
inductive Repeats {α : Type*} : List α → List α → Prop
  /-- There is nothing to read. -/
  | nil : Repeats [] []
  /-- Go on to the next value. -/
  | next {x : α} {xs ys : List α} : Repeats xs ys → Repeats (x :: xs) ys
  /-- Read the value. -/
  | read {x : α} {xs ys : List α} : Repeats (x :: xs) ys → Repeats (x :: xs) (x :: ys)

namespace Repeats

variable {α β : Type*} {xs xs' ys ys' zs : List α} {x : α}

/-- Nothing may be read. -/
theorem nil_right (xs : List α) : Repeats xs [] := by
  induction xs with
  | nil => exact nil
  | cons x xs ih => exact ih.next

/-- Values are lost. -/
theorem of_sublist (h : ys.Sublist xs) : Repeats xs ys := by
  induction h with
  | slnil => exact nil
  | cons x _ ih => exact ih.next
  | cons_cons x _ ih => exact ih.next.read

/-- What is read comes from the values. -/
theorem subset (h : Repeats xs ys) : ys ⊆ xs := by
  induction h with
  | nil => exact List.Subset.refl _
  | next _ ih => exact List.subset_cons_of_subset _ ih
  | read _ ih => exact List.cons_subset.2 ⟨List.mem_cons_self, ih⟩

/-- What is read of readings is read of the values. -/
theorem trans (h : Repeats xs ys) (h' : Repeats ys zs) : Repeats xs zs := by
  induction h generalizing zs with
  | nil => exact h'
  | next _ ih => exact (ih h').next
  | @read x xs ys _ ih =>
      -- the value is read until the next reading, and after that `ih` goes on
      generalize hreadings : x :: ys = readings at h'
      induction h' with
      | nil => cases hreadings
      | next h' _ =>
          cases hreadings
          exact ih h'
      | read _ ih' =>
          cases hreadings
          exact (ih' rfl).read

/-- Readings of one list and then of another. -/
theorem append (h : Repeats xs ys) (h' : Repeats xs' ys') : Repeats (xs ++ xs') (ys ++ ys') := by
  induction h with
  | nil => exact h'
  | next _ ih => exact ih.next
  | read _ ih => exact ih.read

/-- The last value can be read once more. -/
theorem concat_last (h : Repeats (xs ++ [x]) ys) : Repeats (xs ++ [x]) (ys ++ [x]) := by
  generalize hvalues : xs ++ [x] = values at h
  induction h generalizing xs with
  | nil => simp at hvalues
  | @next y values ys h ih =>
      rcases List.append_eq_cons_iff.1 hvalues with ⟨-, hlast⟩ | ⟨xs', -, hrest⟩
      · cases hlast
        cases h
        exact nil.next.read
      · exact (ih hrest.symm).next
  | read _ ih => exact (ih hvalues).read

/-- The values go through a function. -/
theorem filterMap (f : α → Option β) (h : Repeats xs ys) :
    Repeats (xs.filterMap f) (ys.filterMap f) := by
  induction h with
  | nil => exact nil
  | @next x xs ys _ ih =>
      rw [List.filterMap_cons]
      cases f x with
      | none => exact ih
      | some y => exact ih.next
  | @read x xs ys _ ih =>
      rw [List.filterMap_cons (l := ys)]
      cases hx : f x with
      | none => exact ih
      | some y =>
          rw [List.filterMap_cons_some hx] at ih ⊢
          exact ih.read

end Repeats
