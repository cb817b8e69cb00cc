import Mathlib.Data.List.Induction
import Mathlib.Logic.Function.Basic

/-!
# Stores of records that are updated field by field

A message has a key, and updates the record under its key, which is made from a default when the
first one arrives. The record under a key exists iff a message for the key has arrived, and each of
its fields is that of the last message for the key that set the field.
-/

namespace KeyedStore

variable {κ μ ρ α : Type*} [DecidableEq κ]

/-- Enter a message under its key. -/
def enter (key : μ → κ) (update : μ → ρ → ρ) (init : ρ) (s : κ → Option ρ) (m : μ) : κ → Option ρ :=
  Function.update s (key m) (some (update m ((s (key m)).getD init)))

/-- The store after some messages. -/
def after (key : μ → κ) (update : μ → ρ → ρ) (init : ρ) (ms : List μ) : κ → Option ρ :=
  ms.foldl (enter key update init) fun _ => none

/-- The value of a field after some messages, of which the last one that sets it counts. -/
def lastSet (sets : μ → Option α) (initial : α) (ms : List μ) : α :=
  (ms.filterMap sets).getLast?.getD initial

section LastSet

variable {sets : μ → Option α} {initial : α} {ms : List μ} {m : μ}

@[simp]
theorem lastSet_nil : lastSet sets initial [] = initial := rfl

@[simp]
theorem lastSet_concat :
    lastSet sets initial (ms ++ [m]) = (sets m).getD (lastSet sets initial ms) := by
  cases hm : sets m <;> simp [lastSet, hm, List.filterMap_append]

/-- What was set before counts where nothing is set after it. -/
theorem lastSet_append (ms ms' : List μ) :
    lastSet sets initial (ms ++ ms') = lastSet sets (lastSet sets initial ms) ms' := by
  induction ms' using List.reverseRecOn with
  | nil => simp
  | append_singleton ms' m ih => rw [← List.append_assoc, lastSet_concat, lastSet_concat, ih]

/-- Messages that do not set the field do not count. -/
theorem lastSet_of_forall_eq_none (h : ∀ m ∈ ms, sets m = none) :
    lastSet sets initial ms = initial := by
  rw [lastSet, List.filterMap_eq_nil_iff.2 h]
  rfl

end LastSet

variable {key : μ → κ} {update : μ → ρ → ρ} {init : ρ} {k : κ}

theorem after_concat (ms : List μ) (m : μ) : after key update init (ms ++ [m]) =
    enter key update init (after key update init ms) m := by
  simp [after]

/-- Messages for other keys do not count. -/
theorem after_apply (ms : List μ) (k : κ) : after key update init ms k =
    if ∃ m ∈ ms, key m = k then
      some ((ms.filter (key · = k)).foldl (fun r m => update m r) init)
    else none := by
  induction ms using List.reverseRecOn with
  | nil => simp [after]
  | append_singleton ms m ih =>
      rw [after_concat, enter, Function.update_apply]
      by_cases hk : k = key m
      · subst hk
        have hlast : ∃ m' ∈ ms ++ [m], key m' = key m := ⟨m, by simp, rfl⟩
        rw [if_pos rfl, if_pos hlast, ih, List.filter_append, List.foldl_append]
        -- the first message for the key finds the default
        by_cases hany : ∃ m' ∈ ms, key m' = key m
        · simp [if_pos hany]
        · have hnone : ms.filter (key · = key m) = [] := by
            simpa [List.filter_eq_nil_iff] using hany
          simp [if_neg hany, hnone]
      · have hsame : (∃ m' ∈ ms ++ [m], key m' = k) ↔ ∃ m' ∈ ms, key m' = k := by
          simp [Ne.symm hk]
        rw [if_neg hk, ih, List.filter_append]
        simp only [hsame]
        simp [Ne.symm hk]

/-- The field of a record is that of the last message for its key that set it. -/
theorem field_foldl {g : ρ → α} {sets : μ → Option α}
    (hfield : ∀ m r, g (update m r) = (sets m).getD (g r)) (ms : List μ) :
    g (ms.foldl (fun r m => update m r) init) = lastSet sets (g init) ms := by
  induction ms using List.reverseRecOn with
  | nil => rfl
  | append_singleton ms m ih => simp [hfield, ih]

end KeyedStore
