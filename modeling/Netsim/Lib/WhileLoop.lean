import Mathlib.Data.Nat.Notation
import Mathlib.Tactic.TypeStar

/-!
# While loops

A while loop is a condition on states and a body, which is undefined (`none`) where it must not be
executed. A loop ends in the first state that does not meet the condition; it does not end if a body
that has to be executed is undefined, or if there is no such state. An invariant of the body and a
measure that each iteration decreases show that it ends.
-/

namespace WhileLoop

variable {σ : Type*} (cond : σ → Prop) [DecidablePred cond] (body : σ → Option σ)

/-- The state after `k` iterations. -/
def iterate : ℕ → σ → Option σ
  | 0, s => some s
  | k + 1, s => if cond s then (body s).bind (iterate k) else none

/-- The loop ends in `t`. -/
def EndsIn (s t : σ) : Prop := ∃ k, iterate cond body k s = some t ∧ ¬ cond t

variable {cond body} {s t t' : σ} {k : ℕ}

theorem iterate_succ_of_cond (h : cond s) :
    iterate cond body (k + 1) s = (body s).bind (iterate cond body k) := by
  rw [iterate, if_pos h]

/-- Without the condition there is no iteration. -/
theorem iterate_of_not_cond (h : ¬ cond s) : iterate cond body k s = some t ↔ k = 0 ∧ t = s := by
  cases k with
  | zero => simp [iterate, eq_comm]
  | succ k => simp [iterate, h]

theorem endsIn_of_not_cond (h : ¬ cond s) : EndsIn cond body s t ↔ t = s := by
  constructor
  · rintro ⟨k, hk, -⟩
    exact ((iterate_of_not_cond h).1 hk).2
  · rintro rfl
    exact ⟨0, rfl, h⟩

/-- With the condition the loop goes on with the body. -/
theorem endsIn_of_cond (h : cond s) :
    EndsIn cond body s t ↔ ∃ u, body s = some u ∧ EndsIn cond body u t := by
  constructor
  · rintro ⟨k, hk, ht⟩
    cases k with
    | zero =>
      cases hk
      exact absurd h ht
    | succ k =>
      rw [iterate_succ_of_cond h, Option.bind_eq_some_iff] at hk
      obtain ⟨u, hu, hk⟩ := hk
      exact ⟨u, hu, k, hk, ht⟩
  · rintro ⟨u, hu, k, hk, ht⟩
    exact ⟨k + 1, by rw [iterate_succ_of_cond h, hu, Option.bind_some, hk], ht⟩

/-- What the body preserves holds after every iteration. -/
theorem iterate_invariant {I : σ → Prop} (hbody : ∀ s t, I s → cond s → body s = some t → I t)
    (hs : I s) (hk : iterate cond body k s = some t) : I t := by
  induction k generalizing s with
  | zero =>
    cases hk
    exact hs
  | succ k ih =>
    by_cases h : cond s
    · rw [iterate_succ_of_cond h, Option.bind_eq_some_iff] at hk
      obtain ⟨u, hu, hk⟩ := hk
      exact ih (hbody s u hs h hu) hk
    · rw [iterate, if_neg h] at hk
      cases hk

/-- A loop whose body is defined, keeps the invariant and decreases the measure ends. -/
theorem exists_endsIn {I : σ → Prop} (measure : σ → ℕ)
    (hbody : ∀ s, I s → cond s → ∃ t, body s = some t ∧ I t ∧ measure t < measure s) (hs : I s) :
    ∃ t, EndsIn cond body s t ∧ I t := by
  induction hm : measure s using Nat.strongRecOn generalizing s with
  | ind m ih =>
    by_cases h : cond s
    · obtain ⟨t, ht, hI, hlt⟩ := hbody s hs h
      obtain ⟨u, hu, hIu⟩ := ih (measure t) (hm ▸ hlt) hI rfl
      exact ⟨u, (endsIn_of_cond h).2 ⟨t, ht, hu⟩, hIu⟩
    · exact ⟨s, (endsIn_of_not_cond h).2 rfl, hs⟩

end WhileLoop
