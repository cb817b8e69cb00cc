import Mathlib.Data.List.DropRight
import Mathlib.Data.List.Infix

/-!
# Streaks

A streak is a contiguous part of a list all of whose elements satisfy a predicate. Whether a list
has a streak of a given length can be decided by a scan that remembers the length of the streak at
the end (`hasStreak_concat`).
-/

namespace Streak

variable {α : Type*} (p : α → Bool)

/-- `n` consecutive elements satisfy `p`. -/
def HasStreak (n : ℕ) (xs : List α) : Prop :=
  ∃ run, run <:+: xs ∧ run.length = n ∧ ∀ x ∈ run, p x

/-- The length of the streak at the end. -/
def trailing (xs : List α) : ℕ := (xs.rtakeWhile p).length

variable {p} {n : ℕ} {xs ys : List α} {x : α}

@[simp]
theorem trailing_nil : trailing p [] = 0 := by simp [trailing]

@[simp]
theorem trailing_concat_of_pos (h : p x) : trailing p (xs ++ [x]) = trailing p xs + 1 := by
  simp [trailing, h]

@[simp]
theorem trailing_concat_of_neg (h : ¬ p x) : trailing p (xs ++ [x]) = 0 := by
  simp [trailing, h]

/-- A streak at the end is not longer than the one that is counted. -/
theorem length_le_trailing {run : List α} (hrun : run <:+ xs) (h : ∀ x ∈ run, p x) :
    run.length ≤ trailing p xs := by
  obtain ⟨before, rfl⟩ := hrun
  have hreverse : ∀ x ∈ run.reverse, p x := by simpa using h
  rw [trailing, List.rtakeWhile, List.reverse_append, List.takeWhile_append_of_pos hreverse]
  simp

theorem HasStreak.of_le_trailing (h : n ≤ trailing p xs) : HasStreak p n xs := by
  refine ⟨(xs.rtakeWhile p).drop (trailing p xs - n), ?_, ?_, fun x hx => ?_⟩
  · exact ((List.drop_suffix _ _).trans (List.rtakeWhile_suffix p xs)).isInfix
  · rw [List.length_drop, ← trailing]
    omega
  · exact List.mem_rtakeWhile_imp (List.mem_of_mem_drop hx)

theorem HasStreak.append_right (h : HasStreak p n xs) (ys : List α) : HasStreak p n (xs ++ ys) := by
  obtain ⟨run, hrun, hlength, hp⟩ := h
  exact ⟨run, hrun.trans (List.prefix_append xs ys).isInfix, hlength, hp⟩

/-- A streak has a shorter one in it. -/
theorem HasStreak.mono {m : ℕ} (h : HasStreak p n xs) (hm : m ≤ n) : HasStreak p m xs := by
  obtain ⟨run, hrun, rfl, hp⟩ := h
  exact ⟨run.take m, (List.take_prefix m run).isInfix.trans hrun, List.length_take_of_le hm,
    fun x hx => hp x (List.mem_of_mem_take hx)⟩

theorem HasStreak.le_length (h : HasStreak p n xs) : n ≤ xs.length := by
  obtain ⟨run, hrun, rfl, -⟩ := h
  exact hrun.length_le

theorem HasStreak.cons (h : HasStreak p n xs) (x : α) : HasStreak p n (x :: xs) := by
  obtain ⟨run, hrun, hlength, hp⟩ := h
  exact ⟨run, hrun.trans (List.suffix_cons x xs).isInfix, hlength, hp⟩

/-- A new element completes a streak, or there was one before. -/
theorem hasStreak_concat :
    HasStreak p n (xs ++ [x]) ↔ HasStreak p n xs ∨ n ≤ trailing p (xs ++ [x]) := by
  constructor
  · rintro ⟨run, hrun, rfl, hp⟩
    rcases List.infix_concat_iff.1 hrun with hsuffix | hinfix
    · exact .inr (length_le_trailing hsuffix hp)
    · exact .inl ⟨run, hinfix, rfl, hp⟩
  · rintro (h | h)
    · exact h.append_right [x]
    · exact .of_le_trailing h

@[simp]
theorem hasStreak_nil : HasStreak p n [] ↔ n = 0 := by
  constructor
  · rintro ⟨run, hrun, rfl, -⟩
    rw [List.eq_nil_of_infix_nil hrun, List.length_nil]
  · rintro rfl
    exact ⟨[], List.nil_infix, rfl, by simp⟩

/-- Elements that all satisfy `p` are a streak. -/
theorem hasStreak_replicate (h : p x) (n : ℕ) : HasStreak p n (List.replicate n x) :=
  ⟨_, List.infix_rfl, List.length_replicate, fun y hy => by rwa [List.eq_of_mem_replicate hy]⟩

/-- Behind another element they are no longer streak than that. -/
theorem not_hasStreak_cons_replicate (h : ¬ p x) (y : α) (n : ℕ) :
    ¬ HasStreak p (n + 1) (x :: List.replicate n y) := by
  rintro ⟨run, hrun, hlength, hp⟩
  have hwhole := hrun.eq_of_length (by rw [hlength, List.length_cons, List.length_replicate])
  exact h (hp x (hwhole ▸ List.mem_cons_self))

end Streak
