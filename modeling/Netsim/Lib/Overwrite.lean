import Mathlib.Data.List.TakeDrop
import Mathlib.Logic.Nontrivial.Basic

/-!
# Buffers that keep what is not written

A device plays a buffer of fixed length again and again, and between two times it is written from
its beginning. Where nothing is written, the buffer keeps what it held before. What is played does
not depend on that iff all of the buffer is written (`overwrite_eq_iff`).
-/

namespace Overwrite

variable {α : Type*}

/-- The contents of a buffer after `out` is written from its beginning. -/
def overwrite (contents out : List α) : List α := out ++ contents.drop out.length

/-- A buffer that is not written keeps its contents. -/
@[simp]
theorem overwrite_nil (contents : List α) : overwrite contents [] = contents := rfl

theorem overwrite_of_length_eq {contents out : List α} (h : contents.length = out.length) :
    overwrite contents out = out := by
  rw [overwrite, ← h, List.drop_length, List.append_nil]

/-- Whatever the buffer held before, it holds `sound`, iff all of it is written. -/
theorem overwrite_eq_iff [Nontrivial α] {out sound : List α} :
    (∀ contents, contents.length = sound.length → overwrite contents out = sound) ↔
      out = sound := by
  constructor
  · intro h
    obtain ⟨a, b, hab⟩ := exists_pair_ne α
    have ha := h (List.replicate sound.length a) List.length_replicate
    have hb := h (List.replicate sound.length b) List.length_replicate
    rw [overwrite, List.drop_replicate] at ha hb
    -- where `out` ends, two different contents would show
    have hrest := List.append_cancel_left (ha.trans hb.symm)
    cases hmore : sound.length - out.length with
    | zero => simpa [hmore] using ha
    | succ n =>
        rw [hmore, List.replicate_succ, List.replicate_succ] at hrest
        exact absurd (List.cons_eq_cons.1 hrest).1 hab
  · rintro rfl contents hcontents
    exact overwrite_of_length_eq hcontents

/-- The first `n` entries of a list, and padding where it has run out. -/
theorem takeD_eq_append (n : ℕ) (l : List α) (a : α) :
    l.takeD n a = l.take n ++ List.replicate (n - l.length) a := by
  induction n generalizing l with
  | zero => simp
  | succ n ih => cases l <;> simp [ih, List.replicate_succ]

end Overwrite
