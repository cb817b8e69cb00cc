import Mathlib.Algebra.Order.Field.Basic
import Mathlib.Algebra.Order.Floor.Ring
import Mathlib.Data.Rat.Floor
import Mathlib.Tactic.Linarith

/-!
# Decimal fields

A natural number is written with zeros in front, so that all numbers below a power of ten have the
same width, and is read from its digits. A number with a point is read from the digits before and
behind it. A fraction is cut off to whole parts of a unit.
-/

namespace Decimal

/-! ### Digits -/

/-- The digits of a number, with zeros in front of them up to the width. -/
def padded (width n : ℕ) : List Char := List.leftpad width '0' (Nat.toDigits 10 n)

/-- So many digits. -/
structure Digits (width : ℕ) (cs : List Char) : Prop where
  /-- The number of characters. -/
  length : cs.length = width
  /-- They are digits. -/
  isDigit : ∀ c ∈ cs, c.isDigit

/-- Read a natural number. -/
def natural (cs : List Char) : Option ℕ :=
  if !cs.isEmpty && cs.all (·.isDigit) then some (Nat.ofDigitChars 10 cs 0) else none

/-- Read a number with a point. -/
def number (cs : List Char) : Option ℚ :=
  match cs.splitOn '.' with
  | [whole, decimals] =>
      (natural whole).bind fun n =>
        (natural decimals).map fun d : ℕ => (n + d / 10 ^ decimals.length : ℚ)
  | _ => none

section Padded

variable {width n : ℕ}

theorem isDigit_of_mem_padded {c : Char} (h : c ∈ padded width n) : c.isDigit := by
  rw [padded, List.leftpad, List.mem_append] at h
  rcases h with hzero | hdigit
  · rw [List.eq_of_mem_replicate hzero]
    rfl
  · exact Nat.isDigit_of_mem_toDigits (by decide) (by decide) hdigit

theorem padded_ne_nil (width n : ℕ) : padded width n ≠ [] :=
  List.append_ne_nil_of_right_ne_nil _ Nat.toDigits_ne_nil

/-- A number that fits is as wide as it should be. -/
theorem digits_padded (hwidth : 0 < width) (h : n < 10 ^ width) :
    Digits width (padded width n) where
  length := by
    have hle : (Nat.toDigits 10 n).length ≤ width :=
      (Nat.length_toDigits_le_iff (by decide) hwidth).2 h
    rw [padded, List.leftpad, List.length_append, List.length_replicate, Nat.sub_add_cancel hle]
  isDigit _ := isDigit_of_mem_padded

/-- The zeros in front do not change a number. -/
theorem natural_padded (width n : ℕ) : natural (padded width n) = some n := by
  have hread : (!(padded width n).isEmpty && (padded width n).all (·.isDigit)) = true := by
    rw [Bool.and_eq_true, Bool.not_eq_true', List.isEmpty_eq_false_iff, List.all_eq_true]
    exact ⟨padded_ne_nil width n, fun _ => isDigit_of_mem_padded⟩
  rw [natural, if_pos hread, padded, List.leftpad, Nat.ofDigitChars_append,
    Nat.ofDigitChars_replicate_zero, Nat.mul_zero, Nat.ofDigitChars_ten_toDigits]

theorem padded_inj {m : ℕ} (h : padded width m = padded width n) : m = n := by
  have hread := congrArg natural h
  rwa [natural_padded, natural_padded, Option.some_inj] at hread

theorem point_not_mem_padded (width n : ℕ) : '.' ∉ padded width n := fun h => by
  simpa using isDigit_of_mem_padded h

/-- The digits behind the point are parts of one. -/
theorem number_padded {decimals d : ℕ} (hdecimals : 0 < decimals) (hd : d < 10 ^ decimals) :
    number (padded width n ++ '.' :: padded decimals d) =
      some (n + d / 10 ^ decimals : ℚ) := by
  rw [number, List.splitOn_append_cons_self_of_not_mem (point_not_mem_padded width n),
    List.splitOn_eq_singleton (point_not_mem_padded decimals d)]
  simp only [natural_padded, Option.bind_some, Option.map_some, (digits_padded hdecimals hd).length]

end Padded

/-! ### Cutting off -/

section Cut

variable {x : ℚ} {k : ℕ}

/-- There are fewer than `k` parts in a fraction. -/
theorem floor_mul_lt (hx : x < 1) (hk : 0 < k) : ⌊x * k⌋ < k := by
  have hk' : (0 : ℚ) < k := Nat.cast_pos.2 hk
  rw [Int.floor_lt, Int.cast_natCast]
  exact (mul_lt_iff_lt_one_left hk').2 hx

theorem floor_mul_nonneg (hx : 0 ≤ x) (k : ℕ) : 0 ≤ ⌊x * k⌋ :=
  Int.floor_nonneg.2 (mul_nonneg hx (Nat.cast_nonneg k))

/-- What is left of a number of parts is a fraction of a part. -/
theorem mul_sub_floor_mem (x : ℚ) (k : ℕ) : 0 ≤ x * k - ⌊x * k⌋ ∧ x * k - ⌊x * k⌋ < 1 :=
  ⟨sub_nonneg.2 (Int.floor_le _), sub_lt_iff_lt_add'.2 (Int.lt_floor_add_one _)⟩

end Cut

end Decimal
