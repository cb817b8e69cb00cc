import Mathlib.Algebra.Order.Field.Basic
import Mathlib.Algebra.Order.Field.Rat
import Mathlib.Algebra.Order.Ring.Int

/-!
# Ordered comparisons of IEEE 754 binary formats

A value is its bit pattern: sign, biased exponent and trailing significand. Comparisons
are made on the numeric value in units of the least subnormal (`units`), an integer; an
infinity gets the units its bit pattern would have as a finite number, which is beyond
every finite magnitude. Every ordered comparison with a NaN is false.

There is no rounding here: what the operations give is in `IeeeArithmetic`.
-/

namespace Ieee

/-- A binary interchange format: width of the exponent and of the trailing significand. -/
structure Format where
  /-- Width of the biased exponent. -/
  expBits : ℕ
  /-- Width of the trailing significand. -/
  fracBits : ℕ

/-- Single precision. -/
def binary32 : Format := ⟨8, 23⟩

/-- Double precision. -/
def binary64 : Format := ⟨11, 52⟩

/-- A value of the format, as its three fields. -/
structure Value (f : Format) where
  /-- The sign bit. -/
  negative : Bool
  /-- The biased exponent. -/
  exponent : Fin (2 ^ f.expBits)
  /-- The trailing significand. -/
  fraction : Fin (2 ^ f.fracBits)
deriving DecidableEq

variable {f : Format}

namespace Value

/-- An all-ones exponent with a nonzero significand. -/
def isNaN (x : Value f) : Bool :=
  x.exponent.val + 1 = 2 ^ f.expBits && x.fraction.val ≠ 0

/-- An all-ones exponent with a zero significand. -/
def isInfinite (x : Value f) : Bool :=
  x.exponent.val + 1 = 2 ^ f.expBits && x.fraction.val = 0

/-- The magnitude in units of the least subnormal. -/
def magnitude (x : Value f) : ℕ :=
  if x.exponent.val = 0 then x.fraction.val
  else (2 ^ f.fracBits + x.fraction.val) * 2 ^ (x.exponent.val - 1)

/-- The signed value in units of the least subnormal. -/
def units (x : Value f) : ℤ :=
  if x.negative then -(x.magnitude : ℤ) else x.magnitude

/-- The value with the given fields, which are reduced to their widths. -/
def ofFields (negative : Bool) (exponent fraction : ℕ) : Value f :=
  ⟨negative, ⟨exponent % 2 ^ f.expBits, Nat.mod_lt _ (Nat.two_pow_pos _)⟩,
    ⟨fraction % 2 ^ f.fracBits, Nat.mod_lt _ (Nat.two_pow_pos _)⟩⟩

/-- Positive zero. -/
def zero : Value f := ofFields false 0 0

/-- The value of a finite number. -/
def toRat (x : Value f) : ℚ := x.units / 2 ^ (2 ^ (f.expBits - 1) - 2 + f.fracBits)

/-- The absolute value: clear the sign bit. -/
def abs (x : Value f) : Value f := { x with negative := false }

/-- The ordered comparison `x < y`. -/
def lt (x y : Value f) : Bool := !x.isNaN && !y.isNaN && x.units < y.units

/-- The ordered comparison `x <= y`. -/
def le (x y : Value f) : Bool := !x.isNaN && !y.isNaN && x.units ≤ y.units

/-- The ordered comparison `x > y`. -/
def gt (x y : Value f) : Bool := lt y x

/-- The ordered comparison `x >= y`. -/
def ge (x y : Value f) : Bool := le y x

/-- Neither operand of a successful `<=` is a NaN. -/
theorem not_isNaN_of_le {x y : Value f} (h : le x y) : x.isNaN = false ∧ y.isNaN = false := by
  simp only [le, Bool.and_eq_true, Bool.not_eq_true', decide_eq_true_eq] at h
  exact h.1

/-- Among values that are not NaN, `<=` is the negation of `>`. -/
theorem le_iff_not_gt {x y : Value f} (hx : x.isNaN = false) (hy : y.isNaN = false) :
    le x y ↔ gt x y = false := by
  simp [le, gt, lt, hx, hy]

theorem gt_trans {x y z : Value f} (h : gt x y) (h' : gt y z) : gt x z := by
  simp only [gt, lt, Bool.and_eq_true, Bool.not_eq_true', decide_eq_true_eq] at h h' ⊢
  exact ⟨⟨h'.1.1, h.1.2⟩, h'.2.trans h.2⟩

theorem gt_of_ge_of_gt {x y z : Value f} (h : ge x y) (h' : gt y z) : gt x z := by
  simp only [gt, ge, lt, le, Bool.and_eq_true, Bool.not_eq_true', decide_eq_true_eq] at h h' ⊢
  exact ⟨⟨h'.1.1, h.1.2⟩, h'.2.trans_le h.2⟩

/-- What is greater is not at most. -/
theorem not_ge_of_gt {x y : Value f} (h : gt x y) : ge y x = false := by
  simp only [gt, lt, Bool.and_eq_true, decide_eq_true_eq] at h
  rw [ge, le, Bool.and_eq_false_iff]
  exact .inr (decide_eq_false (not_le.2 h.2))

/-- Neither operand of a successful `>` is a NaN. -/
theorem not_isNaN_of_gt {x y : Value f} (h : gt x y) : x.isNaN = false ∧ y.isNaN = false := by
  simp only [gt, lt, Bool.and_eq_true, Bool.not_eq_true', decide_eq_true_eq] at h
  exact h.1.symm

theorem isNaN_zero : (zero : Value f).isNaN = false := by
  simp [isNaN, zero, ofFields]

/-- Zero has no units. -/
theorem units_zero : (zero : Value f).units = 0 := by
  simp [units, magnitude, zero, ofFields]

/-- Below zero is what has a negative value. -/
theorem lt_zero_iff {x : Value f} (hx : x.isNaN = false) : lt x zero ↔ x.toRat < 0 := by
  have hpos : (0 : ℚ) < 2 ^ (2 ^ (f.expBits - 1) - 2 + f.fracBits) :=
    pow_pos two_pos _
  rw [toRat, div_lt_iff₀ hpos, zero_mul, Int.cast_lt_zero]
  simp [lt, hx, isNaN_zero, units_zero]

/-! ### Bits -/

/-- The bit pattern: the sign, the exponent, and the significand. -/
def toBits (x : Value f) : ℕ :=
  (x.negative.toNat * 2 ^ f.expBits + x.exponent.val) * 2 ^ f.fracBits + x.fraction.val

/-- The value with a bit pattern. -/
def ofBits (n : ℕ) : Value f :=
  ofFields (n / 2 ^ f.fracBits / 2 ^ f.expBits % 2 = 1) (n / 2 ^ f.fracBits) n

/-- The bits fit into the width of the format. -/
theorem toBits_lt (x : Value f) : x.toBits < 2 ^ (1 + f.expBits + f.fracBits) := by
  have hsign : x.negative.toNat + 1 ≤ 2 := Nat.succ_le_succ (Bool.toNat_le _)
  have hexponent : x.negative.toNat * 2 ^ f.expBits + x.exponent.val + 1 ≤ 2 * 2 ^ f.expBits := by
    have hmul := Nat.mul_le_mul_right (2 ^ f.expBits) hsign
    rw [Nat.succ_mul] at hmul
    have := x.exponent.isLt
    omega
  have hmul := Nat.mul_le_mul_right (2 ^ f.fracBits) hexponent
  rw [Nat.succ_mul, ← Nat.pow_succ', Nat.succ_eq_add_one, ← Nat.pow_add,
    Nat.add_comm f.expBits 1] at hmul
  have := x.fraction.isLt
  rw [toBits]
  omega

/-- A value is read back from its bits. -/
theorem ofBits_toBits (x : Value f) : ofBits x.toBits = x := by
  have hfrac : x.toBits / 2 ^ f.fracBits =
      x.negative.toNat * 2 ^ f.expBits + x.exponent.val := by
    rw [toBits, Nat.mul_comm, Nat.mul_add_div (Nat.two_pow_pos _),
      Nat.div_eq_of_lt x.fraction.isLt, Nat.add_zero]
  have hexp : x.toBits / 2 ^ f.fracBits / 2 ^ f.expBits = x.negative.toNat := by
    rw [hfrac, Nat.mul_comm, Nat.mul_add_div (Nat.two_pow_pos _),
      Nat.div_eq_of_lt x.exponent.isLt, Nat.add_zero]
  obtain ⟨negative, exponent, fraction⟩ := x
  rw [ofBits, hexp, hfrac, ofFields]
  congr 1
  · cases negative <;> rfl
  · rw [Fin.mk.injEq, Nat.mul_comm, Nat.mul_add_mod, Nat.mod_eq_of_lt exponent.isLt]
  · rw [Fin.mk.injEq, toBits, Nat.mul_comm, Nat.mul_add_mod, Nat.mod_eq_of_lt fraction.isLt]

end Value

end Ieee
