import Mathlib.Algebra.Order.Floor.Semifield
import Mathlib.Algebra.Order.Ring.Nat
import Mathlib.Data.Nat.Cast.Order.Field
import Mathlib.Data.Rat.Floor
import Netsim.Lib.Ieee

/-!
# Arithmetic of IEEE 754 binary formats

An operation gives the value nearest to its exact result; of two values that are as near it gives
the one whose significand is even, and an infinity if the exact result is beyond the finite values
by half a unit in the last place or more.

Rounding is done on magnitudes in units of the least subnormal. Up to the format's precision a
magnitude is rounded to a whole number of units, and beyond it to a multiple of a power of two. The
bits of the result are then the number of the multiple, in the scale of its power, so that a carry
out of the significand goes to the exponent by itself (`nearestBits`).

## Main results

* `Value.units_ofMagnitude_mono`: rounding is monotone;
* `Value.toRat_ofMagnitude_natCast`: the natural numbers up to the precision are not rounded.
-/

namespace Ieee

/-! ### Rounding -/

/-- The natural number nearest to `q`, the even one if there are two. -/
def roundEven (q : ℚ) : ℕ :=
  let below := ⌊q⌋₊
  if q < below + 1 / 2 ∨ q = below + 1 / 2 ∧ below % 2 = 0 then below else below + 1

theorem floor_le_roundEven (q : ℚ) : ⌊q⌋₊ ≤ roundEven q := by
  rw [roundEven]
  split_ifs <;> omega

theorem roundEven_le (q : ℚ) : roundEven q ≤ ⌊q⌋₊ + 1 := by
  rw [roundEven]
  split_ifs <;> omega

/-- A natural number is not rounded. -/
@[simp]
theorem roundEven_natCast (n : ℕ) : roundEven n = n := by
  simp [roundEven]

theorem roundEven_mono {q r : ℚ} (h : q ≤ r) : roundEven q ≤ roundEven r := by
  rcases (Nat.floor_mono h).lt_or_eq with hlt | heq
  · exact (roundEven_le q).trans (hlt.trans_le (floor_le_roundEven r))
  -- between the same natural numbers
  · have hup (hr : r < ⌊r⌋₊ + 1 / 2 ∨ r = ⌊r⌋₊ + 1 / 2 ∧ ⌊r⌋₊ % 2 = 0) :
        q < ⌊q⌋₊ + 1 / 2 ∨ q = ⌊q⌋₊ + 1 / 2 ∧ ⌊q⌋₊ % 2 = 0 := by
      rw [heq]
      rcases hr with hr | ⟨hr, heven⟩
      · exact .inl (h.trans_lt hr)
      · exact (h.trans_eq hr).lt_or_eq.imp id fun hq => ⟨hq, heven⟩
    rw [roundEven, roundEven]
    split_ifs with hq hr hr
    · exact heq.le
    · omega
    · exact absurd (hup hr) hq
    · omega

variable {f : Format}

namespace Format

/-- There are `2 ^ unitExp` units in 1. -/
def unitExp (f : Format) : ℕ := 2 ^ (f.expBits - 1) - 2 + f.fracBits

/-- The bits of positive infinity. -/
def infinityBits (f : Format) : ℕ := (2 ^ f.expBits - 1) * 2 ^ f.fracBits

/-- A magnitude of `r` units is rounded to a multiple of `2 ^ f.quantumExp r`. -/
def quantumExp (f : Format) (r : ℚ) : ℕ := ⌊r⌋₊.log2 - f.fracBits

/-- The bits of the magnitude nearest to `r` units, as if every exponent fitted the format. -/
def nearestBits (f : Format) (r : ℚ) : ℕ :=
  f.quantumExp r * 2 ^ f.fracBits + roundEven (r / 2 ^ f.quantumExp r)

/-- The magnitude with the given bits, in units. -/
def magnitudeOfBits (f : Format) (n : ℕ) : ℕ :=
  if n / 2 ^ f.fracBits = 0 then n % 2 ^ f.fracBits
  else (2 ^ f.fracBits + n % 2 ^ f.fracBits) * 2 ^ (n / 2 ^ f.fracBits - 1)

/-- There are more exponents than bits in the significand, so that natural numbers up to the
precision are among the values. -/
def HasIntegers (f : Format) : Prop := f.fracBits + 2 < 2 ^ (f.expBits - 1)

instance (f : Format) : Decidable f.HasIntegers := inferInstanceAs (Decidable (_ < _))

theorem log2_mono {m n : ℕ} (h : m ≤ n) : m.log2 ≤ n.log2 := by
  by_cases hm : m = 0
  · rw [hm, Nat.log2_zero]
    exact Nat.zero_le _
  · exact (Nat.le_log2 (by omega)).2 ((Nat.log2_self_le hm).trans h)

theorem floor_div_quantum (f : Format) (r : ℚ) :
    ⌊r / 2 ^ f.quantumExp r⌋₊ = ⌊r⌋₊ / 2 ^ f.quantumExp r := by
  have hdiv := Nat.floor_div_natCast r (2 ^ f.quantumExp r)
  rwa [Nat.cast_pow, Nat.cast_ofNat] at hdiv

/-- A multiple has the precision of the format. -/
theorem roundEven_div_le (f : Format) (r : ℚ) :
    roundEven (r / 2 ^ f.quantumExp r) ≤ 2 ^ (f.fracBits + 1) := by
  have hlt : ⌊r⌋₊ < 2 ^ (f.fracBits + 1 + f.quantumExp r) := by
    by_cases hzero : ⌊r⌋₊ = 0
    · rw [hzero]
      exact Nat.two_pow_pos _
    · rw [← Nat.log2_lt hzero, quantumExp]
      omega
  refine (roundEven_le _).trans ?_
  rw [Nat.succ_le_iff, floor_div_quantum, Nat.div_lt_iff_lt_mul (Nat.two_pow_pos _), ← Nat.pow_add]
  exact hlt

/-- Beyond the precision, a multiple has all of it. -/
theorem le_roundEven_div {r : ℚ} (h : 0 < f.quantumExp r) :
    2 ^ f.fracBits ≤ roundEven (r / 2 ^ f.quantumExp r) := by
  have hle : 2 ^ (f.fracBits + f.quantumExp r) ≤ ⌊r⌋₊ := by
    have hzero : ⌊r⌋₊ ≠ 0 := by
      intro hzero
      rw [quantumExp, hzero, Nat.log2_zero] at h
      omega
    refine le_trans (Nat.pow_le_pow_right two_pos ?_) (Nat.log2_self_le hzero)
    rw [quantumExp] at h ⊢
    omega
  refine le_trans ?_ (floor_le_roundEven _)
  rw [floor_div_quantum, Nat.le_div_iff_mul_le (Nat.two_pow_pos _), ← Nat.pow_add]
  exact hle

/-- A greater magnitude does not have a lesser nearest one. -/
theorem nearestBits_mono {r s : ℚ} (h : r ≤ s) : f.nearestBits r ≤ f.nearestBits s := by
  have hexp : f.quantumExp r ≤ f.quantumExp s :=
    Nat.sub_le_sub_right (log2_mono (Nat.floor_mono h)) _
  rw [nearestBits, nearestBits]
  rcases hexp.lt_or_eq with hlt | heq
  -- the multiple of the lesser power is at most the first one of the greater power
  · have hr := f.roundEven_div_le r
    have hs := le_roundEven_div (f := f) (r := s) (Nat.zero_lt_of_lt hlt)
    have hmul := Nat.mul_le_mul_right (2 ^ f.fracBits) (Nat.succ_le_of_lt hlt)
    rw [Nat.succ_mul] at hmul
    rw [Nat.pow_succ] at hr
    omega
  · rw [heq]
    exact Nat.add_le_add_left (roundEven_mono (by gcongr)) _

/-! ### The magnitude with given bits -/

theorem magnitudeOfBits_add (f : Format) {e m : ℕ} (h : e = 0 ∨ 2 ^ f.fracBits ≤ m)
    (hm : m ≤ 2 ^ (f.fracBits + 1)) :
    f.magnitudeOfBits (e * 2 ^ f.fracBits + m) = m * 2 ^ e := by
  have hpos := Nat.two_pow_pos f.fracBits
  have hexponent : (e * 2 ^ f.fracBits + m) / 2 ^ f.fracBits = e + m / 2 ^ f.fracBits := by
    rw [Nat.mul_comm, Nat.mul_add_div hpos]
  have hfraction : (e * 2 ^ f.fracBits + m) % 2 ^ f.fracBits = m % 2 ^ f.fracBits := by
    rw [Nat.mul_comm, Nat.mul_add_mod]
  rw [magnitudeOfBits, hexponent, hfraction]
  rw [Nat.pow_succ] at hm
  by_cases hsmall : m < 2 ^ f.fracBits
  -- a subnormal
  · obtain rfl : e = 0 := by omega
    rw [Nat.div_eq_of_lt hsmall, Nat.mod_eq_of_lt hsmall]
    simp
  · by_cases hcarry : m = 2 ^ f.fracBits * 2
    · rw [hcarry, Nat.mul_div_cancel_left _ hpos, Nat.mul_mod_right, if_neg (by omega),
        Nat.add_zero, Nat.mul_assoc, ← Nat.pow_succ']
      congr 2
    · have hquotient : m / 2 ^ f.fracBits = 1 := by
        rw [Nat.div_eq_iff hpos]
        omega
      have hdivision := Nat.div_add_mod m (2 ^ f.fracBits)
      rw [hquotient, Nat.mul_one] at hdivision
      rw [hquotient, if_neg (by omega), Nat.add_sub_cancel, hdivision]

theorem magnitudeOfBits_mono (f : Format) : Monotone f.magnitudeOfBits := by
  refine monotone_nat_of_le_succ fun n => ?_
  have hpos := Nat.two_pow_pos f.fracBits
  -- the bits, as one of the multiples of a power
  obtain ⟨e, m, hn, hm, hlt⟩ : ∃ e m, n = e * 2 ^ f.fracBits + m ∧
      (e = 0 ∨ 2 ^ f.fracBits ≤ m) ∧ m < 2 ^ (f.fracBits + 1) := by
    have hdivision := Nat.div_add_mod' n (2 ^ f.fracBits)
    have hmod := Nat.mod_lt n hpos
    rw [Nat.pow_succ]
    by_cases hzero : n / 2 ^ f.fracBits = 0
    · rw [hzero, Nat.zero_mul] at hdivision
      exact ⟨0, n, by omega, .inl rfl, by omega⟩
    · obtain ⟨e, he⟩ := Nat.exists_eq_succ_of_ne_zero hzero
      rw [he, Nat.succ_mul] at hdivision
      exact ⟨e, 2 ^ f.fracBits + n % 2 ^ f.fracBits, by omega, .inr (by omega), by omega⟩
  rw [hn, Nat.add_assoc, magnitudeOfBits_add f hm hlt.le,
    magnitudeOfBits_add f (hm.imp id (Nat.le_succ_of_le)) hlt]
  exact Nat.mul_le_mul_right _ (Nat.le_succ m)

/-- The nearest magnitude, in units. -/
theorem magnitudeOfBits_nearestBits (f : Format) (r : ℚ) :
    f.magnitudeOfBits (f.nearestBits r) =
      roundEven (r / 2 ^ f.quantumExp r) * 2 ^ f.quantumExp r :=
  magnitudeOfBits_add f ((Nat.eq_zero_or_pos _).imp id le_roundEven_div) (f.roundEven_div_le r)

/-- A natural number up to the precision is the nearest magnitude to itself. -/
theorem magnitudeOfBits_nearestBits_natCast {n : ℕ} (h : n ≤ 2 ^ (f.fracBits + 1)) (e : ℕ) :
    f.magnitudeOfBits (f.nearestBits ((n * 2 ^ e : ℕ) : ℚ)) = n * 2 ^ e := by
  rw [magnitudeOfBits_nearestBits]
  -- the quantum divides it
  have hdvd : 2 ^ f.quantumExp ((n * 2 ^ e : ℕ) : ℚ) ∣ n * 2 ^ e := by
    rw [quantumExp, Nat.floor_natCast]
    by_cases hzero : n * 2 ^ e = 0
    · rw [hzero]
      exact dvd_zero _
    by_cases htop : n = 2 ^ (f.fracBits + 1)
    · rw [htop, ← Nat.pow_add]
      exact pow_dvd_pow 2 (by rw [Nat.log2_two_pow]; omega)
    · have hlog : (n * 2 ^ e).log2 < f.fracBits + 1 + e := by
        rw [Nat.log2_lt hzero, Nat.pow_add]
        exact Nat.mul_lt_mul_of_pos_right (by omega) (Nat.two_pow_pos e)
      exact (pow_dvd_pow 2 (by omega)).trans (dvd_mul_left _ n)
  generalize f.quantumExp ((n * 2 ^ e : ℕ) : ℚ) = quantum at hdvd ⊢
  obtain ⟨m, hm⟩ := hdvd
  have hquotient : ((n * 2 ^ e : ℕ) : ℚ) / 2 ^ quantum = m := by
    have hpos : (0 : ℚ) < 2 ^ quantum := pow_pos two_pos _
    rw [div_eq_iff hpos.ne', hm, mul_comm]
    norm_cast
  rw [hquotient, roundEven_natCast, Nat.mul_comm, ← hm]

/-- Natural numbers up to the precision are not rounded to infinity. -/
theorem nearestBits_natCast_lt (hf : f.HasIntegers) {n : ℕ} (h : n ≤ 2 ^ (f.fracBits + 1)) :
    f.nearestBits ((n * 2 ^ f.unitExp : ℕ) : ℚ) < f.infinityBits := by
  have hexp : f.quantumExp ((n * 2 ^ f.unitExp : ℕ) : ℚ) ≤ f.unitExp + 1 := by
    have hle := log2_mono (Nat.mul_le_mul_right (2 ^ f.unitExp) h)
    rw [← Nat.pow_add, Nat.log2_two_pow] at hle
    rw [quantumExp, Nat.floor_natCast]
    omega
  have hround := f.roundEven_div_le ((n * 2 ^ f.unitExp : ℕ) : ℚ)
  have hbits : f.nearestBits ((n * 2 ^ f.unitExp : ℕ) : ℚ) ≤
      (f.unitExp + 3) * 2 ^ f.fracBits := by
    have hmul := Nat.mul_le_mul_right (2 ^ f.fracBits) hexp
    have hsplit : (f.unitExp + 3) * 2 ^ f.fracBits =
        (f.unitExp + 1) * 2 ^ f.fracBits + 2 ^ (f.fracBits + 1) := by
      rw [Nat.pow_succ]
      ring
    rw [hsplit]
    exact Nat.add_le_add hmul hround
  refine hbits.trans_lt (Nat.mul_lt_mul_of_pos_right ?_ (Nat.two_pow_pos _))
  rw [HasIntegers] at hf
  obtain ⟨e, he⟩ : ∃ e, f.expBits = e + 1 := by
    refine Nat.exists_eq_succ_of_ne_zero fun hzero => ?_
    rw [hzero] at hf
    simp at hf
  rw [he, Nat.add_sub_cancel] at hf
  rw [unitExp, he, Nat.add_sub_cancel, Nat.pow_succ]
  omega

end Format

/-! ### Operations -/

namespace Value

/-- An infinity. -/
def infinity (negative : Bool) : Value f := ofFields negative (2 ^ f.expBits - 1) 0

/-- A quiet NaN. -/
def nan : Value f := ofFields false (2 ^ f.expBits - 1) (2 ^ (f.fracBits - 1))

/-- Neither an infinity nor a NaN. -/
def isFinite (x : Value f) : Bool := x.exponent.val + 1 ≠ 2 ^ f.expBits

/-- The value with the given sign that is nearest to a magnitude. -/
def ofMagnitude (negative : Bool) (q : ℚ) : Value f :=
  let bits := min (f.nearestBits (q * 2 ^ f.unitExp)) f.infinityBits
  ofFields negative (bits / 2 ^ f.fracBits) bits

/-- The value nearest to a rational number. -/
def ofRat (q : ℚ) : Value f := ofMagnitude (q < 0) |q|

/-- The opposite: flip the sign bit. -/
def neg (x : Value f) : Value f := { x with negative := !x.negative }

/-- The sum. A sum that is zero is positive, unless both summands are negative zeros. -/
def add (x y : Value f) : Value f :=
  if x.isNaN || y.isNaN then nan
  else if x.isInfinite then if y.isInfinite && x.negative != y.negative then nan else x
  else if y.isInfinite then y
  else
    let sum := x.toRat + y.toRat
    ofMagnitude (if sum = 0 then x.negative && y.negative else sum < 0) |sum|

/-- The difference. -/
def sub (x y : Value f) : Value f := add x y.neg

/-- The product. -/
def mul (x y : Value f) : Value f :=
  let negative := x.negative != y.negative
  if x.isNaN || y.isNaN then nan
  else if x.isInfinite || y.isInfinite then
    if x.units = 0 || y.units = 0 then nan else infinity negative
  else ofMagnitude negative |x.toRat * y.toRat|

/-- The quotient. -/
def div (x y : Value f) : Value f :=
  let negative := x.negative != y.negative
  if x.isNaN || y.isNaN then nan
  else if x.isInfinite then if y.isInfinite then nan else infinity negative
  else if y.isInfinite then ofMagnitude negative 0
  else if y.units = 0 then if x.units = 0 then nan else infinity negative
  else ofMagnitude negative |x.toRat / y.toRat|

/-- The square root. The root in units is rounded as what is halfway between the natural numbers
next to it, if it is none itself: it has more bits than the precision, so that what decides how it
is rounded are natural numbers. -/
def sqrt (x : Value f) : Value f :=
  if x.isNaN then nan
  else if x.units = 0 then x
  else if x.negative then nan
  else if x.isInfinite then x
  else
    let square := x.magnitude * 2 ^ f.unitExp
    let root := square.sqrt
    ofMagnitude false ((if root * root = square then (root : ℚ) else root + 1 / 2) / 2 ^ f.unitExp)

/-- The conversion to an unsigned integer of the given width, which drops the fraction. It is
undefined where the width cannot hold the result. -/
def toUnsigned (width : ℕ) (x : Value f) : Option ℕ :=
  if x.isFinite && -1 < x.toRat && x.toRat < 2 ^ width then some ⌊x.toRat⌋₊ else none

/-- The conversion of the ceiling to an unsigned integer of the given width. The ceiling of a value
is a value, so that it is not rounded. -/
def ceilToUnsigned (width : ℕ) (x : Value f) : Option ℕ :=
  if x.isFinite && 0 ≤ ⌈x.toRat⌉ && ⌈x.toRat⌉ < 2 ^ width then some ⌈x.toRat⌉.toNat else none

/-! ### Finite values -/

theorem mem_ceilToUnsigned_iff {width n : ℕ} {x : Value f} :
    n ∈ x.ceilToUnsigned width ↔ x.isFinite ∧ ⌈x.toRat⌉ = n ∧ n < 2 ^ width := by
  rw [ceilToUnsigned]
  split_ifs with hfits
  · simp only [Bool.and_eq_true, decide_eq_true_eq] at hfits
    obtain ⟨⟨hfinite, hnonneg⟩, hlt⟩ := hfits
    rw [Option.mem_some, and_iff_right hfinite]
    constructor
    · rintro rfl
      zify
      rw [Int.toNat_of_nonneg hnonneg]
      exact ⟨rfl, hlt⟩
    · rintro ⟨hceil, -⟩
      rw [hceil, Int.toNat_natCast]
  · refine iff_of_false (by simp) ?_
    rintro ⟨hfinite, hceil, hlt⟩
    apply hfits
    rw [hfinite, hceil]
    zify at hlt
    simp [hlt]

theorem isNaN_of_isFinite {x : Value f} (h : x.isFinite) : x.isNaN = false := by
  rw [isFinite, decide_eq_true_eq] at h
  simp [isNaN, h]

theorem isInfinite_of_isFinite {x : Value f} (h : x.isFinite) : x.isInfinite = false := by
  rw [isFinite, decide_eq_true_eq] at h
  simp [isInfinite, h]

/-- The product of finite values is rounded. -/
theorem mul_of_isFinite {x y : Value f} (hx : x.isFinite) (hy : y.isFinite) :
    mul x y = ofMagnitude (x.negative != y.negative) |x.toRat * y.toRat| := by
  simp [mul, isNaN_of_isFinite hx, isNaN_of_isFinite hy, isInfinite_of_isFinite hx,
    isInfinite_of_isFinite hy]

/-- A natural number has no sign. -/
theorem ofRat_natCast (n : ℕ) : (ofRat n : Value f) = ofMagnitude false n := by
  rw [ofRat, decide_eq_false (not_lt.2 n.cast_nonneg), Nat.abs_cast]

/-! ### Comparisons -/

/-- Of values that are not NaN, comparisons are those of what they stand for. -/
theorem le_iff_toRat_le {x y : Value f} (hx : x.isNaN = false) (hy : y.isNaN = false) :
    le x y ↔ x.toRat ≤ y.toRat := by
  have hpos : (0 : ℚ) < 2 ^ (2 ^ (f.expBits - 1) - 2 + f.fracBits) := pow_pos two_pos _
  rw [toRat, toRat, div_le_div_iff_of_pos_right hpos, Int.cast_le]
  simp [le, hx, hy]

section OfMagnitude

variable (negative : Bool) {q r : ℚ}

theorem bits_le (f : Format) (r : ℚ) :
    min (f.nearestBits r) f.infinityBits / 2 ^ f.fracBits ≤ 2 ^ f.expBits - 1 := by
  refine Nat.div_le_of_le_mul ((Nat.min_le_right _ _).trans ?_)
  rw [Format.infinityBits, Nat.mul_comm]

theorem magnitude_ofMagnitude (q : ℚ) : (ofMagnitude negative q : Value f).magnitude =
    f.magnitudeOfBits (min (f.nearestBits (q * 2 ^ f.unitExp)) f.infinityBits) := by
  have hle := bits_le f (q * 2 ^ f.unitExp)
  have hpos := Nat.two_pow_pos f.expBits
  have hexponent : (ofMagnitude negative q : Value f).exponent.val =
      min (f.nearestBits (q * 2 ^ f.unitExp)) f.infinityBits / 2 ^ f.fracBits :=
    Nat.mod_eq_of_lt (by omega)
  simp only [magnitude, hexponent, Format.magnitudeOfBits]
  rfl

/-- A rounded value is no NaN. -/
theorem isNaN_ofMagnitude (q : ℚ) : (ofMagnitude negative q : Value f).isNaN = false := by
  have hle := bits_le f (q * 2 ^ f.unitExp)
  have hpos := Nat.two_pow_pos f.expBits
  have hmin := Nat.min_le_right (f.nearestBits (q * 2 ^ f.unitExp)) f.infinityBits
  rw [isNaN, Bool.and_eq_false_iff, decide_eq_false_iff_not, decide_eq_false_iff_not, not_not]
  change ¬ min (f.nearestBits (q * 2 ^ f.unitExp)) f.infinityBits / 2 ^ f.fracBits %
    2 ^ f.expBits + 1 = 2 ^ f.expBits ∨
      min (f.nearestBits (q * 2 ^ f.unitExp)) f.infinityBits % 2 ^ f.fracBits = 0
  generalize min (f.nearestBits (q * 2 ^ f.unitExp)) f.infinityBits = bits at hle hmin ⊢
  rw [Nat.mod_eq_of_lt (by omega)]
  by_cases htop : bits / 2 ^ f.fracBits + 1 = 2 ^ f.expBits
  -- the exponent of infinity, with its significand
  · refine .inr ?_
    have hdivision := Nat.div_add_mod' bits (2 ^ f.fracBits)
    have hquotient : bits / 2 ^ f.fracBits = 2 ^ f.expBits - 1 := by omega
    rw [hquotient] at hdivision
    rw [Format.infinityBits] at hmin
    omega
  · exact .inl htop

/-- Rounding is monotone. -/
theorem units_ofMagnitude_mono (h : q ≤ r) :
    (ofMagnitude false q : Value f).units ≤ (ofMagnitude false r : Value f).units := by
  have hsign (q : ℚ) : (ofMagnitude false q : Value f).negative = false := rfl
  rw [units, units, hsign, hsign, magnitude_ofMagnitude, magnitude_ofMagnitude]
  refine Int.ofNat_le.2 (Format.magnitudeOfBits_mono f (min_le_min_right _ ?_))
  exact Format.nearestBits_mono (mul_le_mul_of_nonneg_right h (pow_nonneg zero_le_two _))

/-- What is at most a number is at most any greater one. -/
theorem le_ofMagnitude_mono {x : Value f} (h : q ≤ r) (hx : le x (ofMagnitude false q)) :
    le x (ofMagnitude false r) := by
  simp only [le, isNaN_ofMagnitude, Bool.not_false, Bool.and_true, Bool.and_eq_true,
    decide_eq_true_eq] at hx ⊢
  exact ⟨hx.1, hx.2.trans (units_ofMagnitude_mono h)⟩

/-- The finite magnitudes are those below infinity. -/
theorem isFinite_ofMagnitude (h : f.nearestBits (q * 2 ^ f.unitExp) < f.infinityBits) :
    (ofMagnitude negative q : Value f).isFinite := by
  have hle := bits_le f (q * 2 ^ f.unitExp)
  have hpos := Nat.two_pow_pos f.expBits
  have hexponent : (ofMagnitude negative q : Value f).exponent.val =
      min (f.nearestBits (q * 2 ^ f.unitExp)) f.infinityBits / 2 ^ f.fracBits :=
    Nat.mod_eq_of_lt (by omega)
  have hlt : f.nearestBits (q * 2 ^ f.unitExp) / 2 ^ f.fracBits < 2 ^ f.expBits - 1 := by
    rwa [Nat.div_lt_iff_lt_mul (Nat.two_pow_pos _)]
  rw [isFinite, decide_eq_true_eq, hexponent, min_eq_left h.le]
  omega

section NatCast

variable (hf : f.HasIntegers) {n : ℕ} (h : n ≤ 2 ^ (f.fracBits + 1))

include hf h

theorem isFinite_ofMagnitude_natCast : (ofMagnitude false n : Value f).isFinite := by
  refine isFinite_ofMagnitude false ?_
  have hlt := Format.nearestBits_natCast_lt hf h
  rwa [Nat.cast_mul, Nat.cast_pow, Nat.cast_ofNat] at hlt

/-- A natural number up to the precision is not rounded. -/
theorem toRat_ofMagnitude_natCast : (ofMagnitude false n : Value f).toRat = n := by
  have hpos : (0 : ℚ) < 2 ^ f.unitExp := pow_pos two_pos _
  have hunits : (n : ℚ) * 2 ^ f.unitExp = ((n * 2 ^ f.unitExp : ℕ) : ℚ) := by norm_cast
  have hmagnitude : (ofMagnitude false n : Value f).magnitude = n * 2 ^ f.unitExp := by
    rw [magnitude_ofMagnitude, hunits, min_eq_left (Format.nearestBits_natCast_lt hf h).le,
      Format.magnitudeOfBits_nearestBits_natCast h]
  have hsign : (ofMagnitude false n : Value f).negative = false := rfl
  rw [toRat, ← Format.unitExp, div_eq_iff hpos.ne', units, hsign, hmagnitude]
  norm_cast

end NatCast

/-- Natural numbers are rounded in order. -/
theorem le_ofRat_natCast_mono {x : Value f} {m n : ℕ} (h : m ≤ n) (hx : le x (ofRat m)) :
    le x (ofRat n) := by
  rw [ofRat_natCast] at hx ⊢
  exact le_ofMagnitude_mono (by exact_mod_cast h) hx

end OfMagnitude

end Value

end Ieee
