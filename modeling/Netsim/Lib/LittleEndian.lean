import Mathlib.Algebra.Order.Ring.Nat
import Mathlib.Data.List.Range

/-!
# Binary records

A number is stored in a fixed number of bytes, the least significant first. A file of records of one
width is read record by record, as far as it goes; so a file that was cut off has the first records
(`records_prefix`), and one that was not has all of them (`records_flatMap`).
-/

namespace LittleEndian

/-! ### Numbers -/

/-- The bytes of a number. -/
def bytes : ℕ → ℕ → List UInt8
  | 0, _ => []
  | width + 1, n => UInt8.ofNat n :: bytes width (n / 256)

/-- The number that is stored in some bytes. -/
def value : List UInt8 → ℕ
  | [] => 0
  | b :: bs => b.toNat + 256 * value bs

@[simp]
theorem length_bytes (width n : ℕ) : (bytes width n).length = width := by
  induction width generalizing n with
  | zero => rfl
  | succ width ih => simp [bytes, ih]

/-- A number that fits is read back. -/
theorem value_bytes {width n : ℕ} (h : n < 256 ^ width) : value (bytes width n) = n := by
  induction width generalizing n with
  | zero =>
      rw [Nat.pow_zero, Nat.lt_one_iff] at h
      rw [h]
      rfl
  | succ width ih =>
      have hrest : n / 256 < 256 ^ width := by
        rw [Nat.pow_succ] at h
        exact Nat.div_lt_of_lt_mul (by rwa [Nat.mul_comm] at h)
      rw [bytes, value, ih hrest, UInt8.toNat_ofNat']
      exact Nat.mod_add_div n 256

/-! ### Records -/

/-- The whole records of a file. -/
def records (width : ℕ) (bs : List UInt8) : List (List UInt8) :=
  (List.range (bs.length / width)).map fun k => (bs.drop (k * width)).take width

section Records

variable {α : Type*} {width : ℕ}

/-- A file that is continued keeps its records. -/
theorem records_prefix (width : ℕ) (bs cs : List UInt8) :
    records width bs <+: records width (bs ++ cs) := by
  have hle : bs.length / width ≤ (bs ++ cs).length / width :=
    Nat.div_le_div_right (by simp)
  obtain ⟨more, hmore⟩ := Nat.exists_eq_add_of_le hle
  rw [records, records, hmore, List.range_add, List.map_append]
  have hsame : (List.range (bs.length / width)).map (fun k => (bs.drop (k * width)).take width) =
      (List.range (bs.length / width)).map
        fun k => ((bs ++ cs).drop (k * width)).take width := by
    apply List.map_congr_left
    intro k hk
    -- the record ends within the beginning
    have hend : k * width + width ≤ bs.length := by
      have hlast := Nat.div_mul_le_self bs.length width
      have hmul := Nat.mul_le_mul_right width (Nat.succ_le_of_lt (List.mem_range.1 hk))
      rw [Nat.succ_mul] at hmul
      exact hmul.trans hlast
    rw [List.drop_append_of_le_length (by omega), List.take_append_of_le_length]
    rw [List.length_drop]
    omega
  rw [hsame]
  exact List.prefix_append _ _

/-- What was written record by record is read record by record. -/
theorem records_flatMap (encode : α → List UInt8) (hwidth : 0 < width)
    (hencode : ∀ a, (encode a).length = width) (as : List α) :
    records width (as.flatMap encode) = as.map encode := by
  induction as with
  | nil => simp [records]
  | cons a as ih =>
      have hlength : ((a :: as).flatMap encode).length / width =
          (as.flatMap encode).length / width + 1 := by
        rw [List.flatMap_cons, List.length_append, hencode, Nat.add_comm,
          Nat.add_div_right _ hwidth]
      rw [records, hlength, List.range_succ_eq_map, List.map_cons, List.map_map, List.map_cons,
        ← ih, records]
      congr 1
      · rw [List.flatMap_cons, Nat.zero_mul, List.drop_zero, List.take_append_of_le_length
          (hencode a).ge, List.take_of_length_le (hencode a).le]
      · apply List.map_congr_left
        intro k _
        have hskip : (encode a).length + k * width = (k + 1) * width := by
          rw [hencode, Nat.succ_mul, Nat.add_comm]
        rw [Function.comp_apply, List.flatMap_cons, Nat.succ_eq_add_one, ← hskip,
          List.drop_length_add_append]

end Records

end LittleEndian
