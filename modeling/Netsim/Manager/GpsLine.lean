import Mathlib.Data.Sign.Basic
import Netsim.Lib.Decimal
import Netsim.Manager.Model

/-!
# The position in a GPS line

`write_gps_out` writes a latitude and a longitude as degrees, minutes and ten thousandths of a
minute. Each of them is cut off, and so what the fields are read as is nearer to 0 than the
position, by less than a ten thousandth of a minute (`writeGpsOut_holdsPosition`).
-/

namespace Netsim

open Decimal

/-! ### Reading -/

/-- The fields of a position: the latitude and the longitude, each with its hemisphere. -/
def positionFields (lat lon : ℚ) : List String :=
  [degreesMinutes 2 lat, if lat < 0 then "S" else "N",
    degreesMinutes 3 lon, if lon < 0 then "W" else "E"]

/-- So many digits of degrees, two of minutes, a point, and four decimals of minutes. -/
structure IsDegreesMinutes (width : ℕ) (degrees minutes decimals : List Char) (field : String) :
    Prop where
  /-- They make up the field. -/
  toList_eq : field.toList = degrees ++ minutes ++ '.' :: decimals
  /-- The degrees. -/
  digits_degrees : Digits width degrees
  /-- The minutes. -/
  digits_minutes : Digits 2 minutes
  /-- The decimals. -/
  digits_decimals : Digits 4 decimals
  /-- There are at most 59 minutes. -/
  minutes_le : ∃ n ∈ natural minutes, n ≤ 59

/-- The sign that a hemisphere stands for. -/
def hemisphereSign (positive negative hemisphere : String) : Option ℚ :=
  if hemisphere = positive then some 1 else if hemisphere = negative then some (-1) else none

/-- Read degrees and minutes. -/
def readDegrees (width : ℕ) (field : String) : Option ℚ :=
  (natural (field.toList.take width)).bind fun degrees =>
    (number (field.toList.drop width)).map fun minutes => degrees + minutes / 60

/-- The value that is read is `x` or nearer to 0, by less than a ten thousandth of a minute. -/
structure CutOff (x value : ℚ) : Prop where
  /-- It has the sign of `x`, unless it is 0. -/
  sign : value = 0 ∨ SignType.sign value = SignType.sign x
  /-- It is not farther from 0. -/
  nonneg : 0 ≤ |x| - |value|
  /-- It is hardly nearer. -/
  lt : |x| - |value| < 1 / 600000

/-- A field and its hemisphere are in the format and are read as `x`, cut off. -/
def HoldsDegrees (width : ℕ) (positive negative : String) (x : ℚ) (field hemisphere : String) :
    Prop :=
  (∃ degrees minutes decimals, IsDegreesMinutes width degrees minutes decimals field) ∧
    ∃ sign ∈ hemisphereSign positive negative hemisphere, ∃ value ∈ readDegrees width field,
      CutOff x (sign * value)

/-- The fields are in the format and are read as the position, cut off. -/
def HoldsPosition (lat lon : ℚ) (fields : List String) : Prop :=
  ∃ latField latHemisphere lonField lonHemisphere,
    fields = [latField, latHemisphere, lonField, lonHemisphere] ∧
      HoldsDegrees 2 "N" "S" lat latField latHemisphere ∧
      HoldsDegrees 3 "E" "W" lon lonField lonHemisphere

/-! ### Degrees and minutes -/

section Degrees

variable {width : ℕ} {x : ℚ}

theorem cast_toNat_floor {y : ℚ} (h : 0 ≤ ⌊y⌋) : ((⌊y⌋.toNat : ℕ) : ℚ) = ⌊y⌋ := by
  rw [← Int.cast_natCast, Int.toNat_of_nonneg h]

/-- What is written: degrees, minutes and ten thousandths, less than a ten thousandth away. -/
theorem exists_degreesMinutes (width : ℕ) (x : ℚ) : ∃ d m t : ℕ,
    (degreesMinutes width x).toList = padded width d ++ padded 2 m ++ '.' :: padded 4 t ∧
      (d : ℚ) ≤ |x| ∧ m ≤ 59 ∧ t < 10 ^ 4 ∧
      0 ≤ |x| - (d + (m + t / 10 ^ 4) / 60 : ℚ) ∧
      |x| - (d + (m + t / 10 ^ 4) / 60 : ℚ) < 1 / 600000 := by
  have hdegrees := mul_sub_floor_mem |x| 1
  rw [Nat.cast_one, mul_one] at hdegrees
  -- each part is a number of parts of what the one before it leaves
  have hminutes := mul_sub_floor_mem (|x| - ⌊|x|⌋) 60
  have htenths := mul_sub_floor_mem ((|x| - ⌊|x|⌋) * 60 - ⌊(|x| - ⌊|x|⌋) * 60⌋) 10000
  have hm := floor_mul_lt hdegrees.2 (show 0 < 60 by decide)
  have ht := floor_mul_lt hminutes.2 (show 0 < 10000 by decide)
  have hd₀ : 0 ≤ ⌊|x|⌋ := Int.floor_nonneg.2 (abs_nonneg x)
  have hm₀ := floor_mul_nonneg hdegrees.1 60
  have ht₀ := floor_mul_nonneg hminutes.1 10000
  push_cast at hminutes htenths hm ht hm₀ ht₀
  refine ⟨⌊|x|⌋.toNat, ⌊(|x| - ⌊|x|⌋) * 60⌋.toNat,
    ⌊((|x| - ⌊|x|⌋) * 60 - ⌊(|x| - ⌊|x|⌋) * 60⌋) * 10000⌋.toNat, ?_, ?_, by omega, by omega, ?_⟩
  · simp [degreesMinutes, zeroPadded, padded]
  · rw [cast_toNat_floor hd₀]
    exact Int.floor_le _
  · rw [cast_toNat_floor hd₀, cast_toNat_floor hm₀, cast_toNat_floor ht₀]
    constructor <;> linarith

/-- The value that is written, with the sign of `x`. -/
theorem cutOff_mul {value : ℚ} (hvalue : 0 ≤ value) (hnonneg : 0 ≤ |x| - value)
    (hlt : |x| - value < 1 / 600000) : CutOff x ((if x < 0 then -1 else 1) * value) := by
  have habs : |(if x < 0 then -1 else 1) * value| = value := by
    split_ifs <;> simp [abs_of_nonneg hvalue]
  refine ⟨?_, habs.symm ▸ hnonneg, habs.symm ▸ hlt⟩
  rcases hvalue.eq_or_lt with rfl | hpos
  · exact .inl (mul_zero _)
  -- then `x` is not 0
  · have hx : x ≠ 0 := abs_pos.1 (hpos.trans_le (sub_nonneg.1 hnonneg))
    rw [sign_mul, sign_pos hpos, mul_one]
    split_ifs with hneg
    · exact .inr (by rw [sign_neg hneg, Left.sign_neg, sign_one])
    · exact .inr (by rw [sign_pos (lt_of_le_of_ne (not_lt.1 hneg) hx.symm), sign_one])

/-- A coordinate that has at most `width` digits of degrees is written as it should be. -/
theorem holdsDegrees_degreesMinutes {positive negative : String} (hne : negative ≠ positive)
    (hwidth : 0 < width) (hx : |x| < 10 ^ width) :
    HoldsDegrees width positive negative x (degreesMinutes width x)
      (if x < 0 then negative else positive) := by
  obtain ⟨d, m, t, htext, hd, hm, ht, hnonneg, hlt⟩ := exists_degreesMinutes width x
  have hdigits : Digits width (padded width d) :=
    digits_padded hwidth (by exact_mod_cast hd.trans_lt hx)
  refine ⟨⟨padded width d, padded 2 m, padded 4 t, htext, hdigits,
    digits_padded (by decide) (by omega), digits_padded (by decide) ht, m, natural_padded 2 m, hm⟩,
    if x < 0 then -1 else 1, ?_, d + (m + t / 10 ^ 4) / 60, ?_, ?_⟩
  · rw [hemisphereSign]
    split_ifs <;> simp_all
  · rw [readDegrees, htext, List.append_assoc, List.take_left' hdigits.length,
      List.drop_left' hdigits.length, natural_padded, number_padded (by decide) ht]
    rfl
  · exact cutOff_mul (by positivity) hnonneg hlt

end Degrees

/-! ### The line -/

/-- The coordinates of an update. -/
structure NavUpdate.IsAt (nav : NavUpdate) (lat lon : ℚ) : Prop where
  /-- The latitude. -/
  lat : ∃ y ∈ nav.lat, y.isNaN = false ∧ y.isInfinite = false ∧ y.toRat = lat
  /-- The longitude. -/
  lon : ∃ y ∈ nav.lon, y.isNaN = false ∧ y.isInfinite = false ∧ y.toRat = lon

/-- The fields of a position hold it, and are those of the line that `write_gps_out` publishes. -/
theorem writeGpsOut_holdsPosition (lat lon : ℚ) (hlat : |lat| ≤ 90) (hlon : |lon| ≤ 180) :
    HoldsPosition lat lon (positionFields lat lon) ∧
      ∀ now nav, nav.IsAt lat lon →
        ((writeGpsOut now nav).gprmc.drop 3).take 4 = positionFields lat lon := by
  constructor
  · exact ⟨_, _, _, _, rfl, holdsDegrees_degreesMinutes (by decide) (by decide) (by linarith),
      holdsDegrees_degreesMinutes (by decide) (by decide) (by linarith)⟩
  · rintro now nav ⟨⟨y, hy, hnan, -, rfl⟩, ⟨z, hz, hnan', -, rfl⟩⟩
    rw [Option.mem_def] at hy hz
    simp [writeGpsOut, positionFields, hy, hz, Ieee.Value.lt_zero_iff, hnan, hnan']

/-- An update from 42.5 degrees south and 71.25 degrees east. -/
theorem holdsPosition_of_south_east :
    let nav : NavUpdate :=
      { modemTcpPort := some 62000, time := some .zero
        lat := some (.ofFields true 1028 1477743627730944)
        lon := some (.ofFields false 1029 510173395288064)
        depth := some .zero, speed := some .zero, heading := some .zero }
    positionFields (-85 / 2) (285 / 4) = ["4230.0000", "S", "07115.0000", "E"] ∧
      HoldsPosition (-85 / 2) (285 / 4) (positionFields (-85 / 2) (285 / 4)) ∧
        ∀ now, ((writeGpsOut now nav).gprmc.drop 3).take 4 =
          positionFields (-85 / 2) (285 / 4) := by
  intro nav
  have hat : nav.IsAt (-85 / 2) (285 / 4) :=
    ⟨⟨_, rfl, by decide +kernel⟩, ⟨_, rfl, by decide +kernel⟩⟩
  have h := writeGpsOut_holdsPosition (-85 / 2) (285 / 4) (by norm_num [abs_of_neg])
    (by norm_num [abs_of_pos])
  exact ⟨by decide +kernel, h.1, fun now => h.2 now nav hat⟩

end Netsim
