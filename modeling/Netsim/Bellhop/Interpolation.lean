import Netsim.Bellhop.SoundSpeed
import Netsim.Lib.PiecewiseLinear

/-!
# Sound speeds between samples

Without EOFs, `get_ssp_value` is the piecewise linear interpolant of the samples. It takes the first
interval that contains the depth, and returns 0 if there is none (`exists_interpolates`).
-/

namespace Netsim

namespace Bellhop

/-- What `get_ssp_value` divides by, if it divides. -/
def divisor (depth : ℚ) : List SSPSample → Option ℚ
  | up :: dn :: samples =>
      if up.depth ≤ depth ∧ depth ≤ dn.depth then some (dn.depth - up.depth)
      else divisor depth (dn :: samples)
  | _ => none

/-- The point of a sample. -/
def SSPSample.point (sample : SSPSample) : ℚ × ℚ := (sample.depth, sample.cp)

/-- A speed is interpolated between the samples, and is 0 elsewhere. -/
structure Interpolates (samples : List SSPSample) (speed : ℚ → ℚ) : Prop where
  /-- Between two neighbours it is on the line through them, and between their speeds. -/
  between : ∀ before up dn after, samples = before ++ up :: dn :: after →
    ∀ depth, up.depth ≤ depth → depth ≤ dn.depth →
      speed depth = PiecewiseLinear.line up.point dn.point depth ∧
        min up.cp dn.cp ≤ speed depth ∧ speed depth ≤ max up.cp dn.cp
  /-- A depth from the first sample to the last one is between two neighbours. -/
  covered : ∀ first ∈ samples.head?, ∀ last ∈ samples.getLast?, ∀ depth, first.depth ≤ depth →
    depth ≤ last.depth → ∃ before up dn after, samples = before ++ up :: dn :: after ∧
      up.depth ≤ depth ∧ depth ≤ dn.depth
  /-- At the depth of a sample it is the speed of the sample. -/
  at_sample : ∀ sample ∈ samples, speed sample.depth = sample.cp
  /-- Above the first sample and below the last one it is 0. -/
  outside : ∀ first ∈ samples.head?, ∀ last ∈ samples.getLast?, ∀ depth,
    depth < first.depth ∨ last.depth < depth → speed depth = 0

section Loop

variable {coef : List ℚ} {depth : ℚ} {up dn : SSPSample} {samples : List SSPSample}

theorem sspBetween_of_no_eofs (hup : up.eof = []) (hdn : dn.eof = []) :
    sspBetween coef depth up dn = some (PiecewiseLinear.line up.point dn.point depth) := by
  have hzero (eof : List ℚ) (h : eof = []) : correction eof coef = 0 := by
    rw [h]
    rfl
  rw [sspBetween_eq, hup, hdn]
  simp [hzero, PiecewiseLinear.line, SSPSample.point]

/-- The loop computes the interpolant. -/
theorem sspValueFrom_eq_value (hnone : ∀ sample ∈ samples, sample.eof = []) :
    sspValueFrom coef depth samples =
      some ((PiecewiseLinear.value depth (samples.map SSPSample.point)).getD 0) := by
  induction samples with
  | nil => rfl
  | cons up samples ih =>
      cases samples with
      | nil => rfl
      | cons dn samples =>
          have htail := ih fun sample hmem => hnone sample (List.mem_cons_of_mem _ hmem)
          rw [List.map_cons, List.map_cons, PiecewiseLinear.value, sspValueFrom]
          split_ifs with hin hpoint hpoint
          · exact sspBetween_of_no_eofs (hnone up (by simp)) (hnone dn (by simp))
          · exact absurd hin hpoint
          · exact absurd hpoint hin
          · exact htail

/-- It never divides by zero, whether or not there are EOFs. -/
theorem ne_zero_of_mem_divisor (hsorted : samples.Pairwise (·.depth < ·.depth)) {d : ℚ}
    (hd : d ∈ divisor depth samples) : d ≠ 0 := by
  induction samples with
  | nil => cases hd
  | cons up samples ih =>
      cases samples with
      | nil => cases hd
      | cons dn samples =>
          obtain ⟨hup, htail⟩ := List.pairwise_cons.1 hsorted
          rw [divisor] at hd
          split_ifs at hd
          · cases hd
            exact sub_ne_zero.2 (hup dn (by simp)).ne'
          · exact ih htail hd

end Loop

/-- For samples in strictly increasing depth and without EOFs, `get_ssp_value` does not divide by
zero and interpolates linearly. -/
theorem exists_interpolates (column : WaterColumn) (htwo : 2 ≤ column.sample.length)
    (hsorted : column.sample.Pairwise (·.depth < ·.depth))
    (hnone : ∀ sample ∈ column.sample, sample.eof = []) :
    (∀ depth, ∀ d ∈ divisor depth column.sample, d ≠ 0) ∧
      ∃ speed : ℚ → ℚ, (∀ depth, getSspValue column depth = some (speed depth)) ∧
        Interpolates column.sample speed := by
  refine ⟨fun depth d => ne_zero_of_mem_divisor hsorted, _,
    fun depth => sspValueFrom_eq_value hnone, ?_⟩
  let points := column.sample.map SSPSample.point
  have hpoints : points.Pairwise (·.1 < ·.1) := List.pairwise_map.2 hsorted
  have hlength : 2 ≤ points.length := by simpa [points] using htwo
  have hhead {first : SSPSample} (h : first ∈ column.sample.head?) :
      points.head? = some first.point := by
    rw [List.head?_map, h]
    rfl
  have hlast {last : SSPSample} (h : last ∈ column.sample.getLast?) :
      points.getLast? = some last.point := by
    rw [List.getLast?_map, h]
    rfl
  refine ⟨fun before up dn after heq depth hup hdn => ?_,
    fun first hfirst last hlast' depth hdepth hdepth' => ?_, fun sample hmem => ?_,
    fun first hfirst last hlast' depth hout => ?_⟩
  · have hsegment : points =
        before.map SSPSample.point ++ up.point :: dn.point :: after.map SSPSample.point := by
      simp [points, heq]
    have hlt : up.depth < dn.depth := by
      rw [heq, List.pairwise_append, List.pairwise_cons] at hsorted
      exact hsorted.2.1.1 dn (by simp)
    rw [PiecewiseLinear.value_eq_line hpoints hsegment hup hdn, Option.getD_some]
    have hmem := PiecewiseLinear.line_mem (p := up.point) (q := dn.point) hlt hup hdn
    exact ⟨rfl, hmem⟩
  · obtain ⟨before, p, q, after, heq, hp, hq⟩ :=
      PiecewiseLinear.exists_segment hlength (hhead hfirst) (hlast hlast') hdepth hdepth'
    -- a segment of the points is one of the samples
    obtain ⟨before', rest, hsplit, -, hrest⟩ := List.map_eq_append_iff.1 heq
    obtain ⟨up, rest, rfl, rfl, htail⟩ := List.map_eq_cons_iff.1 hrest
    obtain ⟨dn, after', rfl, rfl, -⟩ := List.map_eq_cons_iff.1 htail
    exact ⟨before', up, dn, after', hsplit, hp, hq⟩
  · have hvalue := PiecewiseLinear.value_of_mem (p := sample.point) hpoints hlength
      (List.mem_map_of_mem hmem)
    exact (congrArg (Option.getD · 0) hvalue :)
  · rw [PiecewiseLinear.value_eq_none hpoints (hhead hfirst) (hlast hlast') hout, Option.getD_none]

/-- A profile of three samples: the speed at the middle one, in the middle of the second interval,
and below the last sample. -/
theorem exists_interpolates_of_three_samples :
    let column : WaterColumn :=
      { sample := [{ depth := 0, cp := 1500 }, { depth := 10, cp := 1510 },
          { depth := 20, cp := 1490 }] }
    getSspValue column 10 = some 1510 ∧ getSspValue column 15 = some 1500 ∧
      getSspValue column 30 = some 0 ∧
      ∃ speed : ℚ → ℚ, (∀ depth, getSspValue column depth = some (speed depth)) ∧
        Interpolates column.sample speed := by
  intro column
  refine ⟨by decide +kernel, by decide +kernel, by decide +kernel, ?_⟩
  exact (exists_interpolates column (by decide) (by norm_num [column]) (by simp [column])).2

end Bellhop

end Netsim
