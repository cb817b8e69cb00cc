import Netsim.Bellhop.SoundSpeed

/-!
# Updated profiles

The samples of the first water column stay in strictly increasing depth, whatever updates come:
within a message the list is unsorted, but has one sample at each depth, and it is sorted at the
end. The sample at a depth has the speed that was given last for it, and EOFs of zero, or is the
initial one (`wellUpdated_afterUpdates`).
-/

namespace Netsim

namespace Bellhop

open Multimap (lastValue lastValue_concat lastValue_eq_none_iff)

section Definitions

variable (vfs : ValFromString) (asDouble : String → ℚ)

/-- The depths and speeds that an update sets. -/
def givenSpeeds (s : String) : List (ℚ × ℚ) :=
  match depthsAndSpeeds vfs s with
  | some pairs => (pairs.filter isGiven).map fun p => (asDouble p.1, asDouble p.2)
  | none => []

/-- A water column for which some speeds have been given. -/
structure WellUpdated (column : WaterColumn) (given : List (ℚ × ℚ)) (column' : WaterColumn) :
    Prop where
  /-- Depths are strictly increasing. -/
  sorted : column'.sample.Pairwise (·.depth < ·.depth)
  /-- A depth is present iff it was, or a speed has been given for it. -/
  depths : ∀ depth, depth ∈ column'.sample.map (·.depth) ↔
    depth ∈ column.sample.map (·.depth) ∨ depth ∈ given.map (·.1)
  /-- The last speed counts, and EOFs are zero. -/
  updated : ∀ sample ∈ column'.sample, ∀ cp, lastValue given sample.depth = some cp →
    sample.cp = cp ∧ ∀ e ∈ sample.eof, e = 0
  /-- Other samples are the initial ones. -/
  untouched : ∀ sample ∈ column'.sample, lastValue given sample.depth = none →
    sample ∈ column.sample
  /-- Only samples change. -/
  other : column' = { column with sample := column'.sample }

end Definitions

/-! ### One speed -/

section Samples

variable {initial samples samples' : List SSPSample} {given : List (ℚ × ℚ)}

/-- The samples of a message that is being handled, in any order. -/
structure Given (initial : List SSPSample) (given : List (ℚ × ℚ)) (samples : List SSPSample) :
    Prop where
  distinct : (samples.map (·.depth)).Nodup
  depths : ∀ depth, depth ∈ samples.map (·.depth) ↔
    depth ∈ initial.map (·.depth) ∨ depth ∈ given.map (·.1)
  updated : ∀ sample ∈ samples, ∀ cp, lastValue given sample.depth = some cp →
    sample.cp = cp ∧ ∀ e ∈ sample.eof, e = 0
  untouched : ∀ sample ∈ samples, lastValue given sample.depth = none → sample ∈ initial

theorem Given.perm (h : Given initial given samples) (hperm : samples'.Perm samples) :
    Given initial given samples' where
  distinct := (hperm.map _).nodup_iff.2 h.distinct
  depths depth := by rw [(hperm.map _).mem_iff, h.depths]
  updated sample hmem := h.updated sample (hperm.mem_iff.1 hmem)
  untouched sample hmem := h.untouched sample (hperm.mem_iff.1 hmem)

/-- One more speed. -/
theorem Given.setSample (h : Given initial given samples) (depth cp : ℚ) :
    Given initial (given ++ [(depth, cp)]) (setSample samples depth cp) := by
  obtain ⟨eof, hzero, -, hmem⟩ := mem_setSample h.distinct depth cp
  refine ⟨nodup_setSample h.distinct depth cp, fun d => ?_, fun sample hsample cp' hlast => ?_,
    fun sample hsample hlast => ?_⟩
  · rw [mem_depths_setSample, h.depths, List.map_append, List.map_singleton, List.mem_append,
      List.mem_singleton, or_assoc]
  · rw [lastValue_concat] at hlast
    rcases (hmem sample).1 hsample with rfl | ⟨hold, hne⟩
    · rw [if_pos rfl, Option.some_inj] at hlast
      exact ⟨hlast, hzero⟩
    · rw [if_neg (Ne.symm hne)] at hlast
      exact h.updated sample hold cp' hlast
  · rw [lastValue_concat] at hlast
    rcases (hmem sample).1 hsample with rfl | ⟨hold, hne⟩
    · rw [if_pos rfl] at hlast
      cases hlast
    · rw [if_neg (Ne.symm hne)] at hlast
      exact h.untouched sample hold hlast

end Samples

/-! ### Runs -/

section Runs

variable {vfs : ValFromString} {asDouble : String → ℚ} {column column' : WaterColumn}
  {given : List (ℚ × ℚ)}

theorem wellUpdated_self (hsorted : column.sample.Pairwise (·.depth < ·.depth)) :
    WellUpdated column [] column where
  sorted := hsorted
  depths _ := by simp
  updated _ _ _ hlast := by cases hlast
  untouched _ hmem _ := hmem
  other := rfl

/-- An update sets its speeds, and sorts the samples. -/
theorem WellUpdated.step (h : WellUpdated column given column') (s : String) :
    WellUpdated column (given ++ givenSpeeds vfs asDouble s)
      (handleSspUpdate vfs asDouble column' s) := by
  unfold handleSspUpdate givenSpeeds
  cases depthsAndSpeeds vfs s with
  | none => simpa using h
  | some pairs =>
      let samples := pairs.foldl (fun samples p =>
        if isGiven p then setSample samples (asDouble p.1) (asDouble p.2) else samples)
        column'.sample
      have hsamples : Given column.sample
          (given ++ (pairs.filter isGiven).map fun p => (asDouble p.1, asDouble p.2))
          (samples.insertionSort fun a b => a.depth ≤ b.depth) := by
        have hgiven : Given column.sample given column'.sample :=
          ⟨nodup_of_sorted h.sorted, h.depths, h.updated, h.untouched⟩
        have hall := setSample_induction (I := Given column.sample)
          (fun _ _ depth cp h => h.setSample depth cp) asDouble given hgiven pairs
        exact hall.perm (List.perm_insertionSort _ _)
      refine ⟨sorted_insertionSort hsamples.distinct, hsamples.depths, hsamples.updated,
        hsamples.untouched, ?_⟩
      rw [h.other]

theorem handleSspUpdate_of_length_ne (column : WaterColumn) {s : String}
    (h : (split ((vfs.string s "depth").getD "")).length ≠
      (split ((vfs.string s "c").getD "")).length) :
    handleSspUpdate vfs asDouble column s = column := by
  rw [handleSspUpdate, depthsAndSpeeds, if_neg h]

/-- Updates keep the profile well formed: it has the depths and speeds that were given last, and a
message with lists of different lengths changes nothing. -/
theorem wellUpdated_afterUpdates (vfs : ValFromString) (asDouble : String → ℚ)
    (hsorted : column.sample.Pairwise (·.depth < ·.depth)) (updates : List String) :
    WellUpdated column (updates.flatMap (givenSpeeds vfs asDouble))
        (afterUpdates vfs asDouble column updates) ∧
      ∀ s, (split ((vfs.string s "depth").getD "")).length ≠
          (split ((vfs.string s "c").getD "")).length →
        afterUpdates vfs asDouble column (updates ++ [s]) =
          afterUpdates vfs asDouble column updates := by
  constructor
  · refine Run.run_invariant (handleSspUpdate vfs asDouble) column
      (I := fun updates column' =>
        WellUpdated column (updates.flatMap (givenSpeeds vfs asDouble)) column')
      (wellUpdated_self hsorted) (fun updates s column' h => ?_) updates
    rw [List.flatMap_append, List.flatMap_singleton]
    exact h.step s
  · intro s hlength
    rw [afterUpdates, Run.run_concat, handleSspUpdate_of_length_ne _ hlength, afterUpdates]

/-- A speed at depth 5, between the samples of the profile, and two at depth 10. -/
theorem wellUpdated_of_three_updates :
    let updates := ["depth=5,c=1505", "depth=10,c=1505", "depth=10,c=1505"]
    afterUpdates sspStrings sspNumber eofProfile updates =
        { eofProfile with sample := [{ depth := 0, cp := 1500, eof := [1] },
            { depth := 5, cp := 1505 }, { depth := 10, cp := 1505, eof := [0] }] } ∧
      WellUpdated eofProfile (updates.flatMap (givenSpeeds sspStrings sspNumber))
        (afterUpdates sspStrings sspNumber eofProfile updates) := by
  intro updates
  exact ⟨by decide +kernel,
    (wellUpdated_afterUpdates sspStrings sspNumber isProfile_eofProfile.sorted updates).1⟩

end Runs

end Bellhop

end Netsim
