import Mathlib.Data.List.Sort
import Mathlib.Data.List.Chain
import Mathlib.Tactic.FieldSimp
import Netsim.Bellhop.NodeReports

/-!
# Sound speeds

`AVG_SS_VEC` messages update the sound speed profile: the sample of a depth gets the new speed, and
its EOFs are set to zero; a depth without a sample gets one, which has no EOFs. `get_ssp_value`
interpolates between two samples, and takes as many EOFs of the lower one as the upper one has.

So it reads EOFs that do not exist below a sample of the profile, and forgets those below a new
sample. It agrees with what `output_env` writes iff there are no EOFs to add, or all new samples
are above the surface and there is no correction at the surface (`speedsAgree_iff_agreeable`).
-/

namespace Netsim

namespace Bellhop

open OutputStream

/-! ### Updates -/

section Update

/-- `find_sample`: where the sample of a depth is, after one has been added if there was none. -/
def findSample (samples : List SSPSample) (depth : ℚ) : List SSPSample × ℕ :=
  match samples.findIdx? (depth = ·.depth) with
  | some i => (samples, i)
  | none => (samples ++ [{}], samples.length)

/-- Set the speed at a depth. -/
def setSample (samples : List SSPSample) (depth cp : ℚ) : List SSPSample :=
  let (samples, i) := findSample samples depth
  -- the EOFs that are there are forced to zero
  samples.modify i fun ssp => { depth := depth, cp := cp, eof := ssp.eof.map fun _ => 0 }

/-- `boost::split`, at commas. -/
def split (s : String) : List String := (s.toList.splitOn ',').map String.ofList

variable (vfs : ValFromString) (asDouble : String → ℚ)

/-- The depths and speeds of a message, if there are as many. -/
def depthsAndSpeeds (s : String) : Option (List (String × String)) :=
  let depths := split ((vfs.string s "depth").getD "")
  let speeds := split ((vfs.string s "c").getD "")
  if depths.length = speeds.length then some (depths.zip speeds) else none

/-- A speed is given. -/
def isGiven (p : String × String) : Bool := p.2 ≠ "0" ∧ p.2 ≠ ""

/-- `handle_ssp_update`. -/
def handleSspUpdate (column : WaterColumn) (s : String) : WaterColumn :=
  match depthsAndSpeeds vfs s with
  | some pairs =>
      let samples := pairs.foldl (fun samples p =>
        if isGiven p then setSample samples (asDouble p.1) (asDouble p.2) else samples)
        column.sample
      { column with sample := samples.insertionSort fun a b => a.depth ≤ b.depth }
  | none => column

/-- The water column after some updates. -/
def afterUpdates (column : WaterColumn) (updates : List String) : WaterColumn :=
  Run.run (handleSspUpdate vfs asDouble) column updates

/-- The depths at which an update sets the speed. -/
def updatedDepths (s : String) : List ℚ :=
  match depthsAndSpeeds vfs s with
  | some pairs => (pairs.filter isGiven).map fun p => asDouble p.1
  | none => []

end Update

/-! ### Interpolation -/

section Interpolation

/-- Add the first EOFs, with their coefficients; `none` if there are not as many. -/
def addEofs (eof coef : List ℚ) (ssp : ℚ) (count : ℕ) : Option ℚ :=
  (List.range count).foldlM (fun ssp j => do
    let e ← eof[j]?
    let c ← coef[j]?
    some (ssp + e * c)) ssp

/-- The sound speed between two samples. -/
def sspBetween (coef : List ℚ) (depth : ℚ) (up dn : SSPSample) : Option ℚ := do
  -- of the lower sample, as many EOFs are taken as the upper one has
  let m := min up.eof.length coef.length
  let sspUp ← addEofs up.eof coef up.cp m
  let sspDn ← addEofs dn.eof coef dn.cp m
  some (sspUp + (depth - up.depth) * (sspDn - sspUp) / (dn.depth - up.depth))

/-- The loop over the samples. -/
def sspValueFrom (coef : List ℚ) (depth : ℚ) : List SSPSample → Option ℚ
  | up :: dn :: samples =>
      if up.depth ≤ depth ∧ depth ≤ dn.depth then sspBetween coef depth up dn
      else sspValueFrom coef depth (dn :: samples)
  | _ => some 0

/-- `get_ssp_value`. -/
def getSspValue (column : WaterColumn) (depth : ℚ) : Option ℚ :=
  sspValueFrom column.eofCoef depth column.sample

/-- For the depth of every sample, `get_ssp_value` reads EOFs that exist, and returns the speed that
`output_env` has for the depth. -/
def SpeedsAgree (column : WaterColumn) : Prop :=
  ∀ sample ∈ column.sample, ∃ ssp, getSspValue column sample.depth = some ssp ∧
    (sample.depth, ssp) ∈ column.depthSspMap.entries

/-- A profile with `m` EOFs at each depth. -/
structure IsProfile (m : ℕ) (column : WaterColumn) : Prop where
  sorted : column.sample.Pairwise (·.depth < ·.depth)
  surface : ∃ first ∈ column.sample.head?, first.depth = 0
  eofs : ∀ sample ∈ column.sample, sample.eof.length = m

/-- What the EOFs add to a speed. -/
def correction (eof coef : List ℚ) : ℚ := (List.zipWith (· * ·) eof coef).sum

/-- There are no EOFs to add; or the updates add no depth below the surface, and if they add one
above it, the EOFs add nothing to the speed at the surface. -/
def Agreeable (m : ℕ) (profile : WaterColumn) (updated : List ℚ) : Prop :=
  min m profile.eofCoef.length = 0 ∨
    ((∀ depth ∈ updated, 0 < depth → ∃ sample ∈ profile.sample, sample.depth = depth) ∧
      ((∃ depth ∈ updated, depth < 0) → 0 ∈ updated ∨
        ∀ sample ∈ profile.sample, sample.depth = 0 →
          correction sample.eof profile.eofCoef = 0))

end Interpolation

/-! ### What is added -/

section Correction

variable {eof coef : List ℚ} {ssp : ℚ} {count : ℕ}

theorem ssp_eq_add_correction (column : WaterColumn) (sample : SSPSample) :
    column.ssp sample = sample.cp + correction sample.eof column.eofCoef := by
  have hfoldl : ∀ (xs : List ℚ) (a : ℚ), xs.foldl (· + ·) a = a + xs.sum := by
    intro xs
    induction xs with
    | nil => simp
    | cons x xs ih => intro a; simp [ih, add_assoc]
  exact hfoldl _ _

/-- More EOFs than there are coefficients, or EOFs, do not count. -/
theorem correction_take (h : min eof.length coef.length ≤ count) :
    correction (eof.take count) coef = correction eof coef := by
  unfold correction
  congr 1
  induction eof generalizing coef count with
  | nil => simp
  | cons e eof ih =>
      cases coef with
      | nil => simp
      | cons c coef =>
          cases count with
          | zero => simp at h
          | succ count =>
              rw [List.take_succ_cons, List.zipWith_cons_cons, List.zipWith_cons_cons,
                ih (by simpa using h)]

/-- One more EOF. -/
theorem correction_take_succ {e c : ℚ} (heof : eof[count]? = some e)
    (hcoef : coef[count]? = some c) :
    correction (eof.take (count + 1)) coef = correction (eof.take count) coef + e * c := by
  induction count generalizing eof coef with
  | zero =>
      obtain ⟨eof, rfl⟩ := List.head?_eq_some_iff.1 (List.head?_eq_getElem? ▸ heof)
      obtain ⟨coef, rfl⟩ := List.head?_eq_some_iff.1 (List.head?_eq_getElem? ▸ hcoef)
      simp [correction]
  | succ count ih =>
      cases eof with
      | nil => simp at heof
      | cons e' eof =>
          cases coef with
          | nil => simp at hcoef
          | cons c' coef =>
              have hsum := ih (by simpa using heof) (by simpa using hcoef)
              simp only [correction, List.take_succ_cons, List.zipWith_cons_cons,
                List.sum_cons] at hsum ⊢
              rw [hsum, add_assoc]

/-- EOFs are added as far as there are any. -/
theorem addEofs_eq (hcoef : count ≤ coef.length) : addEofs eof coef ssp count =
    if count ≤ eof.length then some (ssp + correction (eof.take count) coef) else none := by
  induction count with
  | zero => simp [addEofs, correction]
  | succ count ih =>
      have hsplit : addEofs eof coef ssp (count + 1) = (addEofs eof coef ssp count).bind fun ssp =>
          (eof[count]?).bind fun e => (coef[count]?).bind fun c => some (ssp + e * c) := by
        simp [addEofs, List.range_succ, List.foldlM_append]
      have hcount : count < coef.length := by omega
      have hget : coef[count]? = some coef[count] := List.getElem?_eq_getElem _
      rw [hsplit, ih (by omega), hget]
      by_cases heof : count < eof.length
      · have hget' : eof[count]? = some eof[count] := List.getElem?_eq_getElem _
        rw [if_pos (by omega), if_pos (by omega), correction_take_succ hget' hget, hget',
          ← add_assoc]
        rfl
      · rw [if_neg (show ¬ count + 1 ≤ eof.length by omega), List.getElem?_eq_none (by omega)]
        split_ifs <;> rfl

end Correction

/-! ### The two paths -/

section Paths

variable {coef : List ℚ} {up dn : SSPSample} {samples : List SSPSample}

/-- The lower sample has the EOFs that are read of it, and those that are not read add nothing. -/
def PairAgrees (coef : List ℚ) (up dn : SSPSample) : Prop :=
  min up.eof.length coef.length ≤ dn.eof.length ∧
    correction (dn.eof.take (min up.eof.length coef.length)) coef = correction dn.eof coef

/-- Between two samples, all EOFs of the upper one are read. -/
theorem sspBetween_eq (coef : List ℚ) (depth : ℚ) (up dn : SSPSample) :
    sspBetween coef depth up dn =
      if min up.eof.length coef.length ≤ dn.eof.length then
        let sspUp := up.cp + correction up.eof coef
        let sspDn := dn.cp + correction (dn.eof.take (min up.eof.length coef.length)) coef
        some (sspUp + (depth - up.depth) * (sspDn - sspUp) / (dn.depth - up.depth))
      else none := by
  have hcoef : min up.eof.length coef.length ≤ coef.length := Nat.min_le_right _ _
  rw [sspBetween, addEofs_eq hcoef, addEofs_eq hcoef, if_pos (Nat.min_le_left _ _),
    correction_take (Nat.le_refl _)]
  split_ifs <;> rfl

/-- At the depth of the upper sample it is enough that the EOFs exist. -/
theorem sspBetween_up : sspBetween coef up.depth up dn = some (up.cp + correction up.eof coef) ↔
    min up.eof.length coef.length ≤ dn.eof.length := by
  rw [sspBetween_eq]
  split_ifs with h <;> simp [h]

/-- At the depth of the lower sample, its EOFs have to be read. -/
theorem sspBetween_dn (hdepth : up.depth < dn.depth) :
    sspBetween coef dn.depth up dn = some (dn.cp + correction dn.eof coef) ↔
      PairAgrees coef up dn := by
  have hne : dn.depth - up.depth ≠ 0 := sub_ne_zero.2 hdepth.ne'
  rw [sspBetween_eq, PairAgrees]
  split_ifs with h
  · simp [h, mul_div_cancel_left₀ _ hne]
  · simp [h]

/-- The speed at the depth of a sample is its own. -/
def Right (coef : List ℚ) (samples : List SSPSample) (sample : SSPSample) : Prop :=
  sspValueFrom coef sample.depth samples = some (sample.cp + correction sample.eof coef)

theorem right_up_iff (hdepth : up.depth < dn.depth) : Right coef (up :: dn :: samples) up ↔
    min up.eof.length coef.length ≤ dn.eof.length := by
  rw [Right, sspValueFrom, if_pos ⟨le_refl _, hdepth.le⟩, sspBetween_up]

theorem right_dn_iff (hdepth : up.depth < dn.depth) : Right coef (up :: dn :: samples) dn ↔
    PairAgrees coef up dn := by
  rw [Right, sspValueFrom, if_pos ⟨hdepth.le, le_refl _⟩, sspBetween_dn hdepth]

/-- Further down the first pair does not matter. -/
theorem right_cons_iff {sample : SSPSample} (hdepth : dn.depth < sample.depth) :
    Right coef (up :: dn :: samples) sample ↔ Right coef (dn :: samples) sample := by
  rw [Right, Right, sspValueFrom, if_neg (fun h => absurd h.2 (not_le_of_gt hdepth))]

/-- The speeds at the depths of all samples are right iff all pairs of neighbours agree. -/
theorem right_iff_isChain (hsorted : (up :: dn :: samples).Pairwise (·.depth < ·.depth)) :
    (∀ sample ∈ up :: dn :: samples, Right coef (up :: dn :: samples) sample) ↔
      (up :: dn :: samples).IsChain (PairAgrees coef) := by
  have hlower : (∀ sample ∈ dn :: samples, Right coef (up :: dn :: samples) sample) ↔
      (up :: dn :: samples).IsChain (PairAgrees coef) := by
    induction samples generalizing up dn with
    | nil =>
        have hdepth : up.depth < dn.depth := (List.pairwise_cons.1 hsorted).1 dn (by simp)
        simp [right_dn_iff hdepth]
    | cons next samples ih =>
        obtain ⟨hup, htail⟩ := List.pairwise_cons.1 hsorted
        have hdn := (List.pairwise_cons.1 htail).1
        rw [List.forall_mem_cons, right_dn_iff (hup dn (by simp)), List.isChain_cons_cons,
          ← ih htail]
        refine and_congr_right fun _ => forall₂_congr fun sample hmem => ?_
        exact right_cons_iff (hdn sample hmem)
  have hdepth : up.depth < dn.depth := (List.pairwise_cons.1 hsorted).1 dn (by simp)
  rw [List.forall_mem_cons, hlower, right_up_iff hdepth]
  exact and_iff_right_of_imp fun h => (List.isChain_cons_cons.1 h).1.1

end Paths

/-! ### The map of depths -/

section DepthMap

variable {column : WaterColumn}

/-- The map has the speeds of the samples, if their depths are distinct. -/
theorem mem_depthSspMap_iff (hdistinct : (column.sample.map (·.depth)).Nodup) {depth ssp : ℚ} :
    (depth, ssp) ∈ column.depthSspMap.entries ↔
      ∃ sample ∈ column.sample, sample.depth = depth ∧ column.ssp sample = ssp := by
  have hkeys : ((column.sample.map fun sample => (sample.depth, column.ssp sample)).map
      (·.1)).Nodup := by
    rwa [List.map_map]
  rw [column.depthSspMap_eq, Multimap.mem_assignAll_iff, Multimap.lastValue_eq_some_iff hkeys]
  simp [List.mem_map]

theorem nodup_of_sorted (hsorted : column.sample.Pairwise (·.depth < ·.depth)) :
    (column.sample.map (·.depth)).Nodup := by
  rw [List.Nodup, List.pairwise_map]
  exact hsorted.imp fun h => h.ne

/-- The speeds agree iff all pairs of neighbours do. -/
theorem speedsAgree_iff_isChain (hsorted : column.sample.Pairwise (·.depth < ·.depth))
    (htwo : 2 ≤ column.sample.length) :
    SpeedsAgree column ↔ column.sample.IsChain (PairAgrees column.eofCoef) := by
  have hright : SpeedsAgree column ↔
      ∀ sample ∈ column.sample, Right column.eofCoef column.sample sample := by
    refine forall₂_congr fun sample hmem => ?_
    rw [Right, ← ssp_eq_add_correction, ← getSspValue]
    constructor
    · rintro ⟨ssp, hvalue, hentry⟩
      obtain ⟨s, hs, hdepth, rfl⟩ := (mem_depthSspMap_iff (nodup_of_sorted hsorted)).1 hentry
      rw [hvalue, List.inj_on_of_nodup_map (nodup_of_sorted hsorted) hs hmem hdepth]
    · intro hvalue
      exact ⟨_, hvalue, (mem_depthSspMap_iff (nodup_of_sorted hsorted)).2
        ⟨sample, hmem, rfl, rfl⟩⟩
  rw [hright]
  generalize column.sample = samples at hsorted htwo
  match samples with
  | up :: dn :: samples => exact right_iff_isChain hsorted

end DepthMap

/-! ### Profiles with new samples -/

section Chain

variable {coef : List ℚ} {m : ℕ} {up dn surface : SSPSample} {above below : List SSPSample}

/-- Below a new sample no EOFs are read. -/
theorem pairAgrees_of_new (hup : up.eof = []) :
    PairAgrees coef up dn ↔ correction dn.eof coef = 0 := by
  have hzero : correction [] coef = 0 := rfl
  simp [PairAgrees, hup, hzero, eq_comm]

theorem pairAgrees_of_length_eq (h : up.eof.length = dn.eof.length) : PairAgrees coef up dn := by
  rw [PairAgrees, h]
  exact ⟨Nat.min_le_left _ _, correction_take (Nat.le_refl _)⟩

/-- A new sample has no EOFs to be read. -/
theorem not_pairAgrees_of_new (hup : min up.eof.length coef.length ≠ 0) (hdn : dn.eof = []) :
    ¬ PairAgrees coef up dn := by
  rintro ⟨hle, -⟩
  rw [hdn, List.length_nil, Nat.le_zero] at hle
  exact hup hle

/-- From the surface down, all samples are those of a profile. -/
theorem isChain_surface_iff (hm : min m coef.length ≠ 0) (hsurface : surface.eof.length = m)
    (hbelow : ∀ sample ∈ below, sample.eof.length = m ∨ sample.eof = []) :
    (surface :: below).IsChain (PairAgrees coef) ↔ ∀ sample ∈ below, sample.eof.length = m := by
  induction below generalizing surface with
  | nil => simp
  | cons next below ih =>
      obtain ⟨hnext, hbelow⟩ := List.forall_mem_cons.1 hbelow
      rw [List.isChain_cons_cons, List.forall_mem_cons]
      rcases hnext with hnext | hnext
      · rw [ih hnext hbelow, and_iff_right (pairAgrees_of_length_eq (hsurface.trans hnext.symm)),
          and_iff_right hnext]
      · refine iff_of_false (fun h => not_pairAgrees_of_new (hsurface ▸ hm) hnext h.1) fun h => ?_
        rw [hnext, List.length_nil] at h
        exact hm (by simp [← h.1])

/-- All pairs agree iff no new sample is below the surface, and the correction at the surface
vanishes if there is one above it. -/
theorem isChain_iff (hm : min m coef.length ≠ 0) (habove : ∀ sample ∈ above, sample.eof = [])
    (hsurface : surface.eof.length = m)
    (hbelow : ∀ sample ∈ below, sample.eof.length = m ∨ sample.eof = []) :
    (above ++ surface :: below).IsChain (PairAgrees coef) ↔
      (∀ sample ∈ below, sample.eof.length = m) ∧
        (above ≠ [] → correction surface.eof coef = 0) := by
  have hnew : above.IsChain (PairAgrees coef) := by
    refine (List.pairwise_of_forall_mem_list fun up hup dn hdn => ?_).isChain
    exact pairAgrees_of_length_eq (by rw [habove up hup, habove dn hdn])
  rw [List.isChain_append, isChain_surface_iff hm hsurface hbelow, and_iff_right hnew]
  refine and_congr_right fun _ => ?_
  simp only [List.head?_cons, Option.mem_some_iff, forall_eq']
  constructor
  · intro h hne
    have hlast := List.getLast_mem hne
    exact (pairAgrees_of_new (habove _ hlast)).1 (h _ (List.getLast?_eq_getLast_of_ne_nil hne))
  · intro h up hup
    have hmem := List.mem_of_getLast? hup
    exact (pairAgrees_of_new (habove up hmem)).2 (h (List.ne_nil_of_mem hmem))

/-- Without EOFs to add all pairs agree. -/
theorem isChain_of_no_eofs (hm : min m coef.length = 0) {samples : List SSPSample}
    (h : ∀ sample ∈ samples, sample.eof.length = m ∨ sample.eof = []) :
    samples.IsChain (PairAgrees coef) := by
  have hnone : ∀ sample ∈ samples, min sample.eof.length coef.length = 0 := fun sample hmem => by
    rcases h sample hmem with hlength | hnil
    · rw [hlength, hm]
    · rw [hnil, List.length_nil, Nat.zero_min]
  refine (List.pairwise_of_forall_mem_list fun up hup dn hdn => ?_).isChain
  rw [PairAgrees, hnone up hup]
  exact ⟨Nat.zero_le _, correction_take (hnone dn hdn).le⟩

end Chain

/-! ### What updates do -/

section Updated

variable {m : ℕ} {profile samples samples' : List SSPSample} {updated : List ℚ}

/-- A speed is set in the sample of the depth, or in a new one. -/
theorem setSample_cases (samples : List SSPSample) (depth cp : ℚ) :
    (∃ before ssp after, samples = before ++ ssp :: after ∧ ssp.depth = depth ∧
      setSample samples depth cp = before ++
        { depth := depth, cp := cp, eof := ssp.eof.map fun _ => 0 } :: after) ∨
    (depth ∉ samples.map (·.depth) ∧
      setSample samples depth cp = samples ++ [{ depth := depth, cp := cp }]) := by
  unfold setSample findSample
  cases hfind : samples.findIdx? (depth = ·.depth) with
  | none =>
      refine .inr ⟨fun hmem => ?_, ?_⟩
      · obtain ⟨ssp, hssp, hdepth⟩ := List.mem_map.1 hmem
        have hne := List.findIdx?_eq_none_iff.1 hfind ssp hssp
        simp [hdepth] at hne
      · show (samples ++ [({} : SSPSample)]).modify samples.length _ = _
        rw [List.modify_eq_take_cons_drop (by simp)]
        simp
  | some i =>
      obtain ⟨hi, hdepth, -⟩ := List.findIdx?_eq_some_iff_getElem.1 hfind
      refine .inl ⟨samples.take i, samples[i], samples.drop (i + 1), by simp, ?_, ?_⟩
      · simpa using (of_decide_eq_true hdepth).symm
      · exact List.modify_eq_take_cons_drop hi

/-- The sample of the depth is replaced or added; the others stay. -/
theorem mem_setSample (hdistinct : (samples.map (·.depth)).Nodup) (depth cp : ℚ) :
    ∃ eof : List ℚ, (∀ e ∈ eof, e = 0) ∧
      ((∃ ssp ∈ samples, ssp.depth = depth ∧ eof.length = ssp.eof.length) ∨
        depth ∉ samples.map (·.depth) ∧ eof = []) ∧
      ∀ sample, sample ∈ setSample samples depth cp ↔
        sample = { depth := depth, cp := cp, eof := eof } ∨
          sample ∈ samples ∧ sample.depth ≠ depth := by
  rcases setSample_cases samples depth cp with
    ⟨before, ssp, after, rfl, rfl, heq⟩ | ⟨hnew, heq⟩
  · refine ⟨ssp.eof.map fun _ => 0, by simp, .inl ⟨ssp, by simp, rfl, List.length_map _⟩,
      fun sample => ?_⟩
    -- no other sample has the depth
    have hother : ∀ t, t ∈ before ∨ t ∈ after → t.depth ≠ ssp.depth := by
      simp only [List.map_append, List.map_cons, List.nodup_append, List.nodup_cons,
        List.mem_map, List.mem_cons] at hdistinct
      rintro t (ht | ht) hdepth
      · exact hdistinct.2.2 t.depth ⟨t, ht, rfl⟩ ssp.depth (.inl rfl) hdepth
      · exact hdistinct.2.1.1 ⟨t, ht, hdepth⟩
    rw [heq, List.mem_append, List.mem_cons, List.mem_append, List.mem_cons]
    constructor
    · rintro (hmem | rfl | hmem)
      · exact .inr ⟨.inl hmem, hother sample (.inl hmem)⟩
      · exact .inl rfl
      · exact .inr ⟨.inr (.inr hmem), hother sample (.inr hmem)⟩
    · rintro (rfl | ⟨hmem | rfl | hmem, hne⟩)
      · exact .inr (.inl rfl)
      · exact .inl hmem
      · exact absurd rfl hne
      · exact .inr (.inr hmem)
  · refine ⟨[], by simp, .inr ⟨hnew, rfl⟩, fun sample => ?_⟩
    rw [heq, List.mem_append, List.mem_singleton, or_comm]
    refine or_congr_right (and_iff_left_of_imp fun hmem hdepth => hnew ?_).symm
    exact hdepth ▸ List.mem_map_of_mem hmem

theorem mem_depths_setSample {depth' : ℚ} (depth cp : ℚ) :
    depth' ∈ (setSample samples depth cp).map (·.depth) ↔
      depth' ∈ samples.map (·.depth) ∨ depth' = depth := by
  rcases setSample_cases samples depth cp with
    ⟨before, ssp, after, rfl, rfl, heq⟩ | ⟨-, heq⟩
  · have hmap : (setSample (before ++ ssp :: after) ssp.depth cp).map (·.depth) =
        (before ++ ssp :: after).map (·.depth) := by simp [heq]
    rw [hmap]
    exact (or_iff_left_of_imp fun hdepth => hdepth ▸ by simp).symm
  · rw [heq, List.map_append, List.mem_append, List.map_singleton, List.mem_singleton]

theorem nodup_setSample (hdistinct : (samples.map (·.depth)).Nodup) (depth cp : ℚ) :
    ((setSample samples depth cp).map (·.depth)).Nodup := by
  rcases setSample_cases samples depth cp with
    ⟨before, ssp, after, rfl, rfl, heq⟩ | ⟨hnew, heq⟩
  · rw [heq]
    simpa using hdistinct
  · rw [heq, List.map_append, List.map_singleton]
    refine List.nodup_append.2 ⟨hdistinct, by simp, fun d hd d' hd' => ?_⟩
    rw [List.mem_singleton.1 hd']
    rintro rfl
    exact hnew hd

/-- What one speed preserves, all speeds of a message do. -/
theorem setSample_induction {I : List (ℚ × ℚ) → List SSPSample → Prop}
    (hstep : ∀ given samples depth cp, I given samples →
      I (given ++ [(depth, cp)]) (setSample samples depth cp))
    (asDouble : String → ℚ) (given : List (ℚ × ℚ)) (h : I given samples)
    (pairs : List (String × String)) :
    I (given ++ (pairs.filter isGiven).map fun p => (asDouble p.1, asDouble p.2))
      (pairs.foldl (fun samples p =>
        if isGiven p then setSample samples (asDouble p.1) (asDouble p.2) else samples)
        samples) := by
  induction pairs generalizing given samples with
  | nil => simpa using h
  | cons p pairs ih =>
      rw [List.foldl_cons]
      cases hp : isGiven p with
      | false => simpa [hp] using ih given h
      | true =>
          have hnext := ih _ (hstep _ _ (asDouble p.1) (asDouble p.2) h)
          rw [List.append_assoc] at hnext
          simpa [hp] using hnext

instance : Std.Total fun a b : SSPSample => a.depth ≤ b.depth := ⟨fun _ _ => le_total _ _⟩

instance : IsTrans SSPSample fun a b => a.depth ≤ b.depth := ⟨fun _ _ _ => le_trans⟩

/-- Samples at distinct depths are sorted strictly. -/
theorem sorted_insertionSort
    (hdistinct : ((samples.insertionSort fun a b => a.depth ≤ b.depth).map (·.depth)).Nodup) :
    (samples.insertionSort fun a b => a.depth ≤ b.depth).Pairwise (·.depth < ·.depth) := by
  have hle := List.pairwise_insertionSort (fun a b : SSPSample => a.depth ≤ b.depth) samples
  rw [List.Nodup, List.pairwise_map] at hdistinct
  exact hle.imp₂ (fun _ _ => lt_of_le_of_ne) hdistinct

/-- Samples after the speeds at some depths of a profile have been set. -/
structure Extends (m : ℕ) (profile : List SSPSample) (updated : List ℚ)
    (samples : List SSPSample) : Prop where
  distinct : (samples.map (·.depth)).Nodup
  depths : ∀ depth, depth ∈ samples.map (·.depth) ↔
    depth ∈ profile.map (·.depth) ∨ depth ∈ updated
  untouched : ∀ ssp ∈ samples, ssp.depth ∉ updated → ssp ∈ profile
  zeroed : ∀ ssp ∈ samples, ssp.depth ∈ updated → ∀ e ∈ ssp.eof, e = 0
  kinds : ∀ ssp ∈ samples, (ssp.depth ∈ profile.map (·.depth) ∧ ssp.eof.length = m) ∨
    (ssp.depth ∉ profile.map (·.depth) ∧ ssp.eof = [])

theorem Extends.perm (h : Extends m profile updated samples) (hperm : samples'.Perm samples) :
    Extends m profile updated samples' where
  distinct := (hperm.map _).nodup_iff.2 h.distinct
  depths depth := by rw [(hperm.map _).mem_iff, h.depths]
  untouched ssp hmem := h.untouched ssp (hperm.mem_iff.1 hmem)
  zeroed ssp hmem := h.zeroed ssp (hperm.mem_iff.1 hmem)
  kinds ssp hmem := h.kinds ssp (hperm.mem_iff.1 hmem)

/-- One more speed. -/
theorem Extends.setSample (h : Extends m profile updated samples) (depth cp : ℚ) :
    Extends m profile (updated ++ [depth]) (setSample samples depth cp) := by
  obtain ⟨eof, hzero, hkind, hmem⟩ := mem_setSample h.distinct depth cp
  refine ⟨nodup_setSample h.distinct depth cp, fun d => ?_, fun t ht hnot => ?_,
    fun t ht hin => ?_, fun t ht => ?_⟩
  · rw [mem_depths_setSample, h.depths, List.mem_append, List.mem_singleton, or_assoc]
  · rw [List.mem_append, List.mem_singleton, not_or] at hnot
    rcases (hmem t).1 ht with rfl | ⟨hold, -⟩
    · exact absurd rfl hnot.2
    · exact h.untouched t hold hnot.1
  · rw [List.mem_append, List.mem_singleton] at hin
    rcases (hmem t).1 ht with rfl | ⟨hold, hne⟩
    · exact hzero
    · exact h.zeroed t hold (hin.resolve_right hne)
  · rcases (hmem t).1 ht with rfl | ⟨hold, -⟩
    -- the sample has the place of an old one, or is new and without EOFs
    · rcases hkind with ⟨ssp, hssp, rfl, hlength⟩ | ⟨hnew, rfl⟩
      · rcases h.kinds ssp hssp with ⟨hin, hm⟩ | ⟨hnot, hnil⟩
        · exact .inl ⟨hin, hlength.trans hm⟩
        · exact .inr ⟨hnot, List.length_eq_zero_iff.1 (by rw [hlength, hnil]; rfl)⟩
      · exact .inr ⟨fun hin => hnew ((h.depths depth).2 (.inl hin)), rfl⟩
    · exact h.kinds t hold

/-- All speeds of a message. -/
theorem Extends.foldl (asDouble : String → ℚ) (h : Extends m profile updated samples)
    (pairs : List (String × String)) :
    Extends m profile (updated ++ (pairs.filter isGiven).map fun p => asDouble p.1)
      (pairs.foldl (fun samples p =>
        if isGiven p then Bellhop.setSample samples (asDouble p.1) (asDouble p.2) else samples)
        samples) := by
  have hall := setSample_induction
    (I := fun given samples => Extends m profile (updated ++ given.map (·.1)) samples)
    (fun given samples depth cp h => by
      rw [List.map_append, ← List.append_assoc]
      exact h.setSample depth cp)
    asDouble [] (by simpa using h) pairs
  rwa [List.nil_append, List.map_map] at hall

end Updated

section Runs

variable {m : ℕ} {profile : WaterColumn} {vfs : ValFromString} {asDouble : String → ℚ}

/-- The state of the water column between two updates. -/
structure IsUpdated (m : ℕ) (profile : WaterColumn) (updated : List ℚ) (column : WaterColumn) :
    Prop where
  samples : Extends m profile.sample updated column.sample
  sorted : column.sample.Pairwise (·.depth < ·.depth)
  eofCoef : column.eofCoef = profile.eofCoef

theorem IsProfile.isUpdated (h : IsProfile m profile) : IsUpdated m profile [] profile where
  samples := by
    refine ⟨nodup_of_sorted h.sorted, by simp, fun _ hmem _ => hmem, by simp, fun ssp hmem => ?_⟩
    exact .inl ⟨List.mem_map_of_mem hmem, h.eofs ssp hmem⟩
  sorted := h.sorted
  eofCoef := rfl

theorem IsUpdated.step {updated : List ℚ} {column : WaterColumn}
    (h : IsUpdated m profile updated column) (s : String) :
    IsUpdated m profile (updated ++ updatedDepths vfs asDouble s)
      (handleSspUpdate vfs asDouble column s) := by
  unfold handleSspUpdate updatedDepths
  cases depthsAndSpeeds vfs s with
  | none => simpa using h
  | some pairs =>
      have hsamples := (h.samples.foldl asDouble pairs).perm
        (List.perm_insertionSort (fun a b : SSPSample => a.depth ≤ b.depth) _)
      exact ⟨hsamples, sorted_insertionSort hsamples.distinct, h.eofCoef⟩

variable (vfs asDouble) in
theorem isUpdated_afterUpdates (hprofile : IsProfile m profile) (updates : List String) :
    IsUpdated m profile (updates.flatMap (updatedDepths vfs asDouble))
      (afterUpdates vfs asDouble profile updates) := by
  refine Run.run_invariant (handleSspUpdate vfs asDouble) profile
    (I := fun updates column =>
      IsUpdated m profile (updates.flatMap (updatedDepths vfs asDouble)) column)
    hprofile.isUpdated (fun updates s column h => ?_) updates
  rw [List.flatMap_append, List.flatMap_singleton]
  exact h.step s

theorem IsProfile.nonneg (h : IsProfile m profile) :
    ∀ depth ∈ profile.sample.map (·.depth), 0 ≤ depth := by
  obtain ⟨first, hfirst, hzero⟩ := h.surface
  obtain ⟨rest, hrest⟩ := List.head?_eq_some_iff.1 hfirst
  have hsorted := h.sorted
  rw [hrest, List.pairwise_cons] at hsorted
  intro depth hdepth
  obtain ⟨ssp, hssp, rfl⟩ := List.mem_map.1 hdepth
  rw [hrest, List.mem_cons] at hssp
  rcases hssp with rfl | hssp
  · exact hzero.ge
  · exact hzero ▸ (hsorted.1 ssp hssp).le

theorem IsProfile.zero_mem (h : IsProfile m profile) :
    (0 : ℚ) ∈ profile.sample.map (·.depth) := by
  obtain ⟨first, hfirst, hzero⟩ := h.surface
  exact hzero ▸ List.mem_map_of_mem (List.mem_of_head? hfirst)

section Surface

variable {updated : List ℚ} {column : WaterColumn}

/-- The samples above the surface, at it, and below it. -/
theorem IsUpdated.exists_split (hprofile : IsProfile m profile)
    (h : IsUpdated m profile updated column) :
    ∃ above surface below, column.sample = above ++ surface :: below ∧
      (surface.depth = 0 ∧ surface.eof.length = m) ∧
      (∀ ssp ∈ above, ssp.depth < 0 ∧ ssp.eof = []) ∧
      (∀ ssp ∈ below, 0 < ssp.depth ∧ (ssp.eof.length = m ∨ ssp.eof = [])) := by
  have hkinds := h.samples.kinds
  obtain ⟨surface, hsurface, hzero⟩ :=
    List.mem_map.1 ((h.samples.depths 0).2 (.inl hprofile.zero_mem))
  obtain ⟨above, below, hsplit⟩ := List.append_of_mem hsurface
  have hsorted := h.sorted
  rw [hsplit, List.pairwise_append, List.pairwise_cons] at hsorted
  obtain ⟨-, ⟨hbelow, -⟩, habove⟩ := hsorted
  refine ⟨above, surface, below, hsplit, ⟨hzero, ?_⟩, fun ssp hssp => ?_, fun ssp hssp => ?_⟩
  · rcases hkinds surface hsurface with ⟨-, hlength⟩ | ⟨hnot, -⟩
    · exact hlength
    · rw [hzero] at hnot
      exact absurd hprofile.zero_mem hnot
  · have hneg : ssp.depth < 0 := hzero ▸ habove ssp hssp surface (by simp)
    refine ⟨hneg, ?_⟩
    rcases hkinds ssp (by simp [hsplit, hssp]) with ⟨hin, -⟩ | ⟨-, hnil⟩
    · exact absurd (hprofile.nonneg _ hin) (not_le_of_gt hneg)
    · exact hnil
  · exact ⟨hzero ▸ hbelow ssp hssp,
      (hkinds ssp (by simp [hsplit, hssp])).imp And.right And.right⟩

/-- The samples below the surface are those of the profile iff no depth has been added there. -/
theorem IsUpdated.below_iff (h : IsUpdated m profile updated column) (hm : m ≠ 0) :
    (∀ ssp ∈ column.sample, 0 < ssp.depth → ssp.eof.length = m) ↔
      ∀ depth ∈ updated, 0 < depth → ∃ sample ∈ profile.sample, sample.depth = depth := by
  constructor
  · intro hall depth hdepth hpos
    obtain ⟨ssp, hssp, rfl⟩ := List.mem_map.1 ((h.samples.depths depth).2 (.inr hdepth))
    rcases h.samples.kinds ssp hssp with ⟨hin, -⟩ | ⟨-, hnil⟩
    · exact List.mem_map.1 hin
    · have hlength := hall ssp hssp hpos
      rw [hnil, List.length_nil] at hlength
      exact absurd hlength.symm hm
  · intro hall ssp hssp hpos
    rcases h.samples.kinds ssp hssp with ⟨-, hlength⟩ | ⟨hnot, -⟩
    · exact hlength
    · rcases (h.samples.depths ssp.depth).1 (List.mem_map_of_mem hssp) with hin | hupdated
      · exact absurd hin hnot
      · exact absurd (List.mem_map.2 (hall ssp.depth hupdated hpos)) hnot

/-- There are samples above the surface iff a depth has been added there. -/
theorem IsUpdated.above_iff (hprofile : IsProfile m profile)
    (h : IsUpdated m profile updated column) :
    (∃ ssp ∈ column.sample, ssp.depth < 0) ↔ ∃ depth ∈ updated, depth < 0 := by
  constructor
  · rintro ⟨ssp, hssp, hneg⟩
    rcases (h.samples.depths ssp.depth).1 (List.mem_map_of_mem hssp) with hin | hupdated
    · exact absurd (hprofile.nonneg _ hin) (not_le_of_gt hneg)
    · exact ⟨ssp.depth, hupdated, hneg⟩
  · rintro ⟨depth, hdepth, hneg⟩
    obtain ⟨ssp, hssp, rfl⟩ := List.mem_map.1 ((h.samples.depths depth).2 (.inr hdepth))
    exact ⟨ssp, hssp, hneg⟩

theorem correction_of_zeroed {eof : List ℚ} (h : ∀ e ∈ eof, e = 0) (coef : List ℚ) :
    correction eof coef = 0 := by
  rw [List.eq_replicate_of_mem h, correction]
  generalize eof.length = n
  induction n generalizing coef with
  | zero => rfl
  | succ n ih =>
      cases coef with
      | nil => rfl
      | cons c coef => simpa [List.replicate_succ] using ih coef

/-- The correction at the surface is that of the profile, unless it has been set to zero. -/
theorem IsUpdated.surface_iff (hprofile : IsProfile m profile)
    (h : IsUpdated m profile updated column) {surface : SSPSample}
    (hsurface : surface ∈ column.sample) (hzero : surface.depth = 0) (coef : List ℚ) :
    correction surface.eof coef = 0 ↔ 0 ∈ updated ∨
      ∀ sample ∈ profile.sample, sample.depth = 0 → correction sample.eof coef = 0 := by
  by_cases hupdated : 0 ∈ updated
  · have hzeroed := h.samples.zeroed surface hsurface (hzero ▸ hupdated)
    exact iff_of_true (correction_of_zeroed hzeroed coef) (.inl hupdated)
  · have hmem := h.samples.untouched surface hsurface (hzero ▸ hupdated)
    rw [or_iff_right hupdated]
    constructor
    · intro hcorrection sample hsample hdepth
      rwa [List.inj_on_of_nodup_map (nodup_of_sorted hprofile.sorted) hsample hmem
        (hdepth.trans hzero.symm)]
    · exact fun hall => hall surface hmem hzero

/-- With EOFs to add, all pairs of neighbours agree iff the updates are agreeable. -/
theorem IsUpdated.isChain_iff (hprofile : IsProfile m profile)
    (h : IsUpdated m profile updated column) (hm : min m profile.eofCoef.length ≠ 0) :
    column.sample.IsChain (PairAgrees profile.eofCoef) ↔ Agreeable m profile updated := by
  obtain ⟨above, surface, below, hsplit, ⟨hzero, hlength⟩, habove, hbelow⟩ :=
    h.exists_split hprofile
  have hbelow_iff : (∀ ssp ∈ below, ssp.eof.length = m) ↔
      ∀ ssp ∈ column.sample, 0 < ssp.depth → ssp.eof.length = m := by
    constructor
    · intro hall ssp hssp hpos
      rw [hsplit, List.mem_append, List.mem_cons] at hssp
      rcases hssp with hssp | rfl | hssp
      · exact absurd (habove ssp hssp).1 (not_lt_of_gt hpos)
      · exact hlength
      · exact hall ssp hssp
    · exact fun hall ssp hssp => hall ssp (by simp [hsplit, hssp]) (hbelow ssp hssp).1
  have habove_iff : above ≠ [] ↔ ∃ ssp ∈ column.sample, ssp.depth < 0 := by
    constructor
    · intro hne
      obtain ⟨ssp, hssp⟩ := List.exists_mem_of_ne_nil above hne
      exact ⟨ssp, by simp [hsplit, hssp], (habove ssp hssp).1⟩
    · rintro ⟨ssp, hssp, hneg⟩
      rw [hsplit, List.mem_append, List.mem_cons] at hssp
      rcases hssp with hssp | rfl | hssp
      · exact List.ne_nil_of_mem hssp
      · exact absurd hzero hneg.ne
      · exact absurd (hbelow ssp hssp).1 (not_lt_of_gt hneg)
  have hm' : m ≠ 0 := fun hzero => hm (by rw [hzero, Nat.zero_min])
  have hsurface : surface ∈ column.sample := by simp [hsplit]
  have hchain := Bellhop.isChain_iff hm (fun ssp hssp => (habove ssp hssp).2) hlength
    fun ssp hssp => (hbelow ssp hssp).2
  rw [hsplit, hchain, hbelow_iff, h.below_iff hm', habove_iff, h.above_iff hprofile,
    h.surface_iff hprofile hsurface hzero, Agreeable, or_iff_right hm]

end Surface

/-- After any updates of a profile the two paths agree iff the updates are agreeable. -/
theorem speedsAgree_iff_agreeable (vfs : ValFromString) (asDouble : String → ℚ)
    (hprofile : IsProfile m profile) (updates : List String)
    (htwo : 2 ≤ (afterUpdates vfs asDouble profile updates).sample.length) :
    SpeedsAgree (afterUpdates vfs asDouble profile updates) ↔
      Agreeable m profile (updates.flatMap (updatedDepths vfs asDouble)) := by
  have h := isUpdated_afterUpdates vfs asDouble hprofile updates
  rw [speedsAgree_iff_isChain h.sorted htwo, h.eofCoef]
  by_cases hm : min m profile.eofCoef.length = 0
  · refine iff_of_true (isChain_of_no_eofs hm fun ssp hssp => ?_) (.inl hm)
    exact (h.samples.kinds ssp hssp).imp And.right And.right
  · exact h.isChain_iff hprofile hm

/-- A profile with one EOF at the depths 0 and 10. -/
def eofProfile : WaterColumn where
  eofCoef := [3]
  sample := [{ depth := 0, cp := 1500, eof := [1] }, { depth := 10, cp := 1510, eof := [2] }]

/-- `val_from_string` for the messages `depth=10,c=1505`, `depth=5,c=1505` and `depth=-5,c=1505`. -/
def sspStrings : ValFromString where
  string s key :=
    if key = "c" then some "1505"
    else if s = "depth=10,c=1505" then some "10"
    else if s = "depth=5,c=1505" then some "5"
    else some "-5"
  double _ _ := none

/-- The numbers in these messages. -/
def sspNumber (s : String) : ℚ :=
  if s = "1505" then 1505 else if s = "10" then 10 else if s = "5" then 5 else -5

theorem isProfile_eofProfile : IsProfile 1 eofProfile where
  sorted := by simp [eofProfile]
  surface := ⟨{ depth := 0, cp := 1500, eof := [1] }, rfl, rfl⟩
  eofs := by simp [eofProfile]

/-- The speed at a depth of the profile is updated, and the paths agree. -/
theorem speedsAgree_of_update :
    (IsProfile 1 eofProfile ∧
      2 ≤ (afterUpdates sspStrings sspNumber eofProfile ["depth=10,c=1505"]).sample.length) ∧
    SpeedsAgree (afterUpdates sspStrings sspNumber eofProfile ["depth=10,c=1505"]) := by
  have htwo : 2 ≤
      (afterUpdates sspStrings sspNumber eofProfile ["depth=10,c=1505"]).sample.length := by
    decide +kernel
  have hupdated : ["depth=10,c=1505"].flatMap (updatedDepths sspStrings sspNumber) = [10] := by
    decide +kernel
  refine ⟨⟨isProfile_eofProfile, htwo⟩, (speedsAgree_iff_agreeable sspStrings sspNumber
    isProfile_eofProfile _ htwo).2 (.inr ?_)⟩
  rw [hupdated]
  refine ⟨by simp [eofProfile], ?_⟩
  rintro ⟨depth, hdepth, hneg⟩
  rw [List.mem_singleton.1 hdepth] at hneg
  exact absurd hneg (by norm_num)

/-- A speed is given at depth 5, where the profile has no sample: at depth 0 an EOF is read that
does not exist. And one is given at depth -5: at depth 0 the EOF is forgotten. -/
theorem not_speedsAgree_of_new_depth :
    ¬ SpeedsAgree (afterUpdates sspStrings sspNumber eofProfile ["depth=5,c=1505"]) ∧
      ¬ SpeedsAgree (afterUpdates sspStrings sspNumber eofProfile ["depth=-5,c=1505"]) := by
  constructor
  · intro h
    obtain ⟨ssp, hvalue, -⟩ := h { depth := 0, cp := 1500, eof := [1] } (by decide +kernel)
    have hnone : getSspValue (afterUpdates sspStrings sspNumber eofProfile ["depth=5,c=1505"]) 0 =
        none := by
      decide +kernel
    rw [hnone] at hvalue
    cases hvalue
  · intro h
    obtain ⟨ssp, hvalue, hentry⟩ := h { depth := 0, cp := 1500, eof := [1] } (by decide +kernel)
    have hplain : getSspValue (afterUpdates sspStrings sspNumber eofProfile ["depth=-5,c=1505"]) 0 =
        some 1500 := by
      decide +kernel
    rw [hplain, Option.some_inj] at hvalue
    subst hvalue
    exact absurd hentry (by decide +kernel)

end Runs

/-! ### What is written -/

end Bellhop

end Netsim
