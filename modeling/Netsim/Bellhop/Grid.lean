import Netsim.Bellhop.Requests

/-!
# Sound speed grids

The depths of the grid are those of the water column with the greatest bathymetry, and the rows of
the grid have as many entries as that water column has samples. The water columns are compared with
it one after another, and depth by depth, as integers.

So `output_env` reads beyond the grid if a water column that has not been found to be different has
more depths, and it reads what does not exist if there is no water column, or one without samples
(`isSome_outputEnv_iff`).
-/

namespace Netsim

namespace Bellhop

open OutputStream

/-- The depth of a water column at a position is that of the grid; the last one may be elsewhere. -/
def WaterColumn.SameDepthAt (deepest : List ℤ) (column : WaterColumn) (indx : ℕ) : Prop :=
  ∀ sample, column.depthSspMap.entries[indx]? = some sample →
    indx ≠ column.depthSspMap.entries.length - 1 → toInt sample.1 = deepest[indx]?

/-- A water column has samples, and as far as their depths are the same, the grid has as many, and
they fit an `int`. -/
def WaterColumn.InGrid (deepest : List ℤ) (column : WaterColumn) : Prop :=
  column.sample ≠ [] ∧ ∀ indx sample, column.depthSspMap.entries[indx]? = some sample →
    (∀ i < indx, column.SameDepthAt deepest i) → (toInt sample.1).isSome ∧ indx < deepest.length

/-- The water column with the greatest bathymetry. -/
def Environment.gridColumn (env : Environment) : Option WaterColumn :=
  env.waterColumn[kBathyMax env.waterColumn]?

/-- There is a water column, and the one with the greatest bathymetry has samples, at depths that
fit an `int`. If there are several, they are in the grid, up to the first one with other depths. If
none has other depths, the box fits an `int`. -/
def Environment.InGrid (env : Environment) : Prop :=
  ∃ column deepest, env.gridColumn = some column ∧ column.sample ≠ [] ∧
    env.gridDepths = some deepest ∧
    (1 < env.waterColumn.length → ∀ before column' after,
      env.waterColumn = before ++ column' :: after →
        (∀ c ∈ before, c.SameDepths deepest) → column'.InGrid deepest) ∧
    (env.SameDepths → ∀ back ∈ column.depthSspMap.entries.getLast?,
      (toInt (back.1 * (1 + 10 / 100))).isSome)

/-! ### What is read -/

section Reads

variable {deepest : List ℤ} {column : WaterColumn}

theorem WaterColumn.entries_eq_nil_iff :
    column.depthSspMap.entries = [] ↔ column.sample = [] := by
  rw [column.depthSspMap_eq]
  constructor
  · intro h
    rw [List.eq_nil_iff_forall_not_mem]
    intro sample hmem
    have hkey : sample.depth ∈ (Multimap.assignAll (column.sample.map
        fun sample => (sample.depth, column.ssp sample))).entries.map (·.1) := by
      rw [Multimap.mem_keys_assignAll_iff, List.map_map]
      exact List.mem_map_of_mem hmem
    simp [h] at hkey
  · intro h
    rw [h]
    rfl

/-- The samples from a position on are in the grid, as far as they are the same. -/
def ReadsFrom (deepest : List ℤ) (size indx : ℕ) (samples : List (ℚ × ℚ)) : Prop :=
  ∀ k sample, samples[k]? = some sample →
    (∀ i < k, ∀ s, samples[i]? = some s → indx + i ≠ size - 1 →
      toInt s.1 = deepest[indx + i]?) →
    (toInt sample.1).isSome ∧ indx + k < deepest.length

/-- The first sample is read in any case, and those behind it if it is not different. -/
theorem readsFrom_cons_iff {size indx : ℕ} {sample : ℚ × ℚ} {samples : List (ℚ × ℚ)} :
    ReadsFrom deepest size indx (sample :: samples) ↔
      ((toInt sample.1).isSome ∧ indx < deepest.length) ∧
        ((indx ≠ size - 1 → toInt sample.1 = deepest[indx]?) →
          ReadsFrom deepest size (indx + 1) samples) := by
  have hshift (i : ℕ) : indx + (i + 1) = indx + 1 + i := by omega
  constructor
  · intro h
    refine ⟨h 0 sample rfl fun i hi => absurd hi (Nat.not_lt_zero i),
      fun hsame k s hk hbefore => ?_⟩
    have hnext := h (k + 1) s hk fun i hi s' hs' hne => ?_
    · rwa [hshift] at hnext
    · cases i with
      | zero =>
          obtain rfl := Option.some_inj.1 hs'
          exact hsame hne
      | succ i =>
          rw [hshift] at hne ⊢
          exact hbefore i (Nat.lt_of_succ_lt_succ hi) s' hs' hne
  · rintro ⟨hfirst, hrest⟩ k s hk hbefore
    cases k with
    | zero =>
        obtain rfl := Option.some_inj.1 hk
        exact hfirst
    | succ k =>
        rw [hshift]
        refine hrest (hbefore 0 (Nat.succ_pos k) sample rfl) k s hk fun i hi s' hs' hne => ?_
        rw [← hshift] at hne ⊢
        exact hbefore (i + 1) (Nat.succ_lt_succ hi) s' hs' hne

/-- A row is filled, or found to be different, iff the samples are in the grid as far as they are
the same. -/
theorem isSome_fillRow_iff {size : ℕ} (samples : List (ℚ × ℚ)) (indx : ℕ) (row : List ℚ)
    (hrow : deepest.length ≤ row.length) :
    (fillRow deepest size indx samples row).isSome ↔ ReadsFrom deepest size indx samples := by
  induction samples generalizing indx row with
  | nil => simp [fillRow, ReadsFrom]
  | cons first samples ih =>
      obtain ⟨depth, ssp⟩ := first
      rw [readsFrom_cons_iff]
      cases hz : toInt depth with
      | none => simp [fillRow, hz]
      | some z =>
          by_cases hlt : indx < deepest.length
          · have hdep : deepest[indx]? = some deepest[indx] := List.getElem?_eq_getElem hlt
            have hstep : fillRow deepest size indx ((depth, ssp) :: samples) row =
                if z ≠ deepest[indx] ∧ indx ≠ size - 1 then some none
                else fillRow deepest size (indx + 1) samples (row.set indx ssp) := by
              simp [fillRow, hz, hdep, hlt.trans_le hrow]
            have hfirst : (some z).isSome ∧ indx < deepest.length := ⟨rfl, hlt⟩
            rw [hstep, hdep, and_iff_right hfirst, Option.some_inj]
            split_ifs with hthrow
            -- the samples behind a different one are not read
            · exact iff_of_true rfl fun hsame => absurd (hsame hthrow.2) hthrow.1
            · have hsame : indx ≠ size - 1 → z = deepest[indx] := fun hne => by
                by_contra hz'
                exact hthrow ⟨hz', hne⟩
              rw [ih (indx + 1) _ (by rwa [List.length_set])]
              exact ⟨fun h _ => h, fun h => h hsame⟩
          · have hdep : deepest[indx]? = none := List.getElem?_eq_none (Nat.le_of_not_lt hlt)
            exact iff_of_false (by simp [fillRow, hz, hdep]) fun h => hlt h.1.2

theorem isSome_sspRow_iff {width : ℕ} (hwidth : deepest.length ≤ width) :
    (sspRow deepest width column).isSome ↔ column.InGrid deepest := by
  rw [sspRow, WaterColumn.InGrid, ne_eq, ← column.entries_eq_nil_iff]
  cases hlast : column.depthSspMap.entries.getLast? with
  | none => simp [List.getLast?_eq_none_iff.1 hlast]
  | some last =>
      have hne : column.depthSspMap.entries ≠ [] := fun hnil => by simp [hnil] at hlast
      rw [Option.bind_some, isSome_fillRow_iff _ _ _ (by simpa using hwidth), and_iff_right hne]
      simp only [ReadsFrom, Nat.zero_add, WaterColumn.SameDepthAt]

/-- The water columns are read up to the first one that is different. -/
theorem isSome_sspGrid_iff {width : ℕ} (hwidth : deepest.length ≤ width)
    (columns : List WaterColumn) : (sspGrid deepest width columns).isSome ↔
      ∀ before column after, columns = before ++ column :: after →
        (∀ c ∈ before, c.SameDepths deepest) → column.InGrid deepest := by
  induction columns with
  | nil => simp [sspGrid]
  | cons column columns ih =>
      have hsplit : (∀ before column' after, column :: columns = before ++ column' :: after →
          (∀ c ∈ before, c.SameDepths deepest) → column'.InGrid deepest) ↔
          column.InGrid deepest ∧ (column.SameDepths deepest → ∀ before column' after,
            columns = before ++ column' :: after →
              (∀ c ∈ before, c.SameDepths deepest) → column'.InGrid deepest) := by
        constructor
        · intro h
          refine ⟨h [] column columns rfl (by simp),
            fun hsame before column' after heq hbefore => ?_⟩
          exact h (column :: before) column' after (by rw [heq]; rfl)
            (List.forall_mem_cons.2 ⟨hsame, hbefore⟩)
        · rintro ⟨hfirst, hrest⟩ before column' after heq hbefore
          cases before with
          | nil =>
              obtain ⟨rfl, -⟩ := List.cons_eq_cons.1 heq
              exact hfirst
          | cons c before =>
              obtain ⟨rfl, rfl⟩ := List.cons_eq_cons.1 heq
              obtain ⟨hc, hbefore⟩ := List.forall_mem_cons.1 hbefore
              exact hrest hc before column' after rfl hbefore
      rw [hsplit, ← isSome_sspRow_iff hwidth, ← ih, sspGrid]
      cases hrow : sspRow deepest width column with
      | none => simp
      | some row =>
          have hsame := sspRow_isSome_iff column hrow
          cases row with
          | none => simp [← hsame]
          | some row => simp [← hsame]

end Reads

/-! ### The depths of the grid -/

section GridDepths

variable {env : Environment} {deepest : List ℤ} {column : WaterColumn}

theorem mapM_eq_some_iff {α β : Type*} {f : α → Option β} {xs : List α} {ys : List β} :
    xs.mapM f = some ys ↔ xs.map f = ys.map some := by
  induction xs generalizing ys with
  | nil => cases ys <;> simp
  | cons x xs ih =>
      rw [List.mapM_cons, List.map_cons]
      cases ys with
      | nil => cases f x <;> cases xs.mapM f <;> simp
      | cons y ys => simp [Option.bind_eq_some_iff, ← ih]

theorem gridDepths_eq_some_iff (hcolumn : env.gridColumn = some column) :
    env.gridDepths = some deepest ↔
      column.depthSspMap.entries.map (fun sample => toInt sample.1) = deepest.map some := by
  rw [Environment.gridDepths, ← Environment.gridColumn, hcolumn]
  exact mapM_eq_some_iff

theorem WaterColumn.length_entries_le (column : WaterColumn) :
    column.depthSspMap.entries.length ≤ column.sample.length := by
  rw [column.depthSspMap_eq, ← List.length_map fun sample => (sample.depth, column.ssp sample)]
  exact Multimap.length_assignAll_le _

/-- The grid has as many depths as the water column, of which there may be more samples. -/
theorem length_of_gridDepths (hcolumn : env.gridColumn = some column)
    (hdeepest : env.gridDepths = some deepest) :
    deepest.length = column.depthSspMap.entries.length := by
  have hlength := congrArg List.length ((gridDepths_eq_some_iff hcolumn).1 hdeepest)
  simpa [eq_comm] using hlength

end GridDepths

/-! ### When `output_env` is defined -/

section Defined

variable {pow10 : ℚ → ℚ} {env : Environment} {deepest : List ℤ} {column : WaterColumn}

/-- What is read before the grid. -/
theorem exists_of_isSome_outputEnv (h : (outputEnv pow10 env).isSome) :
    ∃ column deepest, env.gridColumn = some column ∧ column.sample ≠ [] ∧
      env.gridDepths = some deepest := by
  obtain ⟨result, h⟩ := Option.isSome_iff_exists.1 h
  simp only [outputEnv, Option.bind_eq_bind, Option.bind_eq_some_iff] at h
  obtain ⟨first, -, column, hcolumn, back, hback, deepest, hdeepest, -⟩ := h
  refine ⟨column, deepest, hcolumn, fun hnil => ?_, ?_⟩
  · rw [column.entries_eq_nil_iff.2 hnil] at hback
    cases hback
  · rw [Environment.gridDepths, hcolumn]
    exact hdeepest

/-- The grid is read, and the depth of the box unless the grid is found to be different. -/
theorem isSome_outputEnv_of_gridDepths (pow10 : ℚ → ℚ) (hcolumn : env.gridColumn = some column)
    (hsample : column.sample ≠ []) (hdeepest : env.gridDepths = some deepest) :
    (outputEnv pow10 env).isSome ↔ ∃ grid,
      (if 1 < env.waterColumn.length then sspGrid deepest column.sample.length env.waterColumn
        else some (some [])) = some grid ∧
      (grid.isSome → ∀ back ∈ column.depthSspMap.entries.getLast?,
        (toInt (back.1 * (1 + 10 / 100))).isSome) := by
  obtain ⟨first, hfirst⟩ : ∃ first, env.waterColumn.head? = some first := by
    have hne := List.ne_nil_of_mem (List.mem_of_getElem? hcolumn)
    exact ⟨_, List.head?_eq_some_head hne⟩
  obtain ⟨back, hback⟩ : ∃ back, column.depthSspMap.entries.getLast? = some back := by
    rw [← Option.isSome_iff_exists, List.getLast?_isSome]
    exact mt column.entries_eq_nil_iff.1 hsample
  have hmap : (column.depthSspMap.entries.mapM fun sample => toInt sample.1) = some deepest := by
    rw [Environment.gridDepths, ← Environment.gridColumn, hcolumn] at hdeepest
    exact hdeepest
  rw [Environment.gridColumn] at hcolumn
  simp only [outputEnv, Option.bind_eq_bind, hfirst, hcolumn, hback, hmap, Option.bind_some]
  generalize (if 1 < env.waterColumn.length then
    sspGrid deepest column.sample.length env.waterColumn else some (some [])) = grid
  cases grid with
  | none => simp
  | some grid =>
      cases grid with
      | none => simp
      | some rows => cases hbox : toInt (back.1 * (1 + 10 / 100)) <;> simp [hbox]

/-- `output_env` completes or throws iff what it reads is in the grid. -/
theorem isSome_outputEnv_iff (pow10 : ℚ → ℚ) (env : Environment) :
    (outputEnv pow10 env).isSome ↔ env.InGrid := by
  have hdefined : (∃ column deepest, env.gridColumn = some column ∧ column.sample ≠ [] ∧
      env.gridDepths = some deepest) → ((outputEnv pow10 env).isSome ↔ env.InGrid) := by
    rintro ⟨column, deepest, hcolumn, hsample, hdeepest⟩
    have hwidth : deepest.length ≤ column.sample.length :=
      (length_of_gridDepths hcolumn hdeepest).trans_le column.length_entries_le
    have hgrid : env.InGrid ↔
        (1 < env.waterColumn.length →
          (sspGrid deepest column.sample.length env.waterColumn).isSome) ∧
        (env.SameDepths → ∀ back ∈ column.depthSspMap.entries.getLast?,
          (toInt (back.1 * (1 + 10 / 100))).isSome) := by
      rw [isSome_sspGrid_iff hwidth, Environment.InGrid]
      constructor
      · rintro ⟨column', deepest', hcolumn', -, hdeepest', h⟩
        obtain rfl := Option.some_inj.1 (hcolumn.symm.trans hcolumn')
        obtain rfl := Option.some_inj.1 (hdeepest.symm.trans hdeepest')
        exact h
      · exact fun h => ⟨column, deepest, hcolumn, hsample, hdeepest, h⟩
    rw [isSome_outputEnv_of_gridDepths pow10 hcolumn hsample hdeepest, hgrid,
      Environment.SameDepths]
    split_ifs with hsize
    · simp only [hsize, true_implies, hdeepest, Option.mem_some_iff, forall_eq']
      cases hrows : sspGrid deepest column.sample.length env.waterColumn with
      | none => simp
      | some grid => simp [← sspGrid_isSome_iff _ hrows]
    · simp [hsize]
  by_cases h : ∃ column deepest, env.gridColumn = some column ∧ column.sample ≠ [] ∧
      env.gridDepths = some deepest
  · exact hdefined h
  · refine iff_of_false (fun hsome => h (exists_of_isSome_outputEnv hsome)) ?_
    rintro ⟨column, deepest, hcolumn, hsample, hdeepest, -⟩
    exact h ⟨column, deepest, hcolumn, hsample, hdeepest⟩

/-- The constructor has sorted the samples of the first water column, and found one at depth 0. -/
def BellhopConfig.Accepted (cfg : BellhopConfig) : Prop :=
  ∀ column ∈ cfg.initialEnv.waterColumn.head?, column.sample.Pairwise (·.depth ≤ ·.depth) ∧
    ∃ sample ∈ column.sample.head?, sample.depth = 0

/-- The water column of the configuration is overwritten, by none; or by two, of which the one with
the greatest bathymetry has the depth 0, and the other one the depths 0 and 10. -/
theorem outputEnv_eq_none_of_overwrite :
    let cfg : BellhopConfig :=
      { emptyConfig with initialEnv := { waterColumn := [{ sample := [{ cp := 1500 }] }] } }
    let lib (depths : List (List ℚ)) : BellhopLibrary :=
      { waterColumnLibrary with parseForMoos := fun _ => overwriteWaterColumns depths }
    cfg.Accepted ∧ ∀ depths ∈ [[], [[0], [0, 10]]], ∃ env,
      CiBellhop.environmentOf (lib depths) cfg (requestOf "overwrite") = some env ∧
        outputEnv (lib depths).pow10 env = none := by
  intro cfg lib
  refine ⟨?_, ?_⟩
  · rintro column hcolumn
    cases hcolumn
    exact ⟨List.pairwise_singleton _ _, _, rfl, rfl⟩
  · have hnone (depths : List (List ℚ)) (h : (CiBellhop.environmentOf (lib depths) cfg
        (requestOf "overwrite")).any fun env => (outputEnv (lib depths).pow10 env).isNone) :
        ∃ env, CiBellhop.environmentOf (lib depths) cfg (requestOf "overwrite") = some env ∧
          outputEnv (lib depths).pow10 env = none := by
      obtain ⟨env, henv, hnone⟩ := (Option.any_eq_true _ _).1 h
      exact ⟨env, henv, Option.isNone_iff_eq_none.1 hnone⟩
    rw [List.forall_mem_cons, List.forall_mem_singleton]
    exact ⟨hnone _ (by decide +kernel), hnone _ (by decide +kernel)⟩

end Defined

end Bellhop

end Netsim
