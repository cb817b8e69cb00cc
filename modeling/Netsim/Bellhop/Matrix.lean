import Netsim.Bellhop.Grid

/-!
# Range-dependent sound speeds

The matrix of the `.ssp` file has a row for each sample of the water column with the greatest
bathymetry, and in it an entry for each water column: the speed at its depth of that position, and
the deepest one beyond its own depths.

The depths are compared as integers. So depths that differ are accepted if they have the same
integer part (`acceptsSame_iff`).
-/

namespace Netsim

namespace Bellhop

open OutputStream CiBellhop

/-- The distinct depths of a water column, in order. -/
def WaterColumn.depths (column : WaterColumn) : List ℚ := column.depthSspMap.entries.map (·.1)

/-- The speed at the depth of a position, or at the deepest one. -/
def WaterColumn.speedAt (column : WaterColumn) (indx : ℕ) : ℚ :=
  (((column.depthSspMap.entries[indx]?).or column.depthSspMap.entries.getLast?).map (·.2)).getD 0

/-- The beginning of the `.ssp` file. -/
def sspHeader (columns : List WaterColumn) : List Insertion :=
  [.text (toString columns.length), endl] ++
    (columns.flatMap fun column => [.number (column.range / 1000), .text " "]) ++ [endl]

/-- A row of the matrix. -/
def sspLine (columns : List WaterColumn) (indx : ℕ) : List Insertion :=
  (columns.flatMap fun column => [.number (column.speedAt indx), .text " "]) ++ [endl]

/-- Some depth, other than the deepest one of its water column, is not that of the grid at its
position. -/
def Environment.Differs (env : Environment) : Prop :=
  ∃ grid ∈ env.gridColumn, ∃ column ∈ env.waterColumn, ∃ indx,
    indx + 1 < column.depths.length ∧ column.depths[indx]? ≠ grid.depths[indx]?

/-- `output_env` throws iff the depths differ, and else writes the matrix. -/
def AcceptsSame (pow10 : ℚ → ℚ) (env : Environment) : Prop :=
  ∃ script completed, outputEnv pow10 env = some (script, completed) ∧
    (completed = false ↔ env.Differs) ∧
    (completed → ∃ grid ∈ env.gridColumn, insertionsOf script .ssp =
      sspHeader env.waterColumn ++
        (List.range grid.sample.length).flatMap (sspLine env.waterColumn))

/-! ### Rows -/

section Rows

variable {deepest : List ℤ} {column : WaterColumn} {row' : List ℚ}

/-- The speeds of the samples are entered one after another. -/
theorem getElem?_fillRow {size : ℕ} (samples : List (ℚ × ℚ)) (indx : ℕ) (row : List ℚ)
    (h : fillRow deepest size indx samples row = some (some row')) :
    row'.length = row.length ∧ ∀ j, row'[j]? =
      if j < indx then row[j]? else ((samples[j - indx]?).map (·.2)).or row[j]? := by
  induction samples generalizing indx row with
  | nil =>
      cases h
      exact ⟨rfl, fun j => by simp⟩
  | cons sample samples ih =>
      obtain ⟨depth, ssp⟩ := sample
      simp only [fillRow, Option.bind_eq_bind, Option.bind_eq_some_iff] at h
      obtain ⟨z, -, dep, -, h⟩ := h
      split_ifs at h with hthrow hlt
      · cases h
      · obtain ⟨hlength, hrow⟩ := ih _ _ h
        refine ⟨hlength.trans List.length_set, fun j => ?_⟩
        rw [hrow]
        rcases Nat.lt_trichotomy j indx with hj | rfl | hj
        · rw [if_pos (by omega), if_pos hj, List.getElem?_set_ne (by omega)]
        · rw [if_pos (Nat.lt_succ_self j), if_neg (Nat.lt_irrefl j), List.getElem?_set_self hlt]
          simp
        · obtain ⟨k, rfl⟩ : ∃ k, j = indx + 1 + k := ⟨j - (indx + 1), by omega⟩
          have hk : indx + 1 + k - indx = k + 1 := by omega
          rw [if_neg (by omega), if_neg (by omega), List.getElem?_set_ne (by omega),
            Nat.add_sub_cancel_left, hk, List.getElem?_cons_succ]

/-- A row has the speeds of the water column, and then the deepest one. -/
theorem sspRow_eq {width : ℕ} (h : sspRow deepest width column = some (some row')) :
    row' = (List.range width).map column.speedAt := by
  obtain ⟨last, hlast, h⟩ := Option.bind_eq_some_iff.1 h
  obtain ⟨hlength, hrow⟩ := getElem?_fillRow _ _ _ h
  rw [List.length_replicate] at hlength
  refine List.ext_getElem? fun j => ?_
  by_cases hj : j < width
  · have hspeed : row'[j]? = some (column.speedAt j) := by
      rw [hrow, if_neg (Nat.not_lt_zero j), Nat.sub_zero, List.getElem?_replicate, if_pos hj,
        WaterColumn.speedAt, hlast]
      cases column.depthSspMap.entries[j]? <;> rfl
    rw [hspeed, List.getElem?_map, List.getElem?_range hj]
    rfl
  · rw [List.getElem?_eq_none (by omega), List.getElem?_eq_none (by simpa using hj)]

/-- The grid has a row for each water column. -/
theorem sspGrid_eq {width : ℕ} {columns : List WaterColumn} {rows : List (List ℚ)}
    (h : sspGrid deepest width columns = some (some rows)) :
    rows = columns.map fun column => (List.range width).map column.speedAt := by
  induction columns generalizing rows with
  | nil =>
      cases h
      rfl
  | cons column columns ih =>
      simp only [sspGrid, Option.bind_eq_bind, Option.bind_eq_some_iff] at h
      obtain ⟨row, hrow, h⟩ := h
      cases row with
      | none => cases h
      | some row =>
          obtain ⟨grid, hgrid, hrows⟩ := Option.map_eq_some_iff.1 h
          obtain ⟨rest, rfl, rfl⟩ := Option.map_eq_some_iff.1 hrows
          rw [List.map_cons, sspRow_eq hrow, ih hgrid]

end Rows

/-! ### The file -/

section File

variable {pow10 : ℚ → ℚ} {env : Environment} {script : Script} {grid : WaterColumn}

/-- The lines of a medium are written to its own file, or are those of a half space. -/
theorem insertionsOf_mediumLines {file file' : EnvFile} (hfile : file ≠ file') (medium : Medium) :
    insertionsOf (mediumLines pow10 file medium) file' =
      if medium.type = .HALF_SPACE then insertionsOf (halfSpace medium) file' else [] := by
  cases h : medium.type with
  | VACUUM => simp [mediumLines, h, insertionsOf]
  | RIGID => simp [mediumLines, h, insertionsOf]
  | HALF_SPACE => simp [mediumLines, h]
  | REFLECTION_COEFFICIENT =>
      simp only [mediumLines, h, rcTable, reduceCtorEq, if_false]
      split_ifs
      · rfl
      · rw [insertionsOf_out, if_neg hfile]

@[simp]
theorem insertionsOf_flatMap {α : Type*} (xs : List α) (f : α → Script) (file : EnvFile) :
    insertionsOf (xs.flatMap f) file = xs.flatMap fun x => insertionsOf (f x) file := by
  rw [insertionsOf, List.filterMap_flatMap]
  rfl

/-- The matrix of a grid with a row of some length for each water column. -/
theorem insertionsOf_rangeDependent_ssp (hne : env.waterColumn ≠ []) (width : ℕ) :
    insertionsOf (rangeDependent env (env.waterColumn.map fun column =>
        (List.range width).map column.speedAt)) .ssp =
      sspHeader env.waterColumn ++ (List.range width).flatMap (sspLine env.waterColumn) := by
  have hwidth : ((env.waterColumn.map fun column =>
      (List.range width).map column.speedAt).headD []).length = width := by
    obtain ⟨first, rest, heq⟩ := List.exists_cons_of_ne_nil hne
    simp [heq]
  rw [rangeDependent, hwidth]
  simp only [insertionsOf_append, insertionsOf_flatMap, insertionsOf_out, if_true, reduceCtorEq,
    if_false, List.append_nil, sspHeader]
  congr 1
  refine List.flatMap_congr fun indx hindx => ?_
  rw [sspLine, List.flatMap_map]
  congr 1
  refine List.flatMap_congr fun column _ => ?_
  have hspeed : ((List.range width).map column.speedAt).getD indx 0 = column.speedAt indx := by
    simp [List.getD_eq_getElem?_getD, List.mem_range.1 hindx]
  rw [hspeed]

/-- What `output_env` writes to the `.ssp` and `.bty` files when it completes. -/
theorem insertionsOf_of_rangeDependent {file : EnvFile} (hfile : file = .ssp ∨ file = .bty)
    (hmany : 1 < env.waterColumn.length) (hgrid : env.gridColumn = some grid)
    (h : outputEnv pow10 env = some (script, true)) : insertionsOf script file =
      insertionsOf (rangeDependent env (env.waterColumn.map fun column =>
        (List.range grid.sample.length).map column.speedAt)) file := by
  obtain ⟨first, column, back, deepest, rows, -, hcolumn, -, -, hrows,
    ⟨-, hcompleted, -⟩ | ⟨rows, box, rfl, -, rfl⟩⟩ := outputEnv_cases h
  · cases hcompleted
  obtain rfl := Option.some_inj.1 (hgrid.symm.trans hcolumn)
  rw [if_pos hmany] at hrows
  have hheader : insertionsOf (header pow10 env first) file = [] := by
    rcases hfile with rfl | rfl <;> simp [header, insertionsOf_mediumLines, halfSpace]
  have hprofile : insertionsOf (profile grid back.1 grid.depthSspMap.entries) file = [] := by
    rcases hfile with rfl | rfl <;> simp [profile]
  have hremainder : insertionsOf (remainder pow10 env box) file = [] := by
    rcases hfile with rfl | rfl <;> simp [remainder, insertionsOf_mediumLines, halfSpace, hmany]
  rw [if_pos hmany, insertionsOf_append, insertionsOf_append, insertionsOf_append, hheader,
    hprofile, hremainder, sspGrid_eq hrows]
  simp only [List.nil_append]

/-- The matrix has a row for each sample of the grid. -/
theorem insertionsOf_ssp (hmany : 1 < env.waterColumn.length) (hgrid : env.gridColumn = some grid)
    (h : outputEnv pow10 env = some (script, true)) : insertionsOf script .ssp =
      sspHeader env.waterColumn ++
        (List.range grid.sample.length).flatMap (sspLine env.waterColumn) := by
  rw [insertionsOf_of_rangeDependent (.inl rfl) hmany hgrid h, insertionsOf_rangeDependent_ssp
    (List.ne_nil_of_length_pos (Nat.zero_lt_of_lt hmany))]

end File

/-! ### Depths -/

section Depths

variable {env : Environment} {deepest : List ℤ} {grid column : WaterColumn}

/-- Depths that are the same are the same as integers. -/
theorem differs_of_not_sameDepths (hgrid : env.gridColumn = some grid)
    (h : ¬ env.SameDepths) : env.Differs := by
  simp only [Environment.SameDepths, not_forall] at h
  obtain ⟨-, deepest, hdeepest, column, hcolumn, hsame⟩ := h
  simp only [WaterColumn.SameDepths, not_forall] at hsame
  obtain ⟨indx, sample, hsample, hlast, hne⟩ := hsame
  refine ⟨grid, hgrid, column, hcolumn, indx, ?_, fun hsame => hne ?_⟩
  · have hlt := (List.getElem?_eq_some_iff.1 hsample).1
    rw [WaterColumn.depths, List.length_map]
    omega
  · have hmap := congrArg (·[indx]?) ((gridDepths_eq_some_iff hgrid).1 hdeepest)
    rw [WaterColumn.depths, WaterColumn.depths, List.getElem?_map, List.getElem?_map, hsample,
      Option.map_some, eq_comm, Option.map_eq_some_iff] at hsame
    obtain ⟨sample', hsample', hdepth⟩ := hsame
    simp only [List.getElem?_map, hsample', Option.map_some, hdepth] at hmap
    cases hdeep : deepest[indx]? with
    | none => simp [hdeep] at hmap
    | some dep =>
        rw [hdeep] at hmap
        exact Option.some_inj.1 hmap

/-- `output_env` does what it should for several water columns iff it is in the grid, and depths
that differ also do so as integers. -/
theorem acceptsSame_iff (pow10 : ℚ → ℚ) (hmany : 1 < env.waterColumn.length) :
    AcceptsSame pow10 env ↔ env.InGrid ∧ (env.Differs → ¬ env.SameDepths) := by
  constructor
  · rintro ⟨script, completed, houtput, hthrows, -⟩
    refine ⟨(isSome_outputEnv_iff pow10 env).1 (Option.isSome_of_eq_some houtput),
      fun hdiffers hsame => ?_⟩
    rw [hthrows.2 hdiffers] at houtput
    cases (outputEnv_completed_iff houtput).2 hsame
  · rintro ⟨hgrid, hdiffers⟩
    obtain ⟨grid, -, hcolumn, -⟩ := id hgrid
    obtain ⟨⟨script, completed⟩, houtput⟩ :=
      Option.isSome_iff_exists.1 ((isSome_outputEnv_iff pow10 env).2 hgrid)
    have hcompleted := outputEnv_completed_iff houtput
    refine ⟨script, completed, houtput, ?_, fun hcomplete => ⟨grid, hcolumn, ?_⟩⟩
    · rw [← Bool.not_eq_true, hcompleted]
      exact ⟨differs_of_not_sameDepths hcolumn, hdiffers⟩
    · rw [hcomplete] at houtput
      exact insertionsOf_ssp hmany hcolumn houtput

/-- Two water columns, with the given depths. -/
def twoColumns (depths depths' : List ℚ) : Environment where
  waterColumn := [depths, depths'].map fun depths =>
    { sample := depths.map fun depth => { depth := depth, cp := 1500 } }

/-- Depths need not be integers. -/
theorem acceptsSame_of_two_columns : AcceptsSame (fun _ => 1) (twoColumns [0, 10.5] [0, 10.5]) := by
  have hmany : 1 < (twoColumns [0, 10.5] [0, 10.5]).waterColumn.length := Nat.lt_succ_self 1
  have hgrid : (outputEnv (fun _ => 1) (twoColumns [0, 10.5] [0, 10.5])).isSome := by
    decide +kernel
  have hsame : ∀ grid ∈ (twoColumns [0, 10.5] [0, 10.5]).gridColumn,
      ∀ column ∈ (twoColumns [0, 10.5] [0, 10.5]).waterColumn, column.depths = grid.depths := by
    decide +kernel
  refine (acceptsSame_iff _ hmany).2 ⟨(isSome_outputEnv_iff _ _).1 hgrid, ?_⟩
  rintro ⟨grid, hcolumn, column, hmem, indx, -, hne⟩
  rw [hsame grid hcolumn column hmem] at hne
  exact absurd rfl hne

/-- The depths 10 and 10.5 are accepted in one grid. -/
theorem not_acceptsSame_of_fraction :
    ¬ AcceptsSame (fun _ => 1) (twoColumns [0, 10, 20] [0, 10.5, 20]) := by
  have hcompletes : (outputEnv (fun _ => 1) (twoColumns [0, 10, 20] [0, 10.5, 20])).any (·.2) := by
    decide +kernel
  have hdiffers : ∃ grid ∈ (twoColumns [0, 10, 20] [0, 10.5, 20]).gridColumn,
      ∃ column ∈ (twoColumns [0, 10, 20] [0, 10.5, 20]).waterColumn,
        1 + 1 < column.depths.length ∧ column.depths[1]? ≠ grid.depths[1]? := by
    decide +kernel
  rintro ⟨script, completed, houtput, hthrows, -⟩
  obtain ⟨grid, hgrid, column, hcolumn, h⟩ := hdiffers
  rw [houtput, Option.any_some, hthrows.2 ⟨grid, hgrid, column, hcolumn, 1, h⟩] at hcompletes
  cases hcompletes

end Depths

end Bellhop

end Netsim
