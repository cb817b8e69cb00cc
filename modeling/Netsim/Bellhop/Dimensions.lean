import Netsim.Bellhop.Layout

/-!
# Dimensions of the files

For several water columns, the `.ssp` file has their ranges and the matrix of their speeds, and the
`.bty` file their bathymetry. The depths of the rows are those of the sound speed profile in the
`.env` file.

The profile has a line for each depth of the grid, and the matrix a row for each sample. So they
agree iff all samples of the grid are at different depths (`filesAgree_iff`).
-/

namespace Netsim

namespace Bellhop

open OutputStream CiBellhop

/-! ### Reading -/

/-- The lines of the `.ssp` file. -/
def sspLines (script : Script) : List (List Symbol) := lines (symbols (insertionsOf script .ssp))

/-- The lines of the `.bty` file. -/
def btyLines (script : Script) : List (List Symbol) := lines (symbols (insertionsOf script .bty))

/-- The lines with the depths of the `.env` file: those between the greatest depth and the options
of the bottom. The title, which may have any lines in it, is skipped. -/
def depthLines (title : String) (script : Script) : List (List Symbol) :=
  ((lines ((symbols (insertionsOf script .env)).drop (title.length + 2))).dropWhile fun line =>
    !(chars "0 0 ").isPrefixOf line).tail.takeWhile fun line => !(chars "'").isPrefixOf line

/-- The files are about the same water columns and depths. -/
structure FilesAgree (env : Environment) (script : Script) : Prop where
  /-- The `.ssp` file has the number of the water columns. -/
  size : (sspLines script)[0]? = some (chars (toString env.waterColumn.length))
  /-- It has their ranges. -/
  ranges : ((sspLines script)[1]?).map words =
    some (env.waterColumn.map fun column => [.number (column.range / 1000)])
  /-- It has a row for each depth. -/
  rows : ((sspLines script).drop 2).length = (depthLines env.title script).length
  /-- Each row has an entry for each water column. -/
  entries : ∀ row ∈ (sspLines script).drop 2, (words row).length = env.waterColumn.length
  /-- The `.bty` file has the number of the water columns. -/
  count : (btyLines script)[1]? = some (chars (toString env.waterColumn.length))
  /-- It has their ranges, with the bathymetry. -/
  points : ((btyLines script).drop 2).map words = env.waterColumn.map fun column =>
    [[.number (column.range / 1000)], [.number column.bathymetry]]

/-! ### The `.ssp` and `.bty` files -/

section RangeDependent

variable {pow10 : ℚ → ℚ} {env : Environment} {script : Script} {grid : WaterColumn}

/-- The lines of the `.ssp` file: the number of the water columns, their ranges, and the matrix. -/
theorem sspLines_eq (hmany : 1 < env.waterColumn.length) (hgrid : env.gridColumn = some grid)
    (h : outputEnv pow10 env = some (script, true)) :
    sspLines script = [chars (toString env.waterColumn.length),
      symbols (env.waterColumn.flatMap fun column => [.number (column.range / 1000), .text " "])] ++
        (List.range grid.sample.length).map fun indx =>
          symbols (env.waterColumn.flatMap fun column =>
            [.number (column.speedAt indx), .text " "]) := by
  have hunlines : insertionsOf script .ssp = unlines
      ([[.text (toString env.waterColumn.length)],
        env.waterColumn.flatMap fun column => [.number (column.range / 1000), .text " "]] ++
          (List.range grid.sample.length).map fun indx => env.waterColumn.flatMap fun column =>
            [.number (column.speedAt indx), .text " "]) := by
    rw [insertionsOf_ssp hmany hgrid h]
    simp [unlines, sspHeader, endl, List.flatMap_map]
    rfl
  rw [sspLines, hunlines, lines_unlines]
  · simp
  · rw [List.forall_mem_append, List.forall_mem_cons, List.forall_mem_singleton,
      List.forall_mem_map]
    exact ⟨⟨by simp, newline_not_mem_numbers _ _⟩, fun indx _ => newline_not_mem_numbers _ _⟩

/-- The lines of the `.bty` file. -/
theorem btyLines_eq (hmany : 1 < env.waterColumn.length) (hgrid : env.gridColumn = some grid)
    (h : outputEnv pow10 env = some (script, true)) :
    btyLines script = [chars "'L'", chars (toString env.waterColumn.length)] ++
      env.waterColumn.map fun column =>
        [.number (column.range / 1000), .char ' ', .number column.bathymetry] := by
  have hunlines : insertionsOf script .bty = unlines
      ([[.text "'L'"], [.text (toString env.waterColumn.length)]] ++
        env.waterColumn.map fun column => [.number (column.range / 1000), .text " ", .fixed,
          .setprecision 3, .number column.bathymetry]) := by
    rw [insertionsOf_of_rangeDependent (.inr rfl) hmany hgrid h]
    simp [rangeDependent, unlines, endl, List.flatMap_map]
  rw [btyLines, hunlines, lines_unlines]
  · simp [chars]
  · rw [List.forall_mem_append, List.forall_mem_cons, List.forall_mem_singleton,
      List.forall_mem_map]
    simp

end RangeDependent

/-! ### The depths of the `.env` file -/

section Depths

variable {pow10 : ℚ → ℚ} {env : Environment} {script : Script} {grid : WaterColumn}

/-- What begins like the line with the greatest depth has a blank. -/
theorem not_isPrefixOf_of_not_mem {line : List Symbol} (h : .char ' ' ∉ line) :
    !(chars "0 0 ").isPrefixOf line := by
  rw [Bool.not_eq_true', ← Bool.not_eq_true, List.isPrefixOf_iff_prefix]
  intro hbegins
  refine h (hbegins.subset ?_)
  simp

/-- The lines in front of the profile do not begin like that. -/
theorem not_isPrefixOf_front (env : Environment) (first column : WaterColumn) :
    ∀ line ∈ ([] :: (env.titleLines.tail ++ env.surfaceLines first column)).map symbols,
      !(chars "0 0 ").isPrefixOf line := by
  have hfreq : ' ' ∉ Nat.toDigits 10 env.freq.toNat := fun h => by
    simpa using Nat.isDigit_of_mem_toDigits (by decide) (by decide) h
  rw [List.forall_mem_map, List.forall_mem_cons, List.forall_mem_append]
  refine ⟨rfl, ?_, ?_⟩
  · rw [Environment.titleLines, List.tail_cons, List.forall_mem_cons, List.forall_mem_singleton]
    exact ⟨not_isPrefixOf_of_not_mem (by simpa using hfreq),
      not_isPrefixOf_of_not_mem (by simp)⟩
  · rw [Environment.surfaceLines]
    split_ifs with hsurface
    · rw [List.forall_mem_cons, List.forall_mem_singleton, Environment.options, hsurface]
      exact ⟨rfl, rfl⟩
    · rw [List.forall_mem_singleton]
      rfl

/-- The title is skipped, and what is left of its line is empty. -/
theorem drop_title (env : Environment) (ls : List (List Insertion)) (rest : List Symbol) :
    (symbols (unlines (env.titleLines ++ ls)) ++ rest).drop (env.title.length + 2) =
      symbols (unlines ([] :: (env.titleLines.tail ++ ls))) ++ rest := by
  have hcons : symbols (unlines (env.titleLines ++ ls)) ++ rest =
      (chars "'" ++ chars env.title ++ chars "'") ++
        (symbols (unlines ([] :: (env.titleLines.tail ++ ls))) ++ rest) := by
    simp [Environment.titleLines, unlines]
  have hlength : (chars "'" ++ chars env.title ++ chars "'").length = env.title.length + 2 := by
    simp [chars, String.length_toList]
  rw [hcons, List.drop_left' hlength]

/-- The depths in the `.env` file are the distinct ones of the grid. -/
theorem depthLines_eq (hgrid : env.gridColumn = some grid)
    (h : outputEnv pow10 env = some (script, true)) :
    depthLines env.title script = grid.depthSspMap.entries.map fun sample =>
      symbols [.number sample.1, .text " ", .number sample.2, .text " /"] := by
  obtain ⟨first, column, back, rest, -, hcolumn, -, hsymbols⟩ := symbols_env h
  obtain rfl := Option.some_inj.1 (hgrid.symm.trans hcolumn)
  have hnewline : ∀ l ∈ [] :: (env.titleLines.tail ++ (env.surfaceLines first grid ++
      (profileLines grid back.1 ++ env.bottomLines))), .char '\n' ∉ symbols l := by
    simp only [List.forall_mem_cons, List.forall_mem_append]
    exact ⟨by simp, by simp [Environment.titleLines], newline_not_mem_surfaceLines env first grid,
      newline_not_mem_profileLines grid back.1, newline_not_mem_bottomLines env⟩
  have hsplit : ([] :: (env.titleLines.tail ++ (env.surfaceLines first grid ++
      (profileLines grid back.1 ++ env.bottomLines)))).map symbols ++ lines rest =
        ([] :: (env.titleLines.tail ++ env.surfaceLines first grid)).map symbols ++
          (symbols [.text "0 0 ", .number back.1] ::
            ((grid.depthSspMap.entries.map fun sample =>
              symbols [.number sample.1, .text " ", .number sample.2, .text " /"]) ++
                (symbols env.bottomOptions ::
                  ((boundaryLines env.bottom).map symbols ++ lines rest)))) := by
    simp [profileLines, Environment.bottomLines]
  have hheader : (chars "0 0 ").isPrefixOf (symbols [.text "0 0 ", .number back.1]) := rfl
  have hsamples : ∀ line ∈ grid.depthSspMap.entries.map fun sample =>
      symbols [.number sample.1, .text " ", .number sample.2, .text " /"],
      !(chars "'").isPrefixOf line := List.forall_mem_map.2 fun sample _ => rfl
  have hbottom : (chars "'").isPrefixOf (symbols env.bottomOptions) := rfl
  rw [depthLines, hsymbols, drop_title, lines_unlines_append _ _ hnewline, hsplit,
    List.dropWhile_append_of_pos (not_isPrefixOf_front env first grid), List.dropWhile_cons,
    hheader, Bool.not_true, if_neg Bool.false_ne_true, List.tail_cons,
    List.takeWhile_append_of_pos hsamples, List.takeWhile_cons, hbottom, Bool.not_true,
    if_neg Bool.false_ne_true, List.append_nil]

end Depths

/-! ### When the files agree -/

section Agree

variable {pow10 : ℚ → ℚ} {env : Environment} {script : Script}

/-- The files agree iff all samples of the water column with the greatest bathymetry are at
different depths. -/
theorem filesAgree_iff (hmany : 1 < env.waterColumn.length)
    (h : outputEnv pow10 env = some (script, true)) :
    FilesAgree env script ↔ ∀ grid ∈ env.gridColumn, (grid.sample.map (·.depth)).Nodup := by
  obtain ⟨first, grid, back, rest, -, hgrid, -, -⟩ := symbols_env h
  have hssp := sspLines_eq hmany hgrid h
  have hbty := btyLines_eq hmany hgrid h
  have hmatrix : (sspLines script).drop 2 = (List.range grid.sample.length).map fun indx =>
      symbols (env.waterColumn.flatMap fun column =>
        [.number (column.speedAt indx), .text " "]) := by
    rw [hssp]
    rfl
  have hpoints : (btyLines script).drop 2 = env.waterColumn.map fun column =>
      [.number (column.range / 1000), .char ' ', .number column.bathymetry] := by
    rw [hbty]
    rfl
  have hrows : ((sspLines script).drop 2).length = (depthLines env.title script).length ↔
      (grid.sample.map (·.depth)).Nodup := by
    have hnodup : grid.depthSspMap.entries.length = grid.sample.length ↔
        (grid.sample.map (·.depth)).Nodup := by
      simpa [grid.depthSspMap_eq, Function.comp_def] using Multimap.length_assignAll_iff
        (l := grid.sample.map fun sample => (sample.depth, grid.ssp sample))
    rw [depthLines_eq hgrid h, hmatrix, List.length_map, ← hnodup, List.length_map,
      List.length_range, eq_comm]
  simp only [hgrid, Option.mem_some_iff, forall_eq']
  constructor
  · intro hagree
    exact hrows.1 hagree.rows
  · intro hnodup
    refine ⟨?_, ?_, hrows.2 hnodup, ?_, ?_, ?_⟩
    · rw [hssp]
      rfl
    · rw [hssp, ← words_numbers]
      rfl
    · rw [hmatrix, List.forall_mem_map]
      intro indx _
      rw [words_numbers, List.length_map]
    · rw [hbty]
      rfl
    · rw [hpoints, List.map_map]
      refine List.map_congr_left fun column _ => ?_
      have hbathymetry : .char ' ' ∉ [Symbol.number column.bathymetry] := by simp
      rw [Function.comp_apply, words_number, words_of_not_mem (List.cons_ne_nil _ _) hbathymetry]

/-- They agree on two water columns with the depths 0 and 10. -/
theorem filesAgree_of_two_columns : ∃ script,
    outputEnv (fun _ => 1) (twoColumns [0, 10] [0, 10]) = some (script, true) ∧
      FilesAgree (twoColumns [0, 10] [0, 10]) script := by
  have hmany : 1 < (twoColumns [0, 10] [0, 10]).waterColumn.length := Nat.lt_succ_self 1
  have hcompletes : (outputEnv (fun _ => 1) (twoColumns [0, 10] [0, 10])).any (·.2) := by
    decide +kernel
  have hnodup : ∀ grid ∈ (twoColumns [0, 10] [0, 10]).gridColumn,
      (grid.sample.map (·.depth)).Nodup := by
    decide +kernel
  obtain ⟨⟨script, completed⟩, houtput, hcompleted⟩ := (Option.any_eq_true _ _).1 hcompletes
  obtain rfl : completed = true := hcompleted
  exact ⟨script, houtput, (filesAgree_iff hmany houtput).2 hnodup⟩

/-- A request with a sample at the depth 10 is merged into the first of them, which then has two
samples there. -/
theorem not_filesAgree_of_merged_samples :
    let cfg : BellhopConfig := { emptyConfig with initialEnv := twoColumns [0, 10] [0, 10] }
    let lib : BellhopLibrary :=
      { waterColumnLibrary with parseForMoos := fun _ =>
          { env := { waterColumn := [{ sample := [{ depth := 10, cp := 1501 }] }] } } }
    ∃ env script, environmentOf lib cfg (requestOf "merge") = some env ∧
      1 < env.waterColumn.length ∧ outputEnv lib.pow10 env = some (script, true) ∧
        ¬ FilesAgree env script := by
  intro cfg lib
  have hrows : (environmentOf lib cfg (requestOf "merge")).any fun env =>
      1 < env.waterColumn.length ∧ (outputEnv lib.pow10 env).any fun result => result.2 ∧
        ((sspLines result.1).drop 2).length ≠ (depthLines env.title result.1).length := by
    decide +kernel
  obtain ⟨env, henv, hrows⟩ := (Option.any_eq_true _ _).1 hrows
  obtain ⟨hmany, hrows⟩ := of_decide_eq_true hrows
  obtain ⟨⟨script, completed⟩, houtput, hrows⟩ := (Option.any_eq_true _ _).1 hrows
  obtain ⟨hcompleted, hrows⟩ := of_decide_eq_true hrows
  obtain rfl : completed = true := hcompleted
  exact ⟨env, script, henv, hmany, houtput, fun hagree => hrows hagree.rows⟩

end Agree

end Bellhop

end Netsim
