import Netsim.Bellhop.Matrix
import Netsim.Lib.TextLines

/-!
# Lines of the `.env` file

The `.env` file begins with the title, the frequency and the number of media. The options of the
surface follow, the sound speed profile, and the options of the bottom. Both have the letter of the
type of the medium in them, and the numbers of a half space should be on the next line.

Those of the surface are written into its options instead. So the file is readable by position only
if the surface is no half space (`readableByPosition_iff`).
-/

namespace Netsim

namespace Bellhop

open OutputStream CiBellhop

/-! ### The layout -/

/-- The numbers of a half space. -/
def parameters (medium : Medium) : List Insertion :=
  [.number medium.depth, .text " ", .number medium.cp, .text " ", .number medium.cs, .text " ",
    .number medium.density, .text " ", .number medium.attenuation, .text " /"]

/-- The line behind the options, if there is one. -/
def boundaryLines (medium : Medium) : List (List Insertion) :=
  if medium.type = .HALF_SPACE then [parameters medium] else []

/-- The lines of the sound speed profile, and the one before it. -/
def profileLines (column : WaterColumn) (maxDepth : ℚ) : List (List Insertion) :=
  [.text "0 0 ", .number maxDepth] :: column.depthSspMap.entries.map fun sample =>
    [.number sample.1, .text " ", .number sample.2, .text " /"]

namespace Environment

variable (env : Environment)

/-- The title, the frequency and the number of media. -/
def titleLines : List (List Insertion) :=
  [[.text "'", .text env.title, .text "'"], [.text (toString env.freq.toNat)], [.text "1"]]

/-- The letter of the interpolation. -/
def interpolation (first : WaterColumn) : String :=
  if 1 < env.waterColumn.length then "Q" else first.interpolationType.letter

/-- The options of the surface behind the interpolation. -/
def options (column : WaterColumn) : List Insertion :=
  [.text env.surface.type.letter, .text env.bottom.units.letter] ++
    (if column.useAttenuation then [.text "T"] else []) ++ [.text "'"]

/-- The options of the bottom. -/
def bottomOptions : List Insertion :=
  [.text "'", .text env.bottom.type.letter] ++
    (if 1 < env.waterColumn.length then [.text "*"] else []) ++ [.text "' 0"]

/-- The options of the bottom, and the line behind them. -/
def bottomLines : List (List Insertion) := env.bottomOptions :: boundaryLines env.bottom

/-- The lines up to those of the bottom. -/
def layout (first column : WaterColumn) (maxDepth : ℚ) : List (List Insertion) :=
  env.titleLines ++
    ([.text "'", .text (env.interpolation first)] ++ env.options column) ::
      (boundaryLines env.surface ++ profileLines column maxDepth ++ env.bottomLines)

/-- The lines that are written instead of the options of the surface and the line behind them. -/
def surfaceLines (first column : WaterColumn) : List (List Insertion) :=
  if env.surface.type = .HALF_SPACE then
    [[.text "'", .text (env.interpolation first)] ++ parameters env.surface, env.options column]
  else [[.text "'", .text (env.interpolation first)] ++ env.options column]

end Environment

/-! ### Reading -/

/-- What is read of a boundary. -/
structure Boundary where
  /-- The type of the medium. -/
  type : MediumType
  /-- Depth, speeds, density and attenuation of a half space. -/
  parameters : Option (List ℚ)
deriving DecidableEq

/-- The boundary that a medium is. -/
def boundary (medium : Medium) : Boundary where
  type := medium.type
  parameters :=
    if medium.type = .HALF_SPACE then
      some [medium.depth, medium.cp, medium.cs, medium.density, medium.attenuation]
    else none

/-- The type of a medium by its letter. -/
def MediumType.ofLetter : Symbol → Option MediumType
  | .char 'V' => some .VACUUM
  | .char 'R' => some .RIGID
  | .char 'A' => some .HALF_SPACE
  | .char 'F' => some .REFLECTION_COEFFICIENT
  | _ => none

/-- Read the numbers of a half space. -/
def readParameters (line : List Symbol) : Option (List ℚ) :=
  match words line with
  | [[.number depth], [.number cp], [.number cs], [.number density], [.number attenuation],
      [.char '/']] => some [depth, cp, cs, density, attenuation]
  | _ => none

/-- Read options that have the type of a medium at some position, and the line behind them. -/
def readBoundary (position : ℕ) : List (List Symbol) → Option (Boundary × List (List Symbol))
  | [] => none
  | options :: ls => do
      let type ← options[position]?.bind MediumType.ofLetter
      if type = .HALF_SPACE then
        match ls with
        | [] => none
        | line :: ls => (readParameters line).map fun parameters => (⟨type, some parameters⟩, ls)
      else some (⟨type, none⟩, ls)

/-- Read the surface, behind three lines, and the bottom, behind lines that do not begin with a
quote. -/
def readMedia (ls : List (List Symbol)) : Option (Boundary × Boundary) := do
  let (surface, ls) ← readBoundary 2 (ls.drop 3)
  let (bottom, _) ← readBoundary 1 (ls.dropWhile fun line => !(chars "'").isPrefixOf line)
  some (surface, bottom)

/-- The lines of the `.env` file. -/
def envLines (script : Script) : List (List Symbol) := lines (symbols (insertionsOf script .env))

/-- `output_env` writes the lines of the layout, from which both media are read. -/
def ReadableByPosition (pow10 : ℚ → ℚ) (env : Environment) : Prop :=
  ∃ script first column back, outputEnv pow10 env = some (script, true) ∧
    env.waterColumn.head? = some first ∧ env.gridColumn = some column ∧
    column.depthSspMap.entries.getLast? = some back ∧
    (env.layout first column back.1).map symbols <+: envLines script ∧
    readMedia (envLines script) = some (boundary env.surface, boundary env.bottom)

/-- The files of a request have the symbols of what `output_env` inserts. -/
theorem CiBellhop.flatMap_files {lib : BellhopLibrary} {cfg : BellhopConfig} {s s₁ : CiBellhop}
    {env : Environment} {msg : MOOSMsg} {outputFile : String}
    {files : EnvFile → Option (List Token)}
    (h : calculateEnv lib cfg s env msg = some (s₁, outputFile, files)) {file : EnvFile}
    {written : List Token} (hwritten : files file = some written) :
    ∃ script completed, outputEnv lib.pow10 env = some (script, completed) ∧
      written.flatMap Token.symbols = symbols (insertionsOf script file) := by
  rw [calculateEnv] at h
  split_ifs at h
  obtain ⟨⟨script, completed⟩, houtput, heq⟩ := Option.map_eq_some_iff.1 h
  refine ⟨script, completed, houtput, ?_⟩
  -- whether `output_env` throws or not, the files are what the streams hold before they are closed
  have hfiles : files file = if (s file).file.isNone &&
      (openAll lib cfg s env msg file).file.isSome then
        some (insertAll (openAll lib cfg s env msg) script file).written else none := by
    cases completed with
    | true =>
        cases heq
        rfl
    | false =>
        cases heq
        rfl
  rw [hfiles] at hwritten
  split_ifs at hwritten with hopened
  cases hwritten
  obtain ⟨hclosed, hopened⟩ := Bool.and_eq_true_iff.1 hopened
  rw [Option.isNone_iff_eq_none] at hclosed
  cases hacc : lib.accessible with
  | true =>
      rw [insertAll, openAll, hacc, OFStream.openFile_of_closed hclosed,
        OFStream.flatMap_written rfl rfl]
      rfl
  | false => simp [openAll, OFStream.openFile, hacc, hclosed] at hopened

/-! ### What is written -/

section Written

variable {pow10 : ℚ → ℚ} {env : Environment} {script : Script}

theorem symbols_unlines_append (ls ls' : List (List Insertion)) :
    symbols (unlines (ls ++ ls')) = symbols (unlines ls) ++ symbols (unlines ls') := by
  rw [unlines, List.flatMap_append, symbols_append]
  rfl

/-- The numbers of a half space are a line of the `.env` file. -/
theorem symbols_mediumLines {file : EnvFile} (hfile : file ≠ .env) (medium : Medium) :
    symbols (insertionsOf (mediumLines pow10 file medium) .env) =
      symbols (unlines (boundaryLines medium)) := by
  rw [insertionsOf_mediumLines hfile, halfSpace, insertionsOf_out, if_pos rfl, boundaryLines]
  split_ifs
  · simp [unlines, parameters, endl]
  · rfl

theorem symbols_header (pow10 : ℚ → ℚ) (env : Environment) (first column : WaterColumn) :
    symbols (insertionsOf (header pow10 env first) .env) ++
      symbols ((if column.useAttenuation then [.text "T"] else []) ++ [.text "'", endl]) =
        symbols (unlines (env.titleLines ++ env.surfaceLines first column)) := by
  rw [symbols_unlines_append, header, ← Environment.interpolation, Environment.surfaceLines]
  have hsurface : symbols (insertionsOf (mediumLines pow10 .trc env.surface) .env) =
      symbols (unlines (boundaryLines env.surface)) := symbols_mediumLines (by decide) _
  simp only [insertionsOf_append, insertionsOf_out, if_true, symbols_append, hsurface,
    boundaryLines]
  split_ifs <;> simp [unlines, endl, Environment.titleLines, Environment.options, *]

theorem symbols_profile (column : WaterColumn) (maxDepth : ℚ) :
    symbols (insertionsOf (profile column maxDepth column.depthSspMap.entries) .env) =
      symbols ((if column.useAttenuation then [.text "T"] else []) ++ [.text "'", endl]) ++
        symbols (unlines (profileLines column maxDepth)) ++ chars "'" := by
  simp [profile, profileLines, unlines, endl, symbols_flatMap, List.flatMap_map]

theorem symbols_remainder (pow10 : ℚ → ℚ) (env : Environment) (box : ℤ) : ∃ rest,
    chars "'" ++ symbols (insertionsOf (remainder pow10 env box) .env) =
      symbols (unlines env.bottomLines) ++ rest := by
  have hbottom : symbols (insertionsOf (mediumLines pow10 .brc env.bottom) .env) =
      symbols (unlines (boundaryLines env.bottom)) := symbols_mediumLines (by decide) _
  rw [remainder, Environment.bottomLines, Environment.bottomOptions, insertionsOf_append,
    symbols_append, ← List.append_assoc]
  refine ⟨_, congrArg₂ _ ?_ rfl⟩
  simp only [insertionsOf_append, insertionsOf_out, if_true, symbols_append, hbottom]
  split_ifs <;> simp [unlines, endl, *]

/-- The `.env` file begins with these lines when `output_env` completes. -/
theorem symbols_env (h : outputEnv pow10 env = some (script, true)) :
    ∃ first column back rest, env.waterColumn.head? = some first ∧
      env.gridColumn = some column ∧ column.depthSspMap.entries.getLast? = some back ∧
      symbols (insertionsOf script .env) =
        symbols (unlines (env.titleLines ++ (env.surfaceLines first column ++
          (profileLines column back.1 ++ env.bottomLines)))) ++ rest := by
  obtain ⟨first, column, back, deepest, grid, hfirst, hcolumn, hback, -, -,
    ⟨-, hcompleted, -⟩ | ⟨rows, box, -, -, rfl⟩⟩ := outputEnv_cases h
  · cases hcompleted
  obtain ⟨rest, hrest⟩ := symbols_remainder pow10 env box
  have hnil : insertionsOf (if 1 < env.waterColumn.length then rangeDependent env rows
      else []) .env = [] := by
    split_ifs
    · exact insertionsOf_rangeDependent_env rows
    · rfl
  refine ⟨first, column, back, rest, hfirst, hcolumn, hback, ?_⟩
  rw [insertionsOf_append, hnil, List.append_nil, insertionsOf_append, insertionsOf_append,
    symbols_append, symbols_append, symbols_profile, List.append_assoc, List.append_assoc,
    List.append_assoc, hrest, ← List.append_assoc, symbols_header, ← List.append_assoc,
    ← List.append_assoc]
  simp only [symbols_unlines_append, List.append_assoc]

end Written

/-! ### Lines without ends in them -/

section Newlines

variable {env : Environment} {first column : WaterColumn}

theorem newline_not_mem_medium (type : MediumType) : '\n' ∉ type.letter.toList := by
  cases type <;> simp [MediumType.letter]

theorem newline_not_mem_units (units : AttenuationUnits) : '\n' ∉ units.letter.toList := by
  cases units <;> simp [AttenuationUnits.letter]

theorem newline_not_mem_interpolation (env : Environment) (first : WaterColumn) :
    '\n' ∉ (env.interpolation first).toList := by
  rw [Environment.interpolation]
  split_ifs
  · simp
  · cases first.interpolationType <;> simp [SSPInterpolation.letter]

theorem newline_not_mem_parameters (medium : Medium) :
    .char '\n' ∉ symbols (parameters medium) := by
  simp [parameters]

theorem newline_not_mem_options (env : Environment) (column : WaterColumn) :
    .char '\n' ∉ symbols (env.options column) := by
  rw [Environment.options]
  split_ifs <;> simp [newline_not_mem_medium, newline_not_mem_units]

theorem newline_not_mem_titleLines (htitle : '\n' ∉ env.title.toList) :
    ∀ l ∈ env.titleLines, .char '\n' ∉ symbols l := by
  simp [Environment.titleLines, htitle]

theorem newline_not_mem_boundaryLines (medium : Medium) :
    ∀ l ∈ boundaryLines medium, .char '\n' ∉ symbols l := by
  rw [boundaryLines]
  split_ifs
  · simp [newline_not_mem_parameters]
  · simp

theorem newline_not_mem_surfaceLines (env : Environment) (first column : WaterColumn) :
    ∀ l ∈ env.surfaceLines first column, .char '\n' ∉ symbols l := by
  rw [Environment.surfaceLines]
  split_ifs <;>
    simp [newline_not_mem_interpolation, newline_not_mem_parameters, newline_not_mem_options]

theorem newline_not_mem_profileLines (column : WaterColumn) (maxDepth : ℚ) :
    ∀ l ∈ profileLines column maxDepth, .char '\n' ∉ symbols l := by
  rw [profileLines, List.forall_mem_cons, List.forall_mem_map]
  simp

theorem newline_not_mem_bottomLines (env : Environment) :
    ∀ l ∈ env.bottomLines, .char '\n' ∉ symbols l := by
  rw [Environment.bottomLines, List.forall_mem_cons, Environment.bottomOptions]
  refine ⟨?_, newline_not_mem_boundaryLines env.bottom⟩
  split_ifs <;> simp [newline_not_mem_medium]

end Newlines

/-! ### The layout is read -/

section Read

variable {env : Environment} {first column : WaterColumn}

/-- The letter of a medium is its only symbol. -/
theorem exists_letter (type : MediumType) :
    ∃ s, chars type.letter = [s] ∧ MediumType.ofLetter s = some type := by
  cases type <;> exact ⟨_, rfl, rfl⟩

/-- So is the letter of the interpolation. -/
theorem exists_interpolation (env : Environment) (first : WaterColumn) :
    ∃ s, chars (env.interpolation first) = [s] := by
  rw [Environment.interpolation]
  split_ifs
  · exact ⟨_, rfl⟩
  · cases first.interpolationType <;> exact ⟨_, rfl⟩

theorem readParameters_parameters (medium : Medium) :
    readParameters (symbols (parameters medium)) =
      some [medium.depth, medium.cp, medium.cs, medium.density, medium.attenuation] := by
  have hend : words [.char '/'] = [[.char '/']] :=
    words_of_not_mem (List.cons_ne_nil _ _) (by simp)
  have hline : symbols (parameters medium) = .number medium.depth :: .char ' ' ::
      .number medium.cp :: .char ' ' :: .number medium.cs :: .char ' ' ::
      .number medium.density :: .char ' ' :: .number medium.attenuation :: .char ' ' ::
      [.char '/'] := rfl
  rw [readParameters, hline]
  simp only [words_number, hend]

/-- A boundary is read from its options and the line behind them, and nothing more. -/
theorem readBoundary_append {position : ℕ} {options : List Symbol} {medium : Medium}
    (hletter : options[position]?.bind MediumType.ofLetter = some medium.type)
    (rest : List (List Symbol)) :
    readBoundary position (options :: ((boundaryLines medium).map symbols ++ rest)) =
      some (boundary medium, rest) := by
  rw [readBoundary, hletter, boundaryLines, boundary]
  split_ifs with htype
  · simp [htype, readParameters_parameters]
  · simp [htype]

/-- Both media are read from the layout. -/
theorem readMedia_layout (env : Environment) (first column : WaterColumn) (maxDepth : ℚ)
    (rest : List (List Symbol)) :
    readMedia ((env.layout first column maxDepth).map symbols ++ rest) =
      some (boundary env.surface, boundary env.bottom) := by
  obtain ⟨interpolation, hinterpolation⟩ := exists_interpolation env first
  obtain ⟨surface, hsurface, hsurfaceType⟩ := exists_letter env.surface.type
  obtain ⟨bottom, hbottom, hbottomType⟩ := exists_letter env.bottom.type
  have hquote : chars "'" = [.char (Char.ofNat 39)] := rfl
  have hoptions : (symbols ([.text "'", .text (env.interpolation first)] ++
      env.options column))[2]?.bind MediumType.ofLetter = some env.surface.type := by
    simp [Environment.options, hquote, hinterpolation, hsurface, hsurfaceType]
  have hbottomOptions :
      (symbols env.bottomOptions)[1]?.bind MediumType.ofLetter = some env.bottom.type := by
    simp [Environment.bottomOptions, hquote, hbottom, hbottomType]
  have hdrop : ((env.layout first column maxDepth).map symbols ++ rest).drop 3 =
      symbols ([.text "'", .text (env.interpolation first)] ++ env.options column) ::
        ((boundaryLines env.surface).map symbols ++
          ((profileLines column maxDepth).map symbols ++
            (env.bottomLines.map symbols ++ rest))) := by
    simp [Environment.layout, Environment.titleLines]
  -- no line of the profile begins with a quote, and the options of the bottom do
  have hprofile : ∀ line ∈ (profileLines column maxDepth).map symbols,
      !(chars "'").isPrefixOf line := by
    rw [profileLines, List.map_cons, List.map_map, List.forall_mem_cons, List.forall_mem_map]
    exact ⟨rfl, fun sample _ => rfl⟩
  have hprefix : (chars "'").isPrefixOf (symbols env.bottomOptions) := by
    simp [Environment.bottomOptions, hquote]
  rw [readMedia, hdrop, readBoundary_append hoptions]
  simp only [Option.bind_eq_bind, Option.bind_some]
  rw [List.dropWhile_append_of_pos hprofile, Environment.bottomLines, List.map_cons,
    List.cons_append, List.dropWhile_cons, hprefix, Bool.not_true, if_neg Bool.false_ne_true,
    readBoundary_append hbottomOptions]
  rfl

end Read

/-! ### When the file is readable -/

section Readable

variable {pow10 : ℚ → ℚ} {env : Environment} {script : Script}

/-- The lines of a file whose title is one line. -/
theorem envLines_eq (htitle : '\n' ∉ env.title.toList)
    (h : outputEnv pow10 env = some (script, true)) :
    ∃ first column back rest, env.waterColumn.head? = some first ∧
      env.gridColumn = some column ∧ column.depthSspMap.entries.getLast? = some back ∧
      envLines script = (env.titleLines ++ (env.surfaceLines first column ++
        (profileLines column back.1 ++ env.bottomLines))).map symbols ++ rest := by
  obtain ⟨first, column, back, rest, hfirst, hcolumn, hback, hsymbols⟩ := symbols_env h
  refine ⟨first, column, back, lines rest, hfirst, hcolumn, hback, ?_⟩
  rw [envLines, hsymbols]
  apply lines_unlines_append
  simp only [List.forall_mem_append]
  exact ⟨newline_not_mem_titleLines htitle, newline_not_mem_surfaceLines env first column,
    newline_not_mem_profileLines column back.1, newline_not_mem_bottomLines env⟩

/-- The lines of the surface are as laid out unless it is a half space. -/
theorem layout_eq (h : env.surface.type ≠ .HALF_SPACE) (first column : WaterColumn) (maxDepth : ℚ) :
    env.layout first column maxDepth = env.titleLines ++ (env.surfaceLines first column ++
      (profileLines column maxDepth ++ env.bottomLines)) := by
  rw [Environment.layout, Environment.surfaceLines, boundaryLines, if_neg h, if_neg h,
    List.nil_append]
  rfl

/-- The options of a half space are no line that is written. -/
theorem not_layout_isPrefix (h : env.surface.type = .HALF_SPACE) {first column : WaterColumn}
    {maxDepth : ℚ} {more : List (List Insertion)} {rest : List (List Symbol)} :
    ¬ (env.layout first column maxDepth).map symbols <+:
      (env.titleLines ++ (env.surfaceLines first column ++ more)).map symbols ++ rest := by
  intro hprefix
  obtain ⟨interpolation, hinterpolation⟩ := exists_interpolation env first
  have hquote : chars "'" = [.char (Char.ofNat 39)] := rfl
  have hletter : chars MediumType.HALF_SPACE.letter = [.char 'A'] := rfl
  rw [Environment.layout, Environment.surfaceLines, if_pos h, List.map_append, List.map_append,
    List.append_assoc (env.titleLines.map symbols), List.prefix_append_right_inj,
    List.map_cons] at hprefix
  -- behind the interpolation, there is a letter in the one and a number in the other
  have hthird := congrArg (·[2]?) (List.cons_prefix_cons.1 hprefix).1
  simp [Environment.options, parameters, hinterpolation, h, hquote, hletter] at hthird

/-- The `.env` file is readable by position iff the title is one line, the surface is no half space,
and `output_env` completes. -/
theorem readableByPosition_iff (pow10 : ℚ → ℚ) (env : Environment) :
    ReadableByPosition pow10 env ↔ '\n' ∉ env.title.toList ∧ env.surface.type ≠ .HALF_SPACE ∧
      env.InGrid ∧ env.SameDepths := by
  constructor
  · rintro ⟨script, first, column, back, houtput, hfirst, hcolumn, hback, hlayout, -⟩
    have htitle : '\n' ∉ env.title.toList := by
      have hmem : symbols [.text "'", .text env.title, .text "'"] ∈ envLines script :=
        hlayout.subset (List.mem_map_of_mem (List.mem_append_left _ List.mem_cons_self))
      simpa using newline_not_mem_of_mem_lines hmem
    refine ⟨htitle, fun hsurface => ?_,
      (isSome_outputEnv_iff pow10 env).1 (Option.isSome_of_eq_some houtput),
      (outputEnv_completed_iff houtput).1 rfl⟩
    obtain ⟨first', column', back', rest, hfirst', hcolumn', hback', hlines⟩ :=
      envLines_eq htitle houtput
    obtain rfl := Option.some_inj.1 (hfirst.symm.trans hfirst')
    obtain rfl := Option.some_inj.1 (hcolumn.symm.trans hcolumn')
    rw [hlines] at hlayout
    exact not_layout_isPrefix hsurface hlayout
  · rintro ⟨htitle, hsurface, hgrid, hsame⟩
    obtain ⟨⟨script, completed⟩, houtput⟩ :=
      Option.isSome_iff_exists.1 ((isSome_outputEnv_iff pow10 env).2 hgrid)
    obtain rfl : completed = true := (outputEnv_completed_iff houtput).2 hsame
    obtain ⟨first, column, back, rest, hfirst, hcolumn, hback, hlines⟩ :=
      envLines_eq htitle houtput
    rw [← layout_eq hsurface] at hlines
    refine ⟨script, first, column, back, houtput, hfirst, hcolumn, hback, ?_, ?_⟩
    · rw [hlines]
      exact List.prefix_append _ _
    · rw [hlines]
      exact readMedia_layout env first column back.1 rest

/-- An environment below a half space. -/
def halfSpaceSurface : Environment where
  surface := { type := .HALF_SPACE, cp := 1600, density := 1.5 }
  waterColumn := [{ sample := [{ cp := 1500 }] }]

/-- The numbers of a half space are not read from the options of the surface. -/
theorem not_readableByPosition_of_half_space :
    ¬ ReadableByPosition (fun _ => 1) halfSpaceSurface := by
  have hread : (outputEnv (fun _ => 1) halfSpaceSurface).all fun result =>
      readMedia (envLines result.1) ≠
        some (boundary halfSpaceSurface.surface, boundary halfSpaceSurface.bottom) := by
    decide +kernel
  rintro ⟨script, first, column, back, houtput, -, -, -, -, hmedia⟩
  rw [houtput, Option.all_some] at hread
  exact of_decide_eq_true hread hmedia

end Readable

end Bellhop

end Netsim
