import Mathlib.Data.List.Induction
import Netsim.Bellhop.Model

/-!
# Failed requests

`output_env` throws when the sound speed profiles do not have the same depths for all ranges. The
exception is caught in `calculate_env`, which returns without closing the streams, and the response
says that the request was successful. The open of the streams fails for the next request, of which
nothing is written; it closes them, and the request after it finds the streams as if the failed
request had never been made. So a request is handled truthfully, and leaves the same files as
without the failed requests before it, iff neither it nor the last one before it for which files
were to be written has failed (`noTrace_iff_sameDepths`).
-/

namespace Netsim

namespace Bellhop

open OutputStream

/-! ### When `output_env` throws -/

/-- The samples of a water column are at the given depths, rounded to integers; the last one may be
elsewhere. -/
def WaterColumn.SameDepths (deepest : List ℤ) (column : WaterColumn) : Prop :=
  ∀ indx sample, column.depthSspMap.entries[indx]? = some sample →
    indx ≠ column.depthSspMap.entries.length - 1 → toInt sample.1 = deepest[indx]?

/-- The depths of the grid, those of the water column with the greatest bathymetry. -/
def Environment.gridDepths (env : Environment) : Option (List ℤ) := do
  let column ← env.waterColumn[kBathyMax env.waterColumn]?
  column.depthSspMap.entries.mapM fun sample => toInt sample.1

/-- "SSP grid must have same depths for all ranges". -/
def Environment.SameDepths (env : Environment) : Prop :=
  1 < env.waterColumn.length → ∀ deepest ∈ env.gridDepths, ∀ column ∈ env.waterColumn,
    column.SameDepths deepest

section Throws

variable {deepest : List ℤ} {width : ℕ}

/-- A row is filled iff the samples from its position on are at the depths of the grid. -/
theorem fillRow_isSome_iff {size : ℕ} (samples : List (ℚ × ℚ)) (indx : ℕ) (row : List ℚ)
    {result : Option (List ℚ)} (h : fillRow deepest size indx samples row = some result) :
    result.isSome ↔ ∀ k sample, samples[k]? = some sample → indx + k ≠ size - 1 →
      toInt sample.1 = deepest[indx + k]? := by
  induction samples generalizing indx row with
  | nil =>
      cases h
      simp
  | cons sample samples ih =>
      obtain ⟨depth, ssp⟩ := sample
      simp only [fillRow, Option.bind_eq_bind, Option.bind_eq_some_iff] at h
      obtain ⟨z, hz, dep, hdep, h⟩ := h
      split_ifs at h with hthrow hlt
      -- the depth is not that of the grid
      · cases h
        refine iff_of_false (by simp) fun hall => ?_
        have hsame := hall 0 (depth, ssp) rfl hthrow.2
        rw [hz, Nat.add_zero, hdep] at hsame
        exact hthrow.1 (Option.some_inj.1 hsame)
      · rw [ih _ _ h]
        constructor
        · rintro hall (_ | k) sample hk hne
          · obtain rfl := Option.some_inj.1 hk
            rw [hz, Nat.add_zero, hdep]
            have hsame : z = dep := by
              by_contra hsame
              exact hthrow ⟨hsame, hne⟩
            rw [hsame]
          · rw [show indx + (k + 1) = indx + 1 + k by omega] at hne ⊢
            exact hall k sample hk hne
        · intro hall k sample hk hne
          have hindx : indx + (k + 1) = indx + 1 + k := by omega
          have hsame := hall (k + 1) sample hk (by rwa [hindx])
          rwa [hindx] at hsame

theorem sspRow_isSome_iff (column : WaterColumn) {result : Option (List ℚ)}
    (h : sspRow deepest width column = some result) :
    result.isSome ↔ column.SameDepths deepest := by
  obtain ⟨last, -, h⟩ := Option.bind_eq_some_iff.1 h
  rw [fillRow_isSome_iff _ _ _ h, WaterColumn.SameDepths]
  simp only [Nat.zero_add]

theorem sspGrid_isSome_iff (columns : List WaterColumn) {result : Option (List (List ℚ))}
    (h : sspGrid deepest width columns = some result) :
    result.isSome ↔ ∀ column ∈ columns, column.SameDepths deepest := by
  induction columns generalizing result with
  | nil =>
      cases h
      simp
  | cons column columns ih =>
      simp only [sspGrid, Option.bind_eq_bind, Option.bind_eq_some_iff] at h
      obtain ⟨row, hrow, h⟩ := h
      rw [List.forall_mem_cons, ← sspRow_isSome_iff column hrow]
      cases row with
      | none =>
          cases h
          simp
      | some row =>
          obtain ⟨grid, hgrid, rfl⟩ := Option.map_eq_some_iff.1 h
          rw [← ih hgrid]
          simp

/-- `output_env` completes iff the depths are the same for all ranges. -/
theorem outputEnv_completed_iff {pow10 : ℚ → ℚ} {env : Environment} {script : Script}
    {completed : Bool} (h : outputEnv pow10 env = some (script, completed)) :
    completed ↔ env.SameDepths := by
  obtain ⟨first, column, back, deepest, grid, -, hcolumn, -, hdeepest, hgrid, hcases⟩ :=
    outputEnv_cases h
  have hdepths : env.gridDepths = some deepest := by
    rw [Environment.gridDepths, hcolumn]
    exact hdeepest
  have hcompleted : completed = grid.isSome := by
    rcases hcases with ⟨rfl, rfl, -⟩ | ⟨rows, box, rfl, rfl, -⟩
    · rfl
    · rfl
  rw [hcompleted, Environment.SameDepths, hdepths]
  split_ifs at hgrid with hsize
  · rw [sspGrid_isSome_iff _ hgrid]
    simp [hsize]
  · cases hgrid
    simp [hsize]

end Throws

/-! ### Number formats -/

section Formats

open CiBellhop

variable {pow10 : ℚ → ℚ} {env : Environment} {file file' : EnvFile}

/-- The number format from the first depth of a profile on. -/
def depthFormat : NumberFormat := { fixed := true, precision := 3 }

/-- A script without manipulators. -/
def Plain (script : Script) : Prop := ∀ p ∈ script, p.2.Plain

@[simp]
theorem insertionsOf_nil (file : EnvFile) : insertionsOf [] file = [] := rfl

@[simp]
theorem insertionsOf_append (script script' : Script) (file : EnvFile) :
    insertionsOf (script ++ script') file = insertionsOf script file ++ insertionsOf script' file :=
  List.filterMap_append

@[simp]
theorem insertionsOf_out (xs : List Insertion) :
    insertionsOf (out file' xs) file = if file' = file then xs else [] := by
  induction xs with
  | nil => simp [insertionsOf, out]
  | cons x xs ih =>
      rw [insertionsOf, out] at ih ⊢
      rw [List.map_cons, List.filterMap_cons, ih]
      split_ifs <;> rfl

@[simp]
theorem plain_endl : endl.Plain := plain_text _

@[simp]
theorem plain_nil : Plain [] := List.forall_mem_nil _

@[simp]
theorem plain_append {script script' : Script} :
    Plain (script ++ script') ↔ Plain script ∧ Plain script' := List.forall_mem_append

@[simp]
theorem plain_out {xs : List Insertion} : Plain (out file xs) ↔ ∀ x ∈ xs, x.Plain := by
  simp [Plain, out]

/-- A plain script keeps the number format of every stream. -/
theorem Plain.foldl_after {script : Script} (h : Plain script) (file : EnvFile)
    (format : NumberFormat) :
    (insertionsOf script file).foldl NumberFormat.after format = format := by
  apply NumberFormat.foldl_after_eq
  intro x hx
  obtain ⟨p, hp, hpx⟩ := List.mem_filterMap.1 hx
  split_ifs at hpx
  cases hpx
  exact h p hp format

theorem mediumLines_plain (medium : Medium) : Plain (mediumLines pow10 file medium) := by
  cases h : medium.type with
  | VACUUM => simp [mediumLines, h]
  | RIGID => simp [mediumLines, h]
  | HALF_SPACE => simp [mediumLines, h, halfSpace]
  | REFLECTION_COEFFICIENT =>
      simp only [mediumLines, h, rcTable]
      split_ifs
      · exact plain_nil
      · rw [plain_out, List.forall_mem_append, List.forall_mem_flatMap]
        simp

theorem header_plain (first : WaterColumn) : Plain (header pow10 env first) := by
  simp [header, mediumLines_plain]

theorem firstAndLast_plain (number : UInt32) (first last : ℚ) :
    ∀ x ∈ firstAndLast number first last, x.Plain := by
  rw [firstAndLast]
  split_ifs <;> simp

theorem remainder_plain (box : ℤ) : Plain (remainder pow10 env box) := by
  have hplain := And.intro (And.intro
    (firstAndLast_plain env.sources.numberInDepth env.sources.firstDepth env.sources.lastDepth)
    (firstAndLast_plain env.receivers.numberInDepth env.receivers.firstDepth
      env.receivers.lastDepth))
    (firstAndLast_plain env.receivers.numberInRange (env.receivers.firstRange / 1000)
      (env.receivers.lastRange / 1000))
  simp only [remainder, plain_append, mediumLines_plain, plain_out, List.forall_mem_append]
  split_ifs <;> simpa using hplain

/-- A profile sets the number format of the `.env` file, whatever it was. -/
theorem profile_foldl_after (column : WaterColumn) (maxDepth : ℚ) (samples : List (ℚ × ℚ))
    (format : NumberFormat) :
    (insertionsOf (profile column maxDepth samples) .env).foldl NumberFormat.after format =
      depthFormat := by
  have hset : ([.text "'", endl, .text "0 0 ", .fixed, .setprecision 3, .number maxDepth,
      endl] : List Insertion).foldl NumberFormat.after format = depthFormat := rfl
  -- every sample sets it again
  have hsamples : (samples.flatMap fun sample => [.fixed, .setprecision 3, .number sample.1,
      .text " ", .number sample.2, .text " /", endl]).foldl NumberFormat.after depthFormat =
      depthFormat := by
    apply NumberFormat.foldl_after_eq
    rw [List.forall_mem_flatMap]
    intro sample _
    simp [depthFormat, NumberFormat.after, endl]
  rw [profile, insertionsOf_out, if_pos rfl, List.foldl_append, List.foldl_append,
    List.foldl_append]
  split_ifs
  all_goals
    simp only [List.foldl_nil, List.foldl_cons, NumberFormat.after] at hset ⊢
    rw [hset, hsamples]

/-- The `.ssp` and `.bty` files leave the stream of the `.env` file alone. -/
theorem insertionsOf_rangeDependent_env (grid : List (List ℚ)) :
    insertionsOf (rangeDependent env grid) .env = [] := by
  rw [insertionsOf, List.filterMap_eq_nil_iff]
  intro p hp
  apply if_neg
  simp only [rangeDependent, out, List.mem_append, List.mem_flatMap, List.mem_map] at hp
  grind

variable {script : Script} {completed : Bool}

/-- The number format of the `.env` file after `output_env` does not depend on the one before. -/
theorem outputEnv_foldl_after_env (h : outputEnv pow10 env = some (script, completed))
    (format : NumberFormat) :
    (insertionsOf script .env).foldl NumberFormat.after format = depthFormat := by
  obtain ⟨first, column, back, deepest, grid, -, -, -, -, -,
    ⟨-, -, rfl⟩ | ⟨rows, box, -, -, rfl⟩⟩ := outputEnv_cases h
  · rw [insertionsOf_append, List.foldl_append, profile_foldl_after]
  · simp only [insertionsOf_append, List.foldl_append, profile_foldl_after,
      (remainder_plain box).foldl_after]
    split_ifs
    · rw [insertionsOf_rangeDependent_env, List.foldl_nil]
    · rfl

/-- When `output_env` throws, the number formats of the other files have not been set. -/
theorem outputEnv_foldl_after_of_throws (h : outputEnv pow10 env = some (script, false))
    (hfile : file ≠ .env) (format : NumberFormat) :
    (insertionsOf script file).foldl NumberFormat.after format = format := by
  obtain ⟨first, column, back, deepest, grid, -, -, -, -, -,
    ⟨-, -, rfl⟩ | ⟨rows, box, -, hcompleted, -⟩⟩ := outputEnv_cases h
  · rw [insertionsOf_append, List.foldl_append, (header_plain first).foldl_after, profile,
      insertionsOf_out, if_neg hfile.symm, List.foldl_nil]
  · cases hcompleted

end Formats

/-! ### The streams after failed requests -/

namespace CiBellhop

variable (lib : BellhopLibrary) (cfg : BellhopConfig)

/-- The environment whose files are to be written for a request. -/
def environmentOf (msg : MOOSMsg) : Option Environment :=
  match prepare lib cfg msg with
  | some (env, true) => some env
  | _ => none

/-- Whether `output_env` completes for an environment. -/
def completes (env : Environment) : Bool := (outputEnv lib.pow10 env).any (·.2)

/-- Whether `output_env` throws for a request. -/
def throws (msg : MOOSMsg) : Bool := (environmentOf lib cfg msg).any (!completes lib ·)

/-- The last request for which files were to be written has failed. -/
def lastThrew (msgs : List MOOSMsg) : Bool :=
  (msgs.filterMap (environmentOf lib cfg)).getLast?.any (!completes lib ·)

/-- The requests without those that fail. -/
def withoutFailed (msgs : List MOOSMsg) : List MOOSMsg := msgs.filter (!throws lib cfg ·)

/-- The streams, and those they would be without the failed requests. They are open iff the last
request has failed; the number formats are the same, except that of the `.env` file, which then has
been set by that request. -/
structure Together (threw : Bool) (s s' : CiBellhop) : Prop where
  closed : ∀ file, (s' file).file = none
  isSome : ∀ file, (s file).file.isSome = threw
  format : ∀ file ≠ .env, (s file).format = (s' file).format
  formatEnv : threw = false → (s .env).format = (s' .env).format
  accessible : threw → lib.accessible

variable {lib : BellhopLibrary} {cfg : BellhopConfig} {s s' s₁ : CiBellhop} {msg : MOOSMsg}
  {env : Environment} {threw : Bool} {handled : Handled}

/-- A request is handled by `calculate_env` iff it has an environment. -/
theorem handleRequest_of_environment (h : environmentOf lib cfg msg = some env) :
    handleRequest lib cfg s msg = (calculateEnv lib cfg s env msg).map fun (s, outputFile, files) =>
      (s, { response := { success := true, requestor := msg.source, env := env,
                          outputFile := some (lib.canonical outputFile),
                          requestNumber := (lib.parseForMoos msg.string).requestNumber }
            files := files }) := by
  rw [environmentOf] at h
  split at h
  · next hprepare =>
      cases h
      rw [handleRequest, hprepare]
      rfl
  · cases h

/-- A request without an environment leaves the streams as they are, and is refused. -/
theorem handleRequest_of_none (h : environmentOf lib cfg msg = none)
    (hhandled : handleRequest lib cfg s msg = some (s₁, handled)) :
    s₁ = s ∧ handled.response.success = false ∧
      ∀ s', handleRequest lib cfg s' msg = some (s', handled) := by
  rw [environmentOf] at h
  rw [handleRequest] at hhandled
  cases hprepare : prepare lib cfg msg with
  | none =>
      rw [hprepare] at hhandled
      cases hhandled
  | some result =>
      obtain ⟨env, good⟩ := result
      cases good with
      | true =>
          rw [hprepare] at h
          cases h
      | false =>
          rw [hprepare] at hhandled
          cases hhandled
          refine ⟨rfl, rfl, fun s' => ?_⟩
          rw [handleRequest, hprepare]
          rfl

/-- Streams that are closed and have the same number formats are as good as each other. -/
theorem calculateEnv_congr (hs : ∀ file, (s file).file = none) (hs' : ∀ file, (s' file).file = none)
    (hformat : ∀ file, (s file).format = (s' file).format) :
    calculateEnv lib cfg s env msg = calculateEnv lib cfg s' env msg := by
  cases hacc : lib.accessible with
  | true =>
      have hopened : openAll lib cfg s env msg = openAll lib cfg s' env msg := by
        funext file
        rw [openAll, openAll, hacc, OFStream.openFile_of_closed (hs file),
          OFStream.openFile_of_closed (hs' file), hformat]
      simp only [calculateEnv, hopened, hs, hs']
  | false => simp [calculateEnv, openAll, OFStream.openFile, hs, hs', hacc]

variable (s cfg msg) in
/-- Where files can be created, a request leaves the streams open iff `output_env` throws; its files
are written iff the streams were closed. -/
theorem calculateEnv_of_accessible (hacc : lib.accessible) {script : Script} {completed : Bool}
    (houtput : outputEnv lib.pow10 env = some (script, completed)) :
    ∃ s₁ outputFile files, calculateEnv lib cfg s env msg = some (s₁, outputFile, files) ∧
      (∀ file, (s₁ file).file.isSome = !completed) ∧
      (∀ file, (s₁ file).format =
        (insertionsOf script file).foldl NumberFormat.after (s file).format) ∧
      ∀ file, (files file).isSome = (s file).file.isNone := by
  have hopened : ∀ file, (openAll lib cfg s env msg file).file.isSome := fun file => by
    rw [openAll, hacc]
    exact OFStream.openFile_file_isSome _ _
  have hformat : ∀ file, (insertAll (openAll lib cfg s env msg) script file).format =
      (insertionsOf script file).foldl NumberFormat.after (s file).format := fun file => by
    rw [insertAll, OFStream.insertAll_format, openAll, OFStream.openFile_format]
  rw [calculateEnv, if_neg (by simp [← Option.isSome_iff_ne_none, hopened]), houtput]
  cases completed with
  | true =>
      refine ⟨_, _, _, rfl, fun file => ?_, fun file => ?_, fun file => ?_⟩
      · rw [OFStream.close_file]
        rfl
      · rw [OFStream.close_format, hformat]
      · cases (s file).file <;> simp [hopened]
  | false =>
      refine ⟨_, _, _, rfl, fun file => ?_, hformat, fun file => ?_⟩
      · rw [insertAll, OFStream.insertAll_file, hopened]
        rfl
      · cases (s file).file <;> simp [hopened]

/-- A request whose files are written finds a stream that is open, or an accessible directory. -/
theorem calculateEnv_isSome (h : (calculateEnv lib cfg s env msg).isSome) :
    (outputEnv lib.pow10 env).isSome ∧ ((s .env).file = none → lib.accessible) := by
  cases hopened : (openAll lib cfg s env msg .env).file.isNone with
  | true => simp [calculateEnv, hopened] at h
  | false =>
      refine ⟨by simpa [calculateEnv, hopened] using h, fun hs => ?_⟩
      by_contra hacc
      simp [openAll, OFStream.openFile, hs, hacc] at hopened

/-- Whether the streams are open after a request. -/
def threwAfter (lib : BellhopLibrary) (cfg : BellhopConfig) (threw : Bool) (msg : MOOSMsg) : Bool :=
  (environmentOf lib cfg msg).elim threw (!completes lib ·)

/-- A request is handled in the same way without the failed requests before it, unless the streams
are open. -/
theorem Together.handleRequest_eq (h : Together lib false s s')
    (henv : environmentOf lib cfg msg = some env) :
    handleRequest lib cfg s msg = handleRequest lib cfg s' msg := by
  have hformat : ∀ file, (s file).format = (s' file).format := fun file => by
    by_cases hfile : file = .env
    · rw [hfile]
      exact h.formatEnv rfl
    · exact h.format file hfile
  have hclosed : ∀ file, (s file).file = none := fun file => by simpa using h.isSome file
  rw [handleRequest_of_environment henv, handleRequest_of_environment henv,
    calculateEnv_congr hclosed h.closed hformat]

/-- Files can be created if files are written for a request. -/
theorem Together.accessible_of_handled (h : Together lib threw s s')
    (henv : environmentOf lib cfg msg = some env)
    (hhandled : (handleRequest lib cfg s msg).isSome) : lib.accessible := by
  rw [handleRequest_of_environment henv, Option.isSome_map] at hhandled
  cases threw with
  | true => exact h.accessible rfl
  | false =>
      have hclosed : (s .env).file = none := by simpa using h.isSome .env
      exact (calculateEnv_isSome hhandled).2 hclosed

/-- `output_env` is defined where the request is. -/
theorem outputEnv_isSome_of_handled (henv : environmentOf lib cfg msg = some env)
    (h : (handleRequest lib cfg s msg).isSome) : (outputEnv lib.pow10 env).isSome := by
  rw [handleRequest_of_environment henv, Option.isSome_map] at h
  exact (calculateEnv_isSome h).1

/-- One more request: unless it fails, it is handled without the failed requests before it, too. -/
theorem Together.step (h : Together lib threw s s')
    (hhandled : handleRequest lib cfg s msg = some (s₁, handled)) :
    ∃ s₁', (if throws lib cfg msg then some s'
        else (handleRequest lib cfg s' msg).map (·.1)) = some s₁' ∧
      Together lib (threwAfter lib cfg threw msg) s₁ s₁' := by
  cases henv : environmentOf lib cfg msg with
  | none =>
      obtain ⟨rfl, -, hrefused⟩ := handleRequest_of_none henv hhandled
      refine ⟨s', by simp [throws, henv, hrefused s'], ?_⟩
      rwa [threwAfter, henv]
  | some env =>
      have hdefined := Option.isSome_of_eq_some hhandled
      have hacc := h.accessible_of_handled henv hdefined
      obtain ⟨⟨script, completed⟩, houtput⟩ :=
        Option.isSome_iff_exists.1 (outputEnv_isSome_of_handled henv hdefined)
      obtain ⟨a, outputFile, files, ha, hsome, hformat, -⟩ :=
        calculateEnv_of_accessible cfg s msg hacc houtput
      obtain rfl : a = s₁ := by
        rw [handleRequest_of_environment henv, ha] at hhandled
        cases hhandled
        rfl
      have hcompletes : completes lib env = completed := by rw [completes, houtput]; rfl
      rw [threwAfter, throws, henv]
      simp only [Option.any_some, Option.elim_some, hcompletes]
      cases completed with
      | false =>
          -- the streams stay open
          refine ⟨s', rfl, h.closed, hsome, fun file hfile => ?_, nofun, fun _ => hacc⟩
          rw [hformat, outputEnv_foldl_after_of_throws houtput hfile, h.format file hfile]
      | true =>
          obtain ⟨b, outputFile', files', hb, hsome', hformat', -⟩ :=
            calculateEnv_of_accessible cfg s' msg hacc houtput
          refine ⟨b, ?_, fun file => by simpa using hsome' file, hsome, fun file hfile => ?_,
            fun _ => ?_, fun _ => hacc⟩
          · rw [handleRequest_of_environment henv, hb]
            rfl
          · rw [hformat, hformat', h.format file hfile]
          · rw [hformat, hformat', outputEnv_foldl_after_env houtput,
              outputEnv_foldl_after_env houtput]

/-- Files are written for a request iff the streams are closed; it is successful in any case. -/
theorem files_isSome_of_handled (hacc : lib.accessible)
    (henv : environmentOf lib cfg msg = some env)
    (h : handleRequest lib cfg s msg = some (s₁, handled)) :
    handled.response.success ∧ ∀ file, (handled.files file).isSome = (s file).file.isNone := by
  obtain ⟨⟨script, completed⟩, houtput⟩ :=
    Option.isSome_iff_exists.1 (outputEnv_isSome_of_handled henv (Option.isSome_of_eq_some h))
  obtain ⟨a, outputFile, files, ha, -, -, hfiles⟩ :=
    calculateEnv_of_accessible cfg s msg hacc houtput
  rw [handleRequest_of_environment henv, ha] at h
  cases h
  exact ⟨rfl, hfiles⟩

/-! ### Runs -/

theorem after_append (msgs : List MOOSMsg) (msg : MOOSMsg) :
    after lib cfg (msgs ++ [msg]) =
      (after lib cfg msgs).bind fun s => (handleRequest lib cfg s msg).map (·.1) := by
  rw [after, after, List.foldlM_append]
  simp

/-- After any requests, the streams are together with those without the failed ones. -/
theorem after_together (msgs : List MOOSMsg) (h : after lib cfg msgs = some s) :
    ∃ s', after lib cfg (withoutFailed lib cfg msgs) = some s' ∧
      Together lib (lastThrew lib cfg msgs) s s' := by
  induction msgs using List.reverseRecOn generalizing s with
  | nil =>
      cases h
      exact ⟨_, rfl, fun _ => rfl, fun _ => rfl, fun _ _ => rfl, fun _ => rfl, nofun⟩
  | append_singleton msgs msg ih =>
      rw [after_append, Option.bind_eq_some_iff] at h
      obtain ⟨a, ha, h⟩ := h
      obtain ⟨⟨s₁, handled⟩, hhandled, rfl⟩ := Option.map_eq_some_iff.1 h
      obtain ⟨a', ha', htogether⟩ := ih ha
      obtain ⟨s₁', hs₁', hstep⟩ := htogether.step hhandled
      refine ⟨s₁', ?_, ?_⟩
      · rw [withoutFailed, List.filter_append, List.filter_singleton, ← withoutFailed]
        cases hthrows : throws lib cfg msg with
        | true => simpa [ha', hthrows] using hs₁'
        | false => simpa [after_append, ha', hthrows] using hs₁'
      · have hlast : lastThrew lib cfg (msgs ++ [msg]) =
            threwAfter lib cfg (lastThrew lib cfg msgs) msg := by
          rw [lastThrew, threwAfter, List.filterMap_append]
          cases henv : environmentOf lib cfg msg <;> simp [henv, lastThrew]
        rwa [hlast]

/-- In a run, `output_env` is defined for every request for which files are written. -/
theorem outputEnv_isSome_of_after (msgs : List MOOSMsg) (h : after lib cfg msgs = some s) :
    ∀ env ∈ msgs.filterMap (environmentOf lib cfg), (outputEnv lib.pow10 env).isSome := by
  induction msgs using List.reverseRecOn generalizing s with
  | nil => simp
  | append_singleton msgs msg ih =>
      rw [after_append, Option.bind_eq_some_iff] at h
      obtain ⟨a, ha, h⟩ := h
      obtain ⟨_, hhandled, -⟩ := Option.map_eq_some_iff.1 h
      intro env henv
      rw [List.filterMap_append, List.mem_append] at henv
      rcases henv with henv | henv
      · exact ih ha env henv
      · apply outputEnv_isSome_of_handled (s := a) _ (Option.isSome_of_eq_some hhandled)
        simpa using henv

end CiBellhop

/-! ### No trace -/

section NoTrace

open CiBellhop

variable (lib : BellhopLibrary) (cfg : BellhopConfig)

/-- What becomes of a request after others. -/
def respond (history : List MOOSMsg) (msg : MOOSMsg) : Option Handled :=
  (after lib cfg history).bind fun s => (handleRequest lib cfg s msg).map (·.2)

/-- A request is successful only if `output_env` completed for it, and its files are those it has
if the failed requests before it have never been made. -/
def NoTrace (history : List MOOSMsg) (msg : MOOSMsg) : Prop :=
  ∃ handled ∈ respond lib cfg history msg,
    (handled.response.success →
      ∃ env ∈ environmentOf lib cfg msg, completes lib env) ∧
    ∃ handled' ∈ respond lib cfg (withoutFailed lib cfg history) msg,
      handled.files = handled'.files

variable {lib cfg} {history : List MOOSMsg} {msg : MOOSMsg} {env : Environment}

theorem completes_iff_sameDepths (h : (outputEnv lib.pow10 env).isSome) :
    completes lib env ↔ env.SameDepths := by
  obtain ⟨⟨script, completed⟩, houtput⟩ := Option.isSome_iff_exists.1 h
  rw [← outputEnv_completed_iff houtput, completes, houtput]
  rfl

theorem sameDepths_of_completes (h : completes lib env) : env.SameDepths := by
  obtain ⟨hdefined, -⟩ := (Option.any_eq_true_iff_get _ _).1 h
  exact (completes_iff_sameDepths hdefined).1 h

theorem mem_respond {handled : Handled} : handled ∈ respond lib cfg history msg ↔
    ∃ s s₁, after lib cfg history = some s ∧ handleRequest lib cfg s msg = some (s₁, handled) := by
  simp [respond, Option.mem_def, Option.bind_eq_some_iff]

theorem lastThrew_eq_false_iff {s : CiBellhop} (h : after lib cfg history = some s) :
    lastThrew lib cfg history = false ↔
      ∀ last ∈ (history.filterMap (environmentOf lib cfg)).getLast?, last.SameDepths := by
  rw [lastThrew]
  cases hlast : (history.filterMap (environmentOf lib cfg)).getLast? with
  | none => simp
  | some last =>
      have hdefined := outputEnv_isSome_of_after history h last (List.mem_of_getLast? hlast)
      simp [← completes_iff_sameDepths hdefined]

/-- A request leaves no trace, and finds none, iff its water columns have the same depths, and so
have those of the last request before it for which files were to be written. -/
theorem noTrace_iff_sameDepths (h : (respond lib cfg history msg).isSome) :
    NoTrace lib cfg history msg ↔ ∀ env ∈ environmentOf lib cfg msg, env.SameDepths ∧
      ∀ last ∈ (history.filterMap (environmentOf lib cfg)).getLast?, last.SameDepths := by
  obtain ⟨handled, hrespond⟩ := Option.isSome_iff_exists.1 h
  obtain ⟨s, s₁, hs, hhandled⟩ := mem_respond.1 hrespond
  obtain ⟨s', hs', htogether⟩ := after_together history hs
  cases henv : environmentOf lib cfg msg with
  | none =>
      obtain ⟨-, hrefused, hsame⟩ := handleRequest_of_none henv hhandled
      have hrespond' : handled ∈ respond lib cfg (withoutFailed lib cfg history) msg :=
        mem_respond.2 ⟨s', s', hs', hsame s'⟩
      have hno : ¬ handled.response.success := by simp [hrefused]
      exact iff_of_true ⟨handled, hrespond, fun h => absurd h hno, handled, hrespond', rfl⟩
        fun env h => absurd h (Option.not_mem_none env)
  | some env =>
      have hdefined := Option.isSome_of_eq_some hhandled
      have hacc := htogether.accessible_of_handled henv hdefined
      have hcompletes := completes_iff_sameDepths (outputEnv_isSome_of_handled henv hdefined)
      simp only [Option.mem_some, forall_eq', ← lastThrew_eq_false_iff hs, ← hcompletes]
      constructor
      · rintro ⟨_, hhandled₁, htruthful, handled', hhandled', hfiles⟩
        obtain rfl := Option.some_inj.1 (hrespond.symm.trans hhandled₁)
        obtain ⟨hsuccess, hwritten⟩ := files_isSome_of_handled hacc henv hhandled
        obtain ⟨a, s₁', ha, hhandled'⟩ := mem_respond.1 hhandled'
        obtain rfl := Option.some_inj.1 (hs'.symm.trans ha)
        obtain ⟨-, hwritten'⟩ := files_isSome_of_handled hacc henv hhandled'
        refine ⟨by simpa [henv] using htruthful hsuccess, ?_⟩
        -- without the failed requests the streams are closed, and the `.env` file is written
        have hopen : (s .env).file.isNone = (s' .env).file.isNone := by
          rw [← hwritten, ← hwritten', hfiles]
        rw [← htogether.isSome .env]
        simpa [htogether.closed] using hopen
      · rintro ⟨hcompleted, hlast⟩
        rw [hlast] at htogether
        have hrespond' : handled ∈ respond lib cfg (withoutFailed lib cfg history) msg := by
          apply mem_respond.2
          exact ⟨s', s₁, hs', by rw [← htogether.handleRequest_eq henv, hhandled]⟩
        exact ⟨handled, hrespond, fun _ => ⟨env, henv, hcompleted⟩, handled, hrespond', rfl⟩

/-- A request that replaces the water columns. -/
def overwriteWaterColumns (depths : List (List ℚ)) : IBellhopRequest where
  env := { waterColumn := depths.map fun column =>
    { sample := column.map fun depth => { depth := depth, cp := 1500 } } }
  waterColumnAction := .OVERWRITE

/-- Libraries that know requests for two water columns with depths 0 and 10, and for some with
depths 0, 10, 20 and 0, 12, 20. -/
def waterColumnLibrary : BellhopLibrary where
  parseForMoos string :=
    if string = "same" then overwriteWaterColumns [[0, 10], [0, 10]]
    else overwriteWaterColumns [[0, 10, 20], [0, 12, 20]]
  merge env request := { env with waterColumn := env.waterColumn ++ request.waterColumn }
  mergeColumn column request := { column with sample := column.sample ++ request.sample }
  pow10 _ := 1
  cos _ := .ofRat 1
  sin _ := .zero
  canonical path := path
  accessible := true

/-- No background and no node reports. -/
def emptyConfig : BellhopConfig where
  initialEnv := {}
  nodeReports _ := none

/-- The request with the given text. -/
def requestOf (string : String) : MOOSMsg where
  source := "requestor"
  string := string
  moosTime := .zero
  isoTime := "20200101T000000"

/-- A request with the same depths in its water columns leaves no trace after another one. -/
theorem noTrace_of_same_depths :
    (respond waterColumnLibrary emptyConfig [requestOf "same"] (requestOf "same")).isSome ∧
      NoTrace waterColumnLibrary emptyConfig [requestOf "same"] (requestOf "same") := by
  have h : (respond waterColumnLibrary emptyConfig [requestOf "same"]
      (requestOf "same")).isSome := by
    decide +kernel
  have hmsg : (environmentOf waterColumnLibrary emptyConfig (requestOf "same")).all
      (completes waterColumnLibrary) := by
    decide +kernel
  have hlast : ([requestOf "same"].filterMap
      (environmentOf waterColumnLibrary emptyConfig)).getLast?.all
        (completes waterColumnLibrary) := by
    decide +kernel
  refine ⟨h, (noTrace_iff_sameDepths h).2 fun env henv => ⟨?_, fun last hmem => ?_⟩⟩
  · exact sameDepths_of_completes ((Option.all_eq_true _ _).1 hmsg env henv)
  · exact sameDepths_of_completes ((Option.all_eq_true _ _).1 hlast last hmem)

/-- A request with other depths in its second water column is answered with success, and nothing is
written of the next one. -/
theorem trace_of_other_depths :
    ¬ NoTrace waterColumnLibrary emptyConfig [] (requestOf "other") ∧
      ¬ NoTrace waterColumnLibrary emptyConfig [requestOf "other"] (requestOf "same") := by
  constructor
  · rintro ⟨handled, hhandled, htruthful, -⟩
    have hsuccess : (respond waterColumnLibrary emptyConfig [] (requestOf "other")).all
        (·.response.success) := by
      decide +kernel
    have hthrows : throws waterColumnLibrary emptyConfig (requestOf "other") := by decide +kernel
    obtain ⟨env, henv, hcompletes⟩ := htruthful ((Option.all_eq_true _ _).1 hsuccess _ hhandled)
    rw [throws, henv] at hthrows
    simp [hcompletes] at hthrows
  · rintro ⟨handled, hhandled, -, handled', hhandled', hfiles⟩
    have hnothing : (respond waterColumnLibrary emptyConfig [requestOf "other"]
        (requestOf "same")).all fun handled => (handled.files .env).isNone := by
      decide +kernel
    have hwritten : (respond waterColumnLibrary emptyConfig
        (withoutFailed waterColumnLibrary emptyConfig [requestOf "other"])
        (requestOf "same")).all fun handled => (handled.files .env).isSome := by
      decide +kernel
    have h := (Option.all_eq_true _ _).1 hnothing _ hhandled
    have h' := (Option.all_eq_true _ _).1 hwritten _ hhandled'
    rw [← hfiles, Option.isSome_iff_ne_none] at h'
    exact h' (by simpa using h)

end NoTrace

end Bellhop

end Netsim
