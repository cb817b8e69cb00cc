import Mathlib.Algebra.Order.Floor.Ring
import Netsim.Bellhop.Layout

/-!
# The maximum number of receivers

`handle_request` refuses a request if the product of the numbers of receivers in depth and in range
exceeds `max_number_of_receivers`. The product is computed modulo `2 ^ 32`, and before
`update_positions` replaces the number in range by the change of the range, cut into pieces of
`auto_receiver_ranges_delta`. So the limit holds for what is run iff the product does not wrap
around, or the range does not change too much (`withinLimit_iff_limited`).
-/

namespace Netsim

namespace Bellhop

open OutputStream

/-- The number of receivers. -/
def Receivers.count (receivers : Receivers) : ℕ :=
  receivers.numberInDepth.toNat * receivers.numberInRange.toNat

/-- The lines of the receivers. -/
def receiverLines (receivers : Receivers) : List Insertion :=
  firstAndLast receivers.numberInDepth receivers.firstDepth receivers.lastDepth ++
    firstAndLast receivers.numberInRange (receivers.firstRange / 1000) (receivers.lastRange / 1000)

/-- The numbers of receivers stand in the `.env` file. -/
theorem receiverLines_infix_outputEnv {pow10 : ℚ → ℚ} {env : Environment} {script : Script}
    (h : outputEnv pow10 env = some (script, true)) :
    out .env (receiverLines env.receivers) <:+: script := by
  obtain ⟨first, column, back, deepest, grid, -, -, -, -, -,
    ⟨-, hcompleted, -⟩ | ⟨rows, box, -, -, rfl⟩⟩ := outputEnv_cases h
  · cases hcompleted
  -- after the lines of the sources
  · have hremainder : out .env (receiverLines env.receivers) <:+: remainder pow10 env box :=
      ⟨out .env [.text env.bottom.type.letter] ++
          (if 1 < env.waterColumn.length then out .env [.text "*"] else []) ++
          out .env [.text "' 0", endl] ++ mediumLines pow10 .brc env.bottom ++
          out .env (firstAndLast env.sources.numberInDepth env.sources.firstDepth
            env.sources.lastDepth), _, by
        simp only [remainder, receiverLines, out, List.map_append, List.append_assoc]
        rfl⟩
    exact (hremainder.trans (List.infix_append_right)).trans List.infix_append_left

namespace CiBellhop

variable (lib : BellhopLibrary) (cfg : BellhopConfig)

/-- If files are written for a request, the receivers do not exceed the maximum, and their numbers
stand in the `.env` file if it is complete. -/
def WithinLimit (msg : MOOSMsg) : Prop :=
  (prepare lib cfg msg).isSome ∧
    ∀ env ∈ environmentOf lib cfg msg, (env.receivers.count : ℤ) ≤ cfg.maxNumberOfReceivers ∧
      ∀ s s₁ outputFile files written,
        calculateEnv lib cfg s env msg = some (s₁, outputFile, files) → completes lib env →
          files .env = some written →
            symbols (receiverLines env.receivers) <:+: written.flatMap Token.symbols

/-- How the range changes while we look ahead. -/
def rangeChange (now : Double) (info : AdaptiveInfo) (other self : NodeReport) : Double :=
  let other := if cfg.extrapolateNav then extrapolate lib now other else other
  let seconds : Double := .ofRat ((info.lookAheadSeconds.toNat : ℤ).bmod (2 ^ 32) : ℤ)
  (distance (ahead lib self seconds) (ahead lib other seconds)).sub
    (distance (other.x, other.y) (self.x, self.y))

/-- The quotient of a change and `delta` is a number of ranges that the maximum allows. -/
def FewRanges (change : Double) (delta : ℤ) (inDepth : ℕ) : Prop :=
  let pieces := change.abs.div (.ofRat delta)
  let most : ℤ := if inDepth = 0 then 2 ^ 32 - 1 else cfg.maxNumberOfReceivers / inDepth
  pieces.isFinite ∧ -1 < pieces.toRat ∧ pieces.toRat ≤ most

/-- The request is refused; or its positions are not known; or the number of receivers does not wrap
around, if the ranges are not automatic, and the change of the range is small, if they are. -/
def Limited (msg : MOOSMsg) : Prop :=
  let env := mergedEnv lib cfg (lib.parseForMoos msg.string)
  let info := env.adaptiveInfo
  tooManyReceivers cfg env ∨
    ((info.autoReceiverRanges ∨ info.autoSourceDepth) ∧
      (cfg.nodeReports info.contact = none ∨ cfg.nodeReports info.ownship = none)) ∨
    if info.autoReceiverRanges then
      ∀ other ∈ cfg.nodeReports info.contact, ∀ self ∈ cfg.nodeReports info.ownship,
        FewRanges cfg (rangeChange lib cfg msg.moosTime info other self)
          info.autoReceiverRangesDelta env.receivers.numberInDepth.toNat
    else env.receivers.count < 2 ^ 32

/-! ### The `.env` file -/

variable {lib cfg} in
/-- The numbers of receivers stand in the `.env` file of a request. -/
theorem receiverLines_infix_written {s s₁ : CiBellhop} {env : Environment} {msg : MOOSMsg}
    {outputFile : String} {files : EnvFile → Option (List Token)} {written : List Token}
    (h : calculateEnv lib cfg s env msg = some (s₁, outputFile, files))
    (hcompletes : completes lib env) (hwritten : files .env = some written) :
    symbols (receiverLines env.receivers) <:+: written.flatMap Token.symbols := by
  obtain ⟨script, completed, houtput, hsymbols⟩ := flatMap_files h hwritten
  obtain rfl : completed = true := by
    rwa [completes, houtput, Option.any_some] at hcompletes
  obtain ⟨before, after, hscript⟩ := receiverLines_infix_outputEnv houtput
  have hinsertions : insertionsOf script .env = insertionsOf before .env ++
      receiverLines env.receivers ++ insertionsOf after .env := by
    rw [← hscript]
    simp [insertionsOf, out, List.filterMap_map]
  rw [hsymbols, hinsertions, symbols_append, symbols_append]
  exact ⟨_, _, rfl⟩

variable {lib cfg} in
/-- So the limit is about the number of receivers. -/
theorem withinLimit_iff_count_le {msg : MOOSMsg} : WithinLimit lib cfg msg ↔
    (prepare lib cfg msg).isSome ∧ ∀ env ∈ environmentOf lib cfg msg,
      (env.receivers.count : ℤ) ≤ cfg.maxNumberOfReceivers := by
  refine and_congr_right fun _ => forall₂_congr fun env _ => ?_
  exact and_iff_left fun s s₁ outputFile files written h hcompletes hwritten =>
    receiverLines_infix_written h hcompletes hwritten

/-! ### The number of ranges -/

section Ranges

variable {cfg}

/-- The product fits and is within the maximum iff the quotient is small. -/
theorem fewRanges_iff {change : Double} {delta : ℤ} {inDepth : ℕ}
    (hmax : 0 ≤ cfg.maxNumberOfReceivers) (hint : cfg.maxNumberOfReceivers < 2 ^ 31) :
    FewRanges cfg change delta inDepth ↔ ∃ n ∈ numberInRange change delta,
      ((inDepth * n.toNat : ℕ) : ℤ) ≤ cfg.maxNumberOfReceivers := by
  rw [FewRanges, numberInRange]
  generalize change.abs.div (.ofRat delta) = pieces
  -- in terms of the number of pieces
  have hpieces : (∃ n ∈ (pieces.ceilToUnsigned 32).map UInt32.ofNat,
      ((inDepth * n.toNat : ℕ) : ℤ) ≤ cfg.maxNumberOfReceivers) ↔
        pieces.isFinite ∧ 0 ≤ ⌈pieces.toRat⌉ ∧ ⌈pieces.toRat⌉ < 2 ^ 32 ∧
          inDepth * ⌈pieces.toRat⌉ ≤ cfg.maxNumberOfReceivers := by
    constructor
    · rintro ⟨n, hn, hproduct⟩
      obtain ⟨m, hm, rfl⟩ := Option.map_eq_some_iff.1 hn
      obtain ⟨hfinite, hceil, hlt⟩ := Ieee.Value.mem_ceilToUnsigned_iff.1 hm
      rw [UInt32.toNat_ofNat_of_lt' hlt] at hproduct
      rw [hceil]
      exact ⟨hfinite, by omega, by omega, by exact_mod_cast hproduct⟩
    · rintro ⟨hfinite, hnonneg, hlt, hproduct⟩
      obtain ⟨m, hm⟩ := Int.eq_ofNat_of_zero_le hnonneg
      rw [hm] at hproduct hlt
      have hlt' : m < 2 ^ 32 := by omega
      refine ⟨UInt32.ofNat m, Option.mem_map_of_mem _ ?_, ?_⟩
      · exact Ieee.Value.mem_ceilToUnsigned_iff.2 ⟨hfinite, hm, hlt'⟩
      · rw [UInt32.toNat_ofNat_of_lt' hlt']
        exact_mod_cast hproduct
  have hlow : -1 < pieces.toRat ↔ 0 ≤ ⌈pieces.toRat⌉ := by
    rw [Int.le_ceil_iff, Int.cast_zero, zero_sub]
  rw [hpieces, hlow, ← Int.ceil_le]
  refine and_congr_right fun _ => and_congr_right fun hnonneg => ?_
  split_ifs with hzero
  · rw [hzero, Nat.cast_zero, zero_mul]
    omega
  · have hdepth : (0 : ℤ) < inDepth := by omega
    rw [Int.le_ediv_iff_mul_le hdepth, mul_comm (_ : ℤ) (inDepth : ℤ)]
    refine ⟨fun hproduct => ⟨?_, hproduct⟩, fun h => h.2⟩
    have hself : ⌈pieces.toRat⌉ ≤ inDepth * ⌈pieces.toRat⌉ :=
      le_mul_of_one_le_left hnonneg hdepth
    omega

end Ranges

/-! ### The number of receivers after `update_positions` -/

section Positions

variable {lib cfg} {now : Double} {env : Environment} {other self : NodeReport}

/-- A position is needed and not known. -/
theorem updatePositions_of_unknown
    (hneeded : env.adaptiveInfo.autoReceiverRanges ∨ env.adaptiveInfo.autoSourceDepth)
    (hunknown : cfg.nodeReports env.adaptiveInfo.contact = none ∨
      cfg.nodeReports env.adaptiveInfo.ownship = none) :
    updatePositions lib cfg now env = some none := by
  have hneeded' : (!env.adaptiveInfo.autoReceiverRanges && !env.adaptiveInfo.autoSourceDepth) =
      false := by
    rcases hneeded with h | h <;> simp [h]
  simp only [updatePositions, hneeded', Bool.false_eq_true, if_false]
  rcases hunknown with hother | hself
  · simp only [hother]
  · cases hother : cfg.nodeReports env.adaptiveInfo.contact <;> simp only [hself]

/-- Without automatic ranges the number of receivers is that of the request. -/
theorem count_updatePositions_of_manual (hranges : env.adaptiveInfo.autoReceiverRanges = false)
    (hknown : env.adaptiveInfo.autoSourceDepth → cfg.nodeReports env.adaptiveInfo.contact ≠ none ∧
      cfg.nodeReports env.adaptiveInfo.ownship ≠ none) :
    (updatePositions lib cfg now env).map (Option.map (·.receivers.count)) =
      some (some env.receivers.count) := by
  unfold updatePositions
  cases hdepth : env.adaptiveInfo.autoSourceDepth with
  | false => simp [hranges, hdepth]
  | true =>
      obtain ⟨hother, hself⟩ := hknown hdepth
      obtain ⟨other, hother⟩ := Option.ne_none_iff_exists'.1 hother
      obtain ⟨self, hself⟩ := Option.ne_none_iff_exists'.1 hself
      simp [hranges, hdepth, hother, hself]

/-- With automatic ranges there is one for each piece of the change of the range. -/
theorem count_updatePositions_of_auto (hranges : env.adaptiveInfo.autoReceiverRanges)
    (hother : cfg.nodeReports env.adaptiveInfo.contact = some other)
    (hself : cfg.nodeReports env.adaptiveInfo.ownship = some self) :
    (updatePositions lib cfg now env).map (Option.map (·.receivers.count)) =
      (numberInRange (rangeChange lib cfg now env.adaptiveInfo other self)
        env.adaptiveInfo.autoReceiverRangesDelta).map fun n =>
          some (env.receivers.numberInDepth.toNat * n.toNat) := by
  unfold updatePositions rangeChange
  simp only [hranges, hother, hself, Bool.not_true, Bool.false_and, Bool.false_eq_true, if_false,
    if_true, Option.map_map]
  -- the depth of the source has nothing to do with the receivers
  cases env.adaptiveInfo.autoSourceDepth <;> rfl

end Positions

section Limit

variable {lib cfg} {msg : MOOSMsg} {env : Environment}

/-- What is run, in terms of the number of receivers. -/
theorem withinLimit_of_prepared (hmerged : mergedEnv lib cfg (lib.parseForMoos msg.string) = env)
    (hfew : tooManyReceivers cfg env = false) :
    WithinLimit lib cfg msg ↔
      ∃ count : Option ℕ,
        count ∈ (updatePositions lib cfg msg.moosTime env).map (Option.map (·.receivers.count)) ∧
        ∀ n ∈ count, (n : ℤ) ≤ cfg.maxNumberOfReceivers := by
  rw [withinLimit_iff_count_le, environmentOf, prepare, hmerged]
  simp only [hfew, Bool.false_eq_true, if_false]
  cases updatePositions lib cfg msg.moosTime env with
  | none => simp
  | some positions => cases positions <;> simp

/-- A request that is refused runs nothing. -/
theorem withinLimit_of_refused
    (hmany : tooManyReceivers cfg (mergedEnv lib cfg (lib.parseForMoos msg.string))) :
    WithinLimit lib cfg msg := by
  rw [withinLimit_iff_count_le, environmentOf, prepare]
  simp [hmany]

/-- A product that is not refused is within the maximum iff it has not wrapped around. -/
theorem count_le_iff (hfew : tooManyReceivers cfg env = false)
    (hmax : 0 ≤ cfg.maxNumberOfReceivers) (hint : cfg.maxNumberOfReceivers < 2 ^ 31) :
    (env.receivers.count : ℤ) ≤ cfg.maxNumberOfReceivers ↔ env.receivers.count < 2 ^ 32 := by
  have hmod : cfg.maxNumberOfReceivers % 2 ^ 32 = cfg.maxNumberOfReceivers := by omega
  have hle : (env.receivers.count % 2 ^ 32 : ℕ) ≤ cfg.maxNumberOfReceivers := by
    rw [tooManyReceivers, hmod, decide_eq_false_iff_not, not_lt, UInt32.toNat_mul] at hfew
    exact_mod_cast hfew
  omega

end Limit

/-- What is run has at most the maximum number of receivers iff the request is refused, or positions
are missing, or the product does not wrap around and the change of the range is small. -/
theorem withinLimit_iff_limited (msg : MOOSMsg) (hmax : 0 ≤ cfg.maxNumberOfReceivers)
    (hint : cfg.maxNumberOfReceivers < 2 ^ 31) :
    WithinLimit lib cfg msg ↔ Limited lib cfg msg := by
  simp only [Limited]
  generalize hmerged : mergedEnv lib cfg (lib.parseForMoos msg.string) = env
  cases hfew : tooManyReceivers cfg env with
  | true => exact iff_of_true (withinLimit_of_refused (hmerged ▸ hfew)) (.inl rfl)
  | false =>
      rw [withinLimit_of_prepared hmerged hfew]
      simp only [Bool.false_eq_true, false_or]
      by_cases hunknown : (env.adaptiveInfo.autoReceiverRanges ∨ env.adaptiveInfo.autoSourceDepth) ∧
          (cfg.nodeReports env.adaptiveInfo.contact = none ∨
            cfg.nodeReports env.adaptiveInfo.ownship = none)
      · refine iff_of_true ?_ (.inl hunknown)
        rw [updatePositions_of_unknown hunknown.1 hunknown.2]
        simp
      rw [or_iff_right hunknown]
      cases hranges : env.adaptiveInfo.autoReceiverRanges with
      | false =>
          rw [count_updatePositions_of_manual hranges (by simpa [hranges] using hunknown)]
          rw [if_neg Bool.false_ne_true, ← count_le_iff hfew hmax hint]
          simp
      | true =>
          obtain ⟨hother, hself⟩ : cfg.nodeReports env.adaptiveInfo.contact ≠ none ∧
              cfg.nodeReports env.adaptiveInfo.ownship ≠ none := by
            simpa [hranges] using hunknown
          obtain ⟨other, hother⟩ := Option.ne_none_iff_exists'.1 hother
          obtain ⟨self, hself⟩ := Option.ne_none_iff_exists'.1 hself
          rw [count_updatePositions_of_auto hranges hother hself]
          simp only [hother, hself, Option.mem_some, forall_eq']
          rw [if_true, fewRanges_iff hmax hint]
          simp

/-- Libraries that know a request for the receivers of `env`, and a trigonometry that is right for a
vehicle that moves east for a minute. -/
def receiversLibrary (env : Environment) : BellhopLibrary where
  parseForMoos _ := { env := env }
  merge initial request :=
    { initial with receivers := request.receivers, adaptiveInfo := request.adaptiveInfo }
  mergeColumn column request := { column with sample := column.sample ++ request.sample }
  pow10 _ := 1
  cos _ := .ofRat 1
  sin _ := .zero
  canonical path := path
  accessible := true

/-- No background; a contact moves east with one meter per second, from where our vehicle is. -/
def eastConfig : BellhopConfig where
  initialEnv := {}
  nodeReports name := some
    { time := .zero, x := .zero, y := .zero, depth := .zero,
      speed := if name = "contact" then .ofRat 1 else .zero, heading := .ofRat 90 }

/-- The 60 meters that a contact moves on from 4.4 are more than 60 when rounded. -/
example :
    let other : NodeReport := ⟨.zero, .ofRat (22 / 5), .zero, .zero, .ofRat 1, .ofRat 90⟩
    let self : NodeReport := ⟨.zero, .zero, .zero, .zero, .zero, .ofRat 90⟩
    numberInRange (rangeChange (receiversLibrary {}) eastConfig .zero {} other self) 1 =
      some 61 := by
  decide +kernel

/-- A request for a thousand receivers in depth and a thousand in range is within the limit. -/
theorem withinLimit_of_million :
    (0 ≤ eastConfig.maxNumberOfReceivers ∧ eastConfig.maxNumberOfReceivers < 2 ^ 31) ∧
      WithinLimit
        (receiversLibrary { receivers := { numberInDepth := 1000, numberInRange := 1000 } })
        eastConfig (requestOf "") := by
  have hmax : 0 ≤ eastConfig.maxNumberOfReceivers ∧
      eastConfig.maxNumberOfReceivers < 2 ^ 31 := by decide
  refine ⟨hmax, (withinLimit_iff_limited _ _ _ hmax.1 hmax.2).2 (.inr (.inr ?_))⟩
  show 1000 * 1000 < 2 ^ 32
  decide

/-- The product of 65536 and 65536 wraps around, and 20000 receivers in depth are multiplied by the
60 ranges that the contact crosses. -/
theorem not_withinLimit_of_wrap :
    ¬ WithinLimit
        (receiversLibrary { receivers := { numberInDepth := 65536, numberInRange := 65536 } })
        eastConfig (requestOf "") ∧
      ¬ WithinLimit
        (receiversLibrary { receivers := { numberInDepth := 20000, numberInRange := 1 }
                            adaptiveInfo := { contact := "contact", autoReceiverRanges := true } })
        eastConfig (requestOf "") := by
  have hexceeded : ∀ lib, (environmentOf lib eastConfig (requestOf "")).any (fun env =>
      eastConfig.maxNumberOfReceivers < env.receivers.count) →
        ¬ WithinLimit lib eastConfig (requestOf "") := by
    intro lib hany h
    obtain ⟨env, henv, hlarge⟩ := (Option.any_eq_true _ _).1 hany
    exact absurd (h.2 env henv).1 (not_le_of_gt (of_decide_eq_true hlarge))
  exact ⟨hexceeded _ (by decide +kernel), hexceeded _ (by decide +kernel)⟩

end CiBellhop

end Bellhop

end Netsim
