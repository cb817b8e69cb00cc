import Netsim.Jack.ExactPlayback

/-!
# The start of playback

A packet is due at its `buffer_start_time` less the calibration, but `jack_process` compares the
`buffer_start_time` alone with the time of the cycle before it converts the frames until the packet
is due to an unsigned number. The number is negative for a cycle that begins after the packet is due
and before its `buffer_start_time`. Playback begins in the first cycle that reaches the packet, and
at the right frame, iff that cycle does not begin there and none before it begins too early for the
number of frames to fit (`begins_iff_inTime`).
-/

namespace Netsim

namespace JackThread

open Playback

/-- The frames from the beginning of a cycle until a packet that starts at `startTime` is due. -/
def framesUntil (cfg : JackConfig) (startTime : ℚ) (cycle : Cycle) : ℚ :=
  (startTime - cfg.calibrationSeconds - cycle.bufferStartTime) * cfg.fs

/-- The packet is due before the cycle has ended. -/
def Reaches (cfg : JackConfig) (startTime : ℚ) (cycle : Cycle) : Prop :=
  ⌊framesUntil cfg startTime cycle⌋ ≤ cycle.nframes

/-- The packet is due after all of the cycles. -/
def AllBefore (cfg : JackConfig) (startTime : ℚ) (cycles : List Cycle) : Prop :=
  ∀ c ∈ cycles, ¬ Reaches cfg startTime c

/-- A packet that starts with `audio` is queued for port `i` and has not begun, and there are enough
buffers to begin. -/
structure Available (cfg : JackConfig) (i : ℕ) (audio : AudioBuffer) (s : JackThread) : Prop where
  port : s.outputPort i
  new : (s.playback (cfg.firstModemIndex + i)).newPacket
  front : ∃ b queue, (s.playback (cfg.firstModemIndex + i)).queue = b :: queue ∧
    b.buffer = some audio
  enough : cfg.minPlaybackBufferSize % 2 ^ 64 ≤
    (s.playback (cfg.firstModemIndex + i)).queue.length

/-- The packet waits as it did in `s₀`, and nothing has been written since. -/
structure StillWaits (cfg : JackConfig) (i : ℕ) (s₀ s : JackThread) : Prop where
  new : (s.playback (cfg.firstModemIndex + i)).newPacket
  queue : (s.playback (cfg.firstModemIndex + i)).queue =
    (s₀.playback (cfg.firstModemIndex + i)).queue
  written : s.written i = s₀.written i

/-- Playback of the packet that is queued in `s₀` begins in the first of the cycles that reaches
the time when it is due. -/
structure BeginsOnTime (cfg : JackConfig) (i : ℕ) (startTime : ℚ) (s₀ : JackThread)
    (cycles : List Cycle) : Prop where
  /-- The packet waits until then. -/
  waits : ∀ pre, pre <+: cycles → AllBefore cfg startTime pre →
    ∃ s, after cfg s₀ (pre.map .process) = some s ∧ StillWaits cfg i s₀ s
  /-- It is played from the frame at which it is due, or from the first one if it is late. -/
  begins : ∀ pre c post, cycles = pre ++ c :: post → AllBefore cfg startTime pre →
    Reaches cfg startTime c → ∃ s out, after cfg s₀ ((pre ++ [c]).map .process) = some s ∧
      s.written i = s₀.written i ++ out ∧
      Played { s₀.playback (cfg.firstModemIndex + i) with index := 0 }
        (s.playback (cfg.firstModemIndex + i)) ⌊framesUntil cfg startTime c⌋.toNat c.nframes out
  /-- No negative number is converted to `jack_nframes_t`. -/
  converted : ∀ pre c post, cycles = pre ++ c :: post → AllBefore cfg startTime pre →
    c.bufferStartTime < startTime → 0 ≤ framesUntil cfg startTime c

/-- Until the packet is reached, no cycle begins between the time when it is due and its
`buffer_start_time`, and none begins 2³² frames early. -/
def InTime (cfg : JackConfig) (startTime : ℚ) (cycles : List Cycle) : Prop :=
  ∀ pre c post, cycles = pre ++ c :: post → AllBefore cfg startTime pre →
    (c.bufferStartTime < startTime → c.bufferStartTime ≤ startTime - cfg.calibrationSeconds) ∧
      framesUntil cfg startTime c < 2 ^ 32

/-- The cycles have the same lengths and times: they differ only in what a number that does not fit
is converted to. -/
def SameCycles (cycles cycles' : List Cycle) : Prop :=
  cycles'.map (fun c => (c.nframes, c.bufferStartTime)) =
    cycles.map fun c => (c.nframes, c.bufferStartTime)

/-! ### The frame at which playback starts -/

section FrameStart

variable {cfg : JackConfig} {startTime : ℚ} {c c' : Cycle} {cycles cycles' : List Cycle}

theorem framesUntil_nonneg_iff (hfs : 0 < cfg.fs) : 0 ≤ framesUntil cfg startTime c ↔
    c.bufferStartTime ≤ startTime - cfg.calibrationSeconds := by
  rw [framesUntil, mul_nonneg_iff_of_pos_right (by exact_mod_cast hfs), sub_nonneg]

/-- In time, playback starts at the frame at which the packet is due. -/
theorem frameStart_eq (hfs : 0 < cfg.fs) (hcal : 0 ≤ cfg.calibrationSeconds)
    (hdue : c.bufferStartTime < startTime →
      c.bufferStartTime ≤ startTime - cfg.calibrationSeconds)
    (hlt : framesUntil cfg startTime c < 2 ^ 32) :
    frameStart cfg c startTime = ⌊framesUntil cfg startTime c⌋.toNat := by
  have hframes : (startTime - c.bufferStartTime - cfg.calibrationSeconds) * cfg.fs =
      framesUntil cfg startTime c := by
    rw [framesUntil]
    ring
  rw [frameStart]
  simp only [hframes]
  by_cases hfuture : c.bufferStartTime < startTime
  · have hnonneg := (framesUntil_nonneg_iff hfs).2 (hdue hfuture)
    rw [if_pos hfuture, if_pos ⟨by linarith, hlt⟩]
    rfl
  -- a packet whose time has passed is late, with or without the calibration
  · have hnonpos : framesUntil cfg startTime c ≤ 0 := by
      refine mul_nonpos_of_nonpos_of_nonneg ?_ (Nat.cast_nonneg _)
      linarith
    have hfloor : ⌊framesUntil cfg startTime c⌋ ≤ 0 := Int.floor_nonpos hnonpos
    rw [if_neg hfuture, Int.toNat_of_nonpos hfloor]

theorem InTime.of_append {more : List Cycle} (h : InTime cfg startTime (cycles ++ more)) :
    InTime cfg startTime cycles := by
  rintro pre d post rfl
  exact h pre d (post ++ more) (by simp)

/-- Whether a cycle reaches the packet depends on its length and time only. -/
theorem reaches_congr (hn : c'.nframes = c.nframes)
    (ht : c'.bufferStartTime = c.bufferStartTime) :
    Reaches cfg startTime c' ↔ Reaches cfg startTime c := by
  rw [Reaches, Reaches, framesUntil, framesUntil, hn, ht]

theorem SameCycles.allBefore (h : SameCycles cycles cycles')
    (hbefore : AllBefore cfg startTime cycles') : AllBefore cfg startTime cycles := by
  intro c hc hreaches
  have hmem : (c.nframes, c.bufferStartTime) ∈
      cycles'.map fun c => (c.nframes, c.bufferStartTime) := by
    rw [h]
    exact List.mem_map_of_mem hc
  obtain ⟨c', hc', heq⟩ := List.mem_map.1 hmem
  obtain ⟨hn, ht⟩ := Prod.mk.inj heq
  exact hbefore c' hc' ((reaches_congr hn ht).2 hreaches)

theorem SameCycles.inTime (h : SameCycles cycles cycles') (hin : InTime cfg startTime cycles) :
    InTime cfg startTime cycles' := by
  rintro pre' c' post' rfl hbefore
  -- the same place in the given cycles
  rw [SameCycles, List.map_append, List.map_cons] at h
  obtain ⟨pre, tail, rfl, hpre, htail⟩ := List.map_eq_append_iff.1 h.symm
  obtain ⟨c, post, rfl, hc, -⟩ := List.map_eq_cons_iff.1 htail
  obtain ⟨hn, ht⟩ := Prod.mk.inj hc
  have hsame : SameCycles pre pre' := hpre.symm
  have hc := hin pre c post rfl (hsame.allBefore hbefore)
  rwa [framesUntil, ht] at hc

end FrameStart

/-! ### Cycles while a packet waits -/

section Cycles

variable {cfg : JackConfig} {i : ℕ} {audio : AudioBuffer} {s₀ s : JackThread} {c : Cycle}

theorem after_cycles_concat {cycles : List Cycle} {s' : JackThread}
    (hs : after cfg s₀ (cycles.map .process) = some s) (hs' : s.jackProcess cfg c = some s') :
    after cfg s₀ ((cycles ++ [c]).map .process) = some s' := by
  rw [List.map_append]
  exact (Run.exec_concat_eq_some _ _).2 ⟨s, hs, hs'⟩

/-- A healthy thread goes through all cycles of its buffer size. -/
theorem exists_after_cycles (hcfg : cfg.continuous = false) (hs₀ : s₀.Healthy)
    (h1 : 1 ≤ s₀.bufferSize) (cycles : List Cycle)
    (hn : ∀ c ∈ cycles, c.nframes = s₀.bufferSize) :
    ∃ s, after cfg s₀ (cycles.map .process) = some s ∧ s.Healthy ∧ SameSetup s₀ s := by
  induction cycles using List.reverseRecOn with
  | nil => exact ⟨s₀, rfl, hs₀, rfl, rfl, rfl⟩
  | append_singleton cycles c ih =>
      obtain ⟨s, hs, hhealthy, hsetup⟩ := ih fun d hd => hn d (List.mem_append_left _ hd)
      have hc : c.nframes = s₀.bufferSize := hn c (by simp)
      obtain ⟨s', hs', hhealthy', hsetup', -⟩ := exists_jackProcess hcfg hhealthy
        (hc.trans hsetup.bufferSize.symm).le (hc ▸ h1)
      exact ⟨s', after_cycles_concat hs hs', hhealthy', hsetup.trans hsetup'⟩

theorem healthy_after_cycles (hcfg : cfg.continuous = false) (hs₀ : s₀.Healthy)
    (h1 : 1 ≤ s₀.bufferSize) {cycles : List Cycle} (hn : ∀ c ∈ cycles, c.nframes = s₀.bufferSize)
    (hs : after cfg s₀ (cycles.map .process) = some s) : s.Healthy ∧ SameSetup s₀ s := by
  obtain ⟨t, ht, h⟩ := exists_after_cycles hcfg hs₀ h1 cycles hn
  rwa [Option.some_inj.1 (hs.symm.trans ht)]

/-- A cycle that ends before the start frame leaves the packet waiting. -/
theorem StillWaits.exists_of_lt (hcfg : cfg.continuous = false) (hi : i < cfg.localNumberOfModems)
    (havailable : Available cfg i audio s₀) (h : StillWaits cfg i s₀ s) (hs : s.Healthy)
    (hsetup : SameSetup s₀ s) (hn : c.nframes = s₀.bufferSize) (h1 : 1 ≤ c.nframes)
    (hlt : c.nframes < frameStart cfg c audio.bufferStartTime) :
    ∃ s', s.jackProcess cfg c = some s' ∧ StillWaits cfg i s₀ s' := by
  obtain ⟨b, queue, hqueue, hb⟩ := havailable.front
  obtain ⟨s', hs', -, -, hplays⟩ :=
    exists_jackProcess hcfg hs (hn.trans hsetup.bufferSize.symm).le h1
  refine ⟨s', hs', ?_⟩
  obtain ⟨hnew, hqueue', hwritten⟩ := (hplays i hi).waits h.new (h.queue.trans hqueue) hb
    fun hcan => absurd hcan.2.1 (Nat.not_le.2 hlt)
  exact ⟨hnew, hqueue'.trans h.queue, hwritten.trans h.written⟩

/-- A cycle that contains the start frame plays the packet from there on. -/
theorem StillWaits.exists_of_le (hcfg : cfg.continuous = false) (hi : i < cfg.localNumberOfModems)
    (havailable : Available cfg i audio s₀) (h : StillWaits cfg i s₀ s) (hs : s.Healthy)
    (hsetup : SameSetup s₀ s) (hn : c.nframes = s₀.bufferSize) (h1 : 1 ≤ c.nframes)
    (hle : frameStart cfg c audio.bufferStartTime ≤ c.nframes) :
    ∃ s' out, s.jackProcess cfg c = some s' ∧ s'.written i = s₀.written i ++ out ∧
      Played { s₀.playback (cfg.firstModemIndex + i) with index := 0 }
        (s'.playback (cfg.firstModemIndex + i)) (frameStart cfg c audio.bufferStartTime)
          c.nframes out := by
  obtain ⟨b, queue, hqueue, hb⟩ := havailable.front
  have hn : c.nframes = s.bufferSize := hn.trans hsetup.bufferSize.symm
  obtain ⟨s', hs', -, -, hplays⟩ := exists_jackProcess hcfg hs hn.le h1
  obtain ⟨out, hwritten, hplayed⟩ := (hplays i hi).begins hs hn h1 h.new (h.queue.trans hqueue) hb
    ⟨by rw [hsetup.outputPort, havailable.port], hle, h.queue ▸ havailable.enough⟩
  refine ⟨s', out, hs', by rw [hwritten, h.written], ?_⟩
  -- but for the index, the packet is still as it was queued
  have hsame : { s.playback (cfg.firstModemIndex + i) with index := 0 } =
      { s₀.playback (cfg.firstModemIndex + i) with index := 0 } := by
    simp only [h.queue, h.new, havailable.new]
  rwa [hsame] at hplayed

end Cycles

/-! ### The first cycle that reaches the packet -/

section Begins

variable {cfg : JackConfig} {i : ℕ} {audio : AudioBuffer} {s₀ : JackThread} {cycles : List Cycle}

/-- In time, the packet waits until a cycle reaches it. -/
theorem exists_after_stillWaits (hcfg : cfg.continuous = false) (hi : i < cfg.localNumberOfModems)
    (hfs : 0 < cfg.fs) (hcal : 0 ≤ cfg.calibrationSeconds) (hs₀ : s₀.Healthy)
    (h1 : 1 ≤ s₀.bufferSize) (havailable : Available cfg i audio s₀)
    (hn : ∀ c ∈ cycles, c.nframes = s₀.bufferSize)
    (hin : InTime cfg audio.bufferStartTime cycles)
    (hbefore : AllBefore cfg audio.bufferStartTime cycles) :
    ∃ s, after cfg s₀ (cycles.map .process) = some s ∧ StillWaits cfg i s₀ s := by
  induction cycles using List.reverseRecOn with
  | nil => exact ⟨s₀, rfl, havailable.new, rfl, rfl⟩
  | append_singleton cycles c ih =>
      have hn' : ∀ d ∈ cycles, d.nframes = s₀.bufferSize := fun d hd =>
        hn d (List.mem_append_left _ hd)
      have hbefore' : AllBefore cfg audio.bufferStartTime cycles := fun d hd =>
        hbefore d (List.mem_append_left _ hd)
      obtain ⟨s, hs, hwaits⟩ := ih hn' hin.of_append hbefore'
      obtain ⟨hhealthy, hsetup⟩ := healthy_after_cycles hcfg hs₀ h1 hn' hs
      have hc : c.nframes = s₀.bufferSize := hn c (by simp)
      -- the cycle ends before the packet is due, which is where playback would start
      obtain ⟨hdue, hlt⟩ := hin cycles c [] rfl hbefore'
      have hstart : c.nframes < frameStart cfg c audio.bufferStartTime := by
        have hreaches := hbefore c (by simp)
        rw [Reaches, ← Int.toNat_le] at hreaches
        rw [frameStart_eq hfs hcal hdue hlt]
        exact Nat.lt_of_not_le hreaches
      obtain ⟨s', hs', hwaits'⟩ :=
        hwaits.exists_of_lt hcfg hi havailable hhealthy hsetup hc (hc ▸ h1) hstart
      exact ⟨s', after_cycles_concat hs hs', hwaits'⟩

theorem InTime.beginsOnTime (hcfg : cfg.continuous = false) (hi : i < cfg.localNumberOfModems)
    (hfs : 0 < cfg.fs) (hcal : 0 ≤ cfg.calibrationSeconds) (hs₀ : s₀.Healthy)
    (h1 : 1 ≤ s₀.bufferSize) (havailable : Available cfg i audio s₀)
    (hn : ∀ c ∈ cycles, c.nframes = s₀.bufferSize)
    (hin : InTime cfg audio.bufferStartTime cycles) :
    BeginsOnTime cfg i audio.bufferStartTime s₀ cycles where
  waits := by
    rintro pre ⟨post, rfl⟩ hbefore
    exact exists_after_stillWaits hcfg hi hfs hcal hs₀ h1 havailable
      (fun c hc => hn c (List.mem_append_left _ hc)) hin.of_append hbefore
  begins := by
    rintro pre c post rfl hbefore hreaches
    have hn' : ∀ d ∈ pre, d.nframes = s₀.bufferSize := fun d hd =>
      hn d (List.mem_append_left _ hd)
    obtain ⟨s, hs, hwaits⟩ :=
      exists_after_stillWaits hcfg hi hfs hcal hs₀ h1 havailable hn' hin.of_append hbefore
    obtain ⟨hhealthy, hsetup⟩ := healthy_after_cycles hcfg hs₀ h1 hn' hs
    have hc : c.nframes = s₀.bufferSize := hn c (by simp)
    -- the packet is due before the end of the cycle, which is where playback starts
    obtain ⟨hdue, hlt⟩ := hin pre c post rfl hbefore
    have hstart := frameStart_eq hfs hcal hdue hlt
    have hle : frameStart cfg c audio.bufferStartTime ≤ c.nframes := by
      rw [hstart]
      exact Int.toNat_le.2 hreaches
    obtain ⟨s', out, hs', hwritten, hplayed⟩ :=
      hwaits.exists_of_le hcfg hi havailable hhealthy hsetup hc (hc ▸ h1) hle
    exact ⟨s', out, after_cycles_concat hs hs', hwritten, hstart ▸ hplayed⟩
  converted pre c post heq hbefore hfuture :=
    (framesUntil_nonneg_iff hfs).2 ((hin pre c post heq hbefore).1 hfuture)

/-- A number of frames that does not fit may be converted to one that lets playback begin. -/
theorem not_beginsOnTime_of_le (hcfg : cfg.continuous = false) (hi : i < cfg.localNumberOfModems)
    (hs₀ : s₀.Healthy) (h1 : 1 ≤ s₀.bufferSize) (hsize : s₀.bufferSize < 2 ^ 32)
    (havailable : Available cfg i audio s₀) {pre post : List Cycle} {c : Cycle}
    (hn : ∀ d ∈ pre ++ c :: post, d.nframes = s₀.bufferSize)
    (hbefore : AllBefore cfg audio.bufferStartTime pre) (hzero : c.unspecified = fun _ => 0)
    (hle : 2 ^ 32 ≤ framesUntil cfg audio.bufferStartTime c) :
    ¬ BeginsOnTime cfg i audio.bufferStartTime s₀ (pre ++ c :: post) := by
  intro hbegins
  have hc : c.nframes = s₀.bufferSize := hn c (by simp)
  -- the packet is due after the cycle
  have hlate : ¬ Reaches cfg audio.bufferStartTime c := by
    have hfloor : (2 ^ 32 : ℤ) ≤ ⌊framesUntil cfg audio.bufferStartTime c⌋ := by
      rw [Int.le_floor]
      exact_mod_cast hle
    rw [Reaches, hc]
    omega
  have hbefore' : AllBefore cfg audio.bufferStartTime (pre ++ [c]) := by
    intro d hd
    rcases List.mem_append.1 hd with hd | hd
    · exact hbefore d hd
    · rwa [List.mem_singleton.1 hd]
  obtain ⟨s, hs, hwaits⟩ := hbegins.waits pre (List.prefix_append _ _) hbefore
  obtain ⟨s', hs', hwaits'⟩ := hbegins.waits (pre ++ [c]) ⟨post, by simp⟩ hbefore'
  obtain ⟨hhealthy, hsetup⟩ := healthy_after_cycles hcfg hs₀ h1
    (fun d hd => hn d (List.mem_append_left _ hd)) hs
  -- but the converted number is 0, with which playback begins at once
  have hstart : frameStart cfg c audio.bufferStartTime = 0 := by
    have hframes : (audio.bufferStartTime - c.bufferStartTime - cfg.calibrationSeconds) * cfg.fs =
        framesUntil cfg audio.bufferStartTime c := by
      rw [framesUntil]
      ring
    rw [frameStart]
    simp only [hframes, hzero]
    split_ifs with hfuture hfits
    · exact absurd hfits.2 (not_lt_of_ge hle)
    · rfl
    · rfl
  obtain ⟨s'', out, hs'', -, hplayed⟩ := hwaits.exists_of_le hcfg hi havailable hhealthy hsetup hc
    (hc ▸ h1) (hstart ▸ Nat.zero_le _)
  obtain rfl : s' = s'' := Option.some_inj.1 (hs'.symm.trans (after_cycles_concat hs hs''))
  exact Bool.false_ne_true (hplayed.begun.symm.trans hwaits'.new)

end Begins

/-- Whatever a number that does not fit is converted to, a packet that is queued in a reachable
state begins on time iff the cycles are in time for it. -/
theorem begins_iff_inTime (cfg : JackConfig) (hcfg : cfg.continuous = false) (hfs : 0 < cfg.fs)
    (hcal : 0 ≤ cfg.calibrationSeconds) (i : ℕ) (hi : i < cfg.localNumberOfModems)
    (history : List JackEvent) (haudio : DeliversAudio history)
    (hhistory : Run.ExecAlways (step cfg) {} FullCycle history) (s₀ : JackThread)
    (hs₀ : after cfg {} history = some s₀) (h1 : 1 ≤ s₀.bufferSize)
    (hsize : s₀.bufferSize < 2 ^ 32) (audio : AudioBuffer) (havailable : Available cfg i audio s₀)
    (cycles : List Cycle) (hn : ∀ c ∈ cycles, c.nframes = s₀.bufferSize) :
    (∀ cycles', SameCycles cycles cycles' →
      BeginsOnTime cfg i audio.bufferStartTime s₀ cycles') ↔
        InTime cfg audio.bufferStartTime cycles := by
  have hhealthy : s₀.Healthy := by
    obtain ⟨s, hs, hhealthy⟩ := exists_after_healthy hcfg haudio hhistory
    rwa [Option.some_inj.1 (hs₀.symm.trans hs)]
  constructor
  · rintro hbegins pre c post rfl hbefore
    refine ⟨fun hfuture => (framesUntil_nonneg_iff hfs).1
      ((hbegins _ rfl).converted pre c post rfl hbefore hfuture), ?_⟩
    by_contra hle
    -- in the same cycles the number of frames might be converted to 0
    let c' : Cycle := { c with unspecified := fun _ => 0 }
    have hsame : SameCycles (pre ++ c :: post) (pre ++ c' :: post) := by simp [SameCycles, c']
    refine not_beginsOnTime_of_le hcfg hi hhealthy h1 hsize havailable (fun d hd => ?_) hbefore
      (show c'.unspecified = fun _ => 0 from rfl) (le_of_not_gt hle) (hbegins _ hsame)
    rcases List.mem_append.1 hd with hd | hd
    · exact hn d (List.mem_append_left _ hd)
    · rcases List.mem_cons.1 hd with rfl | hd
      · exact hn c (by simp)
      · exact hn d (List.mem_append_right _ (List.mem_cons_of_mem _ hd))
  · intro hin cycles' hsame
    refine (hsame.inTime hin).beginsOnTime hcfg hi hfs hcal hhealthy h1 havailable fun c' hc' => ?_
    have hmem : (c'.nframes, c'.bufferStartTime) ∈
        cycles.map fun c => (c.nframes, c.bufferStartTime) := by
      rw [← hsame]
      exact List.mem_map_of_mem hc'
    obtain ⟨c, hc, heq⟩ := List.mem_map.1 hmem
    exact (Prod.mk.inj heq).1 ▸ hn c hc

/-- A packet at time 10 with a calibration of one second is due 5, 3 and 1 frames after the
beginning of three cycles, and begins in the last of them. -/
theorem begins_of_three_cycles :
    let cfg : JackConfig :=
      { localNumberOfModems := 1, fs := 4, calibrationSeconds := 1, minPlaybackBufferSize := 2 }
    let sample : SampleT := .ofFields true 127 0
    let audio : AudioBuffer := ⟨10, 0, [sample]⟩
    let history : List JackEvent := [.bufferSizeChange 2, .registerPort 0,
      .audioOut ⟨some audio, .START, 0⟩ 0, .audioOut ⟨some ⟨11, 0, [sample]⟩, .END, 0⟩ 0]
    let cycles : List Cycle := [twoFrames (31 / 4), twoFrames (33 / 4), twoFrames (35 / 4)]
    ∃ s₀, after cfg {} history = some s₀ ∧ Available cfg 0 audio s₀ ∧
      ∀ cycles', SameCycles cycles cycles' → BeginsOnTime cfg 0 10 s₀ cycles' := by
  intro cfg sample audio history cycles
  refine ⟨_, rfl, ⟨rfl, rfl, ⟨_, _, rfl, rfl⟩, by decide⟩, ?_⟩
  refine (begins_iff_inTime cfg rfl (by decide) (by norm_num [cfg]) 0 (by decide) history ?_
    (Run.execAlways_of_check _ _ (by decide +kernel)) _ rfl (by decide) (by decide) audio
    ⟨rfl, rfl, ⟨_, _, rfl, rfl⟩, by decide⟩ cycles ?_).2 ?_
  · intro b m hb
    simp only [history, List.mem_cons, List.not_mem_nil, reduceCtorEq, JackEvent.audioOut.injEq,
      false_or, or_false] at hb
    rcases hb with ⟨rfl, -⟩ | ⟨rfl, -⟩ <;> rfl
  · intro c hc
    simp only [cycles, List.mem_cons, List.not_mem_nil, or_false] at hc
    rcases hc with rfl | rfl | rfl <;> rfl
  · intro pre c post heq _
    have hc : c ∈ cycles := by simp [heq]
    simp only [cycles, List.mem_cons, List.not_mem_nil, or_false] at hc
    rcases hc with rfl | rfl | rfl <;> norm_num [framesUntil, cfg, audio, twoFrames]

/-- A cycle that begins half a second after the packet is due, and half a second before its
`buffer_start_time`, converts a negative number, and may leave the packet waiting. -/
theorem not_beginsOnTime_of_negative :
    let cfg : JackConfig :=
      { localNumberOfModems := 1, fs := 4, calibrationSeconds := 1, minPlaybackBufferSize := 2 }
    let sample : SampleT := .ofFields true 127 0
    let audio : AudioBuffer := ⟨10, 0, [sample]⟩
    let history : List JackEvent := [.bufferSizeChange 2, .registerPort 0,
      .audioOut ⟨some audio, .START, 0⟩ 0, .audioOut ⟨some ⟨11, 0, [sample]⟩, .END, 0⟩ 0]
    let cycle : Cycle := ⟨2, 19 / 2, fun _ => 2 ^ 32 - 2⟩
    Reaches cfg 10 cycle ∧ framesUntil cfg 10 cycle = -2 ∧
      ∃ s₀ s, after cfg {} history = some s₀ ∧ Available cfg 0 audio s₀ ∧
        after cfg s₀ [.process cycle] = some s ∧ (s.playback 0).newPacket ∧ s.written 0 = [] ∧
        ¬ BeginsOnTime cfg 0 10 s₀ [cycle] := by
  intro cfg sample audio history cycle
  have hframes : framesUntil cfg 10 cycle = -2 := by norm_num [framesUntil, cfg, cycle]
  have hreaches : Reaches cfg 10 cycle := by
    rw [Reaches, hframes]
    norm_num [cycle]
  have hend : ((after cfg {} history).bind fun s₀ => (after cfg s₀ [.process cycle]).map fun s =>
      ((s.playback 0).newPacket, s.written 0)) = some (true, []) := by
    decide +kernel
  obtain ⟨s₀, hs₀, hend⟩ := Option.bind_eq_some_iff.1 hend
  obtain ⟨s, hs, hend⟩ := Option.map_eq_some_iff.1 hend
  obtain ⟨hnew, hwritten⟩ := Prod.mk.inj hend
  have havailable : Available cfg 0 audio s₀ := by
    obtain rfl := Option.some_inj.1 hs₀
    exact ⟨rfl, rfl, ⟨_, _, rfl, rfl⟩, by decide⟩
  refine ⟨hreaches, hframes, s₀, s, hs₀, havailable, hs, hnew, hwritten, fun h => ?_⟩
  have hconverted := h.converted [] cycle [] rfl (by simp [AllBefore]) (by norm_num [cycle])
  rw [hframes] at hconverted
  norm_num at hconverted

end JackThread

end Netsim
