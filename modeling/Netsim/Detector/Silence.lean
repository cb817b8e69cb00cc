import Netsim.Detector.Capture
import Netsim.Lib.Streak

/-!
# The end of a packet

The scan for the silent period that ends a packet goes on from buffer to buffer, so that what it
finds does not depend on how the samples are cut into buffers: END is attached to the buffer in
which the samples since the buffer that started the packet first contain as many silent ones in a
row as end the comparison of the counter (`Completes`).

That number need not be the length of the silent period. The period is the product of two settings,
which is rounded to a float, and so is the counter, which has 32 bits: from `2 ^ 24` on the counter
may be rounded up to the period before it has reached it, and it never reaches a period that is too
long for it. So END is where the silent period is complete iff the samples behind no starting buffer
tell the two apart (`endsAtSilence_iff`). They agree where nothing is rounded
(`completes_iff_of_exact`).

What is said here of the state of a detector holds in packet mode and in continuous mode.
-/

namespace Netsim

namespace DetectorThread

open Streak

variable (cfg : DetectorConfig)

/-- The scan takes a sample that is not over the threshold for silent, a NaN as well. -/
def silent (sample : SampleT) : Bool := !overThreshold cfg sample

/-- The least number of samples that last as long as the silent period. -/
def silenceLength : ℤ := ⌈cfg.packetEndSilentSeconds.toRat * cfg.samplingFreq⌉

/-- The scan of the samples `xs`, from the counter 0 on, ends the packet: they have so many silent
ones in a row that the counter, which has 32 bits, ends the comparison. -/
def Completes (xs : List SampleT) : Prop :=
  xs ≠ [] ∧ ∃ n < 2 ^ 32, silenceIsOver cfg n ∧ HasStreak (silent cfg) n xs

/-- The samples of the buffers that are received. -/
def samplesOf (es : List DetectorEvent) : List SampleT :=
  es.flatMap fun
    | .audioIn buffer => buffer.samples
    | .bufferSizeChange _ => []

@[simp]
theorem samplesOf_nil : samplesOf [] = [] := rfl

@[simp]
theorem samplesOf_append (es fs : List DetectorEvent) :
    samplesOf (es ++ fs) = samplesOf es ++ samplesOf fs := List.flatMap_append

@[simp]
theorem samplesOf_audioIn (buffer : AudioBuffer) :
    samplesOf [.audioIn buffer] = buffer.samples := by
  simp [samplesOf]

@[simp]
theorem samplesOf_bufferSizeChange (n : ℕ) : samplesOf [.bufferSizeChange n] = [] := rfl

/-- If the samples of some events have a property that no sample at all does not have, there is a
first buffer with which they have it. -/
theorem exists_first_buffer {P : List SampleT → Prop} (hnil : ¬ P []) {es : List DetectorEvent}
    (h : P (samplesOf es)) : ∃ mid c later, es = mid ++ .audioIn c :: later ∧
      ¬ P (samplesOf mid) ∧ P (samplesOf mid ++ c.samples) := by
  induction es using List.reverseRecOn with
  | nil => exact absurd h hnil
  | append_singleton es e ih =>
      by_cases hes : P (samplesOf es)
      · obtain ⟨mid, c, later, rfl, hmid, hc⟩ := ih hes
        exact ⟨mid, c, later ++ [e], by simp, hmid, hc⟩
      -- it is the last event, which is a buffer
      · cases e with
        | bufferSizeChange n => exact absurd (by simpa using h) hes
        | audioIn c => exact ⟨es, c, [], rfl, hes, by simpa using h⟩

/-! ### The scan -/

section Scan

variable {cfg} {xs : List SampleT}

theorem Completes.append_right (h : Completes cfg xs) (ys : List SampleT) :
    Completes cfg (xs ++ ys) := by
  obtain ⟨hne, n, hn, hover, hstreak⟩ := h
  exact ⟨List.append_ne_nil_of_left_ne_nil hne ys, n, hn, hover, hstreak.append_right ys⟩

theorem not_completes_nil : ¬ Completes cfg [] := fun h => h.1 rfl

/-- A counter that ends the comparison ends it from then on. -/
theorem silenceIsOver_mono {m n : ℕ} (h : m ≤ n) (hm : silenceIsOver cfg m) :
    silenceIsOver cfg n :=
  Ieee.Value.le_ofRat_natCast_mono h hm

/-- The sample that completes the silent period is the one at which the counter ends the
comparison. -/
theorem completes_concat_iff (h : ¬ Completes cfg xs) (x : SampleT) :
    Completes cfg (xs ++ [x]) ↔
      silenceIsOver cfg (trailing (silent cfg) (xs ++ [x]) % 2 ^ 32) := by
  constructor
  · rintro ⟨-, n, hn, hover, hstreak⟩
    have hle : trailing (silent cfg) (xs ++ [x]) ≤ trailing (silent cfg) xs + 1 := by
      by_cases hx : silent cfg x
      · exact (trailing_concat_of_pos hx).le
      · rw [trailing_concat_of_neg hx]
        exact Nat.zero_le _
    -- the counter gets to `n`, and no further
    obtain ⟨hreaches, hfits⟩ : n ≤ trailing (silent cfg) (xs ++ [x]) ∧
        trailing (silent cfg) (xs ++ [x]) < 2 ^ 32 := by
      by_cases hnil : xs = []
      · subst hnil
        rw [trailing_nil] at hle
        refine ⟨(hasStreak_concat.1 hstreak).elim (fun h => ?_) id, by omega⟩
        rw [hasStreak_nil.1 h]
        exact Nat.zero_le _
      · have hnot : ¬ HasStreak (silent cfg) n xs := fun h' => h ⟨hnil, n, hn, hover, h'⟩
        have hlt : trailing (silent cfg) xs < n :=
          Nat.lt_of_not_le fun hle => hnot (.of_le_trailing hle)
        exact ⟨(hasStreak_concat.1 hstreak).resolve_left hnot, by omega⟩
    rw [Nat.mod_eq_of_lt hfits]
    exact silenceIsOver_mono hreaches hover
  · intro hover
    exact ⟨by simp, _, Nat.mod_lt _ (Nat.two_pow_pos 32), hover,
      .of_le_trailing (Nat.mod_le _ _)⟩

variable (cfg) in
/-- The scan goes on from the samples before. -/
theorem scanSilence_spec (ys : List SampleT) (hnot : ¬ Completes cfg xs) :
    ∃ ended : Bool, scanSilence cfg (trailing (silent cfg) xs % 2 ^ 32) ys =
        (if ended then 0 else trailing (silent cfg) (xs ++ ys) % 2 ^ 32, ended) ∧
      (ended ↔ Completes cfg (xs ++ ys)) := by
  induction ys generalizing xs with
  | nil => exact ⟨false, by simp [scanSilence], by simpa using hnot⟩
  | cons y ys ih =>
      have hcounter : (if overThreshold cfg y then 0
          else (trailing (silent cfg) xs % 2 ^ 32 + 1) % 2 ^ 32) =
            trailing (silent cfg) (xs ++ [y]) % 2 ^ 32 := by
        cases hy : overThreshold cfg y with
        | true =>
            rw [trailing_concat_of_neg (by simp [silent, hy])]
            rfl
        | false =>
            rw [trailing_concat_of_pos (by simp [silent, hy]), Nat.add_mod _ 1]
            simp
      have htest := completes_concat_iff hnot y
      rw [scanSilence, hcounter]
      by_cases hends : Completes cfg (xs ++ [y])
      -- the rest of the buffer is not scanned
      · have hall := hends.append_right ys
        rw [List.append_assoc, List.singleton_append] at hall
        exact ⟨true, by rw [if_pos (htest.1 hends), if_pos rfl], by simpa using hall⟩
      · obtain ⟨ended, hscan, hended⟩ := ih hends
        rw [List.append_assoc, List.singleton_append] at hscan hended
        exact ⟨ended, by rw [if_neg (mt htest.2 hends), hscan], hended⟩

end Scan

/-! ### Settings that are not rounded -/

section Exact

open Ieee.Value

variable {cfg}

/-- Small natural numbers are floats, so that the counter ends the comparison when it has reached
the period. -/
theorem silenceIsOver_iff_of_exact {freq period : ℕ} (hfinite : cfg.packetEndSilentSeconds.isFinite)
    (hfreq : cfg.samplingFreq = freq) (hfreq' : freq ≤ 2 ^ 24)
    (hperiod : cfg.packetEndSilentSeconds.toRat * freq = period) (hpos : 1 ≤ period)
    (hperiod' : period ≤ 2 ^ 24) (n : ℕ) : silenceIsOver cfg n ↔ period ≤ n := by
  have hintegers : Ieee.binary32.HasIntegers := by decide
  -- the settings are positive, and so is the product
  have hsign : cfg.packetEndSilentSeconds.negative = false := by
    by_contra hnegative
    rw [Bool.not_eq_false] at hnegative
    have hunits : cfg.packetEndSilentSeconds.units ≤ 0 := by
      rw [units, if_pos hnegative]
      omega
    have hle : cfg.packetEndSilentSeconds.toRat * freq ≤ 0 := by
      refine mul_nonpos_of_nonpos_of_nonneg ?_ freq.cast_nonneg
      exact div_nonpos_of_nonpos_of_nonneg (by exact_mod_cast hunits) (by positivity)
    rw [hperiod] at hle
    have hcast : (1 : ℚ) ≤ period := by exact_mod_cast hpos
    linarith
  have hproduct : cfg.packetEndSilentSeconds.mul (ofRat cfg.samplingFreq) =
      ofMagnitude false (period : ℚ) := by
    rw [hfreq, Int.cast_natCast, ofRat_natCast, mul_of_isFinite hfinite
      (isFinite_ofMagnitude_natCast hintegers hfreq'), hsign,
      toRat_ofMagnitude_natCast hintegers hfreq', hperiod, Nat.abs_cast]
    rfl
  rw [silenceIsOver, hproduct, ge]
  have hexact {m : ℕ} (hm : m ≤ 2 ^ 24) :
      le (ofMagnitude false (period : ℚ)) (ofRat m : Single) ↔ period ≤ m := by
    rw [ofRat_natCast, le_iff_toRat_le (isNaN_ofMagnitude _ _) (isNaN_ofMagnitude _ _),
      toRat_ofMagnitude_natCast hintegers hperiod', toRat_ofMagnitude_natCast hintegers hm,
      Nat.cast_le]
  refine ⟨fun h => ?_, fun h => le_ofRat_natCast_mono h ((hexact hperiod').2 le_rfl)⟩
  by_contra hlt
  exact hlt ((hexact (by omega)).1 h)

/-- The scan ends the packet when the samples contain the silent period. -/
theorem completes_iff_of_exact (freq period : ℕ)
    (hfinite : cfg.packetEndSilentSeconds.isFinite) (hfreq : cfg.samplingFreq = freq)
    (hfreq' : freq ≤ 2 ^ 24) (hperiod : cfg.packetEndSilentSeconds.toRat * freq = period)
    (hpos : 1 ≤ period) (hperiod' : period ≤ 2 ^ 24) (xs : List SampleT) :
    Completes cfg xs ↔ HasStreak (silent cfg) (silenceLength cfg).toNat xs := by
  have hlength : (silenceLength cfg).toNat = period := by
    rw [silenceLength, hfreq, Int.cast_natCast, hperiod, Int.ceil_natCast, Int.toNat_natCast]
  have hover := silenceIsOver_iff_of_exact hfinite hfreq hfreq' hperiod hpos hperiod'
  rw [hlength]
  constructor
  · rintro ⟨-, n, -, hn, hstreak⟩
    exact hstreak.mono ((hover n).1 hn)
  · intro hstreak
    refine ⟨?_, period, by omega, (hover period).2 le_rfl, hstreak⟩
    rintro rfl
    rw [hasStreak_nil] at hstreak
    omega

end Exact

/-! ### The state of the packet -/

section State

variable {cfg} {d : DetectorThread} {b : AudioBuffer}

theorem startPacket_state (cfg : DetectorConfig) (d : DetectorThread) (b : AudioBuffer) :
    (d.startPacket cfg b).inPacket = true ∧
      (d.startPacket cfg b).framesSinceSilence = d.framesSinceSilence := by
  unfold startPacket
  dsimp only
  split
  · exact ⟨rfl, rfl⟩
  · split <;> exact ⟨rfl, rfl⟩

variable (cfg b) in
/-- Outside a packet, a loud buffer starts one, and no silent samples are counted. -/
theorem audioIn_outside (hout : d.inPacket = false) :
    (d.audioIn cfg b).inPacket = loud cfg b ∧
      (d.audioIn cfg b).framesSinceSilence = d.framesSinceSilence := by
  have hstart := startPacket_state cfg { d with prebuffer := d.prebuffer.pushBack (some b) } b
  cases hloud : loud cfg b with
  | true =>
      rw [loud] at hloud
      have hstep : d.audioIn cfg b =
          startPacket cfg { d with prebuffer := d.prebuffer.pushBack (some b) } b := by
        unfold audioIn
        dsimp only
        rw [if_pos (by simp [hout]), if_pos hloud, hstart.1]
        simp
      rw [hstep]
      exact hstart
  | false =>
      rw [loud] at hloud
      cases hc : cfg.continuous <;> simp [audioIn, hout, hloud, hc, publish]

/-- Inside a packet, the scan decides. -/
theorem audioIn_inside (hin : d.inPacket = true) {silence : ℕ} {ended : Bool}
    (hscan : scanSilence cfg d.framesSinceSilence b.samples = (silence, ended)) :
    (d.audioIn cfg b).inPacket = !ended ∧ (d.audioIn cfg b).framesSinceSilence = silence ∧
      (d.audioIn cfg b).inPacketId = d.inPacketId := by
  cases ended <;> cases hc : cfg.continuous <;> simp [audioIn, hin, hc, hscan, publish]

variable (cfg) in
/-- Outside a packet the counter is 0: nothing is carried over to the next packet. -/
theorem framesSinceSilence_after (es : List DetectorEvent) :
    (after cfg es).inPacket = false → (after cfg es).framesSinceSilence = 0 := by
  refine Run.run_invariant (step cfg) {}
    (I := fun _ d => d.inPacket = false → d.framesSinceSilence = 0) (fun _ => rfl) ?_ es
  intro es e d h hout
  cases e with
  | bufferSizeChange n =>
      rw [step, framesSinceSilence_bufferSizeChange]
      rw [step, inPacket_bufferSizeChange] at hout
      exact h hout
  | audioIn b =>
      cases hin : d.inPacket with
      | false => exact (audioIn_outside cfg b hin).2.trans (h hin)
      | true =>
          rcases hscan : scanSilence cfg d.framesSinceSilence b.samples with ⟨silence, ended⟩
          obtain ⟨hin', hframes, -⟩ := audioIn_inside hin hscan
          have hended : ended = true := by
            rw [step, hin'] at hout
            simpa using hout
          -- the counter is reset with END
          have hreset (ys : List SampleT) (n : ℕ) (h : (scanSilence cfg n ys).2 = true) :
              (scanSilence cfg n ys).1 = 0 := by
            induction ys generalizing n with
            | nil => simp [scanSilence] at h
            | cons y ys ih =>
                rw [scanSilence] at h ⊢
                split_ifs at h ⊢
                · rfl
                · exact ih _ h
                · rfl
                · exact ih _ h
          have hzero := hreset b.samples d.framesSinceSilence
          rw [hscan] at hzero
          exact hframes.trans (hzero hended)

/-- A packet goes on as long as the samples since its first buffer do not end it. -/
theorem inside_of_not_completes {pre mid : List DetectorEvent}
    (hdetects : detects cfg (after cfg pre) b) (hnot : ¬ Completes cfg (samplesOf mid)) :
    (after cfg (pre ++ .audioIn b :: mid)).inPacket = true ∧
      (after cfg (pre ++ .audioIn b :: mid)).framesSinceSilence =
        trailing (silent cfg) (samplesOf mid) % 2 ^ 32 ∧
      (after cfg (pre ++ .audioIn b :: mid)).inPacketId =
        (after cfg (pre ++ [.audioIn b])).inPacketId := by
  induction mid using List.reverseRecOn with
  | nil =>
      have hout := inPacket_of_detects hdetects
      have hloud : loud cfg b := by
        simpa [detects, hout, loud] using hdetects
      obtain ⟨hin, hframes⟩ := audioIn_outside cfg b hout
      rw [after_concat, step]
      exact ⟨hin.trans hloud, by rw [hframes, framesSinceSilence_after cfg pre hout]; simp, rfl⟩
  | append_singleton mid e ih =>
      rw [samplesOf_append] at hnot
      have hmid : ¬ Completes cfg (samplesOf mid) := fun h => hnot (h.append_right _)
      obtain ⟨hin, hframes, hid⟩ := ih hmid
      have hafter : after cfg (pre ++ .audioIn b :: (mid ++ [e])) =
          (after cfg (pre ++ .audioIn b :: mid)).step cfg e := by
        rw [← List.cons_append, ← List.append_assoc, after_concat]
      rw [hafter]
      cases e with
      | bufferSizeChange n =>
          rw [samplesOf_append, samplesOf_bufferSizeChange, List.append_nil, step,
            inPacket_bufferSizeChange, framesSinceSilence_bufferSizeChange,
            inPacketId_bufferSizeChange]
          exact ⟨hin, hframes, hid⟩
      | audioIn c =>
          obtain ⟨ended, hscan, hended⟩ := scanSilence_spec cfg c.samples hmid
          rw [samplesOf_audioIn] at hnot
          rw [← hframes] at hscan
          obtain rfl : ended = false := by
            cases ended with
            | false => rfl
            | true => exact absurd (hended.1 rfl) hnot
          obtain ⟨hin', hframes', hid'⟩ := audioIn_inside hin hscan
          rw [samplesOf_append, samplesOf_audioIn]
          exact ⟨hin', hframes', hid'.trans hid⟩

end State

/-! ### END -/

/-- In every packet, the first buffer after the one that started it at which the samples between
contain the silent period is END, and the packet is over; every buffer before it is MIDDLE. -/
def EndsAtSilence (es : List DetectorEvent) : Prop :=
  ∀ pre b mid c later, es = pre ++ .audioIn b :: (mid ++ .audioIn c :: later) →
    detects cfg (after cfg pre) b →
    ¬ HasStreak (silent cfg) (silenceLength cfg).toNat (samplesOf mid) →
    ∃ ended : Bool, (ended ↔
        HasStreak (silent cfg) (silenceLength cfg).toNat (samplesOf mid ++ c.samples)) ∧
      let d := after cfg (pre ++ .audioIn b :: mid)
      (d.step cfg (.audioIn c)).inPacket = !ended ∧
        (d.step cfg (.audioIn c)).detectorAudio = d.detectorAudio ++
          [{ buffer := some c, marker := if ended then .END else .MIDDLE,
             packetId := (after cfg (pre ++ [.audioIn b])).inPacketId }]

section End

variable {cfg} {pre mid es : List DetectorEvent} {b c : AudioBuffer}

variable (pre) in
/-- The first buffer that completes the silent period is END only if it ends the comparison of the
counter as well, and the other way round. -/
theorem EndsAtSilence.completes_iff {later : List DetectorEvent}
    (h : EndsAtSilence cfg (pre ++ .audioIn b :: (mid ++ .audioIn c :: later)))
    (hdetects : detects cfg (after cfg pre) b) (hnot : ¬ Completes cfg (samplesOf mid))
    (hstreak : ¬ HasStreak (silent cfg) (silenceLength cfg).toNat (samplesOf mid)) :
    Completes cfg (samplesOf mid ++ c.samples) ↔
      HasStreak (silent cfg) (silenceLength cfg).toNat (samplesOf mid ++ c.samples) := by
  obtain ⟨ended, hended, hout, -⟩ := h pre b mid c later rfl hdetects hstreak
  obtain ⟨hin, hframes, -⟩ := inside_of_not_completes hdetects hnot
  obtain ⟨ended', hscan, hended'⟩ := scanSilence_spec cfg c.samples hnot
  rw [← hframes] at hscan
  have hboth := (audioIn_inside hin hscan).1
  rw [step] at hout
  rw [hout, Bool.not_inj_iff] at hboth
  rw [← hended, ← hended', hboth]

/-- In packet mode END is attached to the first buffer at which the samples after the starting
buffer contain the silent period, and to no earlier one, iff buffers that have come after a starting
buffer never have the one without the other: as many silent samples in a row as the period has, and
as many as end the comparison of the counter. -/
theorem endsAtSilence_iff (cfg : DetectorConfig) (hc : cfg.continuous = false)
    (hlength : 1 ≤ silenceLength cfg) (es : List DetectorEvent) :
    EndsAtSilence cfg es ↔ ∀ pre b mid later, es = pre ++ .audioIn b :: (mid ++ later) →
      detects cfg (after cfg pre) b →
      (Completes cfg (samplesOf mid) ↔
        HasStreak (silent cfg) (silenceLength cfg).toNat (samplesOf mid)) := by
  have hnil : ¬ HasStreak (silent cfg) (silenceLength cfg).toNat [] := by
    rw [hasStreak_nil]
    omega
  constructor
  · rintro h pre b mid later rfl hdetects
    by_contra hiff
    -- there is a first buffer with which one of the two is there
    have heither : Completes cfg (samplesOf mid) ∨
        HasStreak (silent cfg) (silenceLength cfg).toNat (samplesOf mid) := by
      tauto
    obtain ⟨mid', c, rest, rfl, hnone, hone⟩ := exists_first_buffer
      (P := fun xs => Completes cfg xs ∨ HasStreak (silent cfg) (silenceLength cfg).toNat xs)
      (by simp [not_completes_nil, hnil]) heither
    rw [not_or] at hnone
    have hrest : EndsAtSilence cfg
        (pre ++ .audioIn b :: (mid' ++ .audioIn c :: (rest ++ later))) := by
      simpa using h
    have hboth := hrest.completes_iff pre hdetects hnone.1 hnone.2
    have hsamples : samplesOf (mid' ++ .audioIn c :: rest) =
        samplesOf mid' ++ c.samples ++ samplesOf rest := by
      rw [samplesOf_append, ← List.singleton_append, samplesOf_append, samplesOf_audioIn,
        List.append_assoc]
    rw [hsamples] at hiff
    have hcompletes : Completes cfg (samplesOf mid' ++ c.samples) :=
      hone.elim id hboth.2
    exact hiff (iff_of_true (hcompletes.append_right _)
      ((hboth.1 hcompletes).append_right _))
  · rintro h pre b mid c later rfl hdetects hmid
    have hnot : ¬ Completes cfg (samplesOf mid) := fun hcompletes =>
      hmid ((h pre b mid (.audioIn c :: later) rfl hdetects).1 hcompletes)
    have hiff := h pre b (mid ++ [.audioIn c]) later (by simp) hdetects
    rw [samplesOf_append, samplesOf_audioIn] at hiff
    obtain ⟨hin, hframes, hid⟩ := inside_of_not_completes hdetects hnot
    obtain ⟨ended, hscan, hended⟩ := scanSilence_spec cfg c.samples hnot
    rw [← hframes] at hscan
    refine ⟨ended, hended.trans hiff, (audioIn_inside hin hscan).1, ?_⟩
    rw [step, audioIn_of_inPacket hc hin hscan, hid]

/-- Two silent samples end the packet, also if they are in two buffers. -/
theorem endsAtSilence_of_two_samples :
    let cfg : DetectorConfig :=
      { samplingFreq := 1, packetEndSilentSeconds := .ofFields false 128 0 }
    let loudSample : SampleT := .ofFields false 127 0
    let es : List DetectorEvent := [.audioIn ⟨0, 0, [loudSample]⟩,
      .audioIn ⟨1, 0, [silence, loudSample, silence]⟩, .audioIn ⟨2, 0, [silence, loudSample]⟩]
    EndsAtSilence cfg es ∧
      (after cfg es).detectorAudio.map (·.marker) = [.START, .MIDDLE, .END] := by
  intro cfg loudSample es
  refine ⟨(endsAtSilence_iff cfg rfl (by decide +kernel) es).2 fun _ _ mid _ _ _ => ?_,
    by decide +kernel⟩
  exact completes_iff_of_exact 1 2 (by decide +kernel) rfl (by decide) (by decide +kernel)
    (by decide) (by decide) (samplesOf mid)

/-- Buffers of 1024 silent samples at 96000 Hz, from the third one on. -/
def quietBuffers (count : ℕ) : List DetectorEvent :=
  (List.range count).map fun k : ℕ =>
    .audioIn ⟨1024 * (k + 2) / 96000, 0, List.replicate 1024 silence⟩

theorem samplesOf_quietBuffers (count : ℕ) :
    samplesOf (quietBuffers count) = List.replicate (1024 * count) silence := by
  induction count with
  | zero => rfl
  | succ count ih =>
      rw [quietBuffers, List.range_succ, List.map_append, samplesOf_append, ← quietBuffers, ih,
        List.map_singleton, samplesOf_audioIn, List.replicate_append_replicate, Nat.mul_succ]

/-- 200 seconds at 96000 Hz are 19200000 samples. When there has been one silent sample less, the
counter is rounded to that, and the packet ends with a buffer in front of the one that completes the
period. -/
theorem not_endsAtSilence_of_rounding :
    let cfg : DetectorConfig := { packetEndSilentSeconds := .ofFields false 134 0x480000 }
    let loudSample : SampleT := .ofFields false 127 0
    cfg.packetEndSilentSeconds.toRat = 200 ∧ ¬ EndsAtSilence cfg (.audioIn ⟨0, 0, [loudSample]⟩ ::
      (.audioIn ⟨1024 / 96000, 0, loudSample :: List.replicate 1023 silence⟩ ::
        quietBuffers 18749)) := by
  intro cfg loudSample
  refine ⟨by decide +kernel, fun h => ?_⟩
  have hlength : silenceLength cfg = 19200000 := by decide +kernel
  have hover : silenceIsOver cfg 19199999 := by decide +kernel
  rw [endsAtSilence_iff cfg rfl (by rw [hlength]; decide)] at h
  have hsamples : samplesOf (.audioIn ⟨1024 / 96000, 0,
      loudSample :: List.replicate 1023 silence⟩ :: quietBuffers 18749) =
        loudSample :: List.replicate 19199999 silence := by
    rw [← List.singleton_append, samplesOf_append, samplesOf_audioIn, samplesOf_quietBuffers,
      List.cons_append, List.replicate_append_replicate]
  generalize .audioIn ⟨1024 / 96000, 0, loudSample :: List.replicate 1023 silence⟩ ::
    quietBuffers 18749 = mid at h hsamples
  have hiff := h [] ⟨0, 0, [loudSample]⟩ mid [] (by rw [List.append_nil]; rfl) (by decide +kernel)
  have hperiod : (silenceLength cfg).toNat = 19199999 + 1 := by
    rw [hlength]
    decide
  rw [hsamples, hperiod] at hiff
  -- the scan completes a streak of all samples but the first one
  exact not_hasStreak_cons_replicate (by decide +kernel) _ _ (hiff.1
    ⟨List.cons_ne_nil _ _, 19199999, by decide, hover,
      (hasStreak_replicate (by decide +kernel) _).cons _⟩)

end End

end DetectorThread

end Netsim
