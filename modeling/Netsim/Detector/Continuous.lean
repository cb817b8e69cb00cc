import Netsim.Detector.Silence
import Netsim.Lib.Repeats

/-!
# Continuous mode

In continuous mode every buffer is published as it comes, except that the buffer that ends a packet
is published twice, as END and once more without a marker. So the stream is forwarded unchanged iff
no packet ends (`forwardsOnce_iff`), and then there is at most one packet, which is started by the
first loud buffer.
-/

namespace Netsim

namespace DetectorThread

open Streak

variable (cfg : DetectorConfig)

/-- The buffers that are received. -/
def buffersOf (es : List DetectorEvent) : List AudioBuffer :=
  es.filterMap fun
    | .audioIn buffer => some buffer
    | .bufferSizeChange _ => none

@[simp]
theorem buffersOf_append (es fs : List DetectorEvent) :
    buffersOf (es ++ fs) = buffersOf es ++ buffersOf fs := List.filterMap_append

@[simp]
theorem buffersOf_audioIn (buffer : AudioBuffer) : buffersOf [.audioIn buffer] = [buffer] := rfl

@[simp]
theorem buffersOf_bufferSizeChange (n : ℕ) : buffersOf [.bufferSizeChange n] = [] := rfl

/-- At any time, the buffers that have been published are those that have been received. -/
def ForwardsOnce (es : List DetectorEvent) : Prop :=
  ∀ pre, pre <+: es →
    (after cfg pre).detectorAudio.map (·.buffer) = (buffersOf pre).map some

section Continuous

variable {cfg} {d : DetectorThread} {b : AudioBuffer}

/-- What is published for one buffer. -/
theorem map_buffer_audioIn (hc : cfg.continuous = true) :
    (d.audioIn cfg b).detectorAudio.map (·.buffer) = d.detectorAudio.map (·.buffer) ++
      if d.inPacket && (scanSilence cfg d.framesSinceSilence b.samples).2 then [some b, some b]
      else [some b] := by
  cases hin : d.inPacket with
  | false =>
      cases hloud : b.samples.any (overThreshold cfg) <;>
        simp [audioIn, startPacket, publish, hin, hc, hloud]
  | true =>
      rcases hscan : scanSilence cfg d.framesSinceSilence b.samples with ⟨silence, ended⟩
      cases ended <;> simp [audioIn, publish, hin, hc, hscan]

/-- The buffers that have been published are those received, in order, and some of them again. -/
theorem repeats_after (hc : cfg.continuous = true) (es : List DetectorEvent) :
    Repeats (buffersOf es) ((after cfg es).detectorAudio.filterMap (·.buffer)) := by
  have hbuffers (bs : List TaggedAudioBuffer) :
      bs.filterMap (·.buffer) = (bs.map (·.buffer)).filterMap id := by
    rw [List.filterMap_map]
    rfl
  induction es using List.reverseRecOn with
  | nil => exact .nil
  | append_singleton es e ih =>
      rw [after_concat, buffersOf_append]
      cases e with
      | bufferSizeChange n =>
          rw [buffersOf_bufferSizeChange, List.append_nil, step, detectorAudio_bufferSizeChange]
          exact ih
      | audioIn b =>
          rw [hbuffers] at ih ⊢
          rw [step, map_buffer_audioIn hc, List.filterMap_append]
          refine ih.append ?_
          split_ifs
          · exact Repeats.nil.next.read.read
          · exact Repeats.nil.next.read

/-- Before the first loud buffer there is no packet. -/
theorem outside_of_quiet {es : List DetectorEvent} (h : ∀ b ∈ buffersOf es, ¬ loud cfg b) :
    (after cfg es).inPacket = false := by
  induction es using List.reverseRecOn with
  | nil => rfl
  | append_singleton es e ih =>
      rw [buffersOf_append] at h
      have hout := ih fun b hb => h b (List.mem_append_left _ hb)
      rw [after_concat]
      cases e with
      | bufferSizeChange n => rwa [step, inPacket_bufferSizeChange]
      | audioIn b =>
          have hquiet := h b (List.mem_append_right _ (by simp))
          rw [step, (audioIn_outside cfg _ hout).1]
          simpa using hquiet

/-- If a loud buffer is received, there is a first one. -/
theorem exists_first_loud {es : List DetectorEvent} (h : ∃ b ∈ buffersOf es, loud cfg b) :
    ∃ pre b mid, es = pre ++ .audioIn b :: mid ∧ (∀ c ∈ buffersOf pre, ¬ loud cfg c) ∧
      loud cfg b := by
  induction es using List.reverseRecOn with
  | nil => simp [buffersOf] at h
  | append_singleton es e ih =>
      by_cases hes : ∃ b ∈ buffersOf es, loud cfg b
      · obtain ⟨pre, b, mid, rfl, hquiet, hloud⟩ := ih hes
        exact ⟨pre, b, mid ++ [e], by simp, hquiet, hloud⟩
      -- it is the last event
      · have hquiet : ∀ c ∈ buffersOf es, ¬ loud cfg c := fun c hc hloud => hes ⟨c, hc, hloud⟩
        obtain ⟨b, hb, hloud⟩ := h
        rw [buffersOf_append, List.mem_append] at hb
        rcases hb with hb | hb
        · exact absurd hloud (hquiet b hb)
        · cases e with
          | bufferSizeChange n => simp at hb
          | audioIn c =>
              obtain rfl : b = c := by simpa using hb
              exact ⟨es, b, [], rfl, hquiet, hloud⟩

/-- The first loud buffer starts a packet. -/
theorem detects_of_first_loud {pre : List DetectorEvent}
    (hquiet : ∀ c ∈ buffersOf pre, ¬ loud cfg c) (hloud : loud cfg b) :
    detects cfg (after cfg pre) b := by
  rw [loud] at hloud
  simp [detects, outside_of_quiet hquiet, hloud]

/-- The stream is forwarded, every buffer once and in order, iff the samples after the first loud
buffer never have as many silent ones in a row as end the comparison of the counter. -/
theorem forwardsOnce_iff (cfg : DetectorConfig) (hc : cfg.continuous = true)
    (es : List DetectorEvent) :
    ForwardsOnce cfg es ↔ ∀ pre b post, es = pre ++ .audioIn b :: post →
      (∀ c ∈ buffersOf pre, ¬ loud cfg c) → loud cfg b → ¬ Completes cfg (samplesOf post) := by
  constructor
  · rintro h pre b post rfl hquiet hloud hpost
    obtain ⟨mid, c, later, rfl, hmid, hcompletes⟩ := exists_first_buffer not_completes_nil hpost
    obtain ⟨hin, hframes, -⟩ := inside_of_not_completes (detects_of_first_loud hquiet hloud) hmid
    obtain ⟨ended, hscan, hended⟩ := scanSilence_spec cfg c.samples hmid
    rw [hended.2 hcompletes] at hscan
    -- the buffer that ends the packet is published twice
    have hbefore := h (pre ++ .audioIn b :: mid) (by simp)
    have hafter := h (pre ++ .audioIn b :: mid ++ [.audioIn c]) (by simp)
    have hinputs : buffersOf (pre ++ .audioIn b :: mid ++ [.audioIn c]) =
        buffersOf (pre ++ .audioIn b :: mid) ++ [c] := buffersOf_append _ _
    rw [after_concat, step, map_buffer_audioIn hc, hin, hframes, hscan, hbefore, hinputs,
      List.map_append, List.append_cancel_left_eq] at hafter
    cases hafter
  · intro h pre hpre
    induction pre using List.reverseRecOn with
    | nil => rfl
    | append_singleton pre e ih =>
        have hpublished := ih ((List.prefix_append pre [e]).trans hpre)
        rw [after_concat, buffersOf_append, List.map_append]
        cases e with
        | bufferSizeChange n => simpa [step] using hpublished
        | audioIn c =>
            -- no buffer ends a packet
            have hnot : ((after cfg pre).inPacket && (scanSilence cfg
                (after cfg pre).framesSinceSilence c.samples).2) = false := by
              cases hin : (after cfg pre).inPacket with
              | false => rfl
              | true =>
                  have hsome : ∃ b ∈ buffersOf pre, loud cfg b := by
                    by_contra hnone
                    have hout : (after cfg pre).inPacket = false :=
                      outside_of_quiet fun b hb hloud => hnone ⟨b, hb, hloud⟩
                    rw [hin] at hout
                    cases hout
                  obtain ⟨before, b, mid, rfl, hquiet, hloud⟩ := exists_first_loud hsome
                  obtain ⟨later, rfl⟩ := hpre
                  have hpost := h before b (mid ++ [.audioIn c] ++ later) (by simp) hquiet hloud
                  rw [samplesOf_append, samplesOf_append, samplesOf_audioIn] at hpost
                  have hmid := fun hmid : Completes cfg (samplesOf mid) =>
                    hpost ((hmid.append_right _).append_right _)
                  obtain ⟨-, hframes, -⟩ :=
                    inside_of_not_completes (detects_of_first_loud hquiet hloud) hmid
                  obtain ⟨ended, hscan, hended⟩ := scanSilence_spec cfg c.samples hmid
                  rw [hframes, hscan, Bool.true_and]
                  cases ended with
                  | false => rfl
                  | true => exact absurd ((hended.1 rfl).append_right _) hpost
            rw [step, map_buffer_audioIn hc, hnot, hpublished]
            rfl

/-- A packet that does not end is forwarded with the stream. -/
theorem forwardsOnce_of_open_packet :
    let cfg : DetectorConfig :=
      { continuous := true, samplingFreq := 1, packetEndSilentSeconds := .ofFields false 128 0 }
    let es : List DetectorEvent :=
      [.audioIn ⟨0, 0, [.ofFields false 127 0]⟩, .audioIn ⟨1, 0, [silence]⟩]
    ForwardsOnce cfg es ∧ (after cfg es).detectorAudio.map (·.marker) = [.START, .MIDDLE] := by
  intro cfg es
  refine ⟨(forwardsOnce_iff cfg rfl es).2 fun pre b post heq _ hloud hpost => ?_,
    by decide +kernel⟩
  -- two samples have to come after the one that is loud
  have hstreak := (completes_iff_of_exact 1 2 (by decide +kernel) rfl (by decide)
    (by decide +kernel) (by decide) (by decide) _).1 hpost
  have hle := hstreak.le_length
  have hpos : 0 < b.samples.length := by
    obtain ⟨x, hx, -⟩ := List.any_eq_true.1 hloud
    exact List.length_pos_of_mem hx
  have hcount := congrArg (fun es => (samplesOf es).length) heq
  have htwo : (samplesOf es).length = 2 := rfl
  simp only [htwo, samplesOf_append, ← List.singleton_append (l := post), samplesOf_audioIn,
    List.length_append] at hcount
  have hlength : (silenceLength cfg).toNat = 2 := by decide +kernel
  omega

/-- The buffer that ends the packet is published twice. -/
theorem not_forwardsOnce_of_end :
    ¬ ForwardsOnce
      { continuous := true, samplingFreq := 1, packetEndSilentSeconds := .ofFields false 128 0 }
      [.audioIn ⟨0, 0, [.ofFields false 127 0]⟩, .audioIn ⟨1, 0, [silence, silence]⟩] := by
  intro h
  exact absurd (h _ List.prefix_rfl) (by decide +kernel)

end Continuous

end DetectorThread

end Netsim
