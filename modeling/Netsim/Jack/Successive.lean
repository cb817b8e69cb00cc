import Netsim.Jack.Pending

/-!
# Successive packets on one port

A START empties the queue of its modem, and a buffer that comes after the queue has run dry is
played from the index at which the empty buffer was left. If a START is delivered only when nothing
is left to play, and a later buffer never to a queue that has run dry, no sample is lost: the
samples are written in the order of their delivery, with silence in between, and what has not been
written is still to be played (`exists_after_keepsOrder`).
-/

namespace Netsim

namespace JackThread

open Playback

/-- Since `s₀`, port `i` has been written `one` and then `two`, with silence in between: samples of
the packet with samples `first`, and, when all of them have been written, samples of the packet with
samples `second`. What was delivered and is not written is pending. -/
def KeepsOrder (cfg : JackConfig) (i : ℕ) (first second delivered : List SampleT)
    (s₀ s : JackThread) : Prop :=
  ∃ w one two, s.written i = s₀.written i ++ w ∧ Padded (one ++ two) w ∧
    one <+: first ∧ two <+: second ∧ (two ≠ [] → one = first) ∧
    delivered = one ++ two ++ (s.playback (cfg.firstModemIndex + i)).pending

/-- When the playback of a packet ends: its `buffer_start_time` plus its duration. -/
def windowEnd (cfg : JackConfig) (audio : AudioBuffer) (packet : List TaggedAudioBuffer) : ℚ :=
  audio.bufferStartTime + (packet.flatMap (·.samples)).length / cfg.fs

/-- Nothing is lost on port `i`: what was delivered since `s₀` was written in order, with silence in
between, or is pending. -/
def Lossless (cfg : JackConfig) (i : ℕ) (s₀ : JackThread) (delivered : List SampleT)
    (s : JackThread) : Prop :=
  ∃ w played, s.written i = s₀.written i ++ w ∧ Padded played w ∧
    delivered = played ++ (s.playback (cfg.firstModemIndex + i)).pending

section Order

variable {cfg : JackConfig} {i : ℕ} {s₀ s s' : JackThread} {delivered : List SampleT}

/-- A prefix of two lists is a prefix of the first, or all of it and a prefix of the second. -/
theorem exists_prefixes {α : Type*} {played first second : List α}
    (h : played <+: first ++ second) : ∃ one two, played = one ++ two ∧ one <+: first ∧
      two <+: second ∧ (two ≠ [] → one = first) := by
  rcases List.prefix_or_prefix_of_prefix h (List.prefix_append first second) with h' | ⟨two, rfl⟩
  · exact ⟨played, [], by simp, h', List.nil_prefix, by simp⟩
  · exact ⟨first, two, rfl, List.prefix_rfl, (List.prefix_append_right_inj first).1 h,
      fun _ => rfl⟩

/-- What is played without loss of two packets is played in their order. -/
theorem Lossless.keepsOrder {first second : List SampleT} (h : Lossless cfg i s₀ delivered s)
    (hdelivered : delivered <+: first ++ second) :
    KeepsOrder cfg i first second delivered s₀ s := by
  obtain ⟨w, played, hwritten, hpadded, rfl⟩ := h
  obtain ⟨one, two, rfl, hone, htwo, horder⟩ :=
    exists_prefixes ((List.prefix_append _ _).trans hdelivered)
  exact ⟨w, one, two, hwritten, hpadded, hone, htwo, horder, rfl⟩

end Order

/-! ### Two packets -/

/-- After any history, two successive packets on a modem are written in order and without loss, if
every buffer since the first START is delivered safely. -/
theorem exists_after_keepsOrder (cfg : JackConfig) (hcfg : cfg.continuous = false) (i : ℕ)
    (hi : i < cfg.localNumberOfModems) (first second : TaggedAudioBuffer)
    (rest more : List TaggedAudioBuffer) (hwhole : WholePacket (first :: rest))
    (history es : List JackEvent)
    (haudio : DeliversAudio (history ++ [.audioOut first (cfg.firstModemIndex + i)] ++ es))
    (hcycles : Run.ExecAlways (step cfg) {} FullCycle
      (history ++ [.audioOut first (cfg.firstModemIndex + i)] ++ es))
    (hdelivered : deliveries (cfg.firstModemIndex + i) es <+: rest ++ second :: more)
    (hsafe : ∀ s₀, after cfg {} (history ++ [.audioOut first (cfg.firstModemIndex + i)]) = some s₀ →
      Run.ExecAlways (step cfg) s₀ (SafeDelivery (cfg.firstModemIndex + i)) es) :
    ∃ s₀ s, after cfg {} (history ++ [.audioOut first (cfg.firstModemIndex + i)]) = some s₀ ∧
      after cfg s₀ es = some s ∧
      KeepsOrder cfg i ((first :: rest).flatMap (·.samples)) ((second :: more).flatMap (·.samples))
        ((first :: deliveries (cfg.firstModemIndex + i) es).flatMap (·.samples)) s₀ s := by
  have haudio' : DeliversAudio (history ++ [.audioOut first (cfg.firstModemIndex + i)]) :=
    fun b m hb => haudio b m (List.mem_append_left _ hb)
  obtain ⟨s₀, hs₀, hhealthy, hwaiting⟩ := exists_after_start (i := i) hcfg hwhole
    (haudio'.of_concat.2 first _ (List.mem_singleton_self _)) haudio'.of_concat.1
    ((hcycles.of_append _ _).of_append _ _)
  obtain ⟨s, w, hs, hwritten, hpadded, hpending⟩ := exists_after_kept hcfg hi hhealthy
    (fun b m hb => haudio b m (List.mem_append_right _ hb)) (hcycles.of_append_right _ _ hs₀)
    (hsafe s₀ hs₀)
  -- the first START leaves nothing but itself to be played
  have hlossless : Lossless cfg i s₀
      ((first :: deliveries (cfg.firstModemIndex + i) es).flatMap (·.samples)) s := by
    refine ⟨w, kept cfg i s₀ es, hwritten, hpadded, ?_⟩
    rw [← hpending, hwaiting.pending_eq]
    simp [deliveries]
  refine ⟨s₀, s, hs₀, hs, hlossless.keepsOrder ?_⟩
  obtain ⟨later, hlater⟩ := hdelivered
  refine ⟨later.flatMap (·.samples), ?_⟩
  rw [← List.flatMap_append, List.cons_append, hlater, ← List.flatMap_append, List.cons_append]

/-- Two packets of two samples each, the second started after the first was played. -/
theorem keepsOrder_of_two_packets :
    let cfg : JackConfig := { localNumberOfModems := 1, fs := 1, minPlaybackBufferSize := 1 }
    let x : SampleT := .ofFields true 127 0
    let y : SampleT := .ofFields false 127 0
    let first : TaggedAudioBuffer := ⟨some ⟨1, 0, [x]⟩, .START, 0⟩
    let last : TaggedAudioBuffer := ⟨some ⟨2, 0, [x]⟩, .END, 0⟩
    let second : TaggedAudioBuffer := ⟨some ⟨4, 0, [y]⟩, .START, 1⟩
    let secondLast : TaggedAudioBuffer := ⟨some ⟨5, 0, [y]⟩, .END, 1⟩
    let history : List JackEvent := [.bufferSizeChange 2, .registerPort 0]
    let es : List JackEvent := [.audioOut last 0, .process (twoFrames 0), .process (twoFrames 2),
      .audioOut second 0, .audioOut secondLast 0, .process (twoFrames 4)]
    ∃ s₀ s, after cfg {} (history ++ [.audioOut first 0]) = some s₀ ∧ after cfg s₀ es = some s ∧
      KeepsOrder cfg 0 [x, x] [y, y] [x, x, y, y] s₀ s ∧
      s.written 0 = [silence, x, x, silence, y, y] := by
  intro cfg x y first last second secondLast history es
  have hwritten : ((after cfg {} (history ++ [.audioOut first 0])).bind fun s₀ =>
      after cfg s₀ es).map (·.written 0) = some [silence, x, x, silence, y, y] := by
    decide +kernel
  obtain ⟨s₀, s, hs₀, hs, hkeeps⟩ := exists_after_keepsOrder cfg rfl 0 (by decide) first second
    [last] [secondLast] ⟨first, [], last, rfl, rfl, rfl, by simp⟩ history es (by
      intro b m hb
      simp only [history, es, List.cons_append, List.nil_append, List.mem_cons, List.not_mem_nil,
        reduceCtorEq, JackEvent.audioOut.injEq, false_or, or_false] at hb
      rcases hb with ⟨rfl, -⟩ | ⟨rfl, -⟩ | ⟨rfl, -⟩ | ⟨rfl, -⟩ <;> rfl)
    (Run.execAlways_of_check _ _ (by decide +kernel)) (by decide +kernel)
    (fun s₀ hs₀ => Run.execAlways_of_check _ _ (by
      have hall : (after cfg {} (history ++ [.audioOut first 0])).all fun s₀ =>
          Run.checkAlways (step cfg) (SafeDelivery 0) s₀ es := by decide +kernel
      have hs₀ : after cfg {} (history ++ [.audioOut first 0]) = some s₀ := hs₀
      rwa [hs₀] at hall))
  have hs₀ : after cfg {} (history ++ [.audioOut first 0]) = some s₀ := hs₀
  refine ⟨s₀, s, hs₀, hs, hkeeps, ?_⟩
  rw [hs₀, Option.bind_some, hs, Option.map_some, Option.some_inj] at hwritten
  exact hwritten

/-- The second packet is delivered while the first, whose playback ends 98 seconds before the
second is due, waits for its start: both samples of the first are lost. -/
theorem not_keepsOrder_of_waiting_packet :
    let cfg : JackConfig := { localNumberOfModems := 1, fs := 1, minPlaybackBufferSize := 1 }
    let x : SampleT := .ofFields true 127 0
    let audio : AudioBuffer := ⟨100, 0, [x]⟩
    let audio' : AudioBuffer := ⟨200, 0, [x]⟩
    let first : TaggedAudioBuffer := ⟨some audio, .START, 0⟩
    let last : TaggedAudioBuffer := ⟨some ⟨101, 0, [x]⟩, .END, 0⟩
    let second : TaggedAudioBuffer := ⟨some audio', .START, 1⟩
    let secondLast : TaggedAudioBuffer := ⟨some ⟨201, 0, [x]⟩, .END, 1⟩
    let history : List JackEvent := [.bufferSizeChange 2, .registerPort 0]
    let es : List JackEvent := [.audioOut last 0, .process (twoFrames 0), .audioOut second 0]
    windowEnd cfg audio [first, last] ≤ audio'.bufferStartTime ∧
      deliveries 0 es <+: [last, second, secondLast] ∧
      ∃ s₀ s, after cfg {} (history ++ [.audioOut first 0]) = some s₀ ∧
        after cfg s₀ es = some s ∧ ¬ KeepsOrder cfg 0 [x, x] [x, x] [x, x, x] s₀ s := by
  intro cfg x audio audio' first last second secondLast history es
  have hend : ((after cfg {} (history ++ [.audioOut first 0])).bind fun s₀ =>
      (after cfg s₀ es).map fun s => (s₀.written 0, s.written 0, (s.playback 0).pending)) =
        some ([], [], [x]) := by
    decide +kernel
  refine ⟨by norm_num [windowEnd, cfg, audio, audio', first, last, TaggedAudioBuffer.samples],
    by decide +kernel, ?_⟩
  obtain ⟨s₀, hs₀, hend⟩ := Option.bind_eq_some_iff.1 hend
  obtain ⟨s, hs, hend⟩ := Option.map_eq_some_iff.1 hend
  obtain ⟨hwritten₀, hwritten, hpending⟩ := by simpa only [Prod.mk.injEq] using hend
  refine ⟨s₀, s, hs₀, hs, ?_⟩
  rintro ⟨w, one, two, hw, hpadded, -, -, -, hdelivered⟩
  -- nothing was written, but only one of the three samples is still pending
  obtain rfl : w = [] := by simpa [hwritten₀, hwritten] using hw.symm
  have hnone := hpadded.eq_nil
  have hpending' : (s.playback (cfg.firstModemIndex + (0 : ℕ))).pending = [x] := hpending
  rw [hnone, hpending', List.nil_append] at hdelivered
  exact absurd (congrArg List.length hdelivered) (by decide)

end JackThread

end Netsim
