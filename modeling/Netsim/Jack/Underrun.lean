import Netsim.Jack.CompletePackets
import Netsim.Jack.Pending

/-!
# Underruns

When the queue of a modem runs dry, the rest of the cycle is read from the empty buffer, and the
index goes on with it. A buffer that arrives after that is the front of the queue, with the index
where the empty buffer was left: its first samples are skipped. Nothing is skipped iff no samples
arrive after the queue has run dry (`skipsNothing_iff_noRefill`).
-/

namespace Netsim

namespace Playback

/-- When the queue has run dry, the index is behind the first zero of the empty buffer. -/
def Ahead (p : Playback) : Prop := p.newPacket = false → p.queue = [] → 1 ≤ p.index

section Ahead

variable {cfg : JackConfig} {emptyBuffer : Option TaggedAudioBuffer} {cycle : Cycle} {n : ℕ}
  {p p' : Playback} {out : List SampleT}

theorem Played.ahead {start nframes : ℕ} (h : Played p p' start nframes out) : p'.Ahead := by
  intro _ hqueue
  by_cases hle : nframes - start ≤ p.unplayed.length
  · exact absurd hqueue (h.more hle).1
  -- the cycle has read at least one zero
  · rw [(h.dry (Nat.lt_of_not_le hle)).2]
    omega

theorem Ahead.playPacket (h : p.Ahead) (haudio : AllAudio p.queue)
    (hzeros : HoldsZeros emptyBuffer n) (hn : cycle.nframes ≤ n)
    (hplay : playPacket cfg emptyBuffer cycle p = some (p', out)) : p'.Ahead := by
  cases packetCycle_of_playPacket haudio hzeros hn hplay with
  | idle _ => exact h
  | continues _ _ hplayed => exact hplayed.ahead
  | waits _ hnew _ _ => exact fun hbegun => absurd (hbegun.symm.trans hnew) Bool.false_ne_true
  | begins _ _ _ _ _ hplayed => exact hplayed.ahead

theorem ahead_audioOut (cfg : JackConfig) (b : TaggedAudioBuffer) (p : Playback) :
    (p.audioOut cfg b).Ahead := by
  intro _ hqueue
  rw [Playback.audioOut] at hqueue
  split_ifs at hqueue
  simp at hqueue

/-- A further buffer of a packet will be played from its first sample on iff it has none or the
queue has not run dry. -/
theorem pending_audioOut_iff (hcfg : cfg.continuous = false) (h : p.Ahead)
    {b : TaggedAudioBuffer} (hb : b.marker ≠ .START) :
    (p.audioOut cfg b).pending = p.pending ++ b.samples ↔
      (p.newPacket = false → p.queue = [] → b.samples = []) := by
  constructor
  · intro hpending hbegun hqueue
    have hindex := h hbegun hqueue
    have hout : p.audioOut cfg b = { p with queue := [b] } := by
      simp [Playback.audioOut, hcfg, hb, hqueue]
    rw [hout] at hpending
    have hdrop : b.samples.drop p.index = b.samples := by
      simpa [pending, hbegun, unplayed, hqueue] using hpending
    -- the first samples are dropped, of which there are none
    have hlength := congrArg List.length hdrop
    rw [List.length_drop] at hlength
    exact List.eq_nil_of_length_eq_zero (by omega)
  · intro hnone
    refine pending_audioOut hcfg ?_
    rw [Safe, if_neg hb]
    exact fun hbegun hqueue => .inr (hnone hbegun hqueue)

end Ahead

end Playback

namespace JackThread

open Playback

/-- No samples are delivered for modem `m` when its queue has run dry. -/
def NoRefill (m : ℤ) (s : JackThread) : JackEvent → Prop
  | .audioOut buffer modemIndex => modemIndex = m → (s.playback m).newPacket = false →
      (s.playback m).queue = [] → buffer.samples = []
  | _ => True

instance (m : ℤ) (s : JackThread) : (e : JackEvent) → Decidable (NoRefill m s e)
  | .audioOut _ _ => inferInstanceAs (Decidable (_ → _ → _ → _))
  | .process _ | .bufferSizeChange _ | .registerPort _ => inferInstanceAs (Decidable True)

/-- No sample of a packet that was started in `s₀` is skipped on port `i`. -/
structure SkipsNothing (cfg : JackConfig) (i : ℕ) (first : TaggedAudioBuffer)
    (rest : List TaggedAudioBuffer) (s₀ : JackThread) (es : List JackEvent) : Prop where
  /-- What was written, without the inserted silence, is a prefix of the packet. -/
  played : ∀ pre, pre <+: es → ∃ s w, after cfg s₀ pre = some s ∧
    s.written i = s₀.written i ++ w ∧ Padded (kept cfg i s₀ pre) w ∧
      kept cfg i s₀ pre <+: (first :: rest).flatMap (·.samples)
  /-- Every buffer that arrives is to be played from its first sample on, after all that is
  pending. -/
  whole : ∀ pre b post s, es = pre ++ .audioOut b (cfg.firstModemIndex + i) :: post →
    after cfg s₀ pre = some s →
    ((s.playback (cfg.firstModemIndex + i)).audioOut cfg b).pending =
      (s.playback (cfg.firstModemIndex + i)).pending ++ b.samples

section Packet

variable {cfg : JackConfig} {i : ℕ} {first : TaggedAudioBuffer} {rest : List TaggedAudioBuffer}
  {s₀ s s' : JackThread} {es : List JackEvent} {e : JackEvent}

theorem ahead_step (hcfg : cfg.continuous = false) (hi : i < cfg.localNumberOfModems)
    (hs : s.Healthy) (hcycle : FullCycle s e) (hafter : step cfg s e = some s')
    (h : (s.playback (cfg.firstModemIndex + i)).Ahead) :
    (s'.playback (cfg.firstModemIndex + i)).Ahead := by
  cases e with
  | audioOut b m =>
      obtain rfl := Option.some_inj.1 hafter
      by_cases hm : m = cfg.firstModemIndex + i
      · subst hm
        simpa using ahead_audioOut cfg b _
      · simpa [Function.update_of_ne (Ne.symm hm)] using h
  | process cycle =>
      have hport := (playsPort_of_jackProcess hcfg hs hcycle.1.le hcycle.2 hafter).2 i hi
      rw [PlaysPort] at hport
      split_ifs at hport
      · obtain ⟨out, hplay, -⟩ := hport
        exact h.playPacket (hs.audio _) (hs.zeros (hcycle.1 ▸ hcycle.2)) hcycle.1.le hplay
      · exact hport.1 ▸ h
  | bufferSizeChange n =>
      obtain rfl := Option.some_inj.1 hafter
      exact h
  | registerPort j =>
      obtain rfl := Option.some_inj.1 hafter
      exact h

theorem exists_after_ahead (hcfg : cfg.continuous = false) (hi : i < cfg.localNumberOfModems)
    (hs₀ : s₀.Healthy) (hahead : (s₀.playback (cfg.firstModemIndex + i)).Ahead)
    (haudio : DeliversAudio es) (hcycles : Run.ExecAlways (step cfg) s₀ FullCycle es) :
    ∃ s, after cfg s₀ es = some s ∧ (s.playback (cfg.firstModemIndex + i)).Ahead := by
  obtain ⟨s, hs, -, h⟩ := Run.exec_induction (step cfg) s₀ (P := DeliversAudio)
    (I := fun _ s => s.Healthy ∧ (s.playback (cfg.firstModemIndex + i)).Ahead)
    (fun _ _ h => h.of_concat.1) ⟨hs₀, hahead⟩
    (fun es e s haudio ⟨hs, h⟩ hcycle => by
      obtain ⟨s', hs', hhealthy⟩ := hs.exists_step hcfg haudio.of_concat.2 hcycle.withinBuffer
      exact ⟨s', hs', hhealthy, ahead_step hcfg hi hs hcycle hs' h⟩)
    es haudio hcycles
  exact ⟨s, hs, h⟩

/-- The deliveries of a packet are safe if none comes to a queue that has run dry. -/
theorem safe_of_noRefill (hwhole : WholePacket (first :: rest))
    (hrun : PacketRun cfg (cfg.firstModemIndex + i) rest s₀ es)
    (h : Run.ExecAlways (step cfg) s₀ (NoRefill (cfg.firstModemIndex + i)) es) :
    Run.ExecAlways (step cfg) s₀ (SafeDelivery (cfg.firstModemIndex + i)) es := by
  rintro pre e post s rfl hs
  have hrefill := h pre e post s rfl hs
  cases e with
  | audioOut b m =>
      rintro rfl
      rw [Safe, if_neg (marker_ne_start hwhole hrun.prefix_of_audioOut)]
      exact fun hbegun hqueue => .inr (hrefill rfl hbegun hqueue)
  | process cycle => trivial
  | bufferSizeChange n => trivial
  | registerPort j => trivial

end Packet

/-- After any history, no sample of a packet is skipped iff no samples of it are delivered when its
queue has run dry. -/
theorem skipsNothing_iff_noRefill (cfg : JackConfig) (hcfg : cfg.continuous = false) (i : ℕ)
    (hi : i < cfg.localNumberOfModems) (first : TaggedAudioBuffer)
    (rest : List TaggedAudioBuffer) (hwhole : WholePacket (first :: rest))
    (hfirst : first.buffer.isSome) (history : List JackEvent) (haudio : DeliversAudio history)
    (hcycles : Run.ExecAlways (step cfg) {} FullCycle history) (s₀ : JackThread)
    (hs₀ : after cfg {} (history ++ [.audioOut first (cfg.firstModemIndex + i)]) = some s₀)
    (es : List JackEvent) (hrun : PacketRun cfg (cfg.firstModemIndex + i) rest s₀ es) :
    SkipsNothing cfg i first rest s₀ es ↔
      Run.ExecAlways (step cfg) s₀ (NoRefill (cfg.firstModemIndex + i)) es := by
  obtain ⟨s, hs, hhealthy, hwaiting⟩ :=
    exists_after_start hcfg hwhole hfirst haudio hcycles
  obtain rfl : s₀ = s := Option.some_inj.1 (hs₀.symm.trans hs)
  have hahead₀ : (s₀.playback (cfg.firstModemIndex + i)).Ahead := fun hbegun =>
    absurd (hbegun.symm.trans hwaiting.new) Bool.false_ne_true
  -- what a delivery does depends on whether the queue has run dry before it
  have hwhole_iff (pre : List JackEvent) (b : TaggedAudioBuffer) (post : List JackEvent)
      (s : JackThread) (heq : es = pre ++ .audioOut b (cfg.firstModemIndex + i) :: post)
      (hs : after cfg s₀ pre = some s) :
      ((s.playback (cfg.firstModemIndex + i)).audioOut cfg b).pending =
          (s.playback (cfg.firstModemIndex + i)).pending ++ b.samples ↔
        ((s.playback (cfg.firstModemIndex + i)).newPacket = false →
          (s.playback (cfg.firstModemIndex + i)).queue = [] → b.samples = []) := by
    rw [heq] at hrun
    obtain ⟨t, ht, hahead⟩ := exists_after_ahead hcfg hi hhealthy hahead₀ hrun.of_append.audio
      hrun.of_append.cycles
    obtain rfl : s = t := Option.some_inj.1 (hs.symm.trans ht)
    exact pending_audioOut_iff hcfg hahead (marker_ne_start hwhole hrun.prefix_of_audioOut)
  constructor
  · intro h pre e post s heq hs
    cases e with
    | audioOut b m =>
        rintro rfl
        exact (hwhole_iff pre b post s heq hs).1 (h.whole pre b post s heq hs)
    | process cycle => trivial
    | bufferSizeChange n => trivial
    | registerPort j => trivial
  · intro h
    refine ⟨?_, fun pre b post s heq hs => (hwhole_iff pre b post s heq hs).2
      (h pre _ post s heq hs rfl)⟩
    rintro pre ⟨post, rfl⟩
    obtain ⟨s, w, hs, hwritten, hpadded, hpending⟩ := exists_after_kept hcfg hi hhealthy
      hrun.of_append.audio hrun.of_append.cycles
      (safe_of_noRefill hwhole hrun.of_append (h.of_append _ _))
    refine ⟨s, w, hs, hwritten, hpadded, ?_⟩
    -- what was played is continued by what is pending, and both were delivered
    obtain ⟨more, rfl⟩ := hrun.of_append.delivered
    rw [hwaiting.pending_eq] at hpending
    have hkept : (first :: (deliveries (cfg.firstModemIndex + i) pre ++ more)).flatMap (·.samples) =
        kept cfg i s₀ pre ++ ((s.playback (cfg.firstModemIndex + i)).pending ++
          more.flatMap (·.samples)) := by
      rw [← List.append_assoc, ← hpending]
      simp [deliveries]
    rw [hkept]
    exact List.prefix_append _ _

/-- A packet of two buffers that are both delivered before the first cycle, the queue of which runs
dry in the second one. -/
theorem skipsNothing_of_two_buffers :
    let cfg : JackConfig := { localNumberOfModems := 1, fs := 1, minPlaybackBufferSize := 1 }
    let x : SampleT := .ofFields false 127 0
    let y : SampleT := .ofFields true 127 0
    let first : TaggedAudioBuffer := ⟨some ⟨1, 0, [x]⟩, .START, 0⟩
    let last : TaggedAudioBuffer := ⟨some ⟨2, 0, [x, y]⟩, .END, 0⟩
    let history : List JackEvent := [.bufferSizeChange 2, .registerPort 0]
    let es : List JackEvent :=
      [.process (twoFrames (-5)), .audioOut last 0, .process (twoFrames 1), .process (twoFrames 3)]
    ∃ s₀ s, after cfg {} (history ++ [.audioOut first 0]) = some s₀ ∧ after cfg s₀ es = some s ∧
      s.written 0 = [x, x, y, silence] ∧ SkipsNothing cfg 0 first [last] s₀ es := by
  intro cfg x y first last history es
  have hend : ((after cfg {} (history ++ [.audioOut first 0])).bind fun s₀ =>
      (after cfg s₀ es).map (·.written 0)) = some [x, x, y, silence] := by
    decide +kernel
  obtain ⟨s₀, hs₀, hend⟩ := Option.bind_eq_some_iff.1 hend
  obtain ⟨s, hs, hwritten⟩ := Option.map_eq_some_iff.1 hend
  have hstart : s₀ = ((after cfg {} (history ++ [.audioOut first 0])).getD {}) := by rw [hs₀]; rfl
  refine ⟨s₀, s, hs₀, hs, hwritten, (skipsNothing_iff_noRefill cfg rfl 0 (by decide) first [last]
    ⟨first, [], last, rfl, rfl, rfl, by simp⟩ rfl history (fun b m hb => by simp [history] at hb)
    (Run.execAlways_of_check _ _ (by decide +kernel)) s₀ hs₀ es ⟨?_, ?_, ?_⟩).2 ?_⟩
  · intro b m hb
    obtain ⟨rfl, -⟩ : b = last ∧ m = 0 := by simpa [es] using hb
    rfl
  · rw [hstart]
    exact Run.execAlways_of_check _ _ (by decide +kernel)
  · exact List.prefix_rfl
  · rw [hstart]
    exact Run.execAlways_of_check _ _ (by decide +kernel)

/-- Three zeros are read after the first sample of a packet, and three samples of the buffer that
comes next are skipped. -/
theorem not_skipsNothing_of_underrun :
    let cfg : JackConfig := { localNumberOfModems := 1, fs := 1, minPlaybackBufferSize := 1 }
    let x : SampleT := .ofFields false 127 0
    let y : SampleT := .ofFields true 127 0
    let first : TaggedAudioBuffer := ⟨some ⟨1, 0, [x]⟩, .START, 0⟩
    let last : TaggedAudioBuffer := ⟨some ⟨2, 0, [x, x, x, y]⟩, .END, 0⟩
    let history : List JackEvent := [.bufferSizeChange 4, .registerPort 0]
    let es : List JackEvent := [.process ⟨4, 1, fun _ => 0⟩, .audioOut last 0,
      .process ⟨4, 5, fun _ => 0⟩]
    WholePacket [first, last] ∧
      ∃ s₀ s, after cfg {} (history ++ [.audioOut first 0]) = some s₀ ∧ after cfg s₀ es = some s ∧
        s.written 0 = [x, silence, silence, silence, y, silence, silence, silence] ∧
        PacketRun cfg 0 [last] s₀ es ∧ ¬ SkipsNothing cfg 0 first [last] s₀ es := by
  intro cfg x y first last history es
  have hend : ((after cfg {} (history ++ [.audioOut first 0])).bind fun s₀ =>
      (after cfg s₀ es).map fun s => (s.written 0, kept cfg 0 s₀ es)) =
        some ([x, silence, silence, silence, y, silence, silence, silence], [x, y]) := by
    decide +kernel
  obtain ⟨s₀, hs₀, hend⟩ := Option.bind_eq_some_iff.1 hend
  obtain ⟨s, hs, hend⟩ := Option.map_eq_some_iff.1 hend
  obtain ⟨hwritten, hkept⟩ := Prod.mk.inj hend
  have hstart : s₀ = ((after cfg {} (history ++ [.audioOut first 0])).getD {}) := by rw [hs₀]; rfl
  refine ⟨⟨first, [], last, rfl, rfl, rfl, by simp⟩, s₀, s, hs₀, hs, hwritten, ⟨?_, ?_, ?_⟩,
    fun h => ?_⟩
  · intro b m hb
    obtain ⟨rfl, -⟩ : b = last ∧ m = 0 := by simpa [es] using hb
    rfl
  · rw [hstart]
    exact Run.execAlways_of_check _ _ (by decide +kernel)
  · exact List.prefix_rfl
  -- what was played is not the beginning of the packet
  · obtain ⟨-, -, -, -, -, hprefix⟩ := h.played es List.prefix_rfl
    rw [hkept] at hprefix
    exact absurd hprefix (by decide +kernel)

end JackThread

end Netsim
