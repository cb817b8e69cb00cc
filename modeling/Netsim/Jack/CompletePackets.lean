import Netsim.Jack.ExactPlayback

/-!
# Complete packets

`jack_process` waits for `min_playback_buffer_size` buffers before it begins a packet, and does not
look whether the END of the packet is among them. A packet with fewer buffers is not played in any
run (`exists_after_packet`), and a packet with at least as many is played as soon as it is complete
and its start time has come (`playedWhenComplete_iff`).
-/

namespace Netsim

namespace JackThread

open Playback

/-- A run in which nothing but `rest`, what follows the START of a packet, is delivered for modem
`m`. -/
structure PacketRun (cfg : JackConfig) (m : ℤ) (rest : List TaggedAudioBuffer) (s₀ : JackThread)
    (es : List JackEvent) : Prop where
  audio : DeliversAudio es
  cycles : Run.ExecAlways (step cfg) s₀ FullCycle es
  delivered : deliveries m es <+: rest

/-- A packet that was started in `s₀` is played when it is complete. -/
structure PlayedWhenComplete (cfg : JackConfig) (i : ℕ) (startTime : ℚ)
    (rest : List TaggedAudioBuffer) (s₀ : JackThread) : Prop where
  /-- Every cycle that does not begin before the start time begins to play a complete packet. -/
  begins : ∀ es s cycle,
    PacketRun cfg (cfg.firstModemIndex + i) rest s₀ (es ++ [.process cycle]) →
    after cfg s₀ es = some s → deliveries (cfg.firstModemIndex + i) es = rest →
    (s.playback (cfg.firstModemIndex + i)).newPacket → s.outputPort i →
    startTime ≤ cycle.bufferStartTime →
    ∃ s' out, after cfg s₀ (es ++ [.process cycle]) = some s' ∧
      s'.written i = s.written i ++ out ∧
      Played { s.playback (cfg.firstModemIndex + i) with index := 0 }
        (s'.playback (cfg.firstModemIndex + i)) 0 cycle.nframes out
  /-- No state keeps a complete packet waiting for buffers that do not come: it can begin without
  them. -/
  released : ∀ es s, PacketRun cfg (cfg.firstModemIndex + i) rest s₀ es →
    after cfg s₀ es = some s → deliveries (cfg.firstModemIndex + i) es = rest →
    (s.playback (cfg.firstModemIndex + i)).newPacket →
    ∃ later s', deliveries (cfg.firstModemIndex + i) later = [] ∧
      PacketRun cfg (cfg.firstModemIndex + i) rest s₀ (es ++ later) ∧
      after cfg s₀ (es ++ later) = some s' ∧
      (s'.playback (cfg.firstModemIndex + i)).newPacket = false

section Packet

variable {cfg : JackConfig} {i : ℕ} {first : TaggedAudioBuffer} {rest : List TaggedAudioBuffer}
  {audio : AudioBuffer} {m : ℤ} {s₀ s s' : JackThread} {es : List JackEvent} {e : JackEvent}

theorem PacketRun.of_append {fs : List JackEvent} (h : PacketRun cfg m rest s₀ (es ++ fs)) :
    PacketRun cfg m rest s₀ es where
  audio b m' hb := h.audio b m' (List.mem_append_left _ hb)
  cycles := h.cycles.of_append _ _
  delivered := by
    have hdelivered := h.delivered
    rw [deliveries_append] at hdelivered
    exact (List.prefix_append _ _).trans hdelivered

/-- A run can be continued by an event that delivers nothing for the modem. -/
theorem PacketRun.concat (h : PacketRun cfg m rest s₀ es) (haudio : DeliversAudio [e])
    (hcycle : ∀ s, after cfg s₀ es = some s → FullCycle s e) (hnone : deliveries m [e] = []) :
    PacketRun cfg m rest s₀ (es ++ [e]) where
  audio b m hb := (List.mem_append.1 hb).elim (h.audio b m) (haudio b m)
  cycles := h.cycles.concat _ _ hcycle
  delivered := by
    rw [deliveries_append, hnone, List.append_nil]
    exact h.delivered

/-- After any run the port can be registered and a cycle follow. -/
theorem PacketRun.exists_cycle (h : PacketRun cfg m rest s₀ es) (hs : after cfg s₀ es = some s)
    (i : ℕ) (t : ℚ) :
    ∃ later cycle s', deliveries m later = [] ∧ cycle.bufferStartTime = t ∧
      PacketRun cfg m rest s₀ (es ++ later ++ [.process cycle]) ∧
      after cfg s₀ (es ++ later) = some s' ∧ s'.outputPort i ∧ s'.playback = s.playback := by
  have hsize : after cfg s₀ (es ++ [.bufferSizeChange 1]) = some (s.jackBufferSizeChange 1) :=
    (Run.exec_concat_eq_some _ _).2 ⟨s, hs, rfl⟩
  have hport : after cfg s₀ (es ++ [.bufferSizeChange 1] ++ [.registerPort i]) =
      some { s.jackBufferSizeChange 1 with outputPort := Function.update s.outputPort i true } :=
    (Run.exec_concat_eq_some _ _).2 ⟨_, hsize, rfl⟩
  have hrun : PacketRun cfg m rest s₀ (es ++ [.bufferSizeChange 1] ++ [.registerPort i]) := by
    refine (h.concat ?_ ?_ rfl).concat ?_ ?_ rfl
    · simp [DeliversAudio]
    · simp [FullCycle]
    · simp [DeliversAudio]
    · simp [FullCycle]
  have hcycle : PacketRun cfg m rest s₀
      (es ++ [.bufferSizeChange 1] ++ [.registerPort i] ++ [.process ⟨1, t, fun _ => 0⟩]) := by
    refine hrun.concat (by simp [DeliversAudio]) (fun u hu => ?_) rfl
    obtain rfl := Option.some_inj.1 (hport.symm.trans hu)
    exact ⟨rfl, le_rfl⟩
  exact ⟨[.bufferSizeChange 1, .registerPort i], ⟨1, t, fun _ => 0⟩,
    { s.jackBufferSizeChange 1 with outputPort := Function.update s.outputPort i true }, rfl, rfl,
    by simpa using hcycle, by simpa using hport, by simp, rfl⟩

/-- A buffer delivered for the modem is the next one of the packet. -/
theorem PacketRun.prefix_of_audioOut {b : TaggedAudioBuffer} {fs : List JackEvent}
    (h : PacketRun cfg m rest s₀ (es ++ .audioOut b m :: fs)) :
    deliveries m es ++ [b] <+: rest := by
  have hrun : PacketRun cfg m rest s₀ (es ++ [.audioOut b m] ++ fs) := by simpa using h
  simpa [deliveries_append, deliveries] using hrun.of_append.delivered

/-- A packet that has begun is not new again. -/
theorem begun_step (hcfg : cfg.continuous = false) (hi : i < cfg.localNumberOfModems)
    (hwhole : WholePacket (first :: rest))
    (hrun : PacketRun cfg (cfg.firstModemIndex + i) rest s₀ (es ++ [e])) (hs : s.Healthy)
    (hcycle : FullCycle s e) (hafter : step cfg s e = some s')
    (hbegun : (s.playback (cfg.firstModemIndex + i)).newPacket = false) :
    (s'.playback (cfg.firstModemIndex + i)).newPacket = false := by
  cases e with
  | audioOut b m =>
      obtain rfl := Option.some_inj.1 hafter
      by_cases hm : m = cfg.firstModemIndex + i
      · subst hm
        simpa [audioOut_of_rest hcfg hwhole hrun.prefix_of_audioOut] using hbegun
      · simpa [Function.update_of_ne (Ne.symm hm)] using hbegun
  | process c =>
      have hport := (playsPort_of_jackProcess hcfg hs hcycle.1.le hcycle.2 hafter).2 i hi
      by_cases hqueue : (s.playback (cfg.firstModemIndex + i)).queue = []
      · rw [(hport.of_queue_eq_nil hqueue).1, hbegun]
      by_cases hregistered : s.outputPort i
      · obtain ⟨out, -, hplayed⟩ :=
          hport.continues hs hcycle.1 hcycle.2 hregistered hbegun hqueue
        exact hplayed.begun
      · rw [PlaysPort, if_neg hregistered] at hport
        rw [hport.1, hbegun]
  | bufferSizeChange n =>
      obtain rfl := Option.some_inj.1 hafter
      exact hbegun
  | registerPort j =>
      obtain rfl := Option.some_inj.1 hafter
      exact hbegun

/-- A waiting packet goes on waiting, or it begins with enough buffers. -/
theorem Waiting.step (hcfg : cfg.continuous = false) (hi : i < cfg.localNumberOfModems)
    (hwhole : WholePacket (first :: rest)) (hfirst : first.buffer = some audio)
    (hrun : PacketRun cfg (cfg.firstModemIndex + i) rest s₀ (es ++ [e])) (hs : s.Healthy)
    (hcycle : FullCycle s e) (hafter : step cfg s e = some s')
    (h : Waiting cfg i first s₀ es s) :
    Waiting cfg i first s₀ (es ++ [e]) s' ∨
      (s'.playback (cfg.firstModemIndex + i)).newPacket = false ∧
        cfg.minPlaybackBufferSize % 2 ^ 64 ≤ (first :: rest).length := by
  cases e with
  | audioOut b m =>
      obtain rfl := Option.some_inj.1 hafter
      by_cases hm : m = cfg.firstModemIndex + i
      · subst hm
        exact .inl (h.audioOut hcfg hwhole hrun.prefix_of_audioOut)
      · refine .inl (h.concat ?_ ?_ rfl ?_)
        · simp [Ne.symm hm]
        · simp [Ne.symm hm]
        · simp [deliveries, hm]
  | process c =>
      have hport := (playsPort_of_jackProcess hcfg hs hcycle.1.le hcycle.2 hafter).2 i hi
      by_cases hcan : CanBegin cfg c audio.bufferStartTime s i
      · obtain ⟨out, -, hplayed⟩ :=
          hport.begins hs hcycle.1 hcycle.2 h.new h.queue hfirst hcan
        refine .inr ⟨hplayed.begun, hcan.2.2.trans ?_⟩
        -- no more is queued than the packet has
        rw [h.queue]
        simpa using hrun.of_append.delivered.length_le
      · exact .inl (h.process hfirst hport hcan)
  | bufferSizeChange n =>
      obtain rfl := Option.some_inj.1 hafter
      exact .inl (h.concat rfl rfl rfl rfl)
  | registerPort j =>
      obtain rfl := Option.some_inj.1 hafter
      exact .inl (h.concat rfl rfl rfl rfl)

/-- A packet waits until it begins, and one with too few buffers waits in every run. -/
theorem exists_after_packet (hcfg : cfg.continuous = false) (hi : i < cfg.localNumberOfModems)
    (hwhole : WholePacket (first :: rest)) (hfirst : first.buffer = some audio)
    (hs₀ : s₀.Healthy) (hwaiting : Waiting cfg i first s₀ [] s₀)
    (hrun : PacketRun cfg (cfg.firstModemIndex + i) rest s₀ es) :
    ∃ s, after cfg s₀ es = some s ∧ s.Healthy ∧ (Waiting cfg i first s₀ es s ∨
      (s.playback (cfg.firstModemIndex + i)).newPacket = false ∧
        cfg.minPlaybackBufferSize % 2 ^ 64 ≤ (first :: rest).length) :=
  Run.exec_induction (step cfg) s₀ (P := PacketRun cfg (cfg.firstModemIndex + i) rest s₀)
    (I := fun es s => s.Healthy ∧ (Waiting cfg i first s₀ es s ∨
      (s.playback (cfg.firstModemIndex + i)).newPacket = false ∧
        cfg.minPlaybackBufferSize % 2 ^ 64 ≤ (first :: rest).length))
    (fun _ _ h => h.of_append) ⟨hs₀, .inl hwaiting⟩
    (fun es e s hrun ⟨hs, h⟩ hcycle => by
      obtain ⟨s', hs', hhealthy⟩ := hs.exists_step hcfg hrun.audio.of_concat.2 hcycle.withinBuffer
      refine ⟨s', hs', hhealthy, ?_⟩
      rcases h with h | ⟨hbegun, henough⟩
      · exact h.step hcfg hi hwhole hfirst hrun hs hcycle hs'
      · exact .inr ⟨begun_step hcfg hi hwhole hrun hs hcycle hs' hbegun, henough⟩)
    es hrun hrun.cycles

variable (cfg) in
/-- The packet can be delivered without any cycle. -/
theorem packetRun_of_delivery (haudio : AllAudio rest) (m : ℤ) (s₀ : JackThread) :
    PacketRun cfg m rest s₀ (rest.map (.audioOut · m)) ∧
      deliveries m (rest.map (.audioOut · m)) = rest := by
  have hrest : deliveries m (rest.map (.audioOut · m)) = rest := by
    simp [deliveries, List.filterMap_map]
  refine ⟨⟨fun b m' hb => ?_, ?_, by rw [hrest]⟩, hrest⟩
  · obtain ⟨b', hb', heq⟩ := List.mem_map.1 hb
    cases heq
    exact haudio b hb'
  · intro pre e post s heq _
    have he : e ∈ rest.map (.audioOut · m) := by simp [heq]
    obtain ⟨b, -, rfl⟩ := List.mem_map.1 he
    trivial

/-- A packet with enough buffers begins in the first cycle after it is complete and its start time
has come. -/
theorem exists_begins (hcfg : cfg.continuous = false) (hi : i < cfg.localNumberOfModems)
    (hwhole : WholePacket (first :: rest)) (hfirst : first.buffer = some audio)
    (hs₀ : s₀.Healthy) (hwaiting : Waiting cfg i first s₀ [] s₀)
    (henough : cfg.minPlaybackBufferSize % 2 ^ 64 ≤ (first :: rest).length) {cycle : Cycle}
    (hrun : PacketRun cfg (cfg.firstModemIndex + i) rest s₀ (es ++ [.process cycle]))
    (hafter : after cfg s₀ es = some s)
    (hcomplete : deliveries (cfg.firstModemIndex + i) es = rest)
    (hnew : (s.playback (cfg.firstModemIndex + i)).newPacket) (hport : s.outputPort i)
    (htime : audio.bufferStartTime ≤ cycle.bufferStartTime) :
    ∃ s' out, after cfg s₀ (es ++ [.process cycle]) = some s' ∧
      s'.written i = s.written i ++ out ∧
      Played { s.playback (cfg.firstModemIndex + i) with index := 0 }
        (s'.playback (cfg.firstModemIndex + i)) 0 cycle.nframes out := by
  obtain ⟨t, ht, hhealthy, hstands⟩ :=
    exists_after_packet hcfg hi hwhole hfirst hs₀ hwaiting hrun.of_append
  obtain rfl : s = t := Option.some_inj.1 (hafter.symm.trans ht)
  have hwaits : Waiting cfg i first s₀ es s := by
    rcases hstands with hwaits | ⟨hbegun, -⟩
    · exact hwaits
    · exact absurd (hbegun.symm.trans hnew) Bool.false_ne_true
  obtain ⟨hn, h1⟩ := hrun.cycles es _ [] s rfl hafter
  obtain ⟨s', hs', -, -, hplays⟩ := exists_jackProcess hcfg hhealthy hn.le h1
  -- the start is at the first frame, and all buffers of the packet are queued
  have hstart : frameStart cfg cycle audio.bufferStartTime = 0 := by
    rw [frameStart, if_neg (not_lt_of_ge htime)]
  have hcan : CanBegin cfg cycle audio.bufferStartTime s i := by
    refine ⟨hport, hstart ▸ Nat.zero_le _, ?_⟩
    rw [hwaits.queue, hcomplete]
    exact henough
  obtain ⟨out, hwritten, hplayed⟩ :=
    (hplays i hi).begins hhealthy hn h1 hnew hwaits.queue hfirst hcan
  exact ⟨s', out, (Run.exec_concat_eq_some _ _).2 ⟨s, hafter, hs'⟩, hwritten, hstart ▸ hplayed⟩

end Packet

/-- After any history, a packet is played when it is complete iff it has at least
`min_playback_buffer_size` buffers. -/
theorem playedWhenComplete_iff (cfg : JackConfig) (hcfg : cfg.continuous = false) (i : ℕ)
    (hi : i < cfg.localNumberOfModems) (first : TaggedAudioBuffer)
    (rest : List TaggedAudioBuffer) (hwhole : WholePacket (first :: rest)) (hrest : AllAudio rest)
    (audio : AudioBuffer) (hfirst : first.buffer = some audio) (history : List JackEvent)
    (haudio : DeliversAudio history) (hcycles : Run.ExecAlways (step cfg) {} FullCycle history)
    (s₀ : JackThread)
    (hs₀ : after cfg {} (history ++ [.audioOut first (cfg.firstModemIndex + i)]) = some s₀) :
    PlayedWhenComplete cfg i audio.bufferStartTime rest s₀ ↔
      cfg.minPlaybackBufferSize % 2 ^ 64 ≤ (first :: rest).length := by
  obtain ⟨s, hs, hhealthy₀, hwaiting⟩ := exists_after_start hcfg hwhole (by simp [hfirst]) haudio
    hcycles
  obtain rfl : s₀ = s := Option.some_inj.1 (hs₀.symm.trans hs)
  constructor
  · intro hplayed
    by_contra hshort
    -- the packet is delivered, and then a cycle follows that begins at its start time
    obtain ⟨hrun, hcomplete⟩ := packetRun_of_delivery cfg hrest (cfg.firstModemIndex + i) s₀
    obtain ⟨u, hu, -, hwaits | ⟨-, henough⟩⟩ :=
      exists_after_packet hcfg hi hwhole hfirst hhealthy₀ hwaiting hrun
    · obtain ⟨later, cycle, u', hnone, htime, hrun', hu', hport, hplayback⟩ :=
        hrun.exists_cycle hu i audio.bufferStartTime
      obtain ⟨v, out, hv, -, hbegins⟩ := hplayed.begins _ u' cycle hrun' hu'
        (by rw [deliveries_append, hnone, List.append_nil, hcomplete])
        (by rw [hplayback, hwaits.new]) hport htime.ge
      -- but too few buffers are queued in every run
      obtain ⟨v', hv', -, hwaits' | ⟨-, henough⟩⟩ :=
        exists_after_packet hcfg hi hwhole hfirst hhealthy₀ hwaiting hrun'
      · obtain rfl : v = v' := Option.some_inj.1 (hv.symm.trans hv')
        exact Bool.false_ne_true (hbegins.begun.symm.trans hwaits'.new)
      · exact hshort henough
    · exact hshort henough
  · intro henough
    refine ⟨fun es s cycle hrun hafter hcomplete hnew hport htime => exists_begins hcfg hi hwhole
      hfirst hhealthy₀ hwaiting henough hrun hafter hcomplete hnew hport htime,
      fun es s hrun hafter hcomplete hnew => ?_⟩
    obtain ⟨later, cycle, u, hnone, htime, hrun', hu, hport, hplayback⟩ :=
      hrun.exists_cycle hafter i audio.bufferStartTime
    obtain ⟨s', out, hs', -, hplayed⟩ := exists_begins hcfg hi hwhole hfirst hhealthy₀ hwaiting
      henough hrun' hu (by rw [deliveries_append, hnone, List.append_nil, hcomplete])
      (by rw [hplayback, hnew]) hport htime.ge
    refine ⟨later ++ [.process cycle], s', ?_, by simpa using hrun', by simpa using hs',
      hplayed.begun⟩
    rw [deliveries_append, hnone]
    rfl

/-- A packet of two buffers is played when two are enough. -/
theorem playedWhenComplete_of_two_buffers :
    let cfg : JackConfig := { localNumberOfModems := 1, fs := 1, minPlaybackBufferSize := 2 }
    let sample : SampleT := .ofFields true 127 0
    let first : TaggedAudioBuffer := ⟨some ⟨1, 0, [sample]⟩, .START, 0⟩
    let last : TaggedAudioBuffer := ⟨some ⟨2, 0, [sample]⟩, .END, 0⟩
    let history : List JackEvent := [.bufferSizeChange 2, .registerPort 0]
    ∃ s₀, after cfg {} (history ++ [.audioOut first 0]) = some s₀ ∧
      PlayedWhenComplete cfg 0 1 [last] s₀ := by
  intro cfg sample first last history
  refine ⟨_, rfl, (playedWhenComplete_iff cfg rfl 0 (by decide) first [last]
    ⟨first, [], last, rfl, rfl, rfl, by simp⟩ ?_ _ rfl history ?_
    (Run.execAlways_of_check _ _ (by decide +kernel)) _ rfl).2 (by decide)⟩
  · intro b hb
    rw [List.mem_singleton.1 hb]
    rfl
  · intro b m hb
    simp [history] at hb

/-- With the default of ten buffers a packet of two is complete, and still waits in a cycle that
begins at its start time. -/
theorem not_playedWhenComplete_of_two_buffers :
    let cfg : JackConfig := { localNumberOfModems := 1, fs := 1 }
    let sample : SampleT := .ofFields true 127 0
    let first : TaggedAudioBuffer := ⟨some ⟨1, 0, [sample]⟩, .START, 0⟩
    let last : TaggedAudioBuffer := ⟨some ⟨2, 0, [sample]⟩, .END, 0⟩
    let history : List JackEvent := [.bufferSizeChange 2, .registerPort 0]
    WholePacket [first, last] ∧ ∃ s₀, after cfg {} (history ++ [.audioOut first 0]) = some s₀ ∧
      ¬ PlayedWhenComplete cfg 0 1 [last] s₀ := by
  intro cfg sample first last history
  have hend : ((after cfg {} (history ++ [.audioOut first 0])).bind fun s₀ =>
      (after cfg s₀ [.audioOut last 0]).map fun s =>
        ((s.playback 0).newPacket, s.outputPort 0, (after cfg s [.process (twoFrames 1)]).map
          fun s' => (s'.playback 0).newPacket)) = some (true, true, some true) := by
    decide +kernel
  obtain ⟨s₀, hs₀, hend⟩ := Option.bind_eq_some_iff.1 hend
  obtain ⟨s, hs, hend⟩ := Option.map_eq_some_iff.1 hend
  obtain ⟨hnew, hport, hend⟩ := by simpa only [Prod.mk.injEq] using hend
  obtain ⟨s', hs', hnew'⟩ := Option.map_eq_some_iff.1 hend
  have hrun : PacketRun cfg 0 [last] s₀ ([.audioOut last 0] ++ [.process (twoFrames 1)]) := by
    refine ⟨fun b m hb => ?_, ?_, ⟨[], rfl⟩⟩
    · obtain ⟨rfl, -⟩ : b = last ∧ m = 0 := by simpa using hb
      rfl
    · obtain rfl := Option.some_inj.1 hs₀
      exact Run.execAlways_of_check _ _ (by decide +kernel)
  refine ⟨⟨first, [], last, rfl, rfl, rfl, by simp⟩, s₀, hs₀, fun h => ?_⟩
  obtain ⟨t, out, ht, -, hplayed⟩ := h.begins _ s _ hrun hs rfl hnew hport le_rfl
  -- the packet is still new after the cycle
  obtain ⟨s₂, hs₂, ht⟩ := (Run.exec_append_eq_some _ _).1 ht
  obtain rfl : s = s₂ := Option.some_inj.1 (hs.symm.trans hs₂)
  obtain rfl : s' = t := Option.some_inj.1 (hs'.symm.trans ht)
  exact Bool.false_ne_true (hplayed.begun.symm.trans hnew')

end JackThread

end Netsim
