import Netsim.Pipeline.Logs

/-!
# Nothing loud is missing

In packet mode, once everything has been delivered, every loud buffer of a modem that its JACK
thread did not drop is in the log files of its packets (`logsHoldLoud_after`); and it has been
played by the output ports of the other modems, or is to be played, if no packet is delivered while
one before it is still played (`playsLoud_after`). In both there is nothing but captured audio, in
order and once.
-/

namespace Netsim

namespace Pipeline

variable {π : Type} [DecidableEq π] {platform : Platform} {cfg : π → CoreConfig} {n : ℤ}
  {s : Pipeline π} {es : List (PipelineEvent π)}

/-- In packet mode, with nothing in flight, a detector has published every loud buffer that the JACK
thread of the modem has. -/
theorem loud_sublist_detectorAudio (hcfg : Partitions platform (launch cfg) n)
    (h : after platform cfg es = some s) (hdelivered : s.Delivered) {p : π} {i : ℤ}
    (hi : (cfg p).isLocal i) (hp : (cfg p).continuous = false)
    (hholds : Run.ExecAlways (step platform cfg) {} ((detectorPart platform cfg (p, i)).Guarded
      (DetectorThread.HoldsBuffers (cfg p).detectorConfig)) es) :
    ((s.capture (p, i)).published.filter (DetectorThread.loud (cfg p).detectorConfig)).Sublist
      ((s.detector (p, i)).detectorAudio.filterMap (·.buffer)) := by
  have hloud := DetectorThread.loud_sublist_after hp
    (Run.always_of_execAlways (Component.execAlways_trace hholds h))
  rwa [← detector_eq_after h (p, i),
    ((conveys_after platform cfg n hcfg es s h).detector p i hi).complete hdelivered] at hloud

/-! ### In the logs -/

section Logs

variable {p q : π} {i j : ℤ}

/-- The samples in a log file. -/
def loggedSamples (items : List LogItem) : List SampleT :=
  items.filterMap fun
    | .sample x => some x
    | .time _ => none

theorem loggedSamples_packetItems (packet : TaggedAudioBuffer × List TaggedAudioBuffer) :
    loggedSamples (LoggerThread.packetItems packet) =
      (packet.1 :: packet.2).flatMap (·.samples) := by
  have hbuffer (b : TaggedAudioBuffer) : loggedSamples (b.buffer.toList.flatMap fun audio =>
      audio.samples.map LogItem.sample) = b.samples := by
    cases hb : b.buffer <;>
      simp [loggedSamples, TaggedAudioBuffer.samples, hb, List.filterMap_map]
  have htime : loggedSamples (packet.1.buffer.toList.map fun audio =>
      LogItem.time audio.bufferStartTime) = [] := by
    cases packet.1.buffer <;> rfl
  rw [LoggerThread.packetItems, loggedSamples, List.filterMap_append]
  simp only [loggedSamples] at hbuffer htime
  rw [htime, List.nil_append, List.filterMap_flatMap]
  simp only [hbuffer]

/-- The samples of all packets of a stream are those of the stream. -/
theorem flatMap_loggedSamples {bs : List TaggedAudioBuffer} (h : WellFramed bs) :
    ((packetsOf bs).map LoggerThread.packetItems).flatMap loggedSamples =
      (bs.filterMap (·.buffer)).flatMap (·.samples) := by
  rw [List.flatMap_map]
  simp only [loggedSamples_packetItems]
  rw [← List.flatMap_assoc, h.flatMap_packetsOf, flatMap_samples]

/-- In packet mode, with nothing in flight, the log files of a modem hold what its input port has
captured, in order and once, and have all of the loud buffers that its JACK thread did not drop. -/
theorem logsHoldLoud_after (platform : Platform) (cfg : π → CoreConfig) (n : ℤ)
    (hcfg : Partitions platform (launch cfg) n) (hpacket : ∀ p, (cfg p).continuous = false)
    (p q : π) (i j : ℤ) (hrun : (cfg q).runLogger) (hi : (cfg p).isLocal i)
    (hj : (cfg q).isLocal j) (es : List (PipelineEvent π))
    (hdetects : Run.ExecAlways (step platform cfg) {} (DetectsProperly platform cfg) es)
    (hkeys : Run.ExecAlways (step platform cfg) {}
      ((loggerPart platform cfg q).Guarded LoggerThread.KeyFree) es)
    (s : Pipeline π) (h : after platform cfg es = some s) (hdelivered : s.Delivered)
    (σ : LogStream) (hσ : σ = .detector i ∨ σ = .processor i j ∧ i ≠ j) :
    ∃ logged : List (List LogItem), (packetsOf (s.detector (p, i)).detectorAudio).map
        (fun packet => (s.logger q).disk (σ.file packet.1.packetId)) = logged.map some ∧
      (((s.capture (p, i)).published.filter
        (DetectorThread.loud (cfg p).detectorConfig)).flatMap (·.samples)).Sublist
          (logged.flatMap loggedSamples) ∧
      (logged.flatMap loggedSamples).Sublist
        ((s.capture (p, i)).captured.flatMap (·.samples)) := by
  have hdisk := disk_eq_packetItems hcfg hpacket hrun hi hj hdetects hkeys h hdelivered hσ
  have hguarded : Run.ExecAlways (step platform cfg) {} ((detectorPart platform cfg (p, i)).Guarded
      (DetectorThread.HoldsBuffers (cfg p).detectorConfig)) es :=
    fun pre e post t heq ht f hf =>
      ((hdetects pre e post t heq ht).guarded (p, i) f hf).holdsBuffers
  refine ⟨_, (List.map_congr_left hdisk).trans (List.map_map ..).symm, ?_⟩
  rw [flatMap_loggedSamples (packetStream_detector h (hpacket p) hdetects).1.wellFramed]
  exact ⟨(loud_sublist_detectorAudio hcfg h hdelivered hi (hpacket p) hguarded).flatMap _,
    (detectorAudio_sublist_captured hcfg h hi (hpacket p) hguarded).flatMap _⟩

/-- The loud buffer is in the log of the receiver. -/
theorem logsHoldLoud_overTheBridges :
    ∃ s, after ⟨16, false⟩ twoModems loggedOverTheBridges = some s ∧
      (s.capture (false, 0)).published = [⟨3, 7, [loudSample]⟩] ∧
      ∃ logged : List (List LogItem), (packetsOf (s.detector (false, 0)).detectorAudio).map
          (fun packet => (s.logger true).disk
            (LogStream.file (.processor 0 1) packet.1.packetId)) = logged.map some ∧
        (((s.capture (false, 0)).published.filter
          (DetectorThread.loud (twoModems false).detectorConfig)).flatMap (·.samples)).Sublist
            (logged.flatMap loggedSamples) ∧
        (logged.flatMap loggedSamples).Sublist
          ((s.capture (false, 0)).captured.flatMap (·.samples)) := by
  have hrun : (after ⟨16, false⟩ twoModems loggedOverTheBridges).map (fun s =>
      (s.capture (false, 0)).published) = some [⟨3, 7, [loudSample]⟩] := by
    decide +kernel
  obtain ⟨s, hs, hpublished⟩ := Option.map_eq_some_iff.1 hrun
  exact ⟨s, hs, hpublished, logsHoldLoud_after _ twoModems 2 partitions_twoModems (fun _ => rfl)
    false true 0 1 rfl (by decide) (by decide) loggedOverTheBridges
    (Run.execAlways_of_check _ _ (by decide +kernel))
    (Run.execAlways_of_check _ _ (by decide +kernel)) s hs
    (delivered_of_check hs (by decide +kernel)) (.processor 0 1) (.inr ⟨rfl, by decide⟩)⟩

end Logs

/-! ### At the ports -/

/-- In packet mode, with nothing in flight and every delivery safe, an output port of a modem has
played or is to play of another modem what the input port of that has captured, in order and once,
and all of the loud buffers that its JACK thread did not drop. -/
theorem playsLoud_after (platform : Platform) (cfg : π → CoreConfig) (n : ℤ)
    (hcfg : Partitions platform (launch cfg) n) (p q : π) (i : ℤ) (k : ℕ)
    (hp : (cfg p).continuous = false) (hq : (cfg q).continuous = false) (hi : (cfg p).isLocal i)
    (hk : (k : ℤ) < (cfg q).localNumberOfModems) (hik : i ≠ (cfg q).firstModemIndex + k)
    (es : List (PipelineEvent π))
    (hholds : Run.ExecAlways (step platform cfg) {} ((detectorPart platform cfg (p, i)).Guarded
      (DetectorThread.HoldsBuffers (cfg p).detectorConfig)) es)
    (hcycles : Run.ExecAlways (step platform cfg) {}
      ((jackPart platform cfg (q, i)).Guarded JackThread.FullCycle) es)
    (hsafe : Run.ExecAlways (step platform cfg) {} ((jackPart platform cfg (q, i)).Guarded
      (JackThread.SafeDelivery ((cfg q).firstModemIndex + k))) es)
    (s : Pipeline π) (h : after platform cfg es = some s) (hdelivered : s.Delivered) :
    ∃ played, Padded played ((s.jack (q, i)).written k) ∧
      (((s.capture (p, i)).published.filter
        (DetectorThread.loud (cfg p).detectorConfig)).flatMap (·.samples)).Sublist
          (played ++ ((s.jack (q, i)).playback ((cfg q).firstModemIndex + k)).pending) ∧
      (played ++ ((s.jack (q, i)).playback ((cfg q).firstModemIndex + k)).pending).Sublist
        ((s.capture (p, i)).captured.flatMap (·.samples)) := by
  have hlocal : (cfg q).isLocal ((cfg q).firstModemIndex + k) := by
    simp only [NetSimCoreConfig.isLocal, Bool.and_eq_true, decide_eq_true_eq]
    omega
  have hjack := Component.exec_trace (c := jackPart platform cfg (q, i)) h
  obtain ⟨t, w, ht, hwritten, hpadded, hpending⟩ := JackThread.exists_after_kept hq
    (by simp only [CoreConfig.jackConfig]; omega) JackThread.healthy_init
    (deliversAudio_jack hcfg h hi hp hholds q) (Component.execAlways_trace hcycles h)
    (Component.execAlways_trace hsafe h)
  obtain rfl := Option.some_inj.1 (ht.symm.trans hjack)
  have hdeliveries : JackThread.deliveries ((cfg q).firstModemIndex + k)
      ((jackPart platform cfg (q, i)).trace {} es) = (s.detector (p, i)).detectorAudio :=
    ((conveys_after platform cfg n hcfg es s h).jack p q i _ hi hlocal hik).complete hdelivered
  -- nothing is pending at first, so that all audio of the detector has been played or is pending
  have hall : JackThread.kept (cfg q).jackConfig k {}
      ((jackPart platform cfg (q, i)).trace {} es) ++
        ((s.jack (q, i)).playback ((cfg q).firstModemIndex + k)).pending =
      ((s.detector (p, i)).detectorAudio.filterMap (·.buffer)).flatMap (·.samples) := by
    rw [← flatMap_samples, ← hdeliveries]
    exact hpending.symm
  have hport : (s.jack (q, i)).written k = w := hwritten
  refine ⟨_, hport ▸ hpadded, ?_⟩
  rw [hall]
  exact ⟨(loud_sublist_detectorAudio hcfg h hdelivered hi hp hholds).flatMap _,
    (detectorAudio_sublist_captured hcfg h hi hp hholds).flatMap _⟩

/-- The buffer is played at the output port of the receiver. -/
theorem playsLoud_overTheBridges :
    let es := playedOverTheBridges ++
      [.logAudio false (.detector 0), .capture false 0 .loop, .bufferSizeChange true 1]
    ∃ s, after ⟨16, false⟩ twoModems es = some s ∧
      (s.jack (true, 0)).written 0 = [loudSample] ∧
      (s.capture (false, 0)).published = [⟨3, 7, [loudSample]⟩] ∧
      ∃ played, Padded played ((s.jack (true, 0)).written 0) ∧
        (((s.capture (false, 0)).published.filter
          (DetectorThread.loud (twoModems false).detectorConfig)).flatMap (·.samples)).Sublist
            (played ++ ((s.jack (true, 0)).playback
              ((twoModems true).firstModemIndex + (0 : ℕ))).pending) ∧
        (played ++ ((s.jack (true, 0)).playback
            ((twoModems true).firstModemIndex + (0 : ℕ))).pending).Sublist
          ((s.capture (false, 0)).captured.flatMap (·.samples)) := by
  intro es
  have hrun : (after ⟨16, false⟩ twoModems es).map (fun s =>
      ((s.jack (true, 0)).written 0, (s.capture (false, 0)).published)) =
      some ([loudSample], [⟨3, 7, [loudSample]⟩]) := by
    decide +kernel
  obtain ⟨s, hs, hboth⟩ := Option.map_eq_some_iff.1 hrun
  rw [Prod.mk.injEq] at hboth
  have hdelivered := delivered_of_check hs (by decide +kernel)
  exact ⟨s, hs, hboth.1, hboth.2, playsLoud_after _ twoModems 2 partitions_twoModems false true 0 0
    rfl rfl (by decide) (by decide) (by decide) es
    (Run.execAlways_of_check _ _ (by decide +kernel))
    (Run.execAlways_of_check _ _ (by decide +kernel))
    (Run.execAlways_of_check _ _ (by decide +kernel)) s hs hdelivered⟩

end Pipeline

end Netsim
