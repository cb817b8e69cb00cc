import Mathlib.Data.List.Flatten
import Netsim.Detector.InOrder
import Netsim.Jack.InOrder
import Netsim.Pipeline.Delivery

/-!
# From port to port

What the input port of a modem has captured is all that the output ports ever play of it, in
whatever process they are: in the same order and each sample once, with silence inserted
(`playsCaptured_after`).
-/

namespace Netsim

namespace Pipeline

variable {π : Type} [DecidableEq π] {platform : Platform} {cfg : π → CoreConfig} {n : ℤ}
  {s : Pipeline π} {es : List (PipelineEvent π)}

/-! ### The threads in a run of the system -/

section Threads

theorem detector_eq_after (h : after platform cfg es = some s) (c : π × ℤ) :
    s.detector c = DetectorThread.after (cfg c.1).detectorConfig
      ((detectorPart platform cfg c).trace {} es) := by
  have hrun := Component.exec_trace (c := detectorPart platform cfg c) h
  rw [Run.exec_total] at hrun
  exact (Option.some_inj.1 hrun).symm

/-- In packet mode, a detector publishes what it receives, in order and once. -/
theorem publishesInOrder_detector (h : after platform cfg es = some s) {c : π × ℤ}
    (hc : (cfg c.1).continuous = false)
    (hholds : Run.ExecAlways (step platform cfg) {} ((detectorPart platform cfg c).Guarded
      (DetectorThread.HoldsBuffers (cfg c.1).detectorConfig)) es) :
    DetectorThread.PublishesInOrder (s.audioIn c).received (s.detector c) := by
  rw [detector_eq_after h, buffersOf_trace h]
  exact DetectorThread.publishesInOrder_after hc
    (Run.always_of_execAlways (Component.execAlways_trace hholds h))

/-- What a JACK thread has captured is what it has published, and more. -/
theorem published_sublist_captured (h : after platform cfg es = some s) (c : π × ℤ) :
    (s.capture c).published.Sublist (s.capture c).captured :=
  CaptureThread.published_sublist
    (Component.exec_trace (c := capturePart platform cfg c) h)

/-- In packet mode, the detector of a modem publishes what its input port has captured, in order and
once. -/
theorem detectorAudio_sublist_captured (hcfg : Partitions platform (launch cfg) n)
    (h : after platform cfg es = some s) {p : π} {i : ℤ} (hi : (cfg p).isLocal i)
    (hp : (cfg p).continuous = false)
    (hholds : Run.ExecAlways (step platform cfg) {} ((detectorPart platform cfg (p, i)).Guarded
      (DetectorThread.HoldsBuffers (cfg p).detectorConfig)) es) :
    ((s.detector (p, i)).detectorAudio.filterMap (·.buffer)).Sublist
      (s.capture (p, i)).captured := by
  have hpublishes := publishesInOrder_detector h (c := (p, i)) hp hholds
  have hsent : (s.audioIn (p, i)).sent = (s.capture (p, i)).published :=
    ((connected_after hcfg h).captured (p, i)).trans
      (if_pos ((hcfg.launchesDetector_iff p i).2 hi))
  calc ((s.detector (p, i)).detectorAudio.filterMap (·.buffer)).Sublist
        (s.audioIn (p, i)).received :=
        (List.sublist_append_left _ _).trans hpublishes.inOrder
    List.Sublist _ (s.audioIn (p, i)).sent := (Fifo.received_prefix _).sublist
    List.Sublist _ (s.capture (p, i)).captured := hsent ▸ published_sublist_captured h (p, i)

end Threads

/-! ### Playback -/

section Playback

variable {p q : π} {i j : ℤ} {k : ℕ}

theorem flatMap_samples (bs : List TaggedAudioBuffer) :
    bs.flatMap (·.samples) = (bs.filterMap (·.buffer)).flatMap (·.samples) := by
  induction bs with
  | nil => rfl
  | cons b bs ih =>
      rw [List.flatMap_cons, ih]
      cases hb : b.buffer with
      | none => simp [TaggedAudioBuffer.samples, hb]
      | some audio => simp [TaggedAudioBuffer.samples, hb]

/-- What a JACK thread is given for a modem comes from the detector, wherever that is. -/
theorem deliveries_sublist (hcfg : Partitions platform (launch cfg) n)
    (h : after platform cfg es = some s) (hi : (cfg p).isLocal i) (q : π) (j : ℤ) :
    (JackThread.deliveries j ((jackPart platform cfg (q, i)).trace {} es)).Sublist
      (s.detector (p, i)).detectorAudio := by
  have hconveys := conveys_after platform cfg n hcfg es s h
  by_cases hj : (cfg q).isLocal j ∧ i ≠ j
  · exact (hconveys.jack p q i j hi hj.1 hj.2).inOrder.sublist
  · rw [hconveys.jackOnly q i j hj]
    exact List.nil_sublist _

/-- In packet mode, a JACK thread is given no null audio. -/
theorem deliversAudio_jack (hcfg : Partitions platform (launch cfg) n)
    (h : after platform cfg es = some s) (hi : (cfg p).isLocal i) (hp : (cfg p).continuous = false)
    (hholds : Run.ExecAlways (step platform cfg) {} ((detectorPart platform cfg (p, i)).Guarded
      (DetectorThread.HoldsBuffers (cfg p).detectorConfig)) es) (q : π) :
    JackThread.DeliversAudio ((jackPart platform cfg (q, i)).trace {} es) :=
  fun b m hb => (publishesInOrder_detector h hp hholds).audio b
    ((deliveries_sublist hcfg h hi q m).subset (List.mem_filterMap.2 ⟨_, hb, by simp⟩))

/-- In packet mode, an output port of a modem plays of another modem what the input port of that
has captured, in order and once, with silence inserted, and of its own modem nothing. -/
theorem playsCaptured_after (platform : Platform) (cfg : π → CoreConfig) (n : ℤ)
    (hcfg : Partitions platform (launch cfg) n) (p q : π) (i : ℤ) (k : ℕ)
    (hp : (cfg p).continuous = false) (hq : (cfg q).continuous = false) (hi : (cfg p).isLocal i)
    (hk : (k : ℤ) < (cfg q).localNumberOfModems) (es : List (PipelineEvent π))
    (hholds : Run.ExecAlways (step platform cfg) {} ((detectorPart platform cfg (p, i)).Guarded
      (DetectorThread.HoldsBuffers (cfg p).detectorConfig)) es)
    (hcycles : Run.ExecAlways (step platform cfg) {}
      ((jackPart platform cfg (q, i)).Guarded JackThread.WithinBuffer) es)
    (s : Pipeline π) (h : after platform cfg es = some s) :
    ∃ played, Padded played ((s.jack (q, i)).written k) ∧
      played.Sublist ((s.capture (p, i)).captured.flatMap (·.samples)) ∧
      (i = (cfg q).firstModemIndex + k → played = []) := by
  have haudio := deliversAudio_jack hcfg h hi hp hholds q
  obtain ⟨played, hpadded, hsublist⟩ : JackThread.PlaysInOrder (cfg q).jackConfig k _ _ :=
    JackThread.exists_played hq (by simp only [CoreConfig.jackConfig]; omega) haudio
    (Component.execAlways_trace hcycles h)
    (Component.exec_trace (c := jackPart platform cfg (q, i)) h)
  have hplayed : played.Sublist ((JackThread.deliveries ((cfg q).firstModemIndex + k)
      ((jackPart platform cfg (q, i)).trace {} es)).flatMap (·.samples)) :=
    (List.sublist_append_left played _).trans hsublist
  refine ⟨played, hpadded, ?_, fun hik => ?_⟩
  · refine hplayed.trans (((deliveries_sublist hcfg h hi q _).flatMap _).trans ?_)
    rw [flatMap_samples]
    exact (detectorAudio_sublist_captured hcfg h hi hp hholds).flatMap _
  · have hnone := (conveys_after platform cfg n hcfg es s h).jackOnly q i
      ((cfg q).firstModemIndex + k) fun hj => hj.2 hik
    rw [hnone] at hplayed
    exact List.sublist_nil.1 hplayed

/-- The buffer that goes over the bridges is played in a cycle. -/
def playedOverTheBridges : List (PipelineEvent Bool) :=
  [.registerPort true 0 0, .jackBufferSizeChange true 0 1] ++ overTheBridges ++
    [.process true 0 ⟨1, 4, fun _ => 0⟩]

theorem playsCaptured_overTheBridges :
    ∃ s, after ⟨16, false⟩ twoModems playedOverTheBridges = some s ∧
      (s.jack (true, 0)).written 0 = [loudSample] ∧
      ∃ played, Padded played ((s.jack (true, 0)).written 0) ∧
        played.Sublist ((s.capture (false, 0)).captured.flatMap (·.samples)) ∧
        (0 = (twoModems true).firstModemIndex + (0 : ℕ) → played = []) := by
  have hrun : (after ⟨16, false⟩ twoModems playedOverTheBridges).map
      (fun s => (s.jack (true, 0)).written 0) = some [loudSample] := by
    decide +kernel
  obtain ⟨s, hs, hwritten⟩ := Option.map_eq_some_iff.1 hrun
  exact ⟨s, hs, hwritten, playsCaptured_after _ twoModems 2 partitions_twoModems false true 0 0
    rfl rfl (by decide) (by decide) playedOverTheBridges
    (Run.execAlways_of_check _ _ (by decide +kernel))
    (Run.execAlways_of_check _ _ (by decide +kernel)) s hs⟩

end Playback

end Pipeline

end Netsim
