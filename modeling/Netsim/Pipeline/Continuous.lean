import Netsim.Detector.Continuous
import Netsim.Jack.Continuous
import Netsim.Pipeline.EndToEnd

/-!
# From port to port, continuously

In continuous mode an output port plays in every cycle a frame of another modem's input port, the
one that arrived last. Whatever is delayed or dropped on the way, the frames come in the order in
which they were captured, and each may be played again only until the next one
(`playsFrames_after`).
-/

namespace Netsim

namespace Pipeline

variable {π : Type} [DecidableEq π] {platform : Platform} {cfg : π → CoreConfig} {n : ℤ}
  {s : Pipeline π} {es : List (PipelineEvent π)}

/-- In continuous mode, the detector of a modem publishes what its input port has captured, in
order. -/
theorem detectorAudio_repeats_captured (hcfg : Partitions platform (launch cfg) n)
    (h : after platform cfg es = some s) {p : π} {i : ℤ} (hi : (cfg p).isLocal i)
    (hp : (cfg p).continuous = true) :
    Repeats (s.capture (p, i)).captured
      ((s.detector (p, i)).detectorAudio.filterMap (·.buffer)) := by
  have hsent : (s.audioIn (p, i)).sent = (s.capture (p, i)).published :=
    ((connected_after hcfg h).captured (p, i)).trans
      (if_pos ((hcfg.launchesDetector_iff p i).2 hi))
  have hreceived : (s.audioIn (p, i)).received.Sublist (s.capture (p, i)).captured :=
    (Fifo.received_prefix _).sublist.trans (hsent ▸ published_sublist_captured h (p, i))
  have hpacket : (cfg p).detectorConfig.continuous = true := hp
  have hpublished := DetectorThread.repeats_after hpacket
    ((detectorPart platform cfg (p, i)).trace {} es)
  rw [← detector_eq_after h (p, i), ← buffersOf_trace h (p, i)] at hpublished
  exact (Repeats.of_sublist hreceived).trans hpublished

/-- In continuous mode, an output port of a modem plays in every cycle a frame that the input port
of another modem has captured, in the order of the captures, and nothing of its own modem. -/
theorem playsFrames_after (platform : Platform) (cfg : π → CoreConfig) (n : ℤ)
    (hcfg : Partitions platform (launch cfg) n) (p q : π) (i : ℤ) (k : ℕ)
    (hp : (cfg p).continuous = true) (hq : (cfg q).continuous = true) (hi : (cfg p).isLocal i)
    (es : List (PipelineEvent π)) (s : Pipeline π) (h : after platform cfg es = some s) :
    ∃ played, (s.jack (q, i)).written k = JackThread.framesPlayed played ∧
      (∀ frame ∈ played, frame.2 ≤ frame.1.samples.length) ∧
        Repeats (s.capture (p, i)).captured (played.map (·.1)) ∧
          (i = (cfg q).firstModemIndex + k → played = []) := by
  obtain ⟨-, played, hwritten, hlength, hrepeats⟩ :
      JackThread.PlaysLatest (cfg q).jackConfig k _ _ :=
    JackThread.exists_frames hq (Component.exec_trace (c := jackPart platform cfg (q, i)) h)
  refine ⟨played, hwritten, hlength, ?_, fun hik => ?_⟩
  · have hdeliveries := Repeats.of_sublist
      (deliveries_sublist hcfg h hi q ((cfg q).firstModemIndex + k))
    exact (detectorAudio_repeats_captured hcfg h hi hp).trans
      ((hdeliveries.filterMap _).trans hrepeats)
  · have hnone : JackThread.deliveries ((cfg q).jackConfig.firstModemIndex + k) _ = [] :=
      (conveys_after platform cfg n hcfg es s h).jackOnly q i
        ((cfg q).firstModemIndex + k) fun hj => hj.2 hik
    rw [hnone] at hrepeats
    exact List.map_eq_nil_iff.1 (List.subset_nil.1 hrepeats.subset)

/-- The processes of `twoModems`, in continuous mode. -/
def twoContinuousModems (p : Bool) : CoreConfig := { twoModems p with continuous := true }

/-- The frame that goes over the bridges is played in two cycles. -/
theorem playsFrames_overTheBridges :
    let es := playedOverTheBridges ++ [.process true 0 ⟨1, 5, fun _ => 0⟩]
    ∃ s, after ⟨16, false⟩ twoContinuousModems es = some s ∧
      (s.jack (true, 0)).written 0 = [loudSample, loudSample] ∧
      ∃ played, (s.jack (true, 0)).written 0 = JackThread.framesPlayed played ∧
        (∀ frame ∈ played, frame.2 ≤ frame.1.samples.length) ∧
          Repeats (s.capture (false, 0)).captured (played.map (·.1)) ∧
            (0 = (twoContinuousModems true).firstModemIndex + (0 : ℕ) → played = []) := by
  intro es
  have hrun : (after ⟨16, false⟩ twoContinuousModems es).map
      (fun s => (s.jack (true, 0)).written 0) = some [loudSample, loudSample] := by
    decide +kernel
  obtain ⟨s, hs, hwritten⟩ := Option.map_eq_some_iff.1 hrun
  exact ⟨s, hs, hwritten, playsFrames_after _ twoContinuousModems 2 partitions_twoModems false true
    0 0 rfl rfl (by decide) es s hs⟩

end Pipeline

end Netsim
