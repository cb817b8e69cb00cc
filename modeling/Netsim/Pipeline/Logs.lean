import Netsim.Pipeline.EndToEnd

/-!
# The logs of a packet

The log of a packet at its detector and its logs at all receivers hold the same audio, in whatever
processes they are written, once everything has been delivered (`logsAgree_after`). No packet may
start where a null is in the ring, nor at a key of a logger whose file is open.
-/

namespace Netsim

namespace Pipeline

variable {π : Type} [DecidableEq π] {platform : Platform} {cfg : π → CoreConfig} {n : ℤ}
  {s : Pipeline π} {es : List (PipelineEvent π)}

/-- The detector that handles audio starts its packets properly. -/
def DetectsProperly (platform : Platform) (cfg : π → CoreConfig) (s : Pipeline π) :
    PipelineEvent π → Prop
  | .audioIn p k => (detectorPart platform cfg (p, k)).Guarded
      (DetectorThread.StartsPacket (cfg p).detectorConfig) s (.audioIn p k)
  | _ => True

instance (platform : Platform) (cfg : π → CoreConfig) (s : Pipeline π) :
    (e : PipelineEvent π) → Decidable (DetectsProperly platform cfg s e)
  | .audioIn p k => inferInstanceAs (Decidable ((detectorPart platform cfg (p, k)).Guarded
      (DetectorThread.StartsPacket (cfg p).detectorConfig) s (.audioIn p k)))
  | .capture _ _ _ | .process _ _ _ | .registerPort _ _ _ | .jackBufferSizeChange _ _ _
  | .bufferSizeChange _ _ | .bridgeOut _ _ | .bridgeIn _ _ | .detectorAudio _ _ _
  | .audioOut _ _ _ | .logAudio _ _ => inferInstanceAs (Decidable True)

/-- Every detector does, if the one that handles audio does. -/
theorem DetectsProperly.guarded {e : PipelineEvent π} (h : DetectsProperly platform cfg s e)
    (c : π × ℤ) : (detectorPart platform cfg c).Guarded
      (DetectorThread.StartsPacket (cfg c.1).detectorConfig) s e := by
  intro f hf
  cases e with
  | audioIn p k =>
      by_cases hc : (p, k) = c
      · subst hc
        exact h f hf
      · simp [detectorPart, detectorEvent, hc] at hf
  | bufferSizeChange p k =>
      simp only [detectorPart, detectorEvent] at hf
      split_ifs at hf
      · obtain ⟨r, -, rfl⟩ := Option.map_eq_some_iff.1 hf
        trivial
      · simp at hf
  | _ => simp [detectorPart, detectorEvent] at hf

section Logs

variable {p q : π} {i j : ℤ}

/-- In packet mode, the detectors publish whole packets, and no null audio. -/
theorem packetStream_detector (h : after platform cfg es = some s) {c : π × ℤ}
    (hc : (cfg c.1).continuous = false)
    (hdetects : Run.ExecAlways (step platform cfg) {} (DetectsProperly platform cfg) es) :
    PacketStream (s.detector c).detectorAudio ∧
      ∀ b ∈ (s.detector c).detectorAudio, b.buffer.isSome := by
  have hguarded : Run.ExecAlways (step platform cfg) {} ((detectorPart platform cfg c).Guarded
      (DetectorThread.StartsPacket (cfg c.1).detectorConfig)) es :=
    fun pre e post t heq ht => (hdetects pre e post t heq ht).guarded c
  have hstarts := Run.always_of_execAlways (Component.execAlways_trace hguarded h)
  rw [detector_eq_after h]
  exact ⟨DetectorThread.packetStream_after hc hstarts,
    (DetectorThread.publishesInOrder_after hc fun pre e post heq =>
      (hstarts pre e post heq).holdsBuffers).audio⟩

/-- What a logger is given on a stream comes from a detector, or is nothing. -/
theorem streamBuffers_prefix (hcfg : Partitions platform (launch cfg) n)
    (h : after platform cfg es = some s) (hj : (cfg q).isLocal j) (σ : LogStream) :
    LoggerThread.streamBuffers σ ((loggerPart platform cfg q).trace {} es) = [] ∨
      ∃ c : π × ℤ, LoggerThread.streamBuffers σ ((loggerPart platform cfg q).trace {} es) <+:
        (s.detector c).detectorAudio := by
  have hs := connected_after hcfg h
  have hconveys := conveys_after platform cfg n hcfg es s h
  by_cases hsub : Subscribed n cfg (.logger q σ)
  · obtain ⟨hrun, hrange⟩ := hsub
    cases σ with
    | detector i =>
        obtain ⟨p, hi⟩ := hcfg.covered i hrange.1 hrange.2
        exact .inr ⟨(p, i), (hconveys.loggerIn p q i j hrun hi hj).inOrder⟩
    | processor i k =>
        by_cases hk : (cfg q).isLocal k ∧ i ≠ k
        · obtain ⟨p, hi⟩ := hcfg.covered i hrange.1.1 hrange.1.2
          exact .inr ⟨(p, i), (hconveys.loggerOut p q i k hrun hi hk.1 hk.2).inOrder⟩
        · exact .inl (hconveys.loggerOnly q i k hk)
  · left
    rw [← streamBuffers_trace h]
    exact List.prefix_nil.1 (hs.routes.silent _ hsub ▸ Fifo.received_prefix (s.audio (.logger q σ)))

/-- In packet mode, the streams of a logger are proper. -/
theorem properStreams_logger (hcfg : Partitions platform (launch cfg) n)
    (hpacket : ∀ p, (cfg p).continuous = false) (h : after platform cfg es = some s)
    (hdetects : Run.ExecAlways (step platform cfg) {} (DetectsProperly platform cfg) es)
    (hj : (cfg q).isLocal j) :
    LoggerThread.ProperStreams ((loggerPart platform cfg q).trace {} es) := by
  have hstream (σ : LogStream) :
      PacketStream (LoggerThread.streamBuffers σ ((loggerPart platform cfg q).trace {} es)) ∧
      ∀ b ∈ LoggerThread.streamBuffers σ ((loggerPart platform cfg q).trace {} es),
        b.buffer.isSome := by
    rcases streamBuffers_prefix hcfg h hj σ with hnil | ⟨c, hprefix⟩
    · rw [hnil]
      exact ⟨(packetStream_iff_accept []).2 rfl, fun b hb => by simp at hb⟩
    · obtain ⟨hpackets, haudio⟩ := packetStream_detector h (hpacket c.1) hdetects
      obtain ⟨more, hmore⟩ := hprefix
      rw [← hmore] at hpackets haudio
      exact ⟨hpackets.of_append, fun b hb => haudio b (List.mem_append_left _ hb)⟩
  refine ⟨fun σ => (hstream σ).1.wellFramed, fun σ => (hstream σ).1.nodup_ids, fun e he => ?_⟩
  exact (hstream e.1).2 e.2 (List.mem_map.2 ⟨e, List.mem_filter.2 ⟨he, by simp⟩, rfl⟩)

/-- In packet mode, with nothing in flight, the file of a packet holds it, at any logger that is
given its stream. -/
theorem disk_eq_packetItems (hcfg : Partitions platform (launch cfg) n)
    (hpacket : ∀ p, (cfg p).continuous = false) (hrun : (cfg q).runLogger)
    (hi : (cfg p).isLocal i) (hj : (cfg q).isLocal j)
    (hdetects : Run.ExecAlways (step platform cfg) {} (DetectsProperly platform cfg) es)
    (hkeys : Run.ExecAlways (step platform cfg) {}
      ((loggerPart platform cfg q).Guarded LoggerThread.KeyFree) es)
    (h : after platform cfg es = some s) (hdelivered : s.Delivered) {σ : LogStream}
    (hσ : σ = .detector i ∨ σ = .processor i j ∧ i ≠ j) :
    ∀ packet ∈ packetsOf (s.detector (p, i)).detectorAudio,
      (s.logger q).disk (σ.file packet.1.packetId) = some (LoggerThread.packetItems packet) := by
  have hconveys := conveys_after platform cfg n hcfg es s h
  have hfiles := LoggerThread.filesHoldPackets_of_after
    (properStreams_logger hcfg hpacket h hdetects hj) (Component.execAlways_trace hkeys h)
    (Component.exec_trace (c := loggerPart platform cfg q) h)
  intro packet hmem
  refine hfiles σ packet ?_
  rcases hσ with rfl | ⟨rfl, hij⟩
  · rwa [(hconveys.loggerIn p q i j hrun hi hj).complete hdelivered]
  · rwa [(hconveys.loggerOut p q i j hrun hi hj hij).complete hdelivered]

/-- In packet mode, with nothing in flight, the logs of a packet hold its audio at every logger:
the one of its detector, and those of its receivers. -/
theorem logsAgree_after (platform : Platform) (cfg : π → CoreConfig) (n : ℤ)
    (hcfg : Partitions platform (launch cfg) n) (hpacket : ∀ p, (cfg p).continuous = false)
    (p q : π) (i j : ℤ) (hrun : (cfg q).runLogger) (hi : (cfg p).isLocal i)
    (hj : (cfg q).isLocal j) (es : List (PipelineEvent π))
    (hdetects : Run.ExecAlways (step platform cfg) {} (DetectsProperly platform cfg) es)
    (hkeys : Run.ExecAlways (step platform cfg) {}
      ((loggerPart platform cfg q).Guarded LoggerThread.KeyFree) es)
    (s : Pipeline π) (h : after platform cfg es = some s) (hdelivered : s.Delivered) :
    ∀ packet ∈ packetsOf (s.detector (p, i)).detectorAudio,
      (s.logger q).disk (LogStream.file (.detector i) packet.1.packetId) =
        some (LoggerThread.packetItems packet) ∧
      (i ≠ j → (s.logger q).disk (LogStream.file (.processor i j) packet.1.packetId) =
        some (LoggerThread.packetItems packet)) := by
  have hdisk {σ : LogStream} :=
    disk_eq_packetItems (σ := σ) hcfg hpacket hrun hi hj hdetects hkeys h hdelivered
  exact fun packet hmem =>
    ⟨hdisk (.inl rfl) packet hmem, fun hij => hdisk (.inr ⟨rfl, hij⟩) packet hmem⟩

/-- The buffer that goes over the bridges is logged in both processes. -/
def loggedOverTheBridges : List (PipelineEvent Bool) :=
  overTheBridges ++ [.logAudio false (.detector 0), .capture false 0 .loop]

/-- Everything has been delivered in the state that the events lead to, if so it is computed. -/
theorem delivered_of_check {s : Pipeline Bool} {es : List (PipelineEvent Bool)}
    (h : after ⟨16, false⟩ twoModems es = some s)
    (hcheck : (after ⟨16, false⟩ twoModems es).map
      (fun s => decide (∀ q : Bool, ∀ i j : Fin 2, s.quiet q i j)) = some true) :
    s.Delivered := by
  rw [h, Option.map_some, Option.some_inj, decide_eq_true_eq] at hcheck
  refine delivered_of_quiet partitions_twoModems h fun q i j hi hi2 hj hj2 => ?_
  have hquiet := hcheck q ⟨i.toNat, by omega⟩ ⟨j.toNat, by omega⟩
  simpa [Int.toNat_of_nonneg hi, Int.toNat_of_nonneg hj] using hquiet

theorem logsAgree_overTheBridges :
    ∃ s, after ⟨16, false⟩ twoModems loggedOverTheBridges = some s ∧
      packetsOf (s.detector (false, 0)).detectorAudio =
        [(⟨some ⟨3, 7, [loudSample]⟩, .START, 0⟩, [])] ∧
      ∀ packet ∈ packetsOf (s.detector (false, 0)).detectorAudio,
        (s.logger true).disk (LogStream.file (.detector 0) packet.1.packetId) =
          some (LoggerThread.packetItems packet) ∧
        ((0 : ℤ) ≠ 1 → (s.logger true).disk (LogStream.file (.processor 0 1) packet.1.packetId) =
          some (LoggerThread.packetItems packet)) := by
  have hrun : (after ⟨16, false⟩ twoModems loggedOverTheBridges).map (fun s =>
      packetsOf (s.detector (false, 0)).detectorAudio) =
      some [(⟨some ⟨3, 7, [loudSample]⟩, .START, 0⟩, [])] := by
    decide +kernel
  obtain ⟨s, hs, hpackets⟩ := Option.map_eq_some_iff.1 hrun
  exact ⟨s, hs, hpackets, logsAgree_after _ twoModems 2 partitions_twoModems (fun _ => rfl) false
    true 0 1 rfl (by decide) (by decide) loggedOverTheBridges
    (Run.execAlways_of_check _ _ (by decide +kernel))
    (Run.execAlways_of_check _ _ (by decide +kernel)) s hs
    (delivered_of_check hs (by decide +kernel))⟩

end Logs

end Pipeline

end Netsim
