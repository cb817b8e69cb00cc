import Netsim.Detector.Continuous
import Netsim.Detector.Framing

/-!
# Publishing in order

In packet mode, what a detector publishes are buffers that it has received, in the same order and
each of them once (`publishesInOrder_after`), as long as no packet starts while the ring has a null
entry. What has been received and is in the ring comes after what was published, and with START the
ring is empty, so that the buffers of the packet come after it. If the packet counter has not
wrapped either, they are whole packets (`packetStream_after`).
-/

namespace Netsim

namespace DetectorThread

/-- If a packet starts with this event, no entry of the ring is null. -/
def HoldsBuffers (cfg : DetectorConfig) (d : DetectorThread) : DetectorEvent → Prop
  | .bufferSizeChange _ => True
  | .audioIn buffer => detects cfg d buffer →
      ∀ b ∈ (d.prebuffer.pushBack (some buffer)).items, b.isSome

instance (cfg : DetectorConfig) (d : DetectorThread) :
    (e : DetectorEvent) → Decidable (HoldsBuffers cfg d e)
  | .bufferSizeChange _ => inferInstanceAs (Decidable True)
  | .audioIn buffer => inferInstanceAs (Decidable (detects cfg d buffer →
      ∀ b ∈ (d.prebuffer.pushBack (some buffer)).items, b.isSome))

/-- The received buffers in the ring. -/
def ringBuffers (d : DetectorThread) : List AudioBuffer := d.prebuffer.items.filterMap id

/-- What was published is audio that was received, in order and once. -/
structure PublishesInOrder (inputs : List AudioBuffer) (d : DetectorThread) : Prop where
  /-- No published buffer is null. -/
  audio : ∀ b ∈ d.detectorAudio, b.buffer.isSome
  /-- What is in the ring comes after what was published. -/
  inOrder : (d.detectorAudio.filterMap (·.buffer) ++ d.ringBuffers).Sublist inputs
  /-- In a packet the ring has no buffers. -/
  drained : d.inPacket → d.ringBuffers = []
  /-- A buffer fits into the ring. -/
  fits : 1 ≤ d.prebuffer.capacity

section Steps

variable {cfg : DetectorConfig} {d : DetectorThread} {inputs : List AudioBuffer}
  {buffer : AudioBuffer}

theorem publishesInOrder_init : PublishesInOrder [] {} where
  audio b hb := by simp at hb
  inOrder := List.Sublist.refl _
  drained _ := rfl
  fits := le_rfl

/-- A resize adds nulls, or takes the newest buffers away. -/
theorem ringBuffers_bufferSizeChange (cfg : DetectorConfig) (d : DetectorThread) (n : ℕ) :
    (d.bufferSizeChange cfg n).ringBuffers.Sublist d.ringBuffers := by
  have hresize (m : ℕ) : ((d.prebuffer.resize m none).items.filterMap id).Sublist
      (d.prebuffer.items.filterMap id) := by
    rw [CircularBuffer.resize]
    split_ifs
    · simp
    · exact (List.take_sublist _ _).filterMap _
  rw [ringBuffers, DetectorThread.bufferSizeChange]
  exact hresize _

/-- A new buffer is the newest in the ring. -/
theorem ringBuffers_pushBack (d : DetectorThread) (buffer : AudioBuffer) :
    ((d.prebuffer.pushBack (some buffer)).items.filterMap id).Sublist
      (d.ringBuffers ++ [buffer]) := by
  have hring : d.ringBuffers ++ [buffer] = (d.prebuffer.items ++ [some buffer]).filterMap id := by
    simp [ringBuffers]
  rw [hring, CircularBuffer.items_pushBack]
  exact (List.drop_sublist _ _).filterMap _

theorem PublishesInOrder.bufferSizeChange (h : PublishesInOrder inputs d) (n : ℕ) :
    PublishesInOrder inputs (d.bufferSizeChange cfg n) where
  audio := by
    rw [detectorAudio_bufferSizeChange]
    exact h.audio
  inOrder := by
    rw [detectorAudio_bufferSizeChange]
    exact ((List.Sublist.refl _).append (ringBuffers_bufferSizeChange cfg d n)).trans h.inOrder
  drained hin := by
    rw [inPacket_bufferSizeChange] at hin
    have hring := ringBuffers_bufferSizeChange cfg d n
    rw [h.drained hin] at hring
    exact List.sublist_nil.1 hring
  fits := by
    have hresize (m : ℕ) : d.prebuffer.capacity ≤ (d.prebuffer.resize m none).capacity := by
      rw [CircularBuffer.resize]
      split_ifs
      · exact le_max_left _ _
      · exact le_rfl
    rw [DetectorThread.bufferSizeChange]
    exact h.fits.trans (hresize _)

/-- A packet that starts finds a buffer at the front of the ring. -/
theorem PublishesInOrder.exists_items (h : PublishesInOrder inputs d)
    (hsome : ∀ b ∈ (d.prebuffer.pushBack (some buffer)).items, b.isSome) :
    ∃ first rest, (d.prebuffer.pushBack (some buffer)).items = some first :: rest := by
  cases hitems : (d.prebuffer.pushBack (some buffer)).items with
  | nil =>
      have hfits := h.fits
      rw [CircularBuffer.items_pushBack, List.drop_eq_nil_iff] at hitems
      simp only [List.length_append, List.length_singleton] at hitems
      omega
  | cons first rest =>
      rw [hitems] at hsome
      obtain ⟨first, rfl⟩ := Option.isSome_iff_exists.1 (hsome first (by simp))
      exact ⟨first, rest, rfl⟩

/-- Outside a packet the buffer enters the ring, and a packet starts with the whole ring. -/
theorem PublishesInOrder.audioIn_outside (hc : cfg.continuous = false)
    (h : PublishesInOrder inputs d) (hout : d.inPacket = false)
    (hholds : HoldsBuffers cfg d (.audioIn buffer)) :
    PublishesInOrder (inputs ++ [buffer]) (d.audioIn cfg buffer) := by
  have hpush : (d.detectorAudio.filterMap (·.buffer) ++
      (d.prebuffer.pushBack (some buffer)).items.filterMap id).Sublist (inputs ++ [buffer]) := by
    refine ((List.Sublist.refl _).append (ringBuffers_pushBack d buffer)).trans ?_
    rw [← List.append_assoc]
    exact h.inOrder.append (List.Sublist.refl _)
  cases hdetects : detects cfg d buffer with
  | false =>
      rw [audioIn_of_not_detects hc hout hdetects]
      exact ⟨h.audio, hpush, fun hin => by simp [hout] at hin, by simpa using h.fits⟩
  | true =>
      have hsome := hholds hdetects
      obtain ⟨first, rest, hitems⟩ := h.exists_items hsome
      rw [hitems] at hsome hpush
      rw [audioIn_of_items hc hdetects hitems]
      refine ⟨fun b hb => ?_, ?_, fun _ => rfl, by simpa using h.fits⟩
      · rcases List.mem_append.1 hb with hb | hb
        · exact h.audio b hb
        · rcases List.mem_cons.1 hb with rfl | hb
          · rfl
          · obtain ⟨x, hx, rfl⟩ := List.mem_map.1 hb
            exact hsome x (by simp [hx])
      · simpa [ringBuffers, List.filterMap_append, List.filterMap_map, Function.comp_def]
          using hpush

/-- In a packet the buffer is published. -/
theorem PublishesInOrder.audioIn_inside (hc : cfg.continuous = false)
    (h : PublishesInOrder inputs d) (hin : d.inPacket) :
    PublishesInOrder (inputs ++ [buffer]) (d.audioIn cfg buffer) := by
  have hring : d.ringBuffers = [] := h.drained hin
  have hinOrder := h.inOrder
  rw [hring, List.append_nil] at hinOrder
  rcases hscan : scanSilence cfg d.framesSinceSilence buffer.samples with ⟨silence, ended⟩
  rw [audioIn_of_inPacket hc hin hscan]
  refine ⟨fun b hb => ?_, ?_, fun _ => hring, h.fits⟩
  · rcases List.mem_append.1 hb with hb | hb
    · exact h.audio b hb
    · rw [List.mem_singleton.1 hb]
      rfl
  · have hnew : (d.detectorAudio.filterMap (·.buffer) ++ [buffer]).Sublist (inputs ++ [buffer]) :=
      hinOrder.append (List.Sublist.refl _)
    simp only [ringBuffers] at hring ⊢
    rw [hring, List.append_nil, List.filterMap_append]
    exact hnew

/-- A buffer is in the ring to which it was added. -/
theorem PublishesInOrder.mem_pushBack (h : PublishesInOrder inputs d) (buffer : AudioBuffer) :
    some buffer ∈ (d.prebuffer.pushBack (some buffer)).items := by
  have hfits := h.fits
  rw [CircularBuffer.items_pushBack, List.drop_append_of_le_length (by omega)]
  simp

/-- A loud buffer is published at once. -/
theorem PublishesInOrder.mem_audioIn (hc : cfg.continuous = false) (h : PublishesInOrder inputs d)
    (hholds : HoldsBuffers cfg d (.audioIn buffer)) (hloud : loud cfg buffer) :
    ∃ published, (d.audioIn cfg buffer).detectorAudio = d.detectorAudio ++ published ∧
      buffer ∈ published.filterMap (·.buffer) := by
  cases hin : d.inPacket with
  | true =>
      rcases hscan : scanSilence cfg d.framesSinceSilence buffer.samples with ⟨silence, ended⟩
      rw [audioIn_of_inPacket hc hin hscan]
      exact ⟨_, rfl, by simp⟩
  | false =>
      have hdetects : detects cfg d buffer := by
        rw [loud] at hloud
        rw [detects, hin, hloud]
        rfl
      obtain ⟨first, rest, hitems⟩ := h.exists_items (hholds hdetects)
      have hmem := h.mem_pushBack buffer
      rw [hitems] at hmem
      rw [audioIn_of_items hc hdetects hitems]
      refine ⟨_, rfl, ?_⟩
      -- it is the newest of the ring, which is published
      simpa [List.filterMap_map, eq_comm] using hmem

/-- The loud buffers are published in order. -/
theorem PublishesInOrder.loud_audioIn (hc : cfg.continuous = false)
    (h : PublishesInOrder inputs d) (hholds : HoldsBuffers cfg d (.audioIn buffer))
    (hbefore : (inputs.filter (loud cfg)).Sublist (d.detectorAudio.filterMap (·.buffer))) :
    ((inputs ++ [buffer]).filter (loud cfg)).Sublist
      ((d.audioIn cfg buffer).detectorAudio.filterMap (·.buffer)) := by
  rw [List.filter_append]
  cases hloud : loud cfg buffer with
  | false =>
      have hquiet : [buffer].filter (loud cfg) = [] := by simp [hloud]
      rw [hquiet, List.append_nil]
      exact hbefore.trans ((prefix_audioIn cfg d buffer).sublist.filterMap _)
  | true =>
      obtain ⟨published, hpublished, hmem⟩ := h.mem_audioIn hc hholds hloud
      rw [hpublished, List.filterMap_append]
      have hone : [buffer].filter (loud cfg) = [buffer] := by simp [hloud]
      rw [hone]
      exact hbefore.append (List.singleton_sublist.2 hmem)

end Steps

/-- In packet mode, what is published is what was received, in order and once, if no packet starts
while a null is in the ring. -/
theorem publishesInOrder_after {cfg : DetectorConfig} (hc : cfg.continuous = false)
    {es : List DetectorEvent} (h : Run.Always (step cfg) {} (HoldsBuffers cfg) es) :
    PublishesInOrder (buffersOf es) (after cfg es) :=
  Run.run_induction (step cfg) {} (I := fun es d => PublishesInOrder (buffersOf es) d)
    publishesInOrder_init (fun es e d hd hholds => by
      cases e with
      | bufferSizeChange n =>
          rw [buffersOf_append, buffersOf_bufferSizeChange, List.append_nil, step]
          exact hd.bufferSizeChange n
      | audioIn buffer =>
          rw [buffersOf_append, buffersOf_audioIn]
          cases hin : d.inPacket with
          | false => exact hd.audioIn_outside hc hin hholds
          | true => exact hd.audioIn_inside hc hin) es h

/-- In packet mode, every loud buffer is published, if no packet starts while a null is in the
ring. -/
theorem loud_sublist_after {cfg : DetectorConfig} (hc : cfg.continuous = false)
    {es : List DetectorEvent} (h : Run.Always (step cfg) {} (HoldsBuffers cfg) es) :
    ((buffersOf es).filter (loud cfg)).Sublist
      ((after cfg es).detectorAudio.filterMap (·.buffer)) := by
  induction es using List.reverseRecOn with
  | nil => exact List.Sublist.refl _
  | append_singleton es e ih =>
      obtain ⟨hes, he⟩ := (Run.always_concat _ _ _ es e).1 h
      rw [after_concat, buffersOf_append]
      cases e with
      | bufferSizeChange n =>
          rw [buffersOf_bufferSizeChange, List.append_nil, step, detectorAudio_bufferSizeChange]
          exact ih hes
      | audioIn buffer =>
          exact (publishesInOrder_after hc hes).loud_audioIn hc he (ih hes)

/-- If a packet starts with this event, no entry of the ring is null, and the packet counter has not
wrapped. -/
def StartsPacket (cfg : DetectorConfig) (d : DetectorThread) : DetectorEvent → Prop
  | .bufferSizeChange _ => True
  | .audioIn buffer => detects cfg d buffer →
      (∀ b ∈ (d.prebuffer.pushBack (some buffer)).items, b.isSome) ∧ 0 ≤ d.globalPacketId

instance (cfg : DetectorConfig) (d : DetectorThread) :
    (e : DetectorEvent) → Decidable (StartsPacket cfg d e)
  | .bufferSizeChange _ => inferInstanceAs (Decidable True)
  | .audioIn buffer => inferInstanceAs (Decidable (detects cfg d buffer →
      (∀ b ∈ (d.prebuffer.pushBack (some buffer)).items, b.isSome) ∧ 0 ≤ d.globalPacketId))

theorem StartsPacket.holdsBuffers {cfg : DetectorConfig} {d : DetectorThread} {e : DetectorEvent}
    (h : StartsPacket cfg d e) : HoldsBuffers cfg d e := by
  cases e with
  | bufferSizeChange n => trivial
  | audioIn buffer => exact fun hdetects => (h hdetects).1

/-- In packet mode, a detector publishes whole packets, numbered one after the other, if every
packet starts with a buffer and a valid number. -/
theorem packetStream_after {cfg : DetectorConfig} (hc : cfg.continuous = false)
    {es : List DetectorEvent} (h : Run.Always (step cfg) {} (StartsPacket cfg) es) :
    PacketStream (after cfg es).detectorAudio := by
  have halways : Aligned (after cfg es) := by
    induction es using List.reverseRecOn with
    | nil => exact aligned_init
    | append_singleton es e ih =>
        obtain ⟨hes, he⟩ := (Run.always_concat _ _ _ es e).1 h
        have hpublishes := publishesInOrder_after hc fun pre e post heq =>
          (hes pre e post heq).holdsBuffers
        rw [after_concat]
        cases e with
        | bufferSizeChange n => exact (ih hes).bufferSizeChange n
        | audioIn buffer =>
            cases hin : (after cfg es).inPacket with
            | true => exact (ih hes).audioIn_of_inPacket hc hin
            | false =>
                cases hdetects : detects cfg (after cfg es) buffer with
                | false => exact (ih hes).audioIn_of_not_detects hc hin hdetects
                | true =>
                    obtain ⟨hsome, hcounter⟩ := he hdetects
                    obtain ⟨first, rest, hitems⟩ := hpublishes.exists_items hsome
                    have hstarts := (ih hes).audioIn_of_detects hc hdetects
                      (by simp [oldestIsNull, hitems])
                    rwa [if_pos (show 0 ≤ (after cfg es).globalPacketId from hcounter)] at hstarts
  obtain ⟨ph, hph, -⟩ := halways
  rw [packetStream_iff_accept, hph]
  rfl

end DetectorThread

end Netsim
