import Netsim.Core.PacketStream
import Netsim.Detector.Model

/-!
# Packet framing of a detector

In packet mode the published stream is a packet stream as long as every detection finds a
buffer at the front of the ring and the 32-bit packet counter has not wrapped
(`DetectionsStart`, `packetStream_iff_detectionsStart`). When a resize has padded the ring with
nulls, a detection that finds a null front publishes no START buffer, but has already entered
the packet: every later buffer is then published outside a packet.

The proof classifies the states of a run. They are `Aligned` with a reader of the published
stream until a detection finds a null front; then they are `Stranded`, and the next buffer
breaks the stream.
-/

namespace Netsim

namespace DetectorThread

/-- Every detection of the run either finds a buffer at the front of the ring, with a packet
counter that has not wrapped, or finds a null and is followed by no further buffer. -/
def DetectionsStart (cfg : DetectorConfig) (es : List DetectorEvent) : Prop :=
  ∀ pre buffer post, es = pre ++ .audioIn buffer :: post → detects cfg (after cfg pre) buffer →
    if oldestIsNull (after cfg pre) buffer then ∀ b, .audioIn b ∉ post
    else 0 ≤ (after cfg pre).globalPacketId

theorem detectionsStart_nil (cfg : DetectorConfig) : DetectionsStart cfg [] := by
  intro pre buffer post h
  simp at h

theorem DetectionsStart.of_append {cfg : DetectorConfig} {es fs : List DetectorEvent}
    (h : DetectionsStart cfg (es ++ fs)) : DetectionsStart cfg es := by
  rintro pre buffer post rfl hdetects
  have hstart := h pre buffer (post ++ fs) (by simp) hdetects
  split_ifs at hstart ⊢ with hnull
  · exact fun b hb => hstart b (List.mem_append_left _ hb)
  · exact hstart

/-- Resizing the ring is no detection. -/
theorem DetectionsStart.concat_bufferSizeChange {cfg : DetectorConfig} {es : List DetectorEvent}
    (h : DetectionsStart cfg es) (n : ℕ) :
    DetectionsStart cfg (es ++ [.bufferSizeChange n]) := by
  intro pre buffer post heq hdetects
  -- the detection is not at the last event, which is a resize
  rcases Run.place_concat.1 heq with ⟨-, he, -⟩ | ⟨mid, rfl, rfl⟩
  · cases he
  · have hstart := h pre buffer mid rfl hdetects
    split_ifs at hstart ⊢ with hnull
    · simpa using hstart
    · exact hstart

/-- A detection of this event does not find a null. -/
def FindsBuffer (cfg : DetectorConfig) (d : DetectorThread) : DetectorEvent → Prop
  | .bufferSizeChange _ => True
  | .audioIn buffer => detects cfg d buffer → oldestIsNull d buffer = false

instance (cfg : DetectorConfig) (d : DetectorThread) (e : DetectorEvent) :
    Decidable (FindsBuffer cfg d e) :=
  match e with
  | .bufferSizeChange _ => inferInstanceAs (Decidable True)
  | .audioIn buffer =>
      inferInstanceAs (Decidable (detects cfg d buffer → oldestIsNull d buffer = false))

/-- One more buffer meets the condition if no detection before it found a null, and it comes
with a counter that has not wrapped if it starts a packet itself. -/
theorem DetectionsStart.concat_audioIn {cfg : DetectorConfig} {es : List DetectorEvent}
    {buffer : AudioBuffer} (h : DetectionsStart cfg es)
    (hnull : Run.Always (step cfg) {} (FindsBuffer cfg) es)
    (hlast : detects cfg (after cfg es) buffer → oldestIsNull (after cfg es) buffer = false →
      0 ≤ (after cfg es).globalPacketId) :
    DetectionsStart cfg (es ++ [.audioIn buffer]) := by
  intro pre b post heq hdetects
  rcases Run.place_concat.1 heq with ⟨rfl, he, rfl⟩ | ⟨mid, rfl, rfl⟩
  -- the detection is at the last event, and nothing comes after it
  · cases he
    split_ifs with hold
    · simp
    · exact hlast hdetects (by simpa using hold)
  -- a detection before the last event found a buffer, so that what follows it is free
  · have hold : oldestIsNull (after cfg pre) b = false := hnull pre (.audioIn b) mid rfl hdetects
    have hstart := h pre b mid rfl hdetects
    rw [hold, if_neg Bool.false_ne_true] at hstart ⊢
    exact hstart

/-! ### The states of a run -/

/-- The packet counter continues after the last id published. -/
def Follows (last : Option ℤ) (counter : ℤ) : Prop :=
  match last with
  | none => counter = 0
  | some i => 0 ≤ i ∧ i < 2 ^ 31 ∧ counter = (i + 1).bmod (2 ^ 32)

/-- The counter gives the next packet a larger id iff it has not wrapped. -/
theorem Follows.lt_iff {last : Option ℤ} {counter : ℤ} (h : Follows last counter) :
    (∀ i ∈ last, i < counter) ↔ 0 ≤ counter := by
  cases last with
  | none => simp [show counter = 0 from h]
  | some i =>
      obtain ⟨h0, hlt, rfl⟩ := h
      simp only [Option.mem_def, Option.some.injEq, forall_eq']
      -- only `INT_MAX` has a successor that is not larger, and that one is negative
      rw [Int.bmod_def]
      omega

/-- A counter that has not wrapped is followed by its successor. -/
theorem Follows.succ {last : Option ℤ} {counter : ℤ} (h : Follows last counter)
    (hcounter : 0 ≤ counter) : Follows (some counter) ((counter + 1).bmod (2 ^ 32)) := by
  refine ⟨hcounter, ?_, rfl⟩
  cases last with
  | none => simp [show counter = 0 from h]
  | some i =>
      obtain ⟨-, -, rfl⟩ := h
      have := Int.bmod_lt (x := i + 1) (m := 2 ^ 32) (by norm_num)
      simpa using this

/-- The detector agrees with a reader of its stream. -/
def Aligned (d : DetectorThread) : Prop :=
  ∃ ph, accept d.detectorAudio = some ph ∧
    match ph with
    | .outside last => d.inPacket = false ∧ Follows last d.globalPacketId
    | .window id => d.inPacket = true ∧ d.inPacketId = id ∧ Follows (some id) d.globalPacketId
    | .middle id => d.inPacket = true ∧ d.inPacketId = id ∧ Follows (some id) d.globalPacketId

/-- The detector is inside a packet whose START it did not publish. -/
def Stranded (d : DetectorThread) : Prop :=
  ∃ last, accept d.detectorAudio = some (.outside last) ∧ d.inPacket = true

section Steps

variable {cfg : DetectorConfig} {d : DetectorThread} {buffer : AudioBuffer}

theorem aligned_init : Aligned {} := ⟨.outside none, rfl, rfl, rfl⟩

theorem Aligned.bufferSizeChange (h : Aligned d) (n : ℕ) :
    Aligned (d.bufferSizeChange cfg n) := by
  simpa [Aligned] using h

theorem Stranded.bufferSizeChange (h : Stranded d) (n : ℕ) :
    Stranded (d.bufferSizeChange cfg n) := by
  simpa [Stranded] using h

/-- Outside a packet, the reader is between packets. -/
theorem Aligned.outside (h : Aligned d) (hout : d.inPacket = false) :
    ∃ last, accept d.detectorAudio = some (.outside last) ∧ Follows last d.globalPacketId := by
  obtain ⟨ph, hph, hmatch⟩ := h
  cases ph with
  | outside last => exact ⟨last, hph, hmatch.2⟩
  | window id => simp [hout] at hmatch
  | middle id => simp [hout] at hmatch

theorem Aligned.audioIn_of_not_detects (hc : cfg.continuous = false) (h : Aligned d)
    (hout : d.inPacket = false) (hdetects : detects cfg d buffer = false) :
    Aligned (d.audioIn cfg buffer) := by
  rw [DetectorThread.audioIn_of_not_detects hc hout hdetects]
  exact h

theorem Aligned.stranded_audioIn (hc : cfg.continuous = false) (h : Aligned d)
    (hdetects : detects cfg d buffer) (hnull : oldestIsNull d buffer) :
    Stranded (d.audioIn cfg buffer) := by
  obtain ⟨last, hlast, -⟩ := h.outside (inPacket_of_detects hdetects)
  rw [audioIn_of_oldestIsNull hc hdetects hnull]
  exact ⟨last, hlast, rfl⟩

/-- A ring whose oldest entry is not null starts with a buffer. -/
theorem exists_items_of_not_null (hnull : oldestIsNull d buffer = false) :
    ∃ first rest, (d.prebuffer.pushBack (some buffer)).items = some first :: rest := by
  unfold oldestIsNull at hnull
  match hitems : (d.prebuffer.pushBack (some buffer)).items with
  | [] => simp [hitems] at hnull
  | none :: rest => simp [hitems] at hnull
  | some first :: rest => exact ⟨first, rest, rfl⟩

/-- A detection that finds a buffer starts a packet, unless the counter has wrapped. -/
theorem Aligned.audioIn_of_detects (hc : cfg.continuous = false) (h : Aligned d)
    (hdetects : detects cfg d buffer) (hnull : oldestIsNull d buffer = false) :
    if 0 ≤ d.globalPacketId then Aligned (d.audioIn cfg buffer)
    else accept (d.audioIn cfg buffer).detectorAudio = none := by
  obtain ⟨last, hlast, hfollows⟩ := h.outside (inPacket_of_detects hdetects)
  obtain ⟨first, rest, hitems⟩ := exists_items_of_not_null hnull
  rw [audioIn_of_items hc hdetects hitems]
  -- the reader takes START for the beginning of a packet iff the id is larger than the last
  have haccept : accept (d.detectorAudio ++
      { buffer := some first, marker := .START, packetId := d.globalPacketId } ::
        rest.map fun b => { buffer := b, packetId := d.globalPacketId }) =
      if 0 ≤ d.globalPacketId then some (.window d.globalPacketId) else none := by
    rw [accept_append, hlast, Option.bind_some, foldlM_start_window]
    simp only [hfollows.lt_iff]
  split_ifs at haccept ⊢ with hcounter
  · exact ⟨_, haccept, rfl, rfl, hfollows.succ hcounter⟩
  · exact haccept

theorem Aligned.audioIn_of_inPacket (hc : cfg.continuous = false) (h : Aligned d)
    (hin : d.inPacket = true) : Aligned (d.audioIn cfg buffer) := by
  obtain ⟨ph, hph, hmatch⟩ := h
  rcases hscan : scanSilence cfg d.framesSinceSilence buffer.samples with ⟨silence, ended⟩
  rw [DetectorThread.audioIn_of_inPacket hc hin hscan]
  cases ph with
  | outside last => simp [hin] at hmatch
  | window id | middle id =>
      obtain ⟨-, rfl, hfollows⟩ := hmatch
      -- MIDDLE and END are in place wherever in the packet the reader is
      cases ended
      · exact ⟨.middle d.inPacketId, by simp [accept_concat, hph, Phase.next], rfl, rfl, hfollows⟩
      · exact ⟨.outside (some d.inPacketId), by simp [accept_concat, hph, Phase.next], rfl,
          hfollows⟩

/-- A stranded detector publishes the next buffer outside a packet. -/
theorem Stranded.audioIn (hc : cfg.continuous = false) (h : Stranded d) :
    accept (d.audioIn cfg buffer).detectorAudio = none := by
  obtain ⟨last, hlast, hin⟩ := h
  rcases hscan : scanSilence cfg d.framesSinceSilence buffer.samples with ⟨silence, ended⟩
  rw [DetectorThread.audioIn_of_inPacket hc hin hscan]
  -- MIDDLE and END are equally out of place between packets
  cases ended <;> simp [accept_concat, hlast, Phase.next]

end Steps

/-- A null found by a detection, and a buffer after it, violate the condition. -/
private theorem not_detectionsStart_of_null {cfg : DetectorConfig} {pre post : List DetectorEvent}
    {b b' : AudioBuffer} (hdetects : detects cfg (after cfg pre) b)
    (hnull : oldestIsNull (after cfg pre) b) :
    ¬ DetectionsStart cfg ((pre ++ .audioIn b :: post) ++ [.audioIn b']) := by
  intro h
  have := h pre b (post ++ [.audioIn b']) (by simp) hdetects
  rw [if_pos hnull] at this
  exact this b' (by simp)

/-- The three kinds of runs: aligned with the reader; stranded since a detection found a null
and no buffer came after; broken. -/
private inductive Class (cfg : DetectorConfig) (es : List DetectorEvent) : Prop
  | aligned (h : Aligned (after cfg es)) (hstart : DetectionsStart cfg es)
      (hnull : Run.Always (step cfg) {} (FindsBuffer cfg) es)
  | stranded (h : Stranded (after cfg es)) (hstart : DetectionsStart cfg es)
      (hnull : ∃ pre b post, es = pre ++ .audioIn b :: post ∧ detects cfg (after cfg pre) b ∧
        oldestIsNull (after cfg pre) b)
  | broken (h : accept (after cfg es).detectorAudio = none) (hstart : ¬ DetectionsStart cfg es)

/-- One buffer after an aligned run. -/
private theorem Class.audioIn_of_aligned {cfg : DetectorConfig} (hc : cfg.continuous = false)
    {es : List DetectorEvent} (b : AudioBuffer) (h : Aligned (after cfg es))
    (hstart : DetectionsStart cfg es)
    (hnull : Run.Always (step cfg) {} (FindsBuffer cfg) es) :
    Class cfg (es ++ [.audioIn b]) := by
  have hafter : after cfg (es ++ [.audioIn b]) = (after cfg es).audioIn cfg b := by
    rw [after_concat]; rfl
  -- one more event after a run in which every detection has found a buffer
  have hfinds (hb : detects cfg (after cfg es) b → oldestIsNull (after cfg es) b = false) :
      Run.Always (step cfg) {} (FindsBuffer cfg) (es ++ [.audioIn b]) :=
    (Run.always_concat _ _ _ es _).2 ⟨hnull, hb⟩
  cases hdetects : detects cfg (after cfg es) b with
  | false =>
      have hb : detects cfg (after cfg es) b → oldestIsNull (after cfg es) b = false := by
        simp [hdetects]
      refine .aligned ?_ (hstart.concat_audioIn hnull (by simp [hdetects])) (hfinds hb)
      rw [hafter]
      cases hin : (after cfg es).inPacket with
      | false => exact h.audioIn_of_not_detects hc hin hdetects
      | true => exact h.audioIn_of_inPacket hc hin
  | true =>
      cases hold : oldestIsNull (after cfg es) b with
      -- the detection finds a null: the run is stranded, but nothing was published
      | true =>
          refine .stranded ?_ (hstart.concat_audioIn hnull (by simp [hold]))
            ⟨es, b, [], rfl, hdetects, hold⟩
          rw [hafter]
          exact h.stranded_audioIn hc hdetects hold
      -- a packet is started, unless the counter has wrapped
      | false =>
          have hstep := h.audioIn_of_detects hc hdetects hold
          split_ifs at hstep with hcounter
          · refine .aligned ?_ (hstart.concat_audioIn hnull fun _ _ => hcounter)
              (hfinds fun _ => hold)
            rw [hafter]
            exact hstep
          -- the wrapped counter violates the condition at this very detection
          · refine .broken (by rw [hafter]; exact hstep) fun hbad => hcounter ?_
            have := hbad es b [] rfl hdetects
            rwa [hold, if_neg Bool.false_ne_true] at this

private theorem classify {cfg : DetectorConfig} (hc : cfg.continuous = false)
    (es : List DetectorEvent) : Class cfg es := by
  induction es using List.reverseRecOn with
  | nil => exact .aligned aligned_init (detectionsStart_nil cfg) (Run.always_nil _ _ _)
  | append_singleton es e ih =>
      cases ih with
      | aligned h hstart hnull =>
          cases e with
          | bufferSizeChange n =>
              refine .aligned ?_ (hstart.concat_bufferSizeChange n)
                ((Run.always_concat _ _ _ es _).2 ⟨hnull, trivial⟩)
              rw [after_concat]
              exact h.bufferSizeChange n
          | audioIn b => exact Class.audioIn_of_aligned hc b h hstart hnull
      | stranded h hstart hnull =>
          cases e with
          -- nothing is published, so that the run stays stranded
          | bufferSizeChange n =>
              obtain ⟨pre, b, post, rfl, hdetects, hold⟩ := hnull
              refine .stranded ?_ (hstart.concat_bufferSizeChange n)
                ⟨pre, b, post ++ [.bufferSizeChange n], by simp, hdetects, hold⟩
              rw [after_concat]
              exact h.bufferSizeChange n
          -- the detection that found a null is now followed by a buffer
          | audioIn b' =>
              obtain ⟨pre, b, post, rfl, hdetects, hold⟩ := hnull
              refine .broken ?_ (not_detectionsStart_of_null hdetects hold)
              rw [after_concat]
              exact h.audioIn hc
      -- what is out of place stays so
      | broken h hstart =>
          refine .broken ?_ fun hbad => hstart hbad.of_append
          rw [after_concat]
          exact accept_eq_none_of_extends (prefix_step cfg _ e) h

/-- In packet mode the detector publishes a packet stream exactly in the runs in which every
detection starts its packet. -/
theorem packetStream_iff_detectionsStart (cfg : DetectorConfig) (hc : cfg.continuous = false)
    (es : List DetectorEvent) :
    PacketStream (after cfg es).detectorAudio ↔ DetectionsStart cfg es := by
  rw [packetStream_iff_accept]
  cases classify hc es with
  | aligned h hstart hnull =>
      obtain ⟨ph, hph, -⟩ := h
      simp [hph, hstart]
  | stranded h hstart hnull =>
      obtain ⟨last, hlast, -⟩ := h
      simp [hlast, hstart]
  | broken h hstart => simp [h, hstart]

/-- A buffer of one full-scale sample. -/
def loudBuffer : AudioBuffer := ⟨0, 0, [.ofFields false 127 0]⟩

/-- With the default configuration and JACK buffers of 1024 frames, a first buffer that is
detected finds the padded ring, and the second one is published as MIDDLE without a START. -/
theorem not_packetStream_after_resize :
    ¬ PacketStream (after {} [.bufferSizeChange 1024, .audioIn loudBuffer,
      .audioIn loudBuffer]).detectorAudio := by
  rw [packetStream_iff_accept]
  decide +kernel

/-- A ring that has not been resized holds no null, and the second buffer goes on with the packet
that the first one starts. -/
theorem packetStream_of_two_buffers :
    PacketStream (after {} [.audioIn loudBuffer, .audioIn loudBuffer]).detectorAudio := by
  refine (packetStream_iff_detectionsStart {} rfl _).2 ?_
  have hfirst : DetectionsStart {} [.audioIn loudBuffer] :=
    (detectionsStart_nil {}).concat_audioIn (by decide +kernel) (by decide +kernel)
  exact hfirst.concat_audioIn (by decide +kernel) (by decide +kernel)

end DetectorThread

end Netsim
