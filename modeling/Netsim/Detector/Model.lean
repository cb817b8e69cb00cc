import Mathlib.Data.Rat.Floor
import Netsim.Core.Common
import Netsim.Lib.CircularBuffer
import Netsim.Lib.IeeeArithmetic
import Netsim.Lib.Run

/-!
# DetectorThread

One detector watches the audio of one transmitting modem and cuts it into packets. Outside a
packet the incoming buffers go through the ring `prebuffer`, so that a packet starts a little
before the sample that was detected; inside a packet they are published as they come, until
enough silent samples have been seen in a row.

The function-local static counter `global_packet_id` belongs to one instantiation of the class
template, so it is part of the state of the one detector that instantiation has.

The two settings that are times are floats, and so is what is calculated with them: an integer
operand is converted to a float, and every operation rounds its result to one. What the conversion
of a float to a `size_t` gives is unspecified where a `size_t` cannot hold it; a size that cannot be
allocated makes `resize` throw, and such a run of the program ends there.
-/

namespace Netsim

/-- The configuration a detector reads. -/
structure DetectorConfig where
  /-- Process audio continuously rather than on a packet basis. -/
  continuous : Bool := false
  /-- Hertz. -/
  samplingFreq : ℤ := 96000
  /-- Absolute sample value to reach to be considered a detection (`0.1f`). -/
  detectionThreshold : SampleT := ⟨false, 123, 0x4CCCCD⟩
  /-- Seconds without such a sample after which the packet is over (`0.2f`). -/
  packetEndSilentSeconds : Single := .ofFields false 124 0x4CCCCD
  /-- Seconds before the detection to include in the packet (`0.2f`). -/
  packetBeginPrebufferSeconds : Single := .ofFields false 124 0x4CCCCD
  /-- What the conversion of a float to a `size_t` gives if that cannot hold it. -/
  unspecified : Single → ℕ := fun _ => 0

/-- A `DetectorThread` and everything it published on `DetectorAudio`. -/
structure DetectorThread where
  /-- A packet has been detected and has not ended. -/
  inPacket : Bool := false
  /-- The id of the current or last packet. -/
  inPacketId : ℤ := -1
  /-- Silent samples in a row, an unsigned 32-bit counter. -/
  framesSinceSilence : ℕ := 0
  /-- The buffers received last; null where a resize padded. -/
  prebuffer : CircularBuffer (Option AudioBuffer) := .empty 1
  /-- The next packet id, a signed 32-bit atomic counter. -/
  globalPacketId : ℤ := 0
  /-- The buffers published, oldest first. -/
  detectorAudio : List TaggedAudioBuffer := []

/-- What a detector receives. -/
inductive DetectorEvent
  /-- `buffer_size_change` from JACK. -/
  | bufferSizeChange (bufferSize : ℕ)
  /-- A buffer on `AudioIn`. -/
  | audioIn (buffer : AudioBuffer)
deriving DecidableEq

namespace DetectorThread

/-- `std::abs(sample) >= detection_threshold`. -/
def overThreshold (cfg : DetectorConfig) (sample : SampleT) : Bool :=
  sample.abs.ge cfg.detectionThreshold

/-- Publish buffers on `DetectorAudio`. -/
def publish (d : DetectorThread) (bs : List TaggedAudioBuffer) : DetectorThread :=
  { d with detectorAudio := d.detectorAudio ++ bs }

/-- The number of buffers that span the configured pre-trigger time. -/
def newPrebufferSize (cfg : DetectorConfig) (bufferSize : ℕ) : ℕ :=
  let buffers : Single :=
    ((Ieee.Value.ofRat cfg.samplingFreq).mul cfg.packetBeginPrebufferSeconds).div
      (.ofRat bufferSize)
  (buffers.toUnsigned 64).getD (cfg.unspecified buffers)

/-- The `buffer_size_change` callback. -/
def bufferSizeChange (cfg : DetectorConfig) (d : DetectorThread) (bufferSize : ℕ) :
    DetectorThread :=
  let n := newPrebufferSize cfg bufferSize
  { d with prebuffer := d.prebuffer.resize (if n > 0 then n else 1) none }

/-- A sample at or above the threshold was found in `buffer` outside a packet, and `buffer` is
the newest entry of `prebuffer`. -/
def startPacket (cfg : DetectorConfig) (d : DetectorThread) (buffer : AudioBuffer) :
    DetectorThread :=
  let id := d.globalPacketId
  let d := { d with inPacket := true, inPacketId := id,
                    -- `static int`, which wraps
                    globalPacketId := (id + 1).bmod (2 ^ 32) }
  if cfg.continuous then
    d.publish [{ buffer := some buffer, marker := .START, packetId := id }]
  else
    match d.prebuffer.items with
    | some first :: rest =>
        { d with prebuffer := d.prebuffer.clear }.publish
          ({ buffer := some first, marker := .START, packetId := id } ::
            rest.map fun b => { buffer := b, packetId := id })
    -- the front is null: `break`, with the packet state already changed
    | _ => d

/-- `frames_since_silence >= packet_end_silent_seconds * sampling_freq`. -/
def silenceIsOver (cfg : DetectorConfig) (framesSinceSilence : ℕ) : Bool :=
  (Ieee.Value.ofRat framesSinceSilence).ge
    (cfg.packetEndSilentSeconds.mul (.ofRat cfg.samplingFreq))

/-- The scan of a buffer inside a packet: the silence counter after it, and whether the silent
period that ends the packet was completed. -/
def scanSilence (cfg : DetectorConfig) : ℕ → List SampleT → ℕ × Bool
  | silence, [] => (silence, false)
  | silence, sample :: samples =>
      -- the counter is unsigned, and is reset by every loud sample
      let silence : ℕ := if overThreshold cfg sample then 0 else (silence + 1) % 2 ^ 32
      if silenceIsOver cfg silence then (0, true)
      else scanSilence cfg silence samples

/-- `audio_in`. -/
def audioIn (cfg : DetectorConfig) (d : DetectorThread) (buffer : AudioBuffer) :
    DetectorThread :=
  if !d.inPacket then
    let d := { d with prebuffer := d.prebuffer.pushBack (some buffer) }
    let d := if buffer.samples.any (overThreshold cfg) then startPacket cfg d buffer else d
    if cfg.continuous && !d.inPacket then
      d.publish [{ buffer := some buffer, packetId := d.inPacketId }]
    else d
  else
    -- the buffer that completes the silence still belongs to the packet
    let (silence, ended) := scanSilence cfg d.framesSinceSilence buffer.samples
    let d := { d with framesSinceSilence := silence }
    let d :=
      if ended then
        { d with inPacket := false }.publish
          [{ buffer := some buffer, marker := .END, packetId := d.inPacketId }]
      else d
    if d.inPacket || cfg.continuous then
      d.publish [{ buffer := some buffer, marker := if d.inPacket then .MIDDLE else .NONE,
                   packetId := d.inPacketId }]
    else d

/-- One event. -/
def step (cfg : DetectorConfig) (d : DetectorThread) : DetectorEvent → DetectorThread
  | .bufferSizeChange bufferSize => d.bufferSizeChange cfg bufferSize
  | .audioIn buffer => d.audioIn cfg buffer

/-- The constructed detector after the events `es`. -/
def after (cfg : DetectorConfig) (es : List DetectorEvent) : DetectorThread :=
  Run.run (step cfg) {} es

/-! ### Runs -/

@[simp]
theorem after_concat (cfg : DetectorConfig) (es : List DetectorEvent) (e : DetectorEvent) :
    after cfg (es ++ [e]) = (after cfg es).step cfg e := by
  simp [after]

/-! ### A resize only changes the ring -/

section Resize

variable (cfg : DetectorConfig) (d : DetectorThread) (bufferSize : ℕ)

@[simp]
theorem inPacket_bufferSizeChange :
    (d.bufferSizeChange cfg bufferSize).inPacket = d.inPacket := by rw [bufferSizeChange]

@[simp]
theorem inPacketId_bufferSizeChange :
    (d.bufferSizeChange cfg bufferSize).inPacketId = d.inPacketId := by rw [bufferSizeChange]

@[simp]
theorem framesSinceSilence_bufferSizeChange :
    (d.bufferSizeChange cfg bufferSize).framesSinceSilence = d.framesSinceSilence := by
  rw [bufferSizeChange]

@[simp]
theorem globalPacketId_bufferSizeChange :
    (d.bufferSizeChange cfg bufferSize).globalPacketId = d.globalPacketId := by
  rw [bufferSizeChange]

@[simp]
theorem detectorAudio_bufferSizeChange :
    (d.bufferSizeChange cfg bufferSize).detectorAudio = d.detectorAudio := by
  rw [bufferSizeChange]

end Resize

/-! ### What was published stays published -/

theorem prefix_publish (d : DetectorThread) (bs : List TaggedAudioBuffer) :
    d.detectorAudio <+: (d.publish bs).detectorAudio := List.prefix_append _ _

theorem prefix_startPacket (cfg : DetectorConfig) (d : DetectorThread) (buffer : AudioBuffer) :
    d.detectorAudio <+: (d.startPacket cfg buffer).detectorAudio := by
  unfold startPacket
  dsimp only
  split
  · exact prefix_publish _ _
  · split
    · exact prefix_publish _ _
    · exact List.prefix_rfl

private theorem prefix_ite {out : List TaggedAudioBuffer} {c : Prop} [Decidable c]
    {d d' : DetectorThread} (h : out <+: d.detectorAudio) (h' : out <+: d'.detectorAudio) :
    out <+: (if c then d else d').detectorAudio := by
  split
  · exact h
  · exact h'

theorem prefix_audioIn (cfg : DetectorConfig) (d : DetectorThread) (buffer : AudioBuffer) :
    d.detectorAudio <+: (d.audioIn cfg buffer).detectorAudio := by
  unfold audioIn
  -- the two branches of `in_packet_`, each of which publishes at most twice
  refine prefix_ite ?_ ?_
  · have hstart := prefix_ite (c := buffer.samples.any (overThreshold cfg) = true)
      (prefix_startPacket cfg { d with prebuffer := d.prebuffer.pushBack (some buffer) } buffer)
      List.prefix_rfl
    exact prefix_ite (hstart.trans (prefix_publish _ _)) hstart
  · have hend (silence : ℕ) (ended : Bool) (b : TaggedAudioBuffer) : d.detectorAudio <+:
        (if ended then
          { d with framesSinceSilence := silence, inPacket := false }.publish [b]
        else { d with framesSinceSilence := silence }).detectorAudio :=
      prefix_ite (prefix_publish _ _) List.prefix_rfl
    exact prefix_ite ((hend _ _ _).trans (prefix_publish _ _)) (hend _ _ _)

theorem prefix_step (cfg : DetectorConfig) (d : DetectorThread) (e : DetectorEvent) :
    d.detectorAudio <+: (d.step cfg e).detectorAudio := by
  cases e with
  | bufferSizeChange bufferSize =>
      simp only [step, detectorAudio_bufferSizeChange, List.prefix_rfl]
  | audioIn buffer => exact prefix_audioIn cfg d buffer

/-! ### What one buffer does in packet mode -/

/-- A packet starts with this buffer. -/
def detects (cfg : DetectorConfig) (d : DetectorThread) (buffer : AudioBuffer) : Bool :=
  !d.inPacket && buffer.samples.any (overThreshold cfg)

/-- The oldest entry of `prebuffer`, once this buffer has been added to it, is null. -/
def oldestIsNull (d : DetectorThread) (buffer : AudioBuffer) : Bool :=
  (d.prebuffer.pushBack (some buffer)).items.head?.join.isNone

section PacketMode

variable {cfg : DetectorConfig} {d : DetectorThread} {buffer : AudioBuffer}

theorem inPacket_of_detects (h : detects cfg d buffer) : d.inPacket = false := by
  simp only [detects, Bool.and_eq_true, Bool.not_eq_true'] at h
  exact h.1

/-- Outside a packet, a buffer in which nothing is detected only enters the ring. -/
theorem audioIn_of_not_detects (hc : cfg.continuous = false) (hout : d.inPacket = false)
    (h : detects cfg d buffer = false) :
    d.audioIn cfg buffer = { d with prebuffer := d.prebuffer.pushBack (some buffer) } := by
  have hquiet : buffer.samples.any (overThreshold cfg) = false := by
    simpa [detects, hout] using h
  simp only [audioIn, hout, hc, hquiet, Bool.not_false, if_true, Bool.false_eq_true, if_false,
    Bool.false_and]

/-- A detection with a null front publishes nothing, but changes the packet state. -/
theorem audioIn_of_oldestIsNull (hc : cfg.continuous = false) (h : detects cfg d buffer)
    (hnull : oldestIsNull d buffer) :
    d.audioIn cfg buffer =
      { d with inPacket := true, inPacketId := d.globalPacketId,
               globalPacketId := (d.globalPacketId + 1).bmod (2 ^ 32),
               prebuffer := d.prebuffer.pushBack (some buffer) } := by
  obtain ⟨hout, hloud⟩ : d.inPacket = false ∧ buffer.samples.any (overThreshold cfg) = true := by
    simpa [detects] using h
  -- so that `startPacket` takes its second branch
  have hitems : ∀ first rest,
      (d.prebuffer.pushBack (some buffer)).items ≠ some first :: rest := by
    intro first rest heq
    simp [oldestIsNull, heq] at hnull
  simp only [audioIn, hout, hc, hloud, Bool.not_false, if_true, startPacket, Bool.false_and,
    Bool.false_eq_true, if_false]

/-- A detection with a non-null front publishes the ring, its first buffer as START. -/
theorem audioIn_of_items (hc : cfg.continuous = false) (h : detects cfg d buffer)
    {first : AudioBuffer} {rest : List (Option AudioBuffer)}
    (hitems : (d.prebuffer.pushBack (some buffer)).items = some first :: rest) :
    d.audioIn cfg buffer =
      { d with inPacket := true, inPacketId := d.globalPacketId,
               globalPacketId := (d.globalPacketId + 1).bmod (2 ^ 32),
               prebuffer := (d.prebuffer.pushBack (some buffer)).clear,
               detectorAudio := d.detectorAudio ++
                 { buffer := some first, marker := .START, packetId := d.globalPacketId } ::
                   rest.map fun b => { buffer := b, packetId := d.globalPacketId } } := by
  obtain ⟨hout, hloud⟩ : d.inPacket = false ∧ buffer.samples.any (overThreshold cfg) = true := by
    simpa [detects] using h
  simp only [audioIn, hout, hc, hloud, Bool.not_false, if_true, startPacket, Bool.false_and,
    Bool.false_eq_true, if_false, hitems, publish]

/-- Inside a packet a buffer is published, as END if it completes the silent period. -/
theorem audioIn_of_inPacket (hc : cfg.continuous = false) (hin : d.inPacket = true)
    {silence : ℕ} {ended : Bool}
    (hscan : scanSilence cfg d.framesSinceSilence buffer.samples = (silence, ended)) :
    d.audioIn cfg buffer =
      { d with inPacket := !ended, framesSinceSilence := silence,
               detectorAudio := d.detectorAudio ++
                 [{ buffer := some buffer, marker := if ended then .END else .MIDDLE,
                    packetId := d.inPacketId }] } := by
  cases ended <;> simp [audioIn, hin, hc, hscan, publish]

end PacketMode

end DetectorThread

end Netsim
