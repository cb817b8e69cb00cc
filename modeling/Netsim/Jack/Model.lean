import Mathlib.Data.Rat.Floor
import Mathlib.Logic.Function.Basic
import Netsim.Core.Common
import Netsim.Lib.Run

/-!
# JackThread, playback

For every modem the thread holds a queue of buffers to be played, the index of the next sample in
the front buffer, and whether a new packet waits to be played. `audio_out` fills the queues;
`jack_process` is called once a cycle and writes `nframes` samples to every output port that has
something to play.

A step is undefined (`none`) where the source reads a null pointer, reads beyond a buffer or pops
an empty queue. The mutex makes `audio_out` and the playback half of `jack_process` atomic. Times
are exact; the conversion of a time to a number of frames is unspecified where the number does not
fit.
-/

namespace Netsim

/-- The part of `NetSimCoreConfig` that playback reads. -/
structure JackConfig where
  /-- Process audio continuously rather than on a packet basis. -/
  continuous : Bool := false
  /-- `first_modem_index_`. -/
  firstModemIndex : ℤ := 0
  /-- `local_number_of_modems_`, the number of output ports. -/
  localNumberOfModems : ℕ
  /-- `fs_`, the sampling frequency. -/
  fs : ℕ
  /-- Value to subtract from playback start. -/
  calibrationSeconds : ℚ := 0
  /-- Number of buffers required before commencing playback. -/
  minPlaybackBufferSize : ℤ := 10

/-- What is to be played for one modem. -/
structure Playback where
  /-- `audio_out_buffer_`. -/
  queue : List TaggedAudioBuffer := []
  /-- `audio_out_index_`. -/
  index : ℕ := 0
  /-- `new_packet_`. -/
  newPacket : Bool := false

/-- One call of `jack_process`. -/
structure Cycle where
  /-- The number of frames. -/
  nframes : ℕ
  /-- The time of the call, `buffer_start_time`. -/
  bufferStartTime : ℚ
  /-- What a number that does not fit into `jack_nframes_t` is converted to. -/
  unspecified : ℚ → ℕ

/-- The state of the thread. -/
structure JackThread where
  /-- `buffer_size_`. -/
  bufferSize : ℕ := 0
  /-- `empty_buffer_`. -/
  emptyBuffer : Option TaggedAudioBuffer := none
  /-- The playback of each modem index. -/
  playback : ℤ → Playback := fun _ => {}
  /-- Whether `output_port_[i]` has been registered. -/
  outputPort : ℕ → Bool := fun _ => false
  /-- The samples written to each output port so far. -/
  written : ℕ → List SampleT := fun _ => []

/-- What can happen to the thread. -/
inductive JackEvent
  /-- `audio_out`. -/
  | audioOut (buffer : TaggedAudioBuffer) (modemIndex : ℤ)
  /-- `jack_process`. -/
  | process (cycle : Cycle)
  /-- `jack_buffer_size_change`. -/
  | bufferSizeChange (nframes : ℕ)
  /-- The constructor registers an output port. -/
  | registerPort (i : ℕ)

/-- The local variables of the frame loop. -/
structure Cursor where
  /-- `audio_out_buffer_[modem_index]`. -/
  queue : List TaggedAudioBuffer
  /-- `audio_out_index`. -/
  index : ℕ
  /-- `tx_buffer`. -/
  txBuffer : TaggedAudioBuffer

namespace Playback

/-- When playback begins in the cycle, for a packet that starts at `startTime`. -/
def frameStart (cfg : JackConfig) (cycle : Cycle) (startTime : ℚ) : ℕ :=
  if cycle.bufferStartTime < startTime then
    let frames := (startTime - cycle.bufferStartTime - cfg.calibrationSeconds) * cfg.fs
    if -1 < frames ∧ frames < 2 ^ 32 then frames.floor.toNat else cycle.unspecified frames
  else 0

/-- The while loop: go on to the next buffer, or to the empty one, until the index is within it. -/
def advance (emptyBuffer : Option TaggedAudioBuffer) :
    List TaggedAudioBuffer → ℕ → TaggedAudioBuffer → Option Cursor
  | [], index, txBuffer =>
      txBuffer.buffer.bind fun audio =>
        -- nothing is left to pop
        if index < audio.samples.length then some ⟨[], index, txBuffer⟩ else none
  | front :: queue, index, txBuffer =>
      txBuffer.buffer.bind fun audio =>
        if index < audio.samples.length then some ⟨front :: queue, index, txBuffer⟩
        else (queue.head?.or emptyBuffer).bind fun next => advance emptyBuffer queue 0 next

/-- The frame loop, from frame `frame`. -/
def playFrames (emptyBuffer : Option TaggedAudioBuffer) (frameStart : ℕ) :
    ℕ → ℕ → Cursor → Option (Cursor × List SampleT)
  | 0, _, c => some (c, [])
  | left + 1, frame, c =>
      if frame < frameStart then
        (playFrames emptyBuffer frameStart left (frame + 1) c).map fun p => (p.1, silence :: p.2)
      else
        (advance emptyBuffer c.queue c.index c.txBuffer).bind fun c =>
          (c.txBuffer.buffer.bind (·.samples[c.index]?)).bind fun sample =>
            (playFrames emptyBuffer frameStart left (frame + 1) { c with index := c.index + 1 }).map
              fun p => (p.1, sample :: p.2)

/-- Play one cycle from frame `frameStart`. -/
def play (emptyBuffer : Option TaggedAudioBuffer) (cycle : Cycle) (p : Playback)
    (txBuffer : TaggedAudioBuffer) (frameStart : ℕ) : Option (Playback × List SampleT) :=
  (playFrames emptyBuffer frameStart cycle.nframes 0 ⟨p.queue, p.index, txBuffer⟩).map fun r =>
    ({ p with queue := r.1.queue, index := r.1.index }, r.2)

/-- One output port in one cycle, in packet mode: the new playback state and the samples written,
none if the port is not touched. -/
def playPacket (cfg : JackConfig) (emptyBuffer : Option TaggedAudioBuffer) (cycle : Cycle)
    (p : Playback) : Option (Playback × List SampleT) :=
  match p.queue with
  | [] => some (p, [])
  | txBuffer :: _ =>
      if p.newPacket then
        txBuffer.buffer.bind fun audio =>
          -- set on every cycle while the packet waits
          let p := { p with index := 0 }
          let frameStart := frameStart cfg cycle audio.bufferStartTime
          if cycle.nframes < frameStart then some (p, [])
          -- `size() < min_playback_buffer_size`, both unsigned
          else if (p.queue.length : ℤ) < cfg.minPlaybackBufferSize % 2 ^ 64 then some (p, [])
          else play emptyBuffer cycle { p with newPacket := false } txBuffer frameStart
      else play emptyBuffer cycle p txBuffer 0

/-- One output port in one cycle, in continuous mode: copy the frame. -/
def playContinuous (cycle : Cycle) (p : Playback) : Option (Playback × List SampleT) :=
  match p.queue with
  | [] => some (p, [])
  | txBuffer :: _ =>
      txBuffer.buffer.bind fun audio =>
        -- the loop reads one sample for every frame of the cycle
        if audio.samples.length < cycle.nframes then none
        else some (p, audio.samples.take cycle.nframes)

/-- `audio_out`. -/
def audioOut (cfg : JackConfig) (buffer : TaggedAudioBuffer) (p : Playback) : Playback :=
  if cfg.continuous then { p with queue := [buffer] }
  else if buffer.marker = .START then { p with queue := [buffer], newPacket := true }
  else { p with queue := p.queue ++ [buffer] }

end Playback

namespace JackThread

/-- The playback half of `jack_process` for one output port. -/
def processPort (cfg : JackConfig) (cycle : Cycle) (s : JackThread) (i : ℕ) : Option JackThread :=
  if s.outputPort i then
    let modemIndex := cfg.firstModemIndex + i
    let p := s.playback modemIndex
    (if cfg.continuous then p.playContinuous cycle
      else p.playPacket cfg s.emptyBuffer cycle).map fun r =>
        { s with
          playback := Function.update s.playback modemIndex r.1
          written := Function.update s.written i (s.written i ++ r.2) }
  else some s

/-- The playback half of `jack_process`. -/
def jackProcess (cfg : JackConfig) (s : JackThread) (cycle : Cycle) : Option JackThread :=
  (List.range cfg.localNumberOfModems).foldlM (processPort cfg cycle) s

/-- `jack_buffer_size_change`. -/
def jackBufferSizeChange (s : JackThread) (nframes : ℕ) : JackThread :=
  { s with
    bufferSize := nframes
    emptyBuffer := some { buffer := some ⟨0, 0, List.replicate nframes silence⟩ } }

/-- The reaction to an event. -/
def step (cfg : JackConfig) (s : JackThread) : JackEvent → Option JackThread
  | .audioOut buffer modemIndex =>
      some { s with playback :=
        Function.update s.playback modemIndex ((s.playback modemIndex).audioOut cfg buffer) }
  | .process cycle => s.jackProcess cfg cycle
  | .bufferSizeChange nframes => some (s.jackBufferSizeChange nframes)
  | .registerPort i => some { s with outputPort := Function.update s.outputPort i true }

/-- The thread after some events. -/
def after (cfg : JackConfig) (s : JackThread) (es : List JackEvent) : Option JackThread :=
  Run.exec (step cfg) s es

end JackThread

end Netsim
