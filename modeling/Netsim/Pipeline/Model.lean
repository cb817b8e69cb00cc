import Netsim.Bridge.Model
import Netsim.Detector.Model
import Netsim.Jack.CaptureQueue
import Netsim.Jack.Model
import Netsim.Lib.Mailboxes
import Netsim.Logger.Model

/-!
# The threads of netsim_core

All threads of all processes of a simulation. `JackThread<k>` publishes what it captures on
`AudioIn<k>`, from which `DetectorThread<k>` takes the packets and publishes them on
`DetectorAudio<k>`. The processors, the bridge and the logger of the process receive these.
Processor `j` publishes on `AudioOut<i, j>` what it makes of transmitter `i`, which `JackThread<i>`
plays for modem `j`, and which is logged. A change of the buffer size at `JackThread<0>` is
published to the detectors.

`ProcessorThreadBase` leaves to a plugin what a processor does with a buffer. The processors here
are those of `processor_echo`, which publish what they receive again.

Every subscription has a mailbox of its own. The threads subscribe in their constructors, and what
is published before is not given to them. `NetSimCore` waits for the processors, but neither for the
JACK threads and the logger nor for another process; it is assumed here that all threads of all
processes have subscribed before the first publication. A callback of a thread is one step, and the
capturing half and the playing half of `jack_process` are two. A step of the system is undefined
where that of a thread is.
-/

namespace Netsim

/-- The part of `NetSimCoreConfig` that the threads read, and the time the logger was started. -/
structure CoreConfig extends NetSimCoreConfig where
  /-- Hertz. -/
  samplingFreq : ℤ := 96000
  /-- Process audio continuously rather than on a packet basis. -/
  continuous : Bool := false
  /-- Maximum size of the buffer for captured data. -/
  maxBufferSize : ℤ := 100
  /-- Number of buffers required before commencing playback. -/
  minPlaybackBufferSize : ℤ := 10
  /-- Value to subtract from playback start. -/
  calibrationSeconds : ℚ := 0
  /-- Absolute sample value to reach to be considered a detection (`0.1f`). -/
  detectionThreshold : SampleT := ⟨false, 123, 0x4CCCCD⟩
  /-- Seconds without such a sample after which the packet is over (`0.2f`). -/
  packetEndSilentSeconds : Single := .ofFields false 124 0x4CCCCD
  /-- Seconds before the detection to include in the packet (`0.2f`). -/
  packetBeginPrebufferSeconds : Single := .ofFields false 124 0x4CCCCD
  /-- What the conversion of a float to a `size_t` gives if that cannot hold it. -/
  unspecified : Single → ℕ := fun _ => 0
  /-- Whether to run the logger. -/
  runLogger : Bool := true
  /-- Directory to write logged audio data. -/
  logDirectory : String := "."
  /-- `start_time` of the logger. -/
  startTime : String

/-- A subscription to what a detector, a bridge or a processor publishes, other than those of the
processors and of the bridge. -/
inductive AudioSubscription (π : Type)
  /-- `AudioOut<i, j>` at `JackThread<i>` of a process. -/
  | jack (p : π) (i j : ℤ)
  /-- A stream at the logger of a process. -/
  | logger (p : π) (σ : LogStream)
deriving DecidableEq

/-- The process of the subscriber. -/
def AudioSubscription.process {π : Type} : AudioSubscription π → π
  | jack p _ _ => p
  | logger p _ => p

/-- The stream that is subscribed to. -/
def AudioSubscription.stream {π : Type} : AudioSubscription π → LogStream
  | jack _ i j => .processor i j
  | logger _ σ => σ

/-- The threads of all processes; those of a process have an index. -/
structure Pipeline (π : Type) where
  /-- `JackThread<k>`, the capturing half. -/
  capture : π × ℤ → CaptureThread := fun _ => {}
  /-- `JackThread<k>`, the playing half. -/
  jack : π × ℤ → JackThread := fun _ => {}
  /-- `DetectorThread<k>`. -/
  detector : π × ℤ → DetectorThread := fun _ => {}
  /-- The processors and bridges, by what they subscribe to. -/
  cores : NetSimCores π := {}
  /-- The logger of a process. -/
  logger : π → LoggerThread := fun _ => {}
  /-- `AudioIn<k>` at `DetectorThread<k>`. -/
  audioIn : Mailboxes (π × ℤ) AudioBuffer := fun _ => .empty
  /-- `buffer_size_change` at `DetectorThread<k>`. -/
  bufferSizeChange : Mailboxes (π × ℤ) ℕ := fun _ => .empty
  /-- What the JACK threads and the loggers subscribe to. -/
  audio : Mailboxes (AudioSubscription π) TaggedAudioBuffer := fun _ => .empty
  /-- The buffer sizes that `JackThread<0>` of a process has published. -/
  bufferSizes : π → List ℕ := fun _ => []

/-- What can happen to the threads. -/
inductive PipelineEvent (π : Type)
  /-- The input port is registered, audio is captured, or `loop` takes a step. -/
  | capture (p : π) (k : ℤ) (e : CaptureEvent)
  /-- The playing half of `jack_process`. -/
  | process (p : π) (k : ℤ) (cycle : Cycle)
  /-- The constructor of `JackThread<k>` registers an output port. -/
  | registerPort (p : π) (k : ℤ) (i : ℕ)
  /-- `jack_buffer_size_change`. -/
  | jackBufferSizeChange (p : π) (k : ℤ) (nframes : ℕ)
  /-- `DetectorThread<k>` handles a change of the buffer size. -/
  | bufferSizeChange (p : π) (k : ℤ)
  /-- `DetectorThread<k>` handles captured audio. -/
  | audioIn (p : π) (k : ℤ)
  /-- The bridge calls `bridge_out`. -/
  | bridgeOut (p : π) (i : ℤ)
  /-- The bridge calls `bridge_in`. -/
  | bridgeIn (p : π) (i : ℤ)
  /-- Processor `j` calls `detector_audio`. -/
  | detectorAudio (p : π) (j i : ℤ)
  /-- `JackThread<i>` calls `audio_out` for modem `j`. -/
  | audioOut (p : π) (i j : ℤ)
  /-- The logger calls `log_audio`. -/
  | logAudio (p : π) (σ : LogStream)

namespace CoreConfig

variable (platform : Platform) (cfg : CoreConfig)

/-- What a detector reads. -/
def detectorConfig : DetectorConfig where
  continuous := cfg.continuous
  samplingFreq := cfg.samplingFreq
  detectionThreshold := cfg.detectionThreshold
  packetEndSilentSeconds := cfg.packetEndSilentSeconds
  packetBeginPrebufferSeconds := cfg.packetBeginPrebufferSeconds
  unspecified := cfg.unspecified

/-- What playback reads. -/
def jackConfig : JackConfig where
  continuous := cfg.continuous
  firstModemIndex := cfg.firstModemIndex
  localNumberOfModems := cfg.localNumberOfModems.toNat
  -- `fs_` is unsigned
  fs := (cfg.samplingFreq % 2 ^ 32).toNat
  calibrationSeconds := cfg.calibrationSeconds
  minPlaybackBufferSize := cfg.minPlaybackBufferSize

/-- What capturing reads. -/
def captureConfig (k : ℤ) : CaptureConfig where
  toNetSimCoreConfig := cfg.toNetSimCoreConfig
  jackModemIndex := k
  maxBufferSize := cfg.maxBufferSize

/-- What the logger reads. -/
def loggerConfig : LoggerConfig where
  logDirectory := cfg.logDirectory
  startTime := cfg.startTime

/-- Whether `JackThread<k>` is launched: the switch falls through from the last modem down to 0. -/
def launchesJack (k : ℤ) : Bool :=
  cfg.numberOfModems ≤ platform.netsimMaxModems && 0 ≤ k && k < cfg.numberOfModems

/-- Whether `JackThread<i>` subscribes to `AudioOut<i, j>`. -/
def jackSubscribes (i j : ℤ) : Bool :=
  cfg.launchesJack platform i && 0 ≤ j && j < cfg.numberOfModems &&
    NetSimCoreConfig.inSwitch platform j

/-- The group that `case n` of the logger's switch over both modem indices subscribes to. -/
def audioOutGroup (n : ℤ) : LogStream :=
  .processor (n.tdiv platform.netsimMaxModems) (n.tmod platform.netsimMaxModems)

/-- Whether the logger logs what is published on a group as the given stream. -/
def loggerSubscribes (group : LogStream) : LogStream → Bool
  | .detector i => cfg.runLogger && 0 ≤ i && i < cfg.numberOfModems &&
      NetSimCoreConfig.inSwitch platform i && group = .detector i
  | .processor fromI toI => cfg.runLogger && 0 ≤ fromI && fromI < cfg.numberOfModems &&
      0 ≤ toI && toI < cfg.numberOfModems &&
      -- `BOOST_PP_MUL(NETSIM_MAX_MODEMS, NETSIM_MAX_MODEMS)` cases
      (0 ≤ fromI * platform.netsimMaxModems + toI &&
        fromI * platform.netsimMaxModems + toI <
          platform.netsimMaxModems * platform.netsimMaxModems) &&
      group = audioOutGroup platform (fromI * platform.netsimMaxModems + toI)

end CoreConfig

/-- A detector publishes some buffers. -/
def NetSimCores.detectAll {π : Type} [DecidableEq π] (platform : Platform)
    (cfg : π → NetSimCoreConfig) (p : π) (k : ℤ) (cores : NetSimCores π)
    (buffers : List TaggedAudioBuffer) : Option (NetSimCores π) :=
  buffers.foldlM (fun cores => cores.detect platform cfg p k) cores

namespace Pipeline

variable {π : Type} [DecidableEq π] (platform : Platform) (cfg : π → CoreConfig) (s : Pipeline π)

/-- The configurations, as far as they launch and connect the threads. -/
def launch (cfg : π → CoreConfig) : π → NetSimCoreConfig := fun p => (cfg p).toNetSimCoreConfig

/-- Whether a publication of `DetectorAudio<i>` or `AudioOut<i, j>` in process `p`, named by the
stream, is delivered to a subscription. -/
def hears (p : π) (group : LogStream) : AudioSubscription π → Bool
  | .jack q i j => q = p && group = .processor i j && (cfg q).jackSubscribes platform i j
  | .logger q σ => q = p && (cfg q).loggerSubscribes platform group σ

/-- Nothing is in flight. -/
def Delivered : Prop :=
  s.cores.Delivered ∧ s.audioIn.Delivered ∧ s.bufferSizeChange.Delivered ∧ s.audio.Delivered

/-! ### The threads -/

/-- `JackThread<k>` takes a step that concerns capturing. -/
def stepCapture (p : π) (k : ℤ) (e : CaptureEvent) : Option (Pipeline π) :=
  if (cfg p).launchesJack platform k then
    (CaptureThread.step ((cfg p).captureConfig k) (s.capture (p, k)) e).map fun t =>
      { s with
        capture := Function.update s.capture (p, k) t
        -- what `loop` has published
        audioIn := s.audioIn.publish
          (fun c => c = (p, k) && (cfg p).launchesDetector platform k)
          (t.published.drop (s.capture (p, k)).published.length) }
  else none

/-- `JackThread<k>` takes a step that concerns playback. -/
def stepJack (p : π) (k : ℤ) (e : JackEvent) : Option (Pipeline π) :=
  if (cfg p).launchesJack platform k then
    (JackThread.step (cfg p).jackConfig (s.jack (p, k)) e).map fun t =>
      { s with jack := Function.update s.jack (p, k) t }
  else none

/-- `publish_buffer_size_change`; only `JackThread<0>` does so. -/
def publishBufferSizeChange (p : π) (k : ℤ) (nframes : ℕ) : Pipeline π :=
  if k = 0 then
    { s with
      bufferSizeChange := s.bufferSizeChange.publish
        (fun c => c.1 = p && (cfg p).launchesDetector platform c.2) [nframes]
      bufferSizes := Function.update s.bufferSizes p (s.bufferSizes p ++ [nframes]) }
  else s

/-- `DetectorThread<k>` handles an event. What it publishes goes to the processors and to the
bridge, and to the logger. -/
def stepDetector (p : π) (k : ℤ) (e : DetectorEvent) : Option (Pipeline π) :=
  let d := (s.detector (p, k)).step (cfg p).detectorConfig e
  let buffers := d.detectorAudio.drop (s.detector (p, k)).detectorAudio.length
  (s.cores.detectAll platform (launch cfg) p k buffers).map fun cores =>
    { s with
      detector := Function.update s.detector (p, k) d
      cores := cores
      audio := s.audio.publish (hears platform cfg p (.detector k)) buffers }

/-- `bridge_in` publishes on `DetectorAudio<i>`, to which the logger has subscribed, too. -/
def stepBridgeIn (p : π) (i : ℤ) : Option (Pipeline π) := do
  let (buffer, _) ← s.cores.receive (.bridgeIn p i)
  let cores ← s.cores.bridgeIn platform (launch cfg) p i
  some { s with
    cores := cores
    audio := if NetSimCoreConfig.inSwitch platform i then
      s.audio.publish (hears platform cfg p (.detector i)) [buffer] else s.audio }

/-- `publish_audio_buffer` of processor `j`. -/
def publishAudioBuffer (p : π) (j : ℤ) (buffer : TaggedAudioBuffer) (txModemId : ℤ) : Pipeline π :=
  { s with
    audio := if NetSimCoreConfig.inSwitch platform txModemId then
      s.audio.publish (hears platform cfg p (.processor txModemId j)) [buffer] else s.audio }

/-- `detector_audio` of processor `j`, as `processor_echo` overrides it. -/
def detectorAudio (p : π) (j : ℤ) (buffer : TaggedAudioBuffer) (modemId : ℤ) : Pipeline π :=
  -- echo back data
  s.publishAudioBuffer platform cfg p j buffer modemId

/-- Processor `j` receives what transmitter `i` has sent. -/
def stepProcessor (p : π) (j i : ℤ) : Option (Pipeline π) :=
  (s.cores.receive (.processor p j i)).map fun (buffer, cores) =>
    { s with cores := cores }.detectorAudio platform cfg p j buffer i

/-- One step. -/
def step : PipelineEvent π → Option (Pipeline π)
  | .capture p k e => s.stepCapture platform cfg p k e
  | .process p k cycle => s.stepJack platform cfg p k (.process cycle)
  | .registerPort p k i => s.stepJack platform cfg p k (.registerPort i)
  | .jackBufferSizeChange p k nframes =>
      (s.stepJack platform cfg p k (.bufferSizeChange nframes)).map
        (·.publishBufferSizeChange platform cfg p k nframes)
  | .bufferSizeChange p k => (s.bufferSizeChange.receive (p, k)).bind fun (nframes, mailboxes) =>
      { s with bufferSizeChange := mailboxes }.stepDetector platform cfg p k
        (.bufferSizeChange nframes)
  | .audioIn p k => (s.audioIn.receive (p, k)).bind fun (buffer, mailboxes) =>
      { s with audioIn := mailboxes }.stepDetector platform cfg p k (.audioIn buffer)
  | .bridgeOut p i =>
      (s.cores.bridgeOut platform (launch cfg) p i).map fun cores => { s with cores := cores }
  | .bridgeIn p i => s.stepBridgeIn platform cfg p i
  | .detectorAudio p j i => s.stepProcessor platform cfg p j i
  | .audioOut p i j => (s.audio.receive (.jack p i j)).bind fun (buffer, mailboxes) =>
      { s with audio := mailboxes }.stepJack platform cfg p i (.audioOut buffer j)
  | .logAudio p σ => (s.audio.receive (.logger p σ)).bind fun (buffer, mailboxes) =>
      (LoggerThread.receive (cfg p).loggerConfig (s.logger p) (σ, buffer)).map fun l =>
        { s with audio := mailboxes, logger := Function.update s.logger p l }

/-- The threads after some events, before which all of them have subscribed. -/
def after (es : List (PipelineEvent π)) : Option (Pipeline π) :=
  Run.exec (step platform cfg) {} es

end Pipeline

end Netsim
