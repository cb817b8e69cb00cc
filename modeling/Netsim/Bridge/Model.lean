import Netsim.Core.Common
import Netsim.Lib.Fifo
import Netsim.Lib.Run

/-!
# BridgeThread

The modems of a simulation may be spread over several `netsim_core` processes. Each process runs the
detectors and processors of a range of modems, and a bridge, which publishes what the local
detectors publish on `DetectorAudio` to the other processes on `BridgeAudio`, and what it gets on
`BridgeAudio` to the local processors, again on `DetectorAudio`.

The model has one queue for every subscription: interthread delivery of `DetectorAudio<i>` to a
processor or a bridge, and interprocess delivery of `BridgeAudio<i>` to a bridge. All threads have
subscribed before the first publication. Whether a publisher receives what it publishes itself is
up to the middleware (`echo`).
-/

namespace Netsim

/-- `BridgeConfig`. -/
structure BridgeConfig where
  /-- Index of the first modem handled by this instance. -/
  firstModemIndex : ℤ := 0
  /-- Number of modems handled by this instance. -/
  localNumberOfModems : ℤ

/-- The part of `NetSimCoreConfig` that launches and connects the threads. -/
structure NetSimCoreConfig where
  /-- Number of modems. -/
  numberOfModems : ℤ
  /-- The configuration of the bridge, if there is one. -/
  bridge : Option BridgeConfig := none

/-- The build and the middleware. -/
structure Platform where
  /-- `NETSIM_MAX_MODEMS`. -/
  netsimMaxModems : ℤ
  /-- Whether a publisher receives what it publishes, if it has subscribed to it. -/
  echo : Bool

/-- A subscription: the messages that wait to be handled by its callback. -/
inductive Inbox (π : Type)
  /-- `DetectorAudio<i>` at processor `j` of a process. -/
  | processor (p : π) (j i : ℤ)
  /-- `DetectorAudio<i>` at the bridge of a process. -/
  | bridgeOut (p : π) (i : ℤ)
  /-- `BridgeAudio<i>` at the bridge of a process. -/
  | bridgeIn (p : π) (i : ℤ)
deriving DecidableEq

/-- The processes of a simulation. -/
structure NetSimCores (π : Type) where
  /-- The queue of each subscription. -/
  inbox : Inbox π → Fifo TaggedAudioBuffer := fun _ => .empty
  /-- What `DetectorThread<i>` of each process has published. -/
  detected : π → ℤ → List TaggedAudioBuffer := fun _ _ => []

/-- What can happen to the processes. -/
inductive BridgeEvent (π : Type)
  /-- `DetectorThread<i>` publishes a buffer. -/
  | detect (p : π) (i : ℤ) (buffer : TaggedAudioBuffer)
  /-- Processor `j` handles the next buffer of `DetectorAudio<i>`. -/
  | detectorAudio (p : π) (j i : ℤ)
  /-- `bridge_out` is called. -/
  | bridgeOut (p : π) (i : ℤ)
  /-- `bridge_in` is called. -/
  | bridgeIn (p : π) (i : ℤ)

namespace NetSimCoreConfig

variable (platform : Platform) (cfg : NetSimCoreConfig)

/-- The `case` labels of the switches: `BOOST_PP_REPEAT(NETSIM_MAX_MODEMS, ..)`. -/
def inSwitch (i : ℤ) : Bool := 0 ≤ i && i < platform.netsimMaxModems

/-- `first_modem_index` of the launch. -/
def firstModemIndex : ℤ := (cfg.bridge.map (·.firstModemIndex)).getD 0

/-- `local_number_of_modems` of the launch. -/
def localNumberOfModems : ℤ := (cfg.bridge.map (·.localNumberOfModems)).getD cfg.numberOfModems

/-- The range of modems of this process. -/
def isLocal (i : ℤ) : Bool :=
  cfg.firstModemIndex ≤ i && i < cfg.firstModemIndex + cfg.localNumberOfModems

/-- Whether processor `j` is launched. -/
def launchesProcessor (j : ℤ) : Bool :=
  cfg.firstModemIndex ≤ j && j < cfg.localNumberOfModems + cfg.firstModemIndex

/-- Whether `DetectorThread<i>` is launched: the switch falls through from the last local modem down
to 0. -/
def launchesDetector (i : ℤ) : Bool :=
  let last := cfg.localNumberOfModems + cfg.firstModemIndex
  1 ≤ last && last ≤ platform.netsimMaxModems && 0 ≤ i && i < last && cfg.firstModemIndex ≤ i

/-- Whether processor `j` subscribes to `DetectorAudio<i>`. -/
def processorSubscribes (j i : ℤ) : Bool :=
  cfg.launchesProcessor j &&
    -- all but its own audio
    (0 ≤ i && i < cfg.numberOfModems && i ≠ j && inSwitch platform i)

/-- Whether the bridge subscribes to `DetectorAudio<i>`. -/
def bridgeSubscribesInterthread (i : ℤ) : Bool :=
  cfg.bridge.any fun bridge => 0 ≤ i && i < cfg.numberOfModems && inSwitch platform i &&
    (bridge.firstModemIndex ≤ i && i < bridge.firstModemIndex + bridge.localNumberOfModems)

/-- Whether the bridge subscribes to `BridgeAudio<i>`: the other branch. -/
def bridgeSubscribesInterprocess (i : ℤ) : Bool :=
  cfg.bridge.any fun bridge => 0 ≤ i && i < cfg.numberOfModems && inSwitch platform i &&
    !(bridge.firstModemIndex ≤ i && i < bridge.firstModemIndex + bridge.localNumberOfModems)

end NetSimCoreConfig

namespace NetSimCores

variable {π : Type} [DecidableEq π] (platform : Platform) (cfg : π → NetSimCoreConfig)
  (s : NetSimCores π)

/-- Whether a publication of `DetectorAudio<i>` in process `p` is delivered to a subscription. -/
def hearsDetectorAudio (fromBridge : Bool) (p : π) (i : ℤ) : Inbox π → Bool
  | .processor q j k => q = p && k = i && (cfg q).processorSubscribes platform j k
  | .bridgeOut q k => q = p && k = i && (cfg q).bridgeSubscribesInterthread platform k &&
      (platform.echo || !fromBridge)
  | .bridgeIn _ _ => false

/-- Whether a publication of `BridgeAudio<i>` by process `p` is delivered to a subscription. -/
def hearsBridgeAudio (p : π) (i : ℤ) : Inbox π → Bool
  | .bridgeIn q k => k = i && (cfg q).bridgeSubscribesInterprocess platform k &&
      (platform.echo || q ≠ p)
  | _ => false

/-- Deliver a buffer to the subscriptions that hear it. -/
def publish (hears : Inbox π → Bool) (buffer : TaggedAudioBuffer) : NetSimCores π :=
  { s with inbox := fun c => if hears c then (s.inbox c).send buffer else s.inbox c }

/-- Take the next buffer out of a queue. -/
def receive (c : Inbox π) : Option (TaggedAudioBuffer × NetSimCores π) :=
  (s.inbox c).receive.map fun r =>
    (r.1, { s with inbox := fun d => if d = c then r.2 else s.inbox d })

/-- A detector publishes a buffer. -/
def detect (p : π) (i : ℤ) (buffer : TaggedAudioBuffer) : Option (NetSimCores π) :=
  if (cfg p).launchesDetector platform i then
    some { s.publish (hearsDetectorAudio platform cfg false p i) buffer with
      detected := fun q k =>
        if q = p ∧ k = i then s.detected q k ++ [buffer] else s.detected q k }
  else none

/-- `bridge_out`. -/
def bridgeOut (p : π) (i : ℤ) : Option (NetSimCores π) :=
  (s.receive (.bridgeOut p i)).map fun r =>
    if NetSimCoreConfig.inSwitch platform i then
      r.2.publish (hearsBridgeAudio platform cfg p i) r.1
    else r.2

/-- `bridge_in`. -/
def bridgeIn (p : π) (i : ℤ) : Option (NetSimCores π) :=
  (s.receive (.bridgeIn p i)).map fun r =>
    if NetSimCoreConfig.inSwitch platform i then
      r.2.publish (hearsDetectorAudio platform cfg true p i) r.1
    else r.2

/-- One step; a callback runs only when a message is there. -/
def step : BridgeEvent π → Option (NetSimCores π)
  | .detect p i buffer => s.detect platform cfg p i buffer
  | .detectorAudio p j i => (s.receive (.processor p j i)).map (·.2)
  | .bridgeOut p i => s.bridgeOut platform cfg p i
  | .bridgeIn p i => s.bridgeIn platform cfg p i

/-- The processes after some events. -/
def after (es : List (BridgeEvent π)) : Option (NetSimCores π) :=
  Run.exec (step platform cfg) {} es

/-- The sequence of buffers that processor `j` of process `q` has received from transmitter `i`. -/
def received (q : π) (j i : ℤ) : List TaggedAudioBuffer := (s.inbox (.processor q j i)).received

/-- No message is in flight. -/
def Delivered : Prop := ∀ c, (s.inbox c).queue = []

end NetSimCores

end Netsim
