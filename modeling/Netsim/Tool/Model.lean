import Mathlib.Algebra.Order.Field.Rat
import Netsim.Lib.Run

/-!
# NetSimTool

The tool measures the reception of a transmission at the points of a grid, by range and depth. Its
loop counts the ticks of a slot: at one tick it sends the position of the receiver to the manager,
at another it publishes the statistics of the previous point and initiates the next transmission.
Statistics are cached when they come in.

The statistics of the modem are of a type `μ`, and what the tool takes from libraries of them and of
positions comes with `ToolLibrary`. Slot times are exact. `log` is what the tool has received, sent
and published, in order; no step depends on it.
-/

namespace Netsim

/-- What the tool takes from goby. -/
structure ToolLibrary (μ : Type) where
  /-- `ReceiveStatistics` after `Clear`. -/
  cleared : μ
  /-- `ReceiveStatistics::IsInitialized`. -/
  isInitialized : μ → Bool
  /-- Whether the `mode` is `RECEIVE_GOOD`. -/
  receiveGood : μ → Bool
  /-- `UTMGeodesy::convert` of a point at a range on the x axis: latitude and longitude. -/
  convert : ℤ → ℚ × ℚ

/-- The part of `NetSimToolConfig` the tool reads. -/
structure NetSimToolConfig where
  /-- `tcp_port` of the transmitting modem. -/
  txTcpPort : ℤ
  /-- `tcp_port` of the receiving modem. -/
  rxTcpPort : ℤ
  /-- `slot_seconds` of the transmission. -/
  slotSeconds : ℚ
  /-- The first range. -/
  rMin : ℤ
  /-- The first depth. -/
  zMin : ℤ
  /-- The greatest range. -/
  rMax : ℤ
  /-- The greatest depth. -/
  zMax : ℤ
  /-- The step of the range. -/
  dr : ℤ
  /-- The step of the depth. -/
  dz : ℤ
  /-- The depth of the source. -/
  sourceZ : ℤ
  /-- The latitude of the source. -/
  latOrigin : ℚ
  /-- The longitude of the source. -/
  lonOrigin : ℚ

/-- The position of a modem in a `NetSimManagerRequest`; speed and heading are 0. -/
structure ToolNav where
  /-- `modem_tcp_port`. -/
  modemTcpPort : ℤ
  /-- The time. -/
  time : ℚ
  /-- The latitude. -/
  lat : ℚ
  /-- The longitude. -/
  lon : ℚ
  /-- The depth. -/
  depth : ℤ
deriving DecidableEq

/-- `netsim::protobuf::ToolReceiveStats`. -/
structure ToolReceiveStats (μ : Type) where
  /-- The statistics, if there are any. -/
  stats : Option μ
  /-- The range of the source. -/
  sourceR : ℤ := 0
  /-- The depth of the source. -/
  sourceZ : ℤ
  /-- The range of the receiver. -/
  receiverR : ℤ
  /-- The depth of the receiver. -/
  receiverZ : ℤ
deriving DecidableEq

/-- What the tool receives, sends or publishes. -/
inductive ToolEntry (μ : Type)
  /-- Statistics come in on `receive_data`. -/
  | received (stat : μ)
  /-- A request with statistics is sent to the manager. -/
  | statsRequest (id : ℤ) (packetSuccess : Bool) (stat : μ)
  /-- A request with a position is sent to the manager. -/
  | navRequest (id : ℤ) (nav : ToolNav)
  /-- The transmission of the configuration is published on `transmit`. -/
  | transmit
  /-- Statistics are published on `rx_stats`. -/
  | rxStats (toolStats : ToolReceiveStats μ)
  /-- `quit` is called. -/
  | quit
deriving DecidableEq

/-- The state of the tool. -/
structure NetSimTool (μ : Type) where
  /-- `r_`. -/
  r : ℤ
  /-- `z_`. -/
  z : ℤ
  /-- `last_r_`. -/
  lastR : ℤ := -1
  /-- `last_z_`. -/
  lastZ : ℤ := -1
  /-- `loops_since_last_transmission_`. -/
  loopsSinceLastTransmission : ℤ := 0
  /-- `drivers_ready_`. -/
  driversReady : ℕ := 0
  /-- `run_complete_`. -/
  runComplete : Bool := false
  /-- `request_id_`. -/
  requestId : ℤ := 0
  /-- `previous_stats_`. -/
  previousStats : μ
  /-- Whether `quit` has been called. -/
  hasQuit : Bool := false
  /-- What has happened. -/
  log : List (ToolEntry μ) := []

/-- What can happen to the tool. -/
inductive ToolEvent (μ : Type)
  /-- A driver publishes that it is ready. -/
  | ready
  /-- A message with the given `receive_stat` comes in on `receive_data`. -/
  | receiveData (receiveStat : List μ) (connected : Bool)
  /-- The loop is called. -/
  | loop (now : ℚ) (connected : Bool)

/-- The loop is called with 10 Hz. -/
def loopFrequencyHertz : ℚ := 10

/-- The value of an `int` after an addition. -/
def wrapInt (x : ℤ) : ℤ := x.bmod (2 ^ 32)

namespace NetSimTool

variable {μ : Type} (lib : ToolLibrary μ) (cfg : NetSimToolConfig) (s : NetSimTool μ)

/-- Send a position, if the client is connected. -/
def sendNav (connected : Bool) (nav : ToolNav) : NetSimTool μ :=
  { s with
    requestId := wrapInt (s.requestId + 1)
    log := if connected then s.log ++ [.navRequest s.requestId nav] else s.log }

/-- `update_receiver_position`. -/
def updateReceiverPosition (now : ℚ) (connected : Bool) : NetSimTool μ :=
  s.sendNav connected
    { modemTcpPort := cfg.rxTcpPort, time := now, lat := (lib.convert s.r).1,
      lon := (lib.convert s.r).2, depth := s.z }

/-- The constructor, which waits until the client is connected. -/
def init (now : ℚ) : NetSimTool μ :=
  let s : NetSimTool μ := { r := cfg.rMin, z := cfg.zMin, previousStats := lib.cleared }
  let s := s.sendNav true
    { modemTcpPort := cfg.txTcpPort, time := now, lat := cfg.latOrigin, lon := cfg.lonOrigin,
      depth := cfg.sourceZ }
  s.updateReceiverPosition lib cfg now true

/-- The `receive_data` callback. -/
def receiveData (receiveStat : List μ) (connected : Bool) : NetSimTool μ :=
  match receiveStat with
  | [] => s
  | stat :: _ =>
      { s with
        previousStats := stat
        requestId := wrapInt (s.requestId + 1)
        log := s.log ++ .received stat ::
          if connected then [.statsRequest s.requestId (lib.receiveGood stat) stat] else [] }

/-- The statistics are published with the point of the last transmission. -/
def publishStats : NetSimTool μ :=
  -- -1 until the first transmission
  if 0 < s.lastR ∧ 0 < s.lastZ then
    { s with
      log := s.log ++ [.rxStats
        { stats := if lib.isInitialized s.previousStats then some s.previousStats else none
          sourceZ := cfg.sourceZ
          receiverR := s.lastR
          receiverZ := s.lastZ }]
      previousStats := lib.cleared }
  else s

/-- The next point after a transmission. -/
def advance : NetSimTool μ :=
  let r := wrapInt (s.r + cfg.dr)
  if cfg.rMax < r then
    let z := wrapInt (s.z + cfg.dz)
    { s with r := cfg.rMin, z := z, runComplete := s.runComplete || cfg.zMax < z }
  else { s with r := r }

/-- A transmission is initiated. -/
def initiateTransmission : NetSimTool μ :=
  let s : NetSimTool μ := { s with log := s.log ++ [.transmit], lastR := s.r, lastZ := s.z }
  s.advance cfg

/-- `loop`. -/
def loop (now : ℚ) (connected : Bool) : NetSimTool μ :=
  if s.driversReady < 2 then s
  else if (s.loopsSinceLastTransmission : ℚ) = cfg.slotSeconds * loopFrequencyHertz / 2 then
    let s := if s.runComplete then s else s.updateReceiverPosition lib cfg now connected
    { s with loopsSinceLastTransmission := wrapInt (s.loopsSinceLastTransmission + 1) }
  else if (s.loopsSinceLastTransmission : ℚ) = 2 * cfg.slotSeconds * loopFrequencyHertz then
    let s := s.publishStats lib cfg
    -- the counter is left as it is
    if s.runComplete then { s with hasQuit := true, log := s.log ++ [.quit] }
    else
      { s.initiateTransmission cfg with loopsSinceLastTransmission := wrapInt (0 + 1) }
  else { s with loopsSinceLastTransmission := wrapInt (s.loopsSinceLastTransmission + 1) }

/-- The reaction to an event; nothing happens any more after `quit`. -/
def step : ToolEvent μ → NetSimTool μ
  | .ready => if s.hasQuit then s else { s with driversReady := s.driversReady + 1 }
  | .receiveData receiveStat connected =>
      if s.hasQuit then s else s.receiveData lib receiveStat connected
  | .loop now connected => if s.hasQuit then s else s.loop lib cfg now connected

/-- The tool after some events. -/
def after (now : ℚ) (es : List (ToolEvent μ)) : NetSimTool μ :=
  Run.run (step lib cfg) (init lib cfg now) es

end NetSimTool

end Netsim
