import Mathlib.Algebra.Order.Floor.Defs
import Mathlib.Data.Rat.Floor
import Netsim.Core.Floats
import Netsim.Lib.Registry
import Netsim.Lib.Run

/-!
# NetSimManager

The manager receives the positions of vehicles from their simulators. A position update names the
TCP port of a modem, which selects an environment; it is published for that environment if the
port is configured, the request comes from the address configured for the port, and the position
is within the bounds of the environment. The first update that fails one of these checks ends the
handling of the request, and gives the status of the response.

Coordinates are the doubles of the message. The fields of a GPS sentence are calculated from their
exact values, without the rounding of intermediate results; where the source converts a double to
an `int` that cannot hold it, the field is arbitrary.
-/

namespace Netsim

/-! ### Messages -/

/-- `netsim::protobuf::NavUpdate`. A message may lack required fields. -/
structure NavUpdate where
  /-- The TCP port of the modem. -/
  modemTcpPort : Option Int32
  /-- The time. -/
  time : Option Double
  /-- The latitude. -/
  lat : Option Double
  /-- The longitude. -/
  lon : Option Double
  /-- The depth. -/
  depth : Option Double
  /-- The speed. -/
  speed : Option Double
  /-- The heading. -/
  heading : Option Double
deriving DecidableEq

/-- `netsim::protobuf::EnvironmentNavUpdate`, with both its fields set. -/
structure EnvironmentNavUpdate where
  /-- The environment. -/
  environmentId : Int32
  /-- The update. -/
  nav : NavUpdate
deriving DecidableEq

/-- `netsim::protobuf::ReceiveStats`. -/
structure ReceiveStats where
  /-- The TCP port of the receiving modem. -/
  modemTcpPort : Option Int32
  /-- The TCP port of the transmitting modem. -/
  txModemTcpPort : Option Int32
  /-- Whether the packet was received. -/
  packetSuccess : Option Bool
  /-- The statistics of the modem. -/
  mmStats : Option (List UInt8)
deriving DecidableEq

/-- `netsim::protobuf::NetSimManagerRequest`. -/
structure NetSimManagerRequest where
  /-- The number of the request. -/
  id : Option Int32
  /-- The position updates. -/
  nav : List NavUpdate
  /-- The receive statistics. -/
  stats : List ReceiveStats := []

/-- `NetSimManagerResponse::Status`. -/
inductive UpdateStatus
  | UPDATE_ACCEPTED
  | UPDATE_FAILED_INVALID_MODEM_TCP_PORT
  | UPDATE_FAILED_INVALID_SOURCE_ADDRESS
  | UPDATE_FAILED_OUT_OF_DEFINED_REGION
deriving DecidableEq

/-- `netsim::protobuf::NetSimManagerResponse`. -/
structure NetSimManagerResponse where
  /-- The number of the request. -/
  requestId : Int32
  /-- The result. -/
  status : UpdateStatus
deriving DecidableEq

/-- `goby::middleware::protobuf::IOData` on `gps_line_out`. -/
structure GpsLine where
  /-- The thread that writes the line. -/
  index : Int32
  /-- The fields of the `NMEASentence` in `data`. -/
  gprmc : List String
deriving DecidableEq

/-- `boost::asio::ip::tcp::endpoint`. -/
structure TcpEndpoint where
  /-- `address().to_string()`. -/
  address : String
  /-- The port. -/
  port : UInt16
deriving DecidableEq

/-! ### Configuration -/

/-- `NetSimManagerConfig::SimEnvironmentPair`. -/
structure SimEnvironmentPair where
  /-- The TCP port of the modem. -/
  modemTcpPort : Int32
  /-- The address of the vehicle simulator. -/
  endpointIpAddress : String
  /-- The environment of the vehicle. -/
  environmentId : Int32
deriving DecidableEq

/-- `NetSimManagerConfig::EnvironmentBounds`. -/
structure EnvironmentBounds where
  /-- The environment. -/
  environmentId : Int32
  /-- The minimum latitude. -/
  latMin : Double
  /-- The minimum longitude. -/
  lonMin : Double
  /-- The maximum latitude. -/
  latMax : Double
  /-- The maximum longitude. -/
  lonMax : Double
  /-- The minimum depth. -/
  depthMin : Double := .zero
  /-- The maximum depth. -/
  depthMax : Double
deriving DecidableEq

/-- The part of `NetSimManagerConfig` that requests depend on. -/
structure NetSimManagerConfig where
  /-- The vehicles. -/
  simEnvPair : List SimEnvironmentPair
  /-- The environments. -/
  envBounds : List EnvironmentBounds

/-- The maps of the manager. -/
structure NetSimManager where
  /-- `env_cfg_`: TCP port of the modem to vehicle. -/
  envCfg : AList fun _ : Int32 => SimEnvironmentPair
  /-- `env_bounds_`: environment to its bounds. -/
  envBounds : AList fun _ : Int32 => EnvironmentBounds

namespace NetSimManager

/-- `process_configuration`. The process is terminated if an environment or a port is repeated, or
if an environment has no bounds. -/
def processConfiguration (cfg : NetSimManagerConfig) : Option NetSimManager := do
  -- the environments come first, so that those of the vehicles can be looked up
  let envBounds ← Registry.registerAll EnvironmentBounds.environmentId (fun _ => true) ∅
    cfg.envBounds
  let envCfg ← Registry.registerAll SimEnvironmentPair.modemTcpPort
    (fun simEnv => decide (simEnv.environmentId ∈ envBounds)) ∅ cfg.simEnvPair
  some { envCfg, envBounds }

end NetSimManager

/-! ### GPS output -/

/-- `goby::time::SystemClock::now` as a date and a time of day. -/
structure PTime where
  /-- The hours. -/
  hours : ℕ
  /-- The minutes. -/
  minutes : ℕ
  /-- The seconds. -/
  seconds : ℕ
  /-- The fraction of a second, in microseconds. -/
  microseconds : ℕ
  /-- The day of the month. -/
  day : ℕ
  /-- The month. -/
  month : ℕ
  /-- The year. -/
  year : ℕ

/-- The format `%0{width}d`. -/
def zeroPadded (width n : ℕ) : String :=
  String.ofList (List.leftpad width '0' (Nat.toDigits 10 n))

/-- Degrees, minutes and ten thousandths of a minute; the degrees take `width` digits. -/
def degreesMinutes (width : ℕ) (x : ℚ) : String :=
  -- every part is truncated, the last one too
  let degrees := ⌊|x|⌋
  let minutes := ⌊(|x| - degrees) * 60⌋
  let tenThousandthMinutes := ⌊((|x| - degrees) * 60 - minutes) * 10000⌋
  zeroPadded width degrees.toNat ++ zeroPadded 2 minutes.toNat ++ "." ++
    zeroPadded 4 tenThousandthMinutes.toNat

/-- The nearest integer to a nonnegative number, the even one of two. -/
def roundHalfEven (x : ℚ) : ℕ :=
  let down := ⌊x⌋.toNat
  if x - down < 1 / 2 ∨ x - down = 1 / 2 ∧ down % 2 = 0 then down else down + 1

/-- The format `%.1f` of a double times a positive factor. -/
def oneDecimal (x : Double) (factor : ℚ) : String :=
  let tenths := roundHalfEven (|x.toRat * factor| * 10)
  (if x.negative then "-" else "") ++
    if x.isNaN then "nan"
    else if x.isInfinite then "inf"
    else toString (tenths / 10) ++ "." ++ toString (tenths % 10)

/-- `write_gps_out`: the line that is published. -/
def writeGpsOut (now : PTime) (nav : NavUpdate) : GpsLine :=
  -- reached only with all fields set
  let lat := nav.lat.getD .zero
  let lon := nav.lon.getD .zero
  { index := nav.modemTcpPort.getD 0
    gprmc :=
      ["$GPRMC",
        zeroPadded 2 now.hours ++ zeroPadded 2 now.minutes ++ zeroPadded 2 now.seconds ++ "." ++
          zeroPadded 6 now.microseconds,
        "A",
        degreesMinutes 2 lat.toRat,
        if lat.lt .zero then "S" else "N",
        degreesMinutes 3 lon.toRat,
        if lon.lt .zero then "W" else "E",
        oneDecimal (nav.speed.getD .zero) 1.94384,
        oneDecimal (nav.heading.getD .zero) 1,
        zeroPadded 2 now.day ++ zeroPadded 2 now.month ++
          zeroPadded 2 (now.year - now.year / 100 * 100),
        "000.0",
        "E"] }

/-! ### Requests -/

/-- What the manager publishes and writes. -/
inductive ManagerOutput
  /-- A publication on `env_nav_update`. -/
  | envNavUpdate (update : EnvironmentNavUpdate)
  /-- A publication on `gps_line_out`. -/
  | gpsLineOut (line : GpsLine)
  /-- A publication on `receive_stats`. -/
  | receiveStats (stat : ReceiveStats)
  /-- A write to the server. -/
  | write (resp : NetSimManagerResponse) (ep : TcpEndpoint)
deriving DecidableEq

/-- The condition for `UPDATE_FAILED_OUT_OF_DEFINED_REGION`. -/
def EnvironmentBounds.rejects (bound : EnvironmentBounds) (nav : NavUpdate) : Bool :=
  let lat := nav.lat.getD .zero
  let lon := nav.lon.getD .zero
  let depth := nav.depth.getD .zero
  lat.lt bound.latMin || lat.gt bound.latMax ||
    lon.lt bound.lonMin || lon.gt bound.lonMax ||
    depth.lt bound.depthMin || depth.gt bound.depthMax

/-- `IsInitialized`. -/
def NavUpdate.isInitialized (nav : NavUpdate) : Bool :=
  nav.modemTcpPort.isSome && nav.time.isSome && nav.lat.isSome && nav.lon.isSome &&
    nav.depth.isSome && nav.speed.isSome && nav.heading.isSome

namespace NetSimManager

variable (s : NetSimManager)

/-- The checks of one update: the status if it fails, else the vehicle. It is undefined where
`env_bounds_.at` throws. -/
def check (ep : TcpEndpoint) (nav : NavUpdate) : Option (Except UpdateStatus SimEnvironmentPair) :=
  -- a port that is missing reads as 0
  match s.envCfg.lookup (nav.modemTcpPort.getD 0) with
  | none => some (.error .UPDATE_FAILED_INVALID_MODEM_TCP_PORT)
  | some envCfg =>
      if ep.address ≠ envCfg.endpointIpAddress then
        some (.error .UPDATE_FAILED_INVALID_SOURCE_ADDRESS)
      else
        -- `env_bounds_.at`
        (s.envBounds.lookup envCfg.environmentId).map fun bound =>
          if bound.rejects nav then .error .UPDATE_FAILED_OUT_OF_DEFINED_REGION
          else .ok envCfg

/-- What is done with an update that passed the checks. -/
def publishNav (now : PTime) (envCfg : SimEnvironmentPair) (nav : NavUpdate) :
    List ManagerOutput :=
  let envNavUpdate : EnvironmentNavUpdate := ⟨envCfg.environmentId, nav⟩
  if envNavUpdate.nav.isInitialized then
    [.envNavUpdate envNavUpdate, .gpsLineOut (writeGpsOut now envNavUpdate.nav)]
  -- a warning; the status stays as it is
  else []

/-- The loop over the updates: the status, and what was published. The clock is read for each
line, and `now k` is its value for the `k`th update of the request. -/
def handleNavs (ep : TcpEndpoint) (now : ℕ → PTime) :
    ℕ → List NavUpdate → Option (UpdateStatus × List ManagerOutput)
  | _, [] => some (.UPDATE_ACCEPTED, [])
  | k, nav :: navs => (s.check ep nav).bind fun
      -- `break`
      | .error status => some (status, [])
      | .ok envCfg => (handleNavs ep now (k + 1) navs).map fun (status, out) =>
          (status, publishNav (now k) envCfg nav ++ out)

/-- `process_request`. -/
def processRequest (req : NetSimManagerRequest) (ep : TcpEndpoint) (now : ℕ → PTime) :
    Option (List ManagerOutput) := do
  -- the statistics are published whatever the status is
  let (status, out) ← s.handleNavs ep now 0 req.nav
  some (out ++ req.stats.map .receiveStats ++ [.write ⟨req.id.getD 0, status⟩ ep])

/-! ### Runs -/

/-- The manager receives a request. -/
structure ReceivedRequest where
  /-- The request. -/
  req : NetSimManagerRequest
  /-- Where it comes from. -/
  ep : TcpEndpoint
  /-- The clock. -/
  now : ℕ → PTime

/-- The requests that were handled: where each came from, and what was published and written. -/
abbrev ManagerLog := List (TcpEndpoint × List ManagerOutput)

/-- A request is handled. -/
def step (log : ManagerLog) (e : ReceivedRequest) : Option ManagerLog :=
  (s.processRequest e.req e.ep e.now).map fun out => log ++ [(e.ep, out)]

/-- The constructed manager handles some requests. -/
def after (cfg : NetSimManagerConfig) (es : List ReceivedRequest) : Option ManagerLog :=
  (processConfiguration cfg).bind fun s => Run.exec s.step [] es

end NetSimManager

end Netsim
