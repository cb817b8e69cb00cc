import Mathlib.Algebra.Order.Field.Rat
import Netsim.Core.Floats
import Netsim.Lib.Multimap
import Netsim.Lib.Run

/-!
# NetSimUDP

The application forwards modem transmissions between UDP endpoints. A transmission that comes in
waits in `forward_buffer_` under its source and destination until an impulse response of the pair
is received; then it waits in `delay_buffer_` until its travel time has elapsed, and is published
on `udp_out`; or it is discarded, if the response holds no raytrace or a coin flip fails.

Times are integers of microseconds, amplitudes are doubles and other quantities exact rationals.
Random numbers, and the value of an uninitialised variable, come with the events (`Luck`). A step is
undefined (`none`) where the source lets an exception escape or reads a missing array element.

Every pair of a transmission and a destination that is forwarded gets a serial number, its index
in the ledger `accepted`; `discarded` lists the serial numbers of those that were dropped. The
source has neither, and no step depends on them.
-/

namespace Netsim

/-- `ModemTransmission::TransmissionType`. -/
inductive TransmissionType
  | DATA
  | ACK
  | DRIVER_SPECIFIC
deriving DecidableEq

/-- `goby::acomms::protobuf::ModemTransmission`. -/
structure ModemTransmission where
  /-- The destination. -/
  dest : ℤ
  /-- What is transmitted. -/
  type : TransmissionType
  /-- The time of transmission. -/
  time : ℤ
  /-- `one_way_travel_time` of the ranging reply, an extension. -/
  oneWayTravelTime : List ℚ := []
  /-- All other fields, which are passed on. -/
  other : List UInt8 := []
deriving DecidableEq

/-- `goby::middleware::protobuf::IOData`, with endpoints of type `ε`. -/
structure IOData (ε : Type) where
  /-- The transmission that is serialized in `data`. -/
  data : ModemTransmission
  /-- `udp_dest`. -/
  udpDest : ε
deriving DecidableEq

/-- `ImpulseResponse::RayTrace`. -/
structure RayTrace where
  /-- The amplitude. -/
  amplitude : Double
  /-- The delay of each array element. -/
  element : List ℚ

/-- `std::fabs` of the amplitude. -/
def RayTrace.amp (ray : RayTrace) : Double := ray.amplitude.abs

/-- `netsim::protobuf::ImpulseResponse`. -/
structure ImpulseResponse where
  /-- The TCP port of the source modem. -/
  source : String
  /-- The TCP port of the receiving modem. -/
  receiver : String
  /-- The rays. -/
  raytrace : List RayTrace

/-- `netsim::protobuf::ImpulseRequest`. -/
structure ImpulseRequest where
  /-- The time of the request. -/
  requestTime : ℚ
  /-- `imp_req_id`. -/
  requestId : ℕ
  /-- The TCP port of the source modem. -/
  source : String
  /-- The TCP port of the receiving modem. -/
  receiver : String
deriving DecidableEq

/-- `netsim::protobuf::ObjFuncRequest`, with its only receiver. -/
structure ObjFuncRequest where
  /-- The time of the request. -/
  requestTime : ℚ
  /-- `perf_req_id`. -/
  requestId : ℕ
  /-- The name of this application. -/
  requestor : String := "netsim_udp"
  /-- The TCP port of the source modem. -/
  contact : String
  /-- The TCP port of the receiving modem. -/
  node : String
deriving DecidableEq

/-- `netsim::protobuf::ObjFuncResponse`. -/
structure ObjFuncResponse where
  /-- The TCP port of the source modem. -/
  contact : String
  /-- The TCP port and the mpp of each receiver. -/
  receiver : List (String × ℚ)

/-- `NetSimUDPConfig::ModemEndPoint`. -/
structure ModemEndPoint (ε : Type) where
  /-- `modem_tcp_port`. -/
  modemTcpPort : UInt32
  /-- `modem_id`. -/
  modemId : UInt32
  /-- `endpoint`. -/
  endpoint : ε

/-- `NetSimUDPConfig::PacketSuccessMethod`. -/
inductive PacketSuccessMethod
  | ALL_PACKETS_SUCCEED
  | RANGE_TABLE
  | MPP
deriving DecidableEq

/-- The part of `NetSimUDPConfig` the application reads, and what it takes from the goby library. -/
structure NetSimUDPConfig (ε : Type) where
  /-- The modems. -/
  modem : List (ModemEndPoint ε)
  /-- Treat all transmissions that are not acknowledgements as broadcasts. -/
  sendAllAsBroadcast : Bool := true
  /-- How the success of a packet is decided. -/
  packetSuccessMethod : PacketSuccessMethod
  /-- Ranges and the success probability there. -/
  rangeToPacketSuccess : List (ℚ × ℚ) := []
  /-- The speed of sound. -/
  soundSpeed : ℚ := 1500
  /-- `goby::acomms::BROADCAST_ID`. -/
  broadcastId : ℤ
  /-- `goby::util::linear_interpolate`. -/
  linearInterpolate : ℚ → List (ℚ × ℚ) → ℚ
  /-- `goby::time::MicroTime` of a number of seconds. -/
  microTime : ℚ → ℤ

/-- The random numbers of one impulse response. -/
structure Luck where
  /-- The outlier that is drawn, if any. -/
  outlier : Option ℚ
  /-- The outcome of each coin flip, given the probability of success. -/
  coin : ℕ → ℚ → Bool
  /-- The value of the uninitialised `delay` in `travel_time`. -/
  uninitialised : ℚ

/-- `ModemPairPerformance`. -/
structure ModemPairPerformance where
  /-- One modem. -/
  srcId : ℤ
  /-- The other. -/
  destId : ℤ
  /-- The performance. -/
  mpp : ℚ

/-- The state of the application. -/
structure NetSimUDP (ε : Type) where
  /-- `perf_table_`. -/
  perfTable : List ModemPairPerformance := []
  /-- `forward_buffer_`: source to destination to transmission, each with its serial number. -/
  forwardBuffer : ℤ → Multimap ℤ (ℕ × ModemTransmission) := fun _ => ∅
  /-- `delay_buffer_`: resend time to message, each with its serial number. -/
  delayBuffer : Multimap ℤ (ℕ × IOData ε) := ∅
  /-- `imp_req_id`. -/
  impReqId : ℕ := 0
  /-- `perf_req_id`. -/
  perfReqId : ℕ := 0
  /-- What was published on `impulse_request`. -/
  impulseRequests : List ImpulseRequest := []
  /-- What was published on `performance_request`. -/
  performanceRequests : List ObjFuncRequest := []
  /-- What was published on `udp_out`: the clock, the serial number and the message. -/
  udpOut : List (ℤ × ℕ × IOData ε) := []
  /-- The source, the destination and the transmission of each serial number. -/
  accepted : List (ℤ × ℤ × ModemTransmission) := []
  /-- The serial numbers of the transmissions that were dropped. -/
  discarded : List ℕ := []

/-- What can happen to the application. -/
inductive UdpEvent (ε : Type)
  /-- A transmission is received from an endpoint. -/
  | udpIn (udpSrc : ε) (msg : ModemTransmission) (now : ℚ)
  /-- An impulse response is received. -/
  | impulseResponse (r : ImpulseResponse) (luck : Luck)
  /-- A performance response is received. -/
  | performanceResponse (r : ObjFuncResponse)
  /-- The loop runs. -/
  | loop (now : ℤ)

/-! ### Configuration -/

/-- The key of a modem in the maps: `modem_id` as an `int`. -/
def ModemEndPoint.id {ε : Type} (m : ModemEndPoint ε) : ℤ := (m.modemId.toNat : ℤ).bmod (2 ^ 32)

namespace NetSimUDPConfig

variable {ε : Type}

/-- `modems_`. -/
def modems (cfg : NetSimUDPConfig ε) : Multimap ℤ (ModemEndPoint ε) :=
  .ofList (cfg.modem.map fun modem => (modem.id, modem))

/-- `modems_.at`. -/
def modemAt (cfg : NetSimUDPConfig ε) (id : ℤ) : Option (ModemEndPoint ε) :=
  (cfg.modems.equalRange id).head?

/-- `endpoint_to_id_.find`; the first modem with the endpoint was inserted. -/
def endpointToId [DecidableEq ε] (cfg : NetSimUDPConfig ε) (endpoint : ε) : Option ℤ :=
  (cfg.modem.find? fun modem => modem.endpoint = endpoint).map (·.id)

/-- `tcp_port_to_id_.find`; the first modem with the port was inserted. -/
def tcpPortToId (cfg : NetSimUDPConfig ε) (port : String) : Option ℤ :=
  (cfg.modem.find? fun modem => toString modem.modemTcpPort.toNat = port).map (·.id)

/-- `range_to_packet_success_prob_`. -/
def rangeToPacketSuccessProb (cfg : NetSimUDPConfig ε) : Multimap ℚ ℚ :=
  .ofList cfg.rangeToPacketSuccess

/-- `perf_table_` as constructed: every modem with every earlier one. -/
def perfTable (cfg : NetSimUDPConfig ε) : List ModemPairPerformance :=
  if cfg.packetSuccessMethod = .MPP then
    -- a new modem is paired with those already in `modems_`, with an mpp of 80
    cfg.modem.zipIdx.flatMap fun modem =>
      (cfg.modem.take modem.2).map fun earlier => ⟨modem.1.id, earlier.id, 80⟩
  else []

end NetSimUDPConfig

/-- `ModemPairPerformance::mpp_probab`. -/
def ModemPairPerformance.mppProbab (p : ModemPairPerformance) : ℚ :=
  max 0 (min 1 (((p.mpp - 30) * 80 / 50 + 20) / 100))

/-- Whether an entry of the performance table is about two modems, in either order. -/
def ModemPairPerformance.isPair (p : ModemPairPerformance) (srcId destId : ℤ) : Bool :=
  (srcId = p.srcId && destId = p.destId) || (destId = p.srcId && srcId = p.destId)

namespace NetSimUDP

variable {ε : Type}

/-! ### Receiving transmissions -/

/-- `performance_request`. -/
def performanceRequest (cfg : NetSimUDPConfig ε) (now : ℚ) (s : NetSimUDP ε) (srcId destId : ℤ) :
    Option (NetSimUDP ε) := do
  let src ← cfg.modemAt srcId
  let dest ← cfg.modemAt destId
  some { s with
    perfReqId := s.perfReqId + 1
    performanceRequests := s.performanceRequests ++
      [{ requestTime := now, requestId := s.perfReqId,
         contact := toString src.modemTcpPort.toNat, node := toString dest.modemTcpPort.toNat }] }

/-- The part of `forward_packet` after the performance request. -/
def impulseRequest (cfg : NetSimUDPConfig ε) (now : ℚ) (s : NetSimUDP ε) (srcId destId : ℤ)
    (msg : ModemTransmission) : Option (NetSimUDP ε) := do
  let src ← cfg.modemAt srcId
  let dest ← cfg.modemAt destId
  some { s with
    impReqId := s.impReqId + 1
    impulseRequests := s.impulseRequests ++
      [{ requestTime := now, requestId := s.impReqId,
         source := toString src.modemTcpPort.toNat, receiver := toString dest.modemTcpPort.toNat }]
    -- the message waits under the pair, after those that are there
    forwardBuffer := fun id =>
      if id = srcId then (s.forwardBuffer id).insert destId (s.accepted.length, msg)
      else s.forwardBuffer id
    accepted := s.accepted ++ [(srcId, destId, msg)] }

/-- `forward_packet`. -/
def forwardPacket (cfg : NetSimUDPConfig ε) (now : ℚ) (srcId : ℤ) (msg : ModemTransmission)
    (s : NetSimUDP ε) (destId : ℤ) : Option (NetSimUDP ε) :=
  -- both requests look the modems up with `at`
  (if cfg.packetSuccessMethod = .MPP then s.performanceRequest cfg now srcId destId
    else some s).bind fun s => s.impulseRequest cfg now srcId destId msg

/-- The modems a transmission from modem `srcId` is forwarded to. -/
def destinations (cfg : NetSimUDPConfig ε) (srcId : ℤ) (msg : ModemTransmission) : List ℤ :=
  if msg.type ≠ .ACK ∧ (cfg.sendAllAsBroadcast ∨ msg.dest = cfg.broadcastId) then
    -- the transmitter itself is skipped
    (cfg.modems.entries.map (·.1)).filter (· ≠ srcId)
  -- addressed: the transmitter is not skipped here
  else if (cfg.modemAt msg.dest).isSome then [msg.dest]
  else []

/-- The `udp_in` callback. -/
def udpIn [DecidableEq ε] (cfg : NetSimUDPConfig ε) (s : NetSimUDP ε) (udpSrc : ε)
    (msg : ModemTransmission) (now : ℚ) : Option (NetSimUDP ε) :=
  match cfg.endpointToId udpSrc with
  -- no modem has the endpoint: a warning, and nothing else
  | none => some s
  | some srcId => (destinations cfg srcId msg).foldlM (forwardPacket cfg now srcId msg) s

/-! ### Handling responses -/

/-- The loop of `travel_time`, from the greatest amplitude and its delay so far. -/
def strongest (maxAmp : Double) (delay : ℚ) : List RayTrace → Option ℚ
  | [] => some delay
  | ray :: rays =>
      -- `amp > max_amp`, which is false of a NaN
      if ray.amp.gt maxAmp then
        -- `element(0).delay()` of the ray with the greatest amplitude so far
        ray.element.head?.bind fun delay => strongest ray.amp delay rays
      else strongest maxAmp delay rays

/-- `travel_time`. -/
def travelTime (luck : Luck) (r : ImpulseResponse) : Option ℚ :=
  strongest .zero luck.uninitialised r.raytrace

/-- `mpp_transmit_probability`. -/
def mppTransmitProbability (s : NetSimUDP ε) (srcId destId : ℤ) : ℚ :=
  match s.perfTable.find? (·.isPair srcId destId) with
  | some p => p.mppProbab
  | none => 0

/-- Whether the `k`th of the waiting packets succeeds. -/
def packetSuccess (cfg : NetSimUDPConfig ε) (luck : Luck) (s : NetSimUDP ε) (srcId destId : ℤ)
    (owtt : ℚ) (k : ℕ) : Bool :=
  match cfg.packetSuccessMethod with
  | .ALL_PACKETS_SUCCEED => true
  | .RANGE_TABLE =>
      luck.coin k
        (cfg.linearInterpolate (owtt * cfg.soundSpeed) cfg.rangeToPacketSuccessProb.entries)
  | .MPP => luck.coin k (s.mppTransmitProbability srcId destId)

/-- A packet that has arrived: the travel time is added to it, and it waits to be sent to its
destination. -/
def delay (cfg : NetSimUDPConfig ε) (s : NetSimUDP ε) (dest : ModemEndPoint ε) (owtt : ℚ)
    (serial : ℕ) (msg : ModemTransmission) : NetSimUDP ε :=
  let ioMsgOut : IOData ε :=
    { data := { msg with oneWayTravelTime := msg.oneWayTravelTime ++ [owtt] }
      udpDest := dest.endpoint }
  { s with delayBuffer := s.delayBuffer.insert (msg.time + cfg.microTime owtt) (serial, ioMsgOut) }

/-- The loop over the waiting packets, from the `k`th on. -/
def handleWaiting (cfg : NetSimUDPConfig ε) (luck : Luck) (srcId destId : ℤ) (owtt : ℚ) :
    ℕ → List (ℕ × ModemTransmission) → NetSimUDP ε → Option (NetSimUDP ε)
  | _, [], s => some s
  | k, (serial, msg) :: waiting, s =>
      if packetSuccess cfg luck s srcId destId owtt k then
        -- `modems_.at(dest_id)` is reached only by a packet that succeeds
        (cfg.modemAt destId).bind fun dest =>
          handleWaiting cfg luck srcId destId owtt (k + 1) waiting
            (s.delay cfg dest owtt serial msg)
      else
        handleWaiting cfg luck srcId destId owtt (k + 1) waiting
          { s with discarded := s.discarded ++ [serial] }

/-- `forward_buffer_[src_id].erase` of the packets for a destination. -/
def eraseWaiting (s : NetSimUDP ε) (srcId destId : ℤ) : NetSimUDP ε :=
  { s with forwardBuffer := fun id =>
      if id = srcId then (s.forwardBuffer id).erase destId else s.forwardBuffer id }

/-- The packets waiting for a response of a pair of modems. -/
def waiting (s : NetSimUDP ε) (srcId destId : ℤ) : List (ℕ × ModemTransmission) :=
  (s.forwardBuffer srcId).equalRange destId

/-- What `process_impulse_response` does with the packets that wait for a pair of modems. -/
def answerWaiting (cfg : NetSimUDPConfig ε) (s : NetSimUDP ε) (r : ImpulseResponse)
    (luck : Luck) (srcId destId : ℤ) : Option (NetSimUDP ε) :=
  if r.raytrace ≠ [] then do
    -- the outlier is the same for all packets of the response
    let firstArrival ← travelTime luck r
    let outlierTime := luck.outlier.getD 0
    handleWaiting cfg luck srcId destId (firstArrival + outlierTime) 0 (s.waiting srcId destId) s
  else some { s with discarded := s.discarded ++ (s.waiting srcId destId).map (·.1) }

/-- What `process_impulse_response` does for a pair of modems. -/
def handleResponse (cfg : NetSimUDPConfig ε) (s : NetSimUDP ε) (r : ImpulseResponse)
    (luck : Luck) (srcId destId : ℤ) : Option (NetSimUDP ε) :=
  (s.answerWaiting cfg r luck srcId destId).map (·.eraseWaiting srcId destId)

/-- `process_impulse_response`. An unknown receiver lets `at` throw, and modem 0 is taken for
unknown. -/
def processImpulseResponse (cfg : NetSimUDPConfig ε) (s : NetSimUDP ε) (r : ImpulseResponse)
    (luck : Luck) : Option (NetSimUDP ε) :=
  match cfg.tcpPortToId r.source with
  | none => some s
  | some srcId =>
      (cfg.tcpPortToId r.receiver).bind fun destId =>
        -- the test of the receiver is on the value of `at`, not on `count`
        if destId = 0 then some s else handleResponse cfg s r luck srcId destId

/-- `process_performance_response`. -/
def processPerformanceResponse (cfg : NetSimUDPConfig ε) (s : NetSimUDP ε) (r : ObjFuncResponse) :
    Option (NetSimUDP ε) :=
  match cfg.tcpPortToId r.contact with
  | none => some s
  | some srcId => r.receiver.foldlM (fun s receiver =>
      (cfg.tcpPortToId receiver.1).map fun destId =>
        { s with perfTable := s.perfTable.map fun p =>
            if p.isPair srcId destId then { p with mpp := receiver.2 } else p }) s

/-- `loop`. -/
def loop (s : NetSimUDP ε) (now : ℤ) : NetSimUDP ε :=
  { s with
    udpOut := s.udpOut ++ (s.delayBuffer.upTo now).entries.map fun e => (now, e.2)
    -- up to `upper_bound(now)`, exactly those that were published
    delayBuffer := s.delayBuffer.above now }

/-! ### Runs -/

/-- The constructor. -/
def init (cfg : NetSimUDPConfig ε) : Option (NetSimUDP ε) :=
  -- `glog.is_die`: the interpolation needs two points
  if cfg.packetSuccessMethod = .RANGE_TABLE ∧ cfg.rangeToPacketSuccessProb.entries.length < 2 then
    none
  else some { perfTable := cfg.perfTable }

variable [DecidableEq ε]

/-- The reaction to an event. -/
def step (cfg : NetSimUDPConfig ε) (s : NetSimUDP ε) : UdpEvent ε → Option (NetSimUDP ε)
  | .udpIn udpSrc msg now => s.udpIn cfg udpSrc msg now
  | .impulseResponse r luck => s.processImpulseResponse cfg r luck
  -- the application has subscribed to performance responses only with MPP
  | .performanceResponse r =>
      if cfg.packetSuccessMethod = .MPP then s.processPerformanceResponse cfg r else some s
  | .loop now => some (s.loop now)

/-- The constructed application after some events. -/
def after (cfg : NetSimUDPConfig ε) (es : List (UdpEvent ε)) : Option (NetSimUDP ε) :=
  (init cfg).bind fun s => Run.exec (step cfg) s es

end NetSimUDP

end Netsim
