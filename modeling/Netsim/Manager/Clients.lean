import Netsim.Manager.Requests
import Netsim.Tcp.Server
import Netsim.Tcp.Wire

/-!
# The manager and the vehicle simulators

Vehicle simulators connect to `server_`, each over a TCP session, write their requests and read the
responses. Bytes arrive in pieces of any size, the handlers of all sessions run in any order, and a
connection may be lost at any time. The manager handles a request in the read handler of the session
it came in on, and writes the response to the endpoint that it is given, which `server_` looks up in
`sessions_`.

Sends complete at once. The serialization of messages and the base64 coder are not part of the
repository.
-/

namespace Netsim

open TcpSession

/-- The serialization of messages and the base64 coder. -/
structure ManagerCodec where
  /-- `dccl::b64_encode`. -/
  encode : Bytes → Bytes
  /-- `dccl::b64_decode`. -/
  decode : Bytes → Bytes
  /-- `NetSimManagerRequest::SerializeAsString`. -/
  serializeRequest : NetSimManagerRequest → Bytes
  /-- `NetSimManagerRequest::ParseFromString`, whose result is not looked at. -/
  parseRequest : Bytes → NetSimManagerRequest
  /-- `NetSimManagerResponse::SerializeAsString`. -/
  serializeResponse : NetSimManagerResponse → Bytes
  /-- `NetSimManagerResponse::ParseFromString`. -/
  parseResponse : Bytes → NetSimManagerResponse

namespace ManagerCodec

/-- A request and any response to it can be parsed when they are received. -/
def Transmits (codec : ManagerCodec) (req : NetSimManagerRequest) : Prop :=
  codec.parseRequest (codec.serializeRequest req) = req ∧ ∀ status,
    codec.parseResponse (codec.serializeResponse ⟨req.id.getD 0, status⟩) = ⟨req.id.getD 0, status⟩

/-- The bytes of an ASCII string. -/
def asciiBytes (s : String) : Bytes := s.toList.map fun c => UInt8.ofNat c.toNat

/-- `NetSimManagerRequest::descriptor()->full_name()`. -/
def requestName : Bytes := asciiBytes "netsim.protobuf.NetSimManagerRequest"

/-- `NetSimManagerResponse::descriptor()->full_name()`. -/
def responseName : Bytes := asciiBytes "netsim.protobuf.NetSimManagerResponse"

/-- A request as it is written. -/
def requestMessage (codec : ManagerCodec) (req : NetSimManagerRequest) : Message :=
  ⟨requestName, codec.serializeRequest req⟩

/-- A response as it is written. -/
def responseMessage (codec : ManagerCodec) (resp : NetSimManagerResponse) : Message :=
  ⟨responseName, codec.serializeResponse resp⟩

end ManagerCodec

open ManagerCodec

/-- The connection of a simulator. -/
structure SimulatorConnection where
  /-- The endpoint of the simulator. -/
  ep : TcpEndpoint
  /-- The sockets are connected. -/
  connected : Bool := true
  /-- From the simulator to its session at the server, which has a callback for all messages. -/
  requests : Wire Unit := { reader := { rxAll := [()] } }
  /-- From the server to the simulator, which has a callback for responses. -/
  responses : Wire Unit := { reader := { rxCallbacks := [(responseName, ())] } }
  /-- The requests that the simulator wrote. -/
  written : List NetSimManagerRequest := []
  /-- The requests that were handled on the session. -/
  handled : List NetSimManagerRequest := []

/-- The server with the simulators that were accepted, by the numbers of their sessions. -/
structure ManagerClients where
  /-- `server_`. -/
  server : TcpServer TcpEndpoint := {}
  /-- The connections. -/
  connections : List SimulatorConnection := []

/-- What can happen. -/
inductive SimulatorEvent
  /-- The accept handler runs; `remote_endpoint()` yields `remote`, or throws. -/
  | accept (remote : Option TcpEndpoint)
  /-- A simulator writes a request. -/
  | request (id : ℕ) (req : NetSimManagerRequest)
  /-- Bytes arrive at the server. -/
  | arriveAtServer (id n : ℕ)
  /-- The read handler of a session runs. -/
  | handleRequest (id : ℕ) (now : ℕ → PTime)
  /-- Bytes arrive at a simulator. -/
  | arriveAtSimulator (id n : ℕ)
  /-- The read handler of a simulator runs. -/
  | handleResponse (id : ℕ)
  /-- The connection is lost: no bytes arrive any more, and `remote_endpoint()` throws. -/
  | lost (id : ℕ)
  /-- The session is disconnected, and with that destroyed. -/
  | disconnect (id : ℕ)

namespace SimulatorConnection

variable (codec : ManagerCodec) (conn : SimulatorConnection)

/-- The responses that the callback of the simulator was called with. -/
def received : List NetSimManagerResponse :=
  conn.responses.reader.posted.map fun call => codec.parseResponse call.2.2

/-- The simulator writes a request. -/
def request (req : NetSimManagerRequest) : SimulatorConnection :=
  if conn.connected then
    { conn with
      requests := conn.requests.write codec.encode (codec.requestMessage req)
      written := conn.written ++ [req] }
  else conn

/-- The session writes a response. -/
def respond (resp : NetSimManagerResponse) : SimulatorConnection :=
  if conn.connected then
    { conn with responses := conn.responses.write codec.encode (codec.responseMessage resp) }
  else conn

end SimulatorConnection

namespace ManagerClients

/-- The endpoint that the callbacks are given if `remote_endpoint()` throws. -/
def noEndpoint : TcpEndpoint := ⟨"0.0.0.0", 0⟩

variable (manager : NetSimManager) (codec : ManagerCodec) (s : ManagerClients)

/-- Change the connection with a number. -/
def modify (id : ℕ) (f : SimulatorConnection → SimulatorConnection) : ManagerClients :=
  { s with connections := s.connections.modify id f }

/-- `server_.write`. -/
def write (resp : NetSimManagerResponse) (ep : TcpEndpoint) : ManagerClients where
  server := s.server.write (codec.responseMessage resp) ep
  connections :=
    match s.server.sessions.lookup ep with
    | some id =>
        if (s.server.live id).isSome then s.connections.modify id (·.respond codec resp)
        else s.connections
    | none => s.connections

/-- The callback of the server is posted to, by the session with the number `id`. -/
def post (id : ℕ) (ep : TcpEndpoint) (now : ℕ → PTime) (pbName bytes : Bytes) :
    Option ManagerClients :=
  -- `rx_callbacks_.equal_range(pb_name)`
  if pbName = requestName then
    let req := codec.parseRequest bytes
    (manager.processRequest req ep now).map fun out =>
      (ManagerOutput.responses out).foldl (fun s resp => s.write codec resp.1 resp.2)
        (s.modify id fun conn => { conn with handled := conn.handled ++ [req] })
  else some s

/-- The read handler of the session with the number `id`. -/
def handleRequest (id : ℕ) (now : ℕ → PTime) : Option ManagerClients :=
  match s.server.live id, s.connections[id]? with
  | some session, some conn =>
      let requests := conn.requests.handle codec.decode
      let ep := if conn.connected then session.remote else noEndpoint
      -- the calls of `post` that the handler makes
      (requests.reader.posted.drop conn.requests.reader.posted.length).foldlM
        (fun s call => s.post manager codec id ep now call.2.1 call.2.2)
        (s.modify id fun conn => { conn with requests := requests })
  | _, _ => some s

/-- The reaction to an event. -/
def step : SimulatorEvent → Option ManagerClients
  | .accept remote => some
      { server := s.server.step noEndpoint (.accept remote)
        connections := s.connections ++
          if s.server.accepting then remote.toList.map fun ep => { ep } else [] }
  | .request id req => some (s.modify id (·.request codec req))
  | .arriveAtServer id n => some <|
      if (s.server.live id).isSome then
        s.modify id fun conn =>
          if conn.connected then { conn with requests := conn.requests.arrive n } else conn
      else s
  | .handleRequest id now => s.handleRequest manager codec id now
  | .arriveAtSimulator id n => some <| s.modify id fun conn =>
      if conn.connected then { conn with responses := conn.responses.arrive n } else conn
  | .handleResponse id => some <| s.modify id fun conn =>
      { conn with responses := conn.responses.handle codec.decode }
  | .lost id => some <| s.modify id fun conn => { conn with connected := false }
  | .disconnect id => some { s with server := s.server.step noEndpoint (.disconnect id) }

/-- The constructed manager and no simulator, after some events. -/
def after (es : List SimulatorEvent) : Option ManagerClients :=
  Run.exec (step manager codec) {} es

/-- An endpoint that is accepted is one, and has no entry in `sessions_`; and what is written can be
parsed. -/
def Proper : SimulatorEvent → Prop
  | .accept (some ep) => ep ≠ noEndpoint ∧ s.server.sessions.lookup ep = none
  | .request _ req => codec.Transmits req
  | _ => True

end ManagerClients

end Netsim
