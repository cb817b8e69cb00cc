import Netsim.Lib.Mailboxes
import Netsim.Manager.Requests
import Netsim.Manager.Routing

/-!
# The applications around the environments

`netsim_udp` asks for the impulse response of every pair of modems it forwards a transmission
between. Its requests, and those of other applications, pass through the manager, which adds the
environment, and every gateway posts those for its own environment to the MOOS community there.
What that community answers comes back to `netsim_udp` through the gateway. The positions that the
vehicle simulators send to the manager take the same way to the environments.

Every subscription has a mailbox of its own, and all applications have subscribed before the first
publication. The MOOS communities may answer anything at any time. `unanswered` lists the impulse
requests posted by a gateway for whose pair nothing has been answered since; the source has no such
list, and no step depends on it.
-/

namespace Netsim

/-! ### The gateways -/

namespace NetSimCoreTranslation

/-- `environment_id_`, based on the MOOS port. -/
def environmentId (port : Int32) : Int32 := port % 10

/-- `goby_to_moos`: what is posted of a message for an environment. -/
def gobyToMoos {α : Type} (port id : Int32) (message : α) : Option α :=
  if id = environmentId port then some message else none

end NetSimCoreTranslation

/-! ### The system -/

/-- The configuration of the applications, and what they take from the goby library. -/
structure NetworkConfig (ε γ : Type) where
  /-- The configuration of `netsim_udp`. -/
  udp : NetSimUDPConfig ε
  /-- The configuration of the manager. -/
  manager : NetSimManagerConfig
  /-- `moos().port()` of each gateway. -/
  moosPort : γ → Int32
  /-- `goby::util::as<int>`. -/
  asInt : String → Int32

/-- The applications, with endpoints of type `ε` and gateways of type `γ`. -/
structure Network (ε γ : Type) where
  /-- `netsim_udp`. -/
  udp : NetSimUDP ε
  /-- The maps of the manager. -/
  manager : NetSimManager
  /-- The requests of vehicle simulators that the manager has handled. -/
  managerLog : NetSimManager.ManagerLog := []
  /-- The requests at the manager. -/
  requests : Mailboxes RequestGroup Request := fun _ => .empty
  /-- The requests of each kind at a gateway. -/
  envRequests : Mailboxes (γ × RequestGroup) EnvironmentRequest := fun _ => .empty
  /-- `env_nav_update` at a gateway. -/
  envNavUpdate : Mailboxes γ EnvironmentNavUpdate := fun _ => .empty
  /-- What a gateway posted to `IMPULSE_REQUEST`, `PERFORMANCE_REQUEST` and `BELLHOP_REQUEST`. -/
  moosRequests : γ × RequestGroup → List Request := fun _ => []
  /-- What a gateway posted to `NETSIM_NAV_UPDATE`. -/
  moosNavUpdates : γ → List NavUpdate := fun _ => []
  /-- `impulse_response` at `netsim_udp`. -/
  impulseResponse : Fifo ImpulseResponse := .empty
  /-- `performance_response` at `netsim_udp`. -/
  performanceResponse : Fifo ObjFuncResponse := .empty
  /-- The impulse requests whose answer is outstanding. -/
  unanswered : γ → List ImpulseRequest := fun _ => []

/-- What can happen to the applications. -/
inductive NetworkEvent (ε γ : Type)
  /-- `netsim_udp` receives a transmission. -/
  | udpIn (udpSrc : ε) (msg : ModemTransmission) (now : ℚ)
  /-- `loop` of `netsim_udp`. -/
  | loop (now : ℤ)
  /-- Another application publishes a request. -/
  | request (req : Request)
  /-- The manager handles a request. -/
  | handleRequest (group : RequestGroup)
  /-- The manager handles a request of a vehicle simulator. -/
  | processRequest (e : NetSimManager.ReceivedRequest)
  /-- A gateway handles a request for an environment. -/
  | gobyToMoos (c : γ) (group : RequestGroup)
  /-- A gateway handles a position for an environment. -/
  | navToMoos (c : γ)
  /-- A gateway is given an impulse response by its community. -/
  | impulseToGoby (c : γ) (r : ImpulseResponse)
  /-- A gateway is given a performance response by its community. -/
  | performanceToGoby (c : γ) (r : ObjFuncResponse)
  /-- `netsim_udp` handles an impulse response. -/
  | impulseResponse (luck : Luck)
  /-- `netsim_udp` handles a performance response. -/
  | performanceResponse

/-- A response is of the pair of modems that is asked for. -/
def ImpulseResponse.answers (r : ImpulseResponse) (req : ImpulseRequest) : Bool :=
  req.source = r.source && req.receiver = r.receiver

namespace Network

variable {ε γ : Type} [DecidableEq ε] [DecidableEq γ] (cfg : NetworkConfig ε γ) (s : Network ε γ)

/-- What `netsim_udp` has published. -/
def udpRequests (udp : NetSimUDP ε) : RequestGroup → List Request
  | .impulse_request => udp.impulseRequests.map .impulse
  | .performance_request => udp.performanceRequests.map .performance
  | .bellhop_request => []

/-- What `netsim_udp` publishes in a step is sent to the manager. -/
def publishUdp (udp : NetSimUDP ε) : Network ε γ :=
  { s with
    udp := udp
    requests := fun g =>
      (s.requests g).sendAll ((udpRequests udp g).drop (udpRequests s.udp g).length) }

/-- A step of `netsim_udp`. -/
def stepUdp (e : UdpEvent ε) : Option (Network ε γ) := (s.udp.step cfg.udp e).map s.publishUdp

/-- A step. -/
def step : NetworkEvent ε γ → Option (Network ε γ)
  | .udpIn udpSrc msg now => s.stepUdp cfg (.udpIn udpSrc msg now)
  | .loop now => s.stepUdp cfg (.loop now)
  | .request req => some { s with requests := s.requests.publish (fun g => g = req.group) [req] }
  | .handleRequest group =>
      (s.requests.receive group).map fun (req, requests) =>
        { s with
          requests := requests
          envRequests := s.envRequests.publish (fun c => c.2 = group)
            (s.manager.handleRequest cfg.asInt req).toList }
  | .processRequest e =>
      (s.manager.step s.managerLog e).map fun log =>
        { s with
          managerLog := log
          envNavUpdate := s.envNavUpdate.publish (fun _ => true)
            ((log.drop s.managerLog.length).flatMap fun out => ManagerOutput.navUpdates out.2) }
  | .gobyToMoos c group =>
      (s.envRequests.receive (c, group)).map fun (req, envRequests) =>
        let posted := NetSimCoreTranslation.gobyToMoos (cfg.moosPort c) req.environmentId req.req
        { s with
          envRequests := envRequests
          moosRequests := Function.update s.moosRequests (c, group)
            (s.moosRequests (c, group) ++ posted.toList)
          unanswered := Function.update s.unanswered c
            (s.unanswered c ++ (posted.bind Request.asImpulse).toList) }
  | .navToMoos c =>
      (s.envNavUpdate.receive c).map fun (update, envNavUpdate) =>
        { s with
          envNavUpdate := envNavUpdate
          moosNavUpdates := Function.update s.moosNavUpdates c (s.moosNavUpdates c ++
            (NetSimCoreTranslation.gobyToMoos (cfg.moosPort c) update.environmentId
              update.nav).toList) }
  | .impulseToGoby c r => some
      { s with
        impulseResponse := s.impulseResponse.send r
        unanswered := Function.update s.unanswered c
          ((s.unanswered c).filter fun req => !r.answers req) }
  | .performanceToGoby _ r => some
      -- `netsim_udp` subscribes to these only with `MPP`
      { s with
        performanceResponse := if cfg.udp.packetSuccessMethod = .MPP then
          s.performanceResponse.send r else s.performanceResponse }
  | .impulseResponse luck =>
      s.impulseResponse.receive.bind fun (r, impulseResponse) =>
        { s with impulseResponse := impulseResponse }.stepUdp cfg (.impulseResponse r luck)
  | .performanceResponse =>
      s.performanceResponse.receive.bind fun (r, performanceResponse) =>
        { s with performanceResponse := performanceResponse }.stepUdp cfg (.performanceResponse r)

/-- The constructed applications after some events. -/
def after (es : List (NetworkEvent ε γ)) : Option (Network ε γ) := do
  let udp ← NetSimUDP.init cfg.udp
  let manager ← NetSimManager.processConfiguration cfg.manager
  Run.exec (step cfg) { udp := udp, manager := manager } es

/-- Nothing is in flight. -/
structure Delivered (s : Network ε γ) : Prop where
  requests : s.requests.Delivered
  envRequests : s.envRequests.Delivered
  envNavUpdate : s.envNavUpdate.Delivered
  impulseResponse : s.impulseResponse.queue = []
  performanceResponse : s.performanceResponse.queue = []

end Network

end Netsim
