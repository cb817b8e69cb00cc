import Netsim.Bellhop.Model
import Netsim.Manager.Model
import Netsim.Udp.Model

/-!
# Requests about the environments

Requests for impulse responses, performance estimates and transmission losses name the TCP port of a
modem as a string. The manager publishes them for the environment of its vehicle; requests for an
unknown port are dropped.
-/

namespace Netsim

/-- The groups on which the manager receives requests. -/
inductive RequestGroup
  | impulse_request
  | performance_request
  | bellhop_request
deriving DecidableEq

/-- A request on one of the groups. -/
inductive Request
  /-- `impulse_request`. -/
  | impulse (req : ImpulseRequest)
  /-- `performance_request`. -/
  | performance (req : ObjFuncRequest)
  /-- `bellhop_request`. -/
  | bellhop (req : Bellhop.IBellhopRequest)

/-- `EnvironmentImpulseRequest`, `EnvironmentObjFuncRequest` or `EnvironmentiBellhopRequest`. -/
structure EnvironmentRequest where
  /-- The environment. -/
  environmentId : Int32
  /-- The request. -/
  req : Request

namespace Request

/-- The group of a request. -/
def group : Request → RequestGroup
  | impulse _ => .impulse_request
  | performance _ => .performance_request
  | bellhop _ => .bellhop_request

/-- The string in which a request names the port. -/
def source : Request → String
  | impulse req => req.source
  | performance req => req.contact
  | bellhop req => req.env.adaptiveInfo.ownship

/-- The request for an impulse response, if it is one. -/
def asImpulse : Request → Option ImpulseRequest
  | impulse req => some req
  | _ => none

end Request

namespace NetSimManager

variable (asInt : String → Int32) (s : NetSimManager)

/-- What the three handlers publish; `asInt` is `goby::util::as<int>`. -/
def publishRequest (source : String) (req : Request) : Option EnvironmentRequest :=
  -- a warning, and nothing else, if the port is unknown
  (s.envCfg.lookup (asInt source)).map fun envCfg => ⟨envCfg.environmentId, req⟩

/-- `handle_impulse_request`, on `env_impulse_req`. -/
def handleImpulseRequest (req : ImpulseRequest) : Option EnvironmentRequest :=
  s.publishRequest asInt req.source (.impulse req)

/-- `handle_performance_request`, on `env_performance_req`. -/
def handlePerformanceRequest (req : ObjFuncRequest) : Option EnvironmentRequest :=
  s.publishRequest asInt req.contact (.performance req)

/-- `handle_bellhop_request`, on `env_bellhop_req`. -/
def handleBellhopRequest (req : Bellhop.IBellhopRequest) : Option EnvironmentRequest :=
  s.publishRequest asInt req.env.adaptiveInfo.ownship (.bellhop req)

/-- The callback of a request. -/
def handleRequest : Request → Option EnvironmentRequest
  | .impulse req => s.handleImpulseRequest asInt req
  | .performance req => s.handlePerformanceRequest asInt req
  | .bellhop req => s.handleBellhopRequest asInt req

theorem handleRequest_eq (req : Request) :
    s.handleRequest asInt req = s.publishRequest asInt req.source req := by
  cases req <;> rfl

end NetSimManager

end Netsim
