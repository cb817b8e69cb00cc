import Netsim.Lib.Component
import Netsim.Network.Model
import Netsim.Udp.Requests

/-!
# What reaches the environments

The requests for which a gateway serves the environment of the vehicle come through to its MOOS
community, in order and without loss or repetition (`routed_after`); so do the positions of the
vehicles in that environment, and no others (`located_after`).
-/

namespace Netsim

namespace Network

variable {ε γ : Type} [DecidableEq ε] [DecidableEq γ]

/-! ### Steps -/

/-- What the steps do. -/
inductive Moves (cfg : NetworkConfig ε γ) (s : Network ε γ) :
    NetworkEvent ε γ → Network ε γ → Prop
  | udpIn {udpSrc : ε} {msg : ModemTransmission} {now : ℚ} {udp : NetSimUDP ε}
      (hudp : s.udp.step cfg.udp (.udpIn udpSrc msg now) = some udp) :
      Moves cfg s (.udpIn udpSrc msg now) (s.publishUdp udp)
  | loop {now : ℤ} {udp : NetSimUDP ε} (hudp : s.udp.step cfg.udp (.loop now) = some udp) :
      Moves cfg s (.loop now) (s.publishUdp udp)
  | request {req : Request} :
      Moves cfg s (.request req)
        { s with requests := s.requests.publish (fun g => g = req.group) [req] }
  | handleRequest {group : RequestGroup} {req : Request} {requests : Mailboxes RequestGroup Request}
      (hreceive : s.requests.receive group = some (req, requests)) :
      Moves cfg s (.handleRequest group)
        { s with
          requests := requests
          envRequests := s.envRequests.publish (fun c => c.2 = group)
            (s.manager.handleRequest cfg.asInt req).toList }
  | processRequest {e : NetSimManager.ReceivedRequest} {out : List ManagerOutput}
      (hout : s.manager.processRequest e.req e.ep e.now = some out) :
      Moves cfg s (.processRequest e)
        { s with
          managerLog := s.managerLog ++ [(e.ep, out)]
          envNavUpdate := s.envNavUpdate.publish (fun _ => true) (ManagerOutput.navUpdates out) }
  | gobyToMoos {c : γ} {group : RequestGroup} {req : EnvironmentRequest}
      {envRequests : Mailboxes (γ × RequestGroup) EnvironmentRequest} {posted : Option Request}
      (hreceive : s.envRequests.receive (c, group) = some (req, envRequests))
      (hposted : posted =
        NetSimCoreTranslation.gobyToMoos (cfg.moosPort c) req.environmentId req.req) :
      Moves cfg s (.gobyToMoos c group)
        { s with
          envRequests := envRequests
          moosRequests := Function.update s.moosRequests (c, group)
            (s.moosRequests (c, group) ++ posted.toList)
          unanswered := Function.update s.unanswered c
            (s.unanswered c ++ (posted.bind Request.asImpulse).toList) }
  | navToMoos {c : γ} {update : EnvironmentNavUpdate}
      {envNavUpdate : Mailboxes γ EnvironmentNavUpdate}
      (hreceive : s.envNavUpdate.receive c = some (update, envNavUpdate)) :
      Moves cfg s (.navToMoos c)
        { s with
          envNavUpdate := envNavUpdate
          moosNavUpdates := Function.update s.moosNavUpdates c (s.moosNavUpdates c ++
            (NetSimCoreTranslation.gobyToMoos (cfg.moosPort c) update.environmentId
              update.nav).toList) }
  | impulseToGoby {c : γ} {r : ImpulseResponse} :
      Moves cfg s (.impulseToGoby c r)
        { s with
          impulseResponse := s.impulseResponse.send r
          unanswered := Function.update s.unanswered c
            ((s.unanswered c).filter fun req => !r.answers req) }
  | performanceToGoby {c : γ} {r : ObjFuncResponse} :
      Moves cfg s (.performanceToGoby c r)
        { s with
          performanceResponse := if cfg.udp.packetSuccessMethod = .MPP then
            s.performanceResponse.send r else s.performanceResponse }
  | impulseResponse {luck : Luck} {r : ImpulseResponse} {rest : Fifo ImpulseResponse}
      {udp : NetSimUDP ε} (hreceive : s.impulseResponse.receive = some (r, rest))
      (hudp : s.udp.step cfg.udp (.impulseResponse r luck) = some udp) :
      Moves cfg s (.impulseResponse luck) ({ s with impulseResponse := rest }.publishUdp udp)
  | performanceResponse {r : ObjFuncResponse} {rest : Fifo ObjFuncResponse} {udp : NetSimUDP ε}
      (hreceive : s.performanceResponse.receive = some (r, rest))
      (hudp : s.udp.step cfg.udp (.performanceResponse r) = some udp) :
      Moves cfg s .performanceResponse ({ s with performanceResponse := rest }.publishUdp udp)

section Moves

variable {cfg : NetworkConfig ε γ} {s s' : Network ε γ}

/-- What a step does. -/
theorem moves_of_step {e : NetworkEvent ε γ} (h : s.step cfg e = some s') : Moves cfg s e s' := by
  cases e with
  | udpIn udpSrc msg now =>
      rw [step, stepUdp, Option.map_eq_some_iff] at h
      obtain ⟨udp, hudp, rfl⟩ := h
      exact .udpIn hudp
  | loop now =>
      rw [step, stepUdp, Option.map_eq_some_iff] at h
      obtain ⟨udp, hudp, rfl⟩ := h
      exact .loop hudp
  | request req =>
      obtain rfl := Option.some_inj.1 h
      exact .request
  | handleRequest group =>
      obtain ⟨⟨req, requests⟩, hreceive, rfl⟩ := Option.map_eq_some_iff.1 h
      exact .handleRequest hreceive
  | processRequest e =>
      obtain ⟨log, hlog, rfl⟩ := Option.map_eq_some_iff.1 h
      obtain ⟨out, hout, rfl⟩ := Option.map_eq_some_iff.1 hlog
      have hmoves : Moves cfg s (.processRequest e) _ := .processRequest hout
      simpa only [List.drop_left, List.flatMap_singleton] using hmoves
  | gobyToMoos c group =>
      obtain ⟨⟨req, envRequests⟩, hreceive, rfl⟩ := Option.map_eq_some_iff.1 h
      exact .gobyToMoos hreceive rfl
  | navToMoos c =>
      obtain ⟨⟨update, envNavUpdate⟩, hreceive, rfl⟩ := Option.map_eq_some_iff.1 h
      exact .navToMoos hreceive
  | impulseToGoby c r =>
      obtain rfl := Option.some_inj.1 h
      exact .impulseToGoby
  | performanceToGoby c r =>
      obtain rfl := Option.some_inj.1 h
      exact .performanceToGoby
  | impulseResponse luck =>
      obtain ⟨⟨r, rest⟩, hreceive, hstep⟩ := Option.bind_eq_some_iff.1 h
      obtain ⟨udp, hudp, rfl⟩ := Option.map_eq_some_iff.1 hstep
      exact .impulseResponse hreceive hudp
  | performanceResponse =>
      obtain ⟨⟨r, rest⟩, hreceive, hstep⟩ := Option.bind_eq_some_iff.1 h
      obtain ⟨udp, hudp, rfl⟩ := Option.map_eq_some_iff.1 hstep
      exact .performanceResponse hreceive hudp

end Moves

/-! ### `netsim_udp` as a part of the system -/

/-- What `netsim_udp` takes in a step. -/
def udpEvent (s : Network ε γ) : NetworkEvent ε γ → Option (UdpEvent ε)
  | .udpIn udpSrc msg now => some (.udpIn udpSrc msg now)
  | .loop now => some (.loop now)
  | .impulseResponse luck => s.impulseResponse.receive.map fun r => .impulseResponse r.1 luck
  | .performanceResponse => s.performanceResponse.receive.map fun r => .performanceResponse r.1
  | _ => none

/-- `netsim_udp`. -/
def udpPart (cfg : NetworkConfig ε γ) : Component (step cfg) (NetSimUDP.step cfg.udp) where
  state s := s.udp
  part := udpEvent
  step_part s e s' h := by
    cases moves_of_step h with
    | udpIn hudp | loop hudp => simp [udpEvent, hudp, publishUdp, Run.exec]
    | impulseResponse hreceive hudp | performanceResponse hreceive hudp =>
        simp [udpEvent, hreceive, hudp, publishUdp, Run.exec]
    | _ => rfl

/-- The pairs that an event makes `netsim_udp` accept. -/
def accepts (cfg : NetworkConfig ε γ) : NetworkEvent ε γ → List (ℤ × ℤ × ModemTransmission)
  | .udpIn udpSrc msg now => NetSimUDP.accepts cfg.udp (.udpIn udpSrc msg now)
  | _ => []

section Part

variable {cfg : NetworkConfig ε γ} {es : List (NetworkEvent ε γ)} {s s₀ : Network ε γ}

/-- The system starts with the constructed applications. -/
theorem exists_init (h : after cfg es = some s) : ∃ udp manager,
    NetSimUDP.init cfg.udp = some udp ∧
      NetSimManager.processConfiguration cfg.manager = some manager ∧
      Run.exec (step cfg) { udp := udp, manager := manager } es = some s := by
  simp only [after, Option.bind_eq_bind, Option.bind_eq_some_iff] at h
  obtain ⟨udp, hudp, manager, hmanager, h⟩ := h
  exact ⟨udp, manager, hudp, hmanager, h⟩

/-- In a run of the system, `netsim_udp` takes a run of its own. -/
theorem exists_trace (h : after cfg es = some s) : ∃ s₀, Run.exec (step cfg) s₀ es = some s ∧
    NetSimUDP.after cfg.udp ((udpPart cfg).trace s₀ es) = some s.udp := by
  obtain ⟨udp, manager, hudp, -, hrun⟩ := exists_init h
  refine ⟨{ udp := udp, manager := manager }, hrun, ?_⟩
  rw [NetSimUDP.after, hudp, Option.bind_some]
  exact Component.exec_trace (c := udpPart cfg) hrun

theorem exists_udp_after (h : after cfg es = some s) :
    ∃ fs, NetSimUDP.after cfg.udp fs = some s.udp := by
  obtain ⟨s₀, -, hudp⟩ := exists_trace h
  exact ⟨_, hudp⟩

/-- It accepts pairs only of the transmissions it receives. -/
theorem flatMap_accepts_trace (h : Run.exec (step cfg) s₀ es = some s) :
    ((udpPart cfg).trace s₀ es).flatMap (NetSimUDP.accepts cfg.udp) =
      es.flatMap (accepts cfg) := by
  induction es using List.reverseRecOn generalizing s with
  | nil => rfl
  | append_singleton es e ih =>
      obtain ⟨u, hu, -⟩ := (Run.exec_concat_eq_some _ _).1 h
      have hevent : (udpEvent u e).toList.flatMap (NetSimUDP.accepts cfg.udp) = accepts cfg e := by
        cases e with
        | udpIn udpSrc msg now => exact List.flatMap_singleton _ _
        | impulseResponse luck =>
            cases hr : u.impulseResponse.receive <;>
              simp [udpEvent, hr, accepts, NetSimUDP.accepts]
        | performanceResponse =>
            cases hr : u.performanceResponse.receive <;>
              simp [udpEvent, hr, accepts, NetSimUDP.accepts]
        | _ => rfl
      rw [Component.trace_concat hu, List.flatMap_append, ih hu, List.flatMap_append,
        List.flatMap_singleton]
      exact congrArg _ hevent

/-- What `netsim_udp` has accepted is of the transmissions it received. -/
theorem accepted_after (h : after cfg es = some s) : s.udp.accepted = es.flatMap (accepts cfg) := by
  obtain ⟨s₀, hrun, hudp⟩ := exists_trace h
  rw [(NetSimUDP.ledger_after hudp).2, flatMap_accepts_trace hrun]

end Part

/-! ### Gateways -/

/-- A gateway serves the environment of the vehicle with the port. -/
def Serves (cfg : NetworkConfig ε γ) (c : γ) (port : Int32) : Prop :=
  ∃ simEnv ∈ cfg.manager.simEnvPair, simEnv.modemTcpPort = port ∧
    simEnv.environmentId = NetSimCoreTranslation.environmentId (cfg.moosPort c)

instance (cfg : NetworkConfig ε γ) (c : γ) (port : Int32) : Decidable (Serves cfg c port) :=
  inferInstanceAs (Decidable (∃ simEnv ∈ cfg.manager.simEnvPair, simEnv.modemTcpPort = port ∧
    simEnv.environmentId = NetSimCoreTranslation.environmentId (cfg.moosPort c)))

/-- The positions in an event that a gateway is to post: those before the first that fails a check,
if they have their required fields and are of vehicles in the environment. -/
def positions (cfg : NetworkConfig ε γ) (c : γ) : NetworkEvent ε γ → List NavUpdate
  | .processRequest e =>
      (e.req.nav.takeWhile fun nav => NetSimManager.Passes cfg.manager e.ep nav).filter fun nav =>
        nav.isInitialized ∧ Serves cfg c (nav.modemTcpPort.getD 0)
  | _ => []

/-- What a gateway posts of a request for an environment. -/
def postRequest (cfg : NetworkConfig ε γ) (c : γ) (req : EnvironmentRequest) : Option Request :=
  NetSimCoreTranslation.gobyToMoos (cfg.moosPort c) req.environmentId req.req

/-- What a gateway posts of a position for an environment. -/
def postNav (cfg : NetworkConfig ε γ) (c : γ) (update : EnvironmentNavUpdate) : Option NavUpdate :=
  NetSimCoreTranslation.gobyToMoos (cfg.moosPort c) update.environmentId update.nav

section Gateways

variable {cfg : NetworkConfig ε γ} {manager : NetSimManager} {c : γ}

omit [DecidableEq ε] [DecidableEq γ] in
/-- The manager and the gateway together let a request pass iff the gateway serves the vehicle. -/
theorem bind_postRequest (hs : NetSimManager.Configures cfg.manager manager) (req : Request) :
    (manager.handleRequest cfg.asInt req).bind (postRequest cfg c) =
      if Serves cfg c (cfg.asInt req.source) then some req else none := by
  rw [NetSimManager.handleRequest_eq, NetSimManager.publishRequest]
  cases hlookup : manager.envCfg.lookup (cfg.asInt req.source) with
  | none =>
      rw [if_neg]
      · rfl
      · rintro ⟨simEnv, hmem, hport, -⟩
        rw [(hs.envCfg _ simEnv).2 ⟨hmem, hport⟩] at hlookup
        cases hlookup
  | some simEnv =>
      obtain ⟨hmem, hport⟩ := (hs.envCfg _ simEnv).1 hlookup
      have hserves : Serves cfg c (cfg.asInt req.source) ↔
          simEnv.environmentId = NetSimCoreTranslation.environmentId (cfg.moosPort c) := by
        constructor
        · rintro ⟨other, hother, hport', hid⟩
          rwa [hs.vehicle_unique hmem hother (hport.trans hport'.symm)]
        · exact fun hid => ⟨simEnv, hmem, hport, hid⟩
      simp only [Option.map_some, Option.bind_some, postRequest, NetSimCoreTranslation.gobyToMoos,
        hserves]

omit [DecidableEq ε] [DecidableEq γ] in
/-- The updates published for a request that the gateway posts are the positions in it. -/
theorem filterMap_postNav (hs : NetSimManager.Configures cfg.manager manager)
    {e : NetSimManager.ReceivedRequest} {out : List ManagerOutput}
    (hout : manager.processRequest e.req e.ep e.now = some out) :
    (ManagerOutput.navUpdates out).filterMap (postNav cfg c) =
      positions cfg c (.processRequest e) := by
  obtain ⟨status, out', pre, hout', hstop, hpublish, -⟩ :=
    NetSimManager.handled_processRequest hs e.req e.ep e.now
  obtain rfl := Option.some_inj.1 (hout'.symm.trans hout)
  rw [positions, ← hstop.eq_takeWhile]
  have hpost : ∀ update ∈ ManagerOutput.navUpdates out', postNav cfg c update =
      if Serves cfg c (update.nav.modemTcpPort.getD 0) then some update.nav else none := by
    intro update hupdate
    obtain ⟨simEnv, hmem, hport, hid⟩ := hpublish.environment update hupdate
    have hserves : Serves cfg c (update.nav.modemTcpPort.getD 0) ↔
        update.environmentId = NetSimCoreTranslation.environmentId (cfg.moosPort c) := by
      constructor
      · rintro ⟨other, hother, hport', hid'⟩
        rw [← hid, hs.vehicle_unique hmem hother (hport.trans hport'.symm), hid']
      · exact fun hid' => ⟨simEnv, hmem, hport, hid.trans hid'⟩
    simp only [postNav, NetSimCoreTranslation.gobyToMoos, hserves]
  calc (ManagerOutput.navUpdates out').filterMap (postNav cfg c)
      = ((ManagerOutput.navUpdates out').map (·.nav)).filter
          fun nav => Serves cfg c (nav.modemTcpPort.getD 0) := by
        rw [← List.filterMap_eq_filter, List.filterMap_map]
        refine List.filterMap_congr fun update hupdate => ?_
        simp [hpost update hupdate, Option.guard]
    _ = (pre.filter (·.isInitialized)).filter fun nav =>
          Serves cfg c (nav.modemTcpPort.getD 0) := by rw [hpublish.navs]
    _ = pre.filter fun nav => nav.isInitialized ∧ Serves cfg c (nav.modemTcpPort.getD 0) := by
        rw [List.filter_filter]
        exact List.filter_congr fun nav _ => by simp [Bool.and_comm]

end Gateways

/-! ### Runs -/

private theorem filterMap_singleton {α β : Type} (f : α → Option β) (a : α) :
    [a].filterMap f = (f a).toList := by
  cases h : f a <;> simp [h]

/-- The invariant of the runs. -/
structure Routed (cfg : NetworkConfig ε γ) (es : List (NetworkEvent ε γ)) (s : Network ε γ) :
    Prop where
  configured : NetSimManager.processConfiguration cfg.manager = some s.manager
  requested : ∀ g, (udpRequests s.udp g).Sublist (s.requests g).sent
  handled : ∀ c g, (s.envRequests (c, g)).sent =
    (s.requests g).received.filterMap (s.manager.handleRequest cfg.asInt)
  posted : ∀ c g, s.moosRequests (c, g) =
    (s.envRequests (c, g)).received.filterMap (postRequest cfg c)
  located : ∀ c, (s.envNavUpdate c).sent.filterMap (postNav cfg c) = es.flatMap (positions cfg c)
  navs : ∀ c, s.moosNavUpdates c = (s.envNavUpdate c).received.filterMap (postNav cfg c)

section Runs

variable {cfg : NetworkConfig ε γ} {es : List (NetworkEvent ε γ)} {e : NetworkEvent ε γ}
  {s s' : Network ε γ}

omit [DecidableEq ε] [DecidableEq γ] in
theorem routed_init {udp : NetSimUDP ε} {manager : NetSimManager}
    (hudp : NetSimUDP.init cfg.udp = some udp)
    (hmanager : NetSimManager.processConfiguration cfg.manager = some manager) :
    Routed cfg [] { udp := udp, manager := manager } := by
  unfold NetSimUDP.init at hudp
  split_ifs at hudp
  obtain rfl := Option.some_inj.1 hudp
  refine ⟨hmanager, fun g => ?_, fun _ _ => rfl, fun _ _ => rfl, fun _ => rfl, fun _ => rfl⟩
  cases g <;> exact List.nil_sublist _

omit [DecidableEq γ] in
/-- The requests of `netsim_udp` only become more. -/
theorem udpRequests_prefix {e : UdpEvent ε} {udp udp' : NetSimUDP ε}
    (h : udp.step cfg.udp e = some udp') (g : RequestGroup) :
    udpRequests udp g <+: udpRequests udp' g := by
  have hrequests := NetSimUDP.requests_step h
  obtain ⟨reqs, hreqs, -⟩ := hrequests.impulse
  cases g with
  | impulse_request => exact List.IsPrefix.map _ (hreqs ▸ List.prefix_append _ _)
  | performance_request => exact hrequests.performance.map _
  | bellhop_request => exact List.prefix_rfl

omit [DecidableEq γ] in
/-- A step of `netsim_udp` sends what it publishes. -/
theorem Routed.publishUdp (h : Routed cfg es s) (hnone : ∀ c, positions cfg c e = [])
    {f : UdpEvent ε} {udp : NetSimUDP ε} (hudp : s.udp.step cfg.udp f = some udp) :
    Routed cfg (es ++ [e]) (s.publishUdp udp) where
  configured := h.configured
  requested g := by
    obtain ⟨rest, hrest⟩ := udpRequests_prefix hudp g
    simp only [Network.publishUdp, Fifo.sent_sendAll, ← hrest, List.drop_left]
    exact (h.requested g).append (List.Sublist.refl rest)
  handled c g := by simpa [Network.publishUdp] using h.handled c g
  posted := h.posted
  located c := by simpa [Network.publishUdp, hnone c] using h.located c
  navs := h.navs

/-- What a step sends and posts. -/
theorem Routed.step (h : Routed cfg es s) (hstep : s.step cfg e = some s') :
    Routed cfg (es ++ [e]) s' := by
  have hnone (he : ∀ c, positions cfg c e = []) (c : γ) :
      (s.envNavUpdate c).sent.filterMap (postNav cfg c) =
        (es ++ [e]).flatMap (positions cfg c) := by
    simpa [he c] using h.located c
  cases moves_of_step hstep with
  | udpIn hudp | loop hudp => exact h.publishUdp (fun _ => rfl) hudp
  | request =>
      refine ⟨h.configured, fun g => ?_, fun c g => ?_, h.posted, hnone fun _ => rfl, h.navs⟩
      · rw [Mailboxes.sent_publish]
        exact (h.requested g).trans (List.sublist_append_left _ _)
      · rw [Mailboxes.received_publish]
        exact h.handled c g
  | @handleRequest group req requests hreceive =>
      obtain ⟨-, hsent, hreceived⟩ := Mailboxes.receive_eq_some hreceive
      refine ⟨h.configured, fun g => ?_, fun c g => ?_, fun c g => ?_, hnone fun _ => rfl, h.navs⟩
      · exact (h.requested g).trans (hsent g ▸ List.Sublist.refl _)
      · rw [Mailboxes.sent_publish, hreceived, List.filterMap_append, h.handled]
        by_cases hg : g = group
        · simp [hg, filterMap_singleton]
        · simp [hg]
      · rw [Mailboxes.received_publish]
        exact h.posted c g
  | @processRequest e out hout =>
      have hconfigures := NetSimManager.configures_of_processConfiguration h.configured
      refine ⟨h.configured, h.requested, h.handled, h.posted, fun c => ?_, fun c => ?_⟩
      · rw [Mailboxes.sent_publish, if_pos rfl, List.filterMap_append, h.located,
          filterMap_postNav hconfigures hout, List.flatMap_append, List.flatMap_singleton]
      · rw [Mailboxes.received_publish]
        exact h.navs c
  | @gobyToMoos c group req envRequests posted hreceive hposted =>
      obtain ⟨-, hsent, hreceived⟩ := Mailboxes.receive_eq_some hreceive
      refine ⟨h.configured, h.requested, fun d g => ?_, fun d g => ?_, hnone fun _ => rfl, h.navs⟩
      · exact (hsent (d, g)).trans (h.handled d g)
      · rw [hreceived, List.filterMap_append, ← h.posted]
        by_cases hd : (d, g) = (c, group)
        · cases hd
          simp [hposted, filterMap_singleton, postRequest]
        · simp [hd]
  | @navToMoos c update envNavUpdate hreceive =>
      obtain ⟨-, hsent, hreceived⟩ := Mailboxes.receive_eq_some hreceive
      refine ⟨h.configured, h.requested, h.handled, h.posted, fun d => ?_, fun d => ?_⟩
      · rw [hsent]
        exact hnone (fun _ => rfl) d
      · rw [hreceived, List.filterMap_append, ← h.navs]
        by_cases hd : d = c
        · subst hd
          simp [filterMap_singleton, postNav]
        · simp [hd]
  | impulseToGoby | performanceToGoby =>
      exact ⟨h.configured, h.requested, h.handled, h.posted, hnone fun _ => rfl, h.navs⟩
  | impulseResponse hreceive hudp | performanceResponse hreceive hudp =>
      refine Routed.publishUdp ?_ (fun _ => rfl) hudp
      exact ⟨h.configured, h.requested, h.handled, h.posted, h.located, h.navs⟩

theorem routed_of_after (h : after cfg es = some s) : Routed cfg es s := by
  obtain ⟨udp, manager, hudp, hmanager, hrun⟩ := exists_init h
  exact Run.exec_invariant _ _ (I := fun es s => Routed cfg es s) (routed_init hudp hmanager)
    (fun es e t u ht hstep => ht.step hstep) es s hrun

end Runs

/-! ### Nothing in flight -/

/-- Nothing waits for the manager, for `netsim_udp` or for one of the gateways. -/
def quiet (gateways : List γ) (s : Network ε γ) : Bool :=
  ([.impulse_request, .performance_request, .bellhop_request].all fun g =>
    (s.requests g).queue.isEmpty && gateways.all fun c => (s.envRequests (c, g)).queue.isEmpty) &&
  (gateways.all fun c => (s.envNavUpdate c).queue.isEmpty) &&
  s.impulseResponse.queue.isEmpty && s.performanceResponse.queue.isEmpty

omit [DecidableEq ε] [DecidableEq γ] in
theorem delivered_of_quiet {gateways : List γ} {s : Network ε γ} (hall : ∀ c, c ∈ gateways)
    (h : s.quiet gateways) : s.Delivered := by
  simp only [quiet, Bool.and_eq_true, List.all_eq_true, List.isEmpty_iff] at h
  obtain ⟨⟨⟨hrequests, hnav⟩, himpulse⟩, hperformance⟩ := h
  have hgroup (g : RequestGroup) :
      g ∈ [RequestGroup.impulse_request, .performance_request, .bellhop_request] := by
    cases g <;> simp
  exact ⟨fun g => (hrequests g (hgroup g)).1,
    fun c => (hrequests c.2 (hgroup c.2)).2 c.1 (hall c.1), fun c => hnav c (hall c), himpulse,
    hperformance⟩

section Routing

variable (cfg : NetworkConfig ε γ) (es : List (NetworkEvent ε γ)) (s : Network ε γ)

/-- In every run, `netsim_udp` asks for the impulse response of each pair it forwards a transmission
between; and what a gateway posts are, of all requests published, those about vehicles in its
environment. -/
theorem routed_after (h : after cfg es = some s) :
    s.udp.accepted = es.flatMap (accepts cfg) ∧
    List.Forall₂ (NetSimUDP.Asks cfg.udp) s.udp.accepted s.udp.impulseRequests ∧
    (∀ g, (udpRequests s.udp g).Sublist (s.requests g).sent) ∧
    ∀ c g, ComesThrough s.Delivered (s.moosRequests (c, g))
      ((s.requests g).sent.filter fun req => Serves cfg c (cfg.asInt req.source)) := by
  have hrouted := routed_of_after h
  obtain ⟨fs, hfs⟩ := exists_udp_after h
  have hconfigures := NetSimManager.configures_of_processConfiguration hrouted.configured
  refine ⟨accepted_after h, (NetSimUDP.asks_after hfs).1, hrouted.requested, fun c g => ?_⟩
  -- from the publishers to the manager, and from the manager to the gateway
  have hmanager := ((s.requests.comesThrough g).imp fun hd : s.Delivered => hd.requests).filterMap
    (s.manager.handleRequest cfg.asInt)
  have hgateway := (s.envRequests.comesThrough (c, g)).imp fun hd : s.Delivered => hd.envRequests
  rw [← hrouted.handled c g] at hmanager
  have hthrough := (hgateway.trans hmanager).filterMap (postRequest cfg c)
  rw [← hrouted.posted, List.filterMap_filterMap] at hthrough
  rw [← List.filterMap_eq_filter]
  convert hthrough using 3 with req
  rw [bind_postRequest hconfigures]
  simp [Option.guard]

/-- In every run, a gateway is given the positions of the vehicles in its environment, of every
request those before the first that fails a check. -/
theorem located_after (h : after cfg es = some s) (c : γ) :
    ComesThrough s.Delivered (s.moosNavUpdates c) (es.flatMap (positions cfg c)) := by
  have hrouted := routed_of_after h
  rw [← hrouted.located, hrouted.navs]
  exact ((s.envNavUpdate.comesThrough c).imp fun hd : s.Delivered => hd.envNavUpdate).filterMap _

end Routing

section TwoEnvironments

/-- Two modems, the vehicles of which are in different environments, each with a gateway. -/
def twoEnvironments : NetworkConfig ℕ Bool where
  udp :=
    { modem := [⟨62000, 1, 10⟩, ⟨62001, 2, 20⟩], packetSuccessMethod := .ALL_PACKETS_SUCCEED,
      broadcastId := 0, linearInterpolate := fun _ _ => 0,
      microTime := fun seconds => (seconds * 1000000).floor }
  manager :=
    { simEnvPair := [⟨62000, "127.0.0.1", 1⟩, ⟨62001, "127.0.0.1", 2⟩]
      envBounds := [⟨1, .zero, .zero, .zero, .zero, .zero, .zero⟩,
        ⟨2, .zero, .zero, .zero, .zero, .zero, .zero⟩] }
  moosPort := fun c => if c then 9001 else 9002
  asInt := fun s => if s = "62000" then 62000 else if s = "62001" then 62001 else 0

/-- Modem 1 transmits, and both vehicles report their position, the second one twice: at last from
where it must not be. -/
def oneTransmission : List (NetworkEvent ℕ Bool) :=
  let nav (port : Int32) (depth : Double) : NavUpdate :=
    ⟨some port, some .zero, some .zero, some .zero, some depth, some .zero, some .zero⟩
  [.udpIn 10 { dest := 2, type := .DATA, time := 1000 } 0,
    .processRequest
      { req := ⟨some 7, [nav 62001 .zero, nav 62000 .zero, nav 62001 (.ofFields false 1023 0)], []⟩
        ep := ⟨"127.0.0.1", 4000⟩
        now := fun _ => ⟨0, 0, 0, 0, 1, 1, 2018⟩ },
    .handleRequest .impulse_request,
    .navToMoos true, .navToMoos true, .navToMoos false, .navToMoos false,
    .gobyToMoos true .impulse_request, .gobyToMoos false .impulse_request,
    .impulseToGoby true ⟨"62000", "62001", [⟨.ofFields false 1023 0, [1 / 2]⟩]⟩,
    .impulseResponse ⟨none, fun _ _ => true, 0⟩]

/-- The request goes to the environment of the transmitter. -/
theorem routed_of_oneTransmission : ∃ s, after twoEnvironments oneTransmission = some s ∧
    s.Delivered ∧ (s.moosRequests (true, .impulse_request)).length = 1 ∧
    s.moosRequests (true, .impulse_request) = (s.requests .impulse_request).sent.filter fun req =>
      Serves twoEnvironments true (twoEnvironments.asInt req.source) := by
  have hrun : (after twoEnvironments oneTransmission).map (fun s =>
      (s.quiet [true, false], (s.moosRequests (true, .impulse_request)).length)) =
        some (true, 1) := by
    decide +kernel
  obtain ⟨s, hs, hresult⟩ := Option.map_eq_some_iff.1 hrun
  rw [Prod.mk.injEq] at hresult
  have hdelivered : s.Delivered := delivered_of_quiet (by decide) hresult.1
  exact ⟨s, hs, hdelivered, hresult.2,
    ((routed_after _ _ s hs).2.2.2 true .impulse_request).complete hdelivered⟩

/-- Each environment is given the position of its vehicle. -/
theorem located_of_oneTransmission : ∃ s, after twoEnvironments oneTransmission = some s ∧
    ∀ c, s.moosNavUpdates c = oneTransmission.flatMap (positions twoEnvironments c) ∧
      (s.moosNavUpdates c).map (·.modemTcpPort) = [some (if c then 62000 else 62001)] := by
  have hrun : (after twoEnvironments oneTransmission).map (fun s =>
      (s.quiet [true, false], (s.moosNavUpdates true).map (·.modemTcpPort),
        (s.moosNavUpdates false).map (·.modemTcpPort))) =
        some (true, [some 62000], [some 62001]) := by
    decide +kernel
  obtain ⟨s, hs, hresult⟩ := Option.map_eq_some_iff.1 hrun
  rw [Prod.mk.injEq, Prod.mk.injEq] at hresult
  have hdelivered : s.Delivered := delivered_of_quiet (by decide) hresult.1
  refine ⟨s, hs, fun c => ⟨(located_after _ _ s hs c).complete hdelivered, ?_⟩⟩
  cases c with
  | true => exact hresult.2.1
  | false => exact hresult.2.2

end TwoEnvironments

end Network

end Netsim
