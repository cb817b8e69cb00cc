import Netsim.Network.Routing

/-!
# No packet is forgotten

A packet that `netsim_udp` accepts waits for the impulse response of its pair of modems. As long as
it waits, the request for the pair or the answer to it is on its way: at the manager, at the gateway
of the environment, in its MOOS community, or coming back. So when nothing is in flight and every
posted request has been answered, the packets of the vehicles that a gateway serves have all been
delayed, published or discarded, but for those to modem 0, the responses for which `netsim_udp`
ignores (`answered_after`).
-/

namespace Netsim

namespace Network

variable {ε γ : Type} [DecidableEq ε] [DecidableEq γ]

/-- A request for the impulse response of two ports is on its way through a gateway, or the answer
to it is. -/
inductive OnItsWay (cfg : NetworkConfig ε γ) (c : γ) (source receiver : String) (s : Network ε γ) :
    Prop
  /-- At the manager. -/
  | requested (req : ImpulseRequest) (hsource : req.source = source)
      (hreceiver : req.receiver = receiver)
      (hmem : Request.impulse req ∈ (s.requests .impulse_request).queue)
  /-- At the gateway, which is to post it. -/
  | handled (req : ImpulseRequest) (hsource : req.source = source)
      (hreceiver : req.receiver = receiver) (envReq : EnvironmentRequest)
      (hpost : postRequest cfg c envReq = some (.impulse req))
      (hmem : envReq ∈ (s.envRequests (c, .impulse_request)).queue)
  /-- In the MOOS community. -/
  | posted (req : ImpulseRequest) (hsource : req.source = source)
      (hreceiver : req.receiver = receiver) (hmem : req ∈ s.unanswered c)
  /-- Answered. -/
  | answered (r : ImpulseResponse) (hsource : r.source = source) (hreceiver : r.receiver = receiver)
      (hmem : r ∈ s.impulseResponse.queue)

section Steps

variable {cfg : NetworkConfig ε γ} {c : γ} {source receiver : String} {e : NetworkEvent ε γ}
  {s s' : Network ε γ}

omit [DecidableEq ε] [DecidableEq γ] in
/-- Nothing is on its way when nothing is in flight and everything posted has been answered. -/
theorem OnItsWay.not_of_delivered (h : OnItsWay cfg c source receiver s) (hdelivered : s.Delivered)
    (hanswered : s.unanswered c = []) : False := by
  cases h with
  | requested req _ _ hmem => simp [hdelivered.requests .impulse_request] at hmem
  | handled req _ _ envReq _ hmem => simp [hdelivered.envRequests (c, .impulse_request)] at hmem
  | posted req _ _ hmem => simp [hanswered] at hmem
  | answered r _ _ hmem => simp [hdelivered.impulseResponse] at hmem

omit [DecidableEq ε] [DecidableEq γ] in
/-- What is on its way stays so where nothing is taken off. -/
theorem OnItsWay.mono (h : OnItsWay cfg c source receiver s)
    (hrequests : (s.requests .impulse_request).queue ⊆ (s'.requests .impulse_request).queue)
    (henvRequests : (s.envRequests (c, .impulse_request)).queue ⊆
      (s'.envRequests (c, .impulse_request)).queue)
    (hunanswered : s.unanswered c ⊆ s'.unanswered c)
    (hresponse : s.impulseResponse.queue ⊆ s'.impulseResponse.queue) :
    OnItsWay cfg c source receiver s' := by
  cases h with
  | requested req hsource hreceiver hmem => exact .requested req hsource hreceiver (hrequests hmem)
  | handled req hsource hreceiver envReq hpost hmem =>
      exact .handled req hsource hreceiver envReq hpost (henvRequests hmem)
  | posted req hsource hreceiver hmem => exact .posted req hsource hreceiver (hunanswered hmem)
  | answered r hsource hreceiver hmem => exact .answered r hsource hreceiver (hresponse hmem)

omit [DecidableEq ε] [DecidableEq γ] in
theorem OnItsWay.publishUdp (h : OnItsWay cfg c source receiver s) (udp : NetSimUDP ε) :
    OnItsWay cfg c source receiver (s.publishUdp udp) :=
  h.mono (by simp [Network.publishUdp]) (List.Subset.refl _) (List.Subset.refl _)
    (List.Subset.refl _)

/-- A request or an answer goes on, and gets off the way only when `netsim_udp` takes the answer. -/
theorem OnItsWay.step (hs : NetSimManager.Configures cfg.manager s.manager)
    (hserves : Serves cfg c (cfg.asInt source)) (h : OnItsWay cfg c source receiver s)
    (hstep : s.step cfg e = some s')
    (hkept : ∀ r luck, udpEvent s e = some (.impulseResponse r luck) →
      ¬ (r.source = source ∧ r.receiver = receiver)) : OnItsWay cfg c source receiver s' := by
  cases moves_of_step hstep with
  | udpIn _ | loop _ => exact h.publishUdp _
  | request => exact h.mono (by simp) (List.Subset.refl _) (List.Subset.refl _) (List.Subset.refl _)
  | @handleRequest group req requests hreceive =>
      have hqueue := Mailboxes.queue_of_receive hreceive .impulse_request
      cases h with
      | requested imp hsource hreceiver hmem =>
          rw [hqueue, List.mem_append] at hmem
          rcases hmem with hmem | hmem
          -- the manager handles it
          · rw [List.mem_ite_nil_right, List.mem_singleton] at hmem
            obtain ⟨rfl, rfl⟩ := hmem
            have hpost := bind_postRequest (c := c) hs (.impulse imp)
            rw [if_pos (by rw [Request.source, hsource]; exact hserves), Option.bind_eq_some_iff]
              at hpost
            obtain ⟨envReq, henvReq, hpost⟩ := hpost
            exact .handled imp hsource hreceiver envReq hpost (by simp [henvReq])
          · exact .requested imp hsource hreceiver hmem
      | handled imp hsource hreceiver envReq hpost hmem =>
          exact .handled imp hsource hreceiver envReq hpost (by simp [hmem])
      | posted imp hsource hreceiver hmem => exact .posted imp hsource hreceiver hmem
      | answered r hsource hreceiver hmem => exact .answered r hsource hreceiver hmem
  | @gobyToMoos d group req envRequests posted hreceive hposted =>
      have hqueue := Mailboxes.queue_of_receive hreceive (c, .impulse_request)
      have hold {imp : ImpulseRequest} (hmem : imp ∈ s.unanswered c) : imp ∈ Function.update
          s.unanswered d (s.unanswered d ++ (posted.bind Request.asImpulse).toList) c := by
        by_cases hd : c = d
        · subst hd
          simp [hmem]
        · simp [hd, hmem]
      cases h with
      | requested imp hsource hreceiver hmem => exact .requested imp hsource hreceiver hmem
      | handled imp hsource hreceiver envReq hpost hmem =>
          rw [hqueue, List.mem_append] at hmem
          rcases hmem with hmem | hmem
          -- the gateway posts it
          · rw [List.mem_ite_nil_right, List.mem_singleton] at hmem
            obtain ⟨heq, rfl⟩ := hmem
            cases heq
            rw [postRequest, ← hposted] at hpost
            exact .posted imp hsource hreceiver (by simp [hpost, Request.asImpulse])
          · exact .handled imp hsource hreceiver envReq hpost hmem
      | posted imp hsource hreceiver hmem => exact .posted imp hsource hreceiver (hold hmem)
      | answered r hsource hreceiver hmem => exact .answered r hsource hreceiver hmem
  | @impulseToGoby d r =>
      cases h with
      | requested imp hsource hreceiver hmem => exact .requested imp hsource hreceiver hmem
      | handled imp hsource hreceiver envReq hpost hmem =>
          exact .handled imp hsource hreceiver envReq hpost hmem
      | posted imp hsource hreceiver hmem =>
          -- this may be the answer to it
          cases hr : r.answers imp with
          | true =>
              simp only [ImpulseResponse.answers, Bool.and_eq_true, decide_eq_true_eq] at hr
              exact .answered r (hr.1.symm.trans hsource) (hr.2.symm.trans hreceiver) (by simp)
          | false =>
              refine .posted imp hsource hreceiver ?_
              by_cases hd : c = d
              · subst hd
                simp [hmem, hr]
              · simp [hd, hmem]
      | answered r' hsource hreceiver hmem => exact .answered r' hsource hreceiver (by simp [hmem])
  | processRequest _ | navToMoos _ | performanceToGoby =>
      exact h.mono (List.Subset.refl _) (List.Subset.refl _) (List.Subset.refl _)
        (List.Subset.refl _)
  | @impulseResponse luck r rest udp hreceive hudp =>
      refine OnItsWay.publishUdp ?_ udp
      have hr := hkept r luck (by simp [udpEvent, hreceive])
      cases h with
      | requested imp hsource hreceiver hmem => exact .requested imp hsource hreceiver hmem
      | handled imp hsource hreceiver envReq hpost hmem =>
          exact .handled imp hsource hreceiver envReq hpost hmem
      | posted imp hsource hreceiver hmem => exact .posted imp hsource hreceiver hmem
      | answered r' hsource hreceiver hmem =>
          rw [Fifo.queue_of_receive hreceive, List.mem_cons] at hmem
          rcases hmem with rfl | hmem
          · exact absurd ⟨hsource, hreceiver⟩ hr
          · exact .answered r' hsource hreceiver hmem
  | performanceResponse _ _ =>
      refine OnItsWay.publishUdp ?_ _
      exact h.mono (List.Subset.refl _) (List.Subset.refl _) (List.Subset.refl _)
        (List.Subset.refl _)

/-- The request for every packet that waits is on its way through the gateway, or the answer is, if
the gateway serves the vehicle and the packet is not to modem 0. -/
def Awaited (cfg : NetworkConfig ε γ) (c : γ) (s : Network ε γ) : Prop :=
  ∀ srcId destId src dest packet, destId ≠ 0 → cfg.udp.modemAt srcId = some src →
    cfg.udp.modemAt destId = some dest →
    Serves cfg c (cfg.asInt (toString src.modemTcpPort.toNat)) →
    packet ∈ s.udp.waiting srcId destId →
    OnItsWay cfg c (toString src.modemTcpPort.toNat) (toString dest.modemTcpPort.toNat) s

/-- The request for a packet that begins to wait is sent to the manager. -/
theorem onItsWay_of_accepts {f : UdpEvent ε} (hf : udpEvent s e = some f)
    (hstep : s.step cfg e = some s') {srcId destId : ℤ} {msg : ModemTransmission}
    (hpair : (srcId, destId, msg) ∈ NetSimUDP.accepts cfg.udp f) {src dest : ModemEndPoint ε}
    (hsrc : cfg.udp.modemAt srcId = some src) (hdest : cfg.udp.modemAt destId = some dest) :
    OnItsWay cfg c (toString src.modemTcpPort.toNat) (toString dest.modemTcpPort.toNat) s' := by
  cases moves_of_step hstep with
  | @udpIn udpSrc data now udp hudp =>
      obtain rfl := Option.some_inj.1 hf
      obtain ⟨reqs, hreqs, hasks, -⟩ := (NetSimUDP.requests_step hudp).impulse
      obtain ⟨req, hreq, ⟨src', hsrc', hsource⟩, dest', hdest', hreceiver⟩ :=
        Selection.exists_right_of_mem hasks hpair
      rw [hsrc, Option.some_inj] at hsrc'
      rw [hdest, Option.some_inj] at hdest'
      refine .requested req (hsrc' ▸ hsource) (hdest' ▸ hreceiver) ?_
      simp [publishUdp, udpRequests, hreqs, hreq]
  | loop _ =>
      obtain rfl := Option.some_inj.1 hf
      simp [NetSimUDP.accepts] at hpair
  | impulseResponse hreceive _ | performanceResponse hreceive _ =>
      simp only [udpEvent, hreceive, Option.map_some, Option.some_inj] at hf
      subst hf
      simp [NetSimUDP.accepts] at hpair
  | _ => simp [udpEvent] at hf

theorem Awaited.step (hports : (cfg.udp.modem.map (·.modemTcpPort)).Nodup)
    (hs : NetSimManager.Configures cfg.manager s.manager) (h : Awaited cfg c s)
    (hstep : s.step cfg e = some s') : Awaited cfg c s' := by
  intro srcId destId src dest packet hzero hsrc hdest hserves hmem
  have hpart := (udpPart cfg).step_part s e s' hstep
  cases hf : udpEvent s e with
  | none =>
      -- `netsim_udp` is left alone
      simp only [udpPart, hf, Option.toList_none, Run.exec, List.foldlM_nil] at hpart
      rw [← Option.some_inj.1 hpart] at hmem
      refine (h srcId destId src dest packet hzero hsrc hdest hserves hmem).step hs hserves hstep ?_
      simp [hf]
  | some f =>
      have hudp : NetSimUDP.step cfg.udp s.udp f = some s'.udp := by
        simpa [udpPart, hf, Run.exec] using hpart
      rcases (NetSimUDP.requests_step hudp).waiting srcId destId packet hmem with
        hold | ⟨msg, hpair⟩
      · refine (h srcId destId src dest packet hzero hsrc hdest hserves hold).step hs hserves
          hstep ?_
        -- the answer to it would have let it go
        rintro r luck hresponse ⟨hsource, hreceiver⟩
        rw [hf, Option.some_inj] at hresponse
        subst hresponse
        rw [NetSimUDP.waiting_of_impulseResponse hzero
          (hsource ▸ NetSimUDP.tcpPortToId_of_modemAt hports hsrc)
          (hreceiver ▸ NetSimUDP.tcpPortToId_of_modemAt hports hdest) hudp] at hmem
        simp at hmem
      · exact onItsWay_of_accepts hf hstep hpair hsrc hdest

end Steps

section Answered

variable (cfg : NetworkConfig ε γ) (es : List (NetworkEvent ε γ)) (s : Network ε γ) (c : γ)

theorem awaited_after (hports : (cfg.udp.modem.map (·.modemTcpPort)).Nodup)
    (h : after cfg es = some s) : Awaited cfg c s := by
  obtain ⟨udp, manager, hudp, hmanager, hrun⟩ := exists_init h
  have hboth : Routed cfg es s ∧ Awaited cfg c s := by
    refine Run.exec_invariant _ _ (I := fun es s => Routed cfg es s ∧ Awaited cfg c s)
      ⟨routed_init hudp hmanager, ?_⟩ (fun es e t u ht hstep => ?_) es s hrun
    · intro srcId destId src dest packet _ _ _ _ hmem
      unfold NetSimUDP.init at hudp
      split_ifs at hudp
      obtain rfl := Option.some_inj.1 hudp
      simp [NetSimUDP.waiting] at hmem
    · exact ⟨ht.1.step hstep, ht.2.step hports
        (NetSimManager.configures_of_processConfiguration ht.1.configured) hstep⟩
  exact hboth.2

/-- In every run after which nothing is in flight and a gateway has been answered every request it
has posted, every packet from a vehicle in its environment to a modem other than modem 0 is in
exactly one place, and does not wait: it is delayed, published, or discarded. -/
theorem answered_after (hports : (cfg.udp.modem.map (·.modemTcpPort)).Nodup)
    (h : after cfg es = some s) (hdelivered : s.Delivered) (hanswered : s.unanswered c = []) :
    ∀ serial srcId destId msg src, s.udp.accepted[serial]? = some (srcId, destId, msg) →
      cfg.udp.modemAt srcId = some src →
      Serves cfg c (cfg.asInt (toString src.modemTcpPort.toNat)) → destId ≠ 0 →
      (∃! place, s.udp.occurrences srcId destId serial place ≠ 0) ∧
        s.udp.occurrences srcId destId serial .waiting = 0 := by
  intro serial srcId destId msg src hserial hsrc hserves hzero
  obtain ⟨fs, hfs⟩ := exists_udp_after h
  refine ⟨NetSimUDP.existsUnique_place
    ((NetSimUDP.ledger_after hfs).1.total serial srcId destId msg hserial), ?_⟩
  -- the destination is configured
  obtain ⟨req, -, -, dest, hdest, -⟩ :=
    Selection.exists_right_of_mem (NetSimUDP.asks_after hfs).1 (List.mem_of_getElem? hserial)
  rw [NetSimUDP.occurrences, List.countP_eq_zero]
  intro packet hmem _
  exact (awaited_after cfg es s c hports h srcId destId src dest packet hzero hsrc hdest hserves
    hmem).not_of_delivered hdelivered hanswered

/-- The answer lets the packet of a transmission go. -/
theorem answered_of_oneTransmission :
    ∃ s, after twoEnvironments oneTransmission = some s ∧
      (∃! place, s.udp.occurrences 1 2 0 place ≠ 0) ∧
        s.udp.occurrences 1 2 0 .waiting = 0 := by
  have hrun : (after twoEnvironments oneTransmission).map (fun s =>
      (s.quiet [true, false], s.unanswered true, s.udp.accepted[0]?.map fun p => (p.1, p.2.1))) =
        some (true, [], some (1, 2)) := by
    decide +kernel
  obtain ⟨s, hs, hresult⟩ := Option.map_eq_some_iff.1 hrun
  rw [Prod.mk.injEq, Prod.mk.injEq] at hresult
  obtain ⟨⟨srcId, destId, msg⟩, hserial, hpair⟩ := Option.map_eq_some_iff.1 hresult.2.2
  rw [Prod.mk.injEq] at hpair
  obtain ⟨rfl, rfl⟩ := hpair
  exact ⟨s, hs, answered_after twoEnvironments oneTransmission s true (by decide +kernel) hs
    (delivered_of_quiet (by decide) hresult.1) hresult.2.1 0 1 2 msg ⟨62000, 1, 10⟩ hserial
    rfl (by decide +kernel) (by decide)⟩

end Answered

end Network

end Netsim
