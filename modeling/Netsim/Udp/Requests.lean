import Netsim.Lib.Selection
import Netsim.Udp.Responses

/-!
# One request for each packet

For every accepted pair of a transmission and a destination, an impulse response is requested, in
order and with consecutive numbers; a packet that waits has been accepted by the event, or has
waited before (`requests_step`).
-/

namespace Netsim

namespace NetSimUDP

variable {ε : Type}

/-- An impulse request asks for the modems of an accepted pair. -/
structure Asks (cfg : NetSimUDPConfig ε) (pair : ℤ × ℤ × ModemTransmission)
    (req : ImpulseRequest) : Prop where
  source : ∃ src, cfg.modemAt pair.1 = some src ∧ req.source = toString src.modemTcpPort.toNat
  receiver : ∃ dest, cfg.modemAt pair.2.1 = some dest ∧
    req.receiver = toString dest.modemTcpPort.toNat

/-- In a step from `s` to `s'` the pairs are accepted, for each of which an impulse response is
requested; nothing else begins to wait. -/
structure Requests (cfg : NetSimUDPConfig ε) (pairs : List (ℤ × ℤ × ModemTransmission))
    (s s' : NetSimUDP ε) : Prop where
  impulse : ∃ reqs, s'.impulseRequests = s.impulseRequests ++ reqs ∧
    List.Forall₂ (Asks cfg) pairs reqs ∧ s'.impReqId = s.impReqId + reqs.length ∧
      reqs.map (·.requestId) = List.range' s.impReqId reqs.length
  performance : s.performanceRequests <+: s'.performanceRequests
  waiting : ∀ srcId destId packet, packet ∈ s'.waiting srcId destId →
    packet ∈ s.waiting srcId destId ∨ ∃ msg, (srcId, destId, msg) ∈ pairs

section Steps

variable {cfg : NetSimUDPConfig ε} {s s' s'' : NetSimUDP ε} {srcId destId : ℤ}
  {pairs pairs' : List (ℤ × ℤ × ModemTransmission)}

/-- Nothing is requested in a step that only lets packets go. -/
theorem Requests.of_same (himpulse : s'.impulseRequests = s.impulseRequests)
    (hid : s'.impReqId = s.impReqId) (hperformance : s'.performanceRequests = s.performanceRequests)
    (hwaiting : ∀ srcId destId packet, packet ∈ s'.waiting srcId destId →
      packet ∈ s.waiting srcId destId) : Requests cfg [] s s' where
  impulse := ⟨[], by simp [himpulse], .nil, by simp [hid], rfl⟩
  performance := hperformance ▸ List.prefix_rfl
  waiting srcId destId packet hmem := .inl (hwaiting srcId destId packet hmem)

theorem Requests.refl (s : NetSimUDP ε) : Requests cfg [] s s :=
  .of_same rfl rfl rfl fun _ _ _ h => h

theorem Requests.trans (h : Requests cfg pairs s s') (h' : Requests cfg pairs' s' s'') :
    Requests cfg (pairs ++ pairs') s s'' := by
  obtain ⟨reqs, hreqs, hasks, hid, hids⟩ := h.impulse
  obtain ⟨reqs', hreqs', hasks', hid', hids'⟩ := h'.impulse
  refine ⟨⟨reqs ++ reqs', ?_, List.rel_append hasks hasks', ?_, ?_⟩,
    h.performance.trans h'.performance, fun srcId destId packet hmem => ?_⟩
  · rw [hreqs', hreqs, List.append_assoc]
  · rw [hid', hid, List.length_append, Nat.add_assoc]
  · rw [List.map_append, hids, hids', hid, List.length_append, ← List.range'_append_1]
  · rcases h'.waiting srcId destId packet hmem with hmem | ⟨msg, hmem⟩
    · rcases h.waiting srcId destId packet hmem with hmem | ⟨msg, hmem⟩
      · exact .inl hmem
      · exact .inr ⟨msg, List.mem_append_left _ hmem⟩
    · exact .inr ⟨msg, List.mem_append_right _ hmem⟩

/-- A step that requests nothing may come before. -/
theorem Requests.nil_trans (h : Requests cfg [] s s') (h' : Requests cfg pairs s' s'') :
    Requests cfg pairs s s'' := h.trans h'

theorem requests_impulseRequest {now : ℚ} {msg : ModemTransmission}
    (h : s.impulseRequest cfg now srcId destId msg = some s') :
    Requests cfg [(srcId, destId, msg)] s s' := by
  obtain ⟨-, -, -, -, hwaiting⟩ := impulseRequest_spec h
  simp only [impulseRequest, Option.bind_eq_bind, Option.bind_eq_some_iff, Option.some_inj] at h
  obtain ⟨src, hsrc, dest, hdest, rfl⟩ := h
  refine ⟨⟨_, rfl, .cons ⟨⟨src, hsrc, rfl⟩, ⟨dest, hdest, rfl⟩⟩ .nil, rfl, rfl⟩,
    List.prefix_rfl, fun srcId' destId' packet hmem => ?_⟩
  rw [hwaiting] at hmem
  split_ifs at hmem with hpair
  · exact .inr ⟨msg, by rw [hpair.1, hpair.2]; exact List.mem_singleton_self _⟩
  · exact .inl hmem

theorem requests_forwardPacket {now : ℚ} {msg : ModemTransmission}
    (h : forwardPacket cfg now srcId msg s destId = some s') :
    Requests cfg [(srcId, destId, msg)] s s' := by
  obtain ⟨s₁, hs₁, hrequest⟩ := Option.bind_eq_some_iff.1 h
  refine Requests.nil_trans ?_ (requests_impulseRequest hrequest)
  split_ifs at hs₁
  -- with MPP, a performance request comes first
  · simp only [performanceRequest, Option.bind_eq_bind, Option.bind_eq_some_iff, Option.some_inj]
      at hs₁
    obtain ⟨src, -, dest, -, rfl⟩ := hs₁
    exact ⟨⟨[], by simp, .nil, rfl, rfl⟩, List.prefix_append _ _, fun _ _ _ hmem => .inl hmem⟩
  · obtain rfl := Option.some_inj.1 hs₁
    exact .refl s

/-- What `answerWaiting` does to the packets requests nothing. -/
theorem requests_handleWaiting {luck : Luck} {owtt : ℚ} {k : ℕ}
    {queue : List (ℕ × ModemTransmission)}
    (h : handleWaiting cfg luck srcId destId owtt k queue s = some s') : Requests cfg [] s s' := by
  induction queue generalizing k s with
  | nil =>
      obtain rfl := Option.some_inj.1 h
      exact .refl s
  | cons packet queue ih =>
      rw [handleWaiting] at h
      split_ifs at h with hsuccess
      · obtain ⟨dest, -, h⟩ := Option.bind_eq_some_iff.1 h
        refine .nil_trans ?_ (ih h)
        exact .of_same rfl rfl rfl fun _ _ _ hmem => hmem
      · refine .nil_trans ?_ (ih h)
        exact .of_same rfl rfl rfl fun _ _ _ hmem => hmem

theorem requests_handleResponse {r : ImpulseResponse} {luck : Luck}
    (h : s.handleResponse cfg r luck srcId destId = some s') : Requests cfg [] s s' := by
  obtain ⟨s₁, hanswer, rfl⟩ := Option.map_eq_some_iff.1 h
  have herase : Requests cfg [] s₁ (s₁.eraseWaiting srcId destId) :=
    .of_same rfl rfl rfl fun _ _ _ hmem => by
      rw [waiting_eraseWaiting] at hmem
      split_ifs at hmem
      · simp at hmem
      · exact hmem
  refine Requests.nil_trans ?_ herase
  unfold answerWaiting at hanswer
  split_ifs at hanswer
  · obtain ⟨firstArrival, -, hwait⟩ := Option.bind_eq_some_iff.1 hanswer
    exact requests_handleWaiting hwait
  · obtain rfl := Option.some_inj.1 hanswer
    exact .of_same rfl rfl rfl fun _ _ _ hmem => hmem

/-- The decimal digits of a port determine it. -/
private theorem toString_inj {m n : ℕ} (h : toString m = toString n) : m = n := by
  rw [Nat.toString_eq_ofList_toDigits, Nat.toString_eq_ofList_toDigits] at h
  have hdigits := String.ofList_injective h
  rw [← Nat.ofDigitChars_ten_toDigits (n := m), hdigits, Nat.ofDigitChars_ten_toDigits]

/-- With distinct ports, a modem is found under its port. -/
theorem tcpPortToId_of_modemAt (hports : (cfg.modem.map (·.modemTcpPort)).Nodup)
    {modem : ModemEndPoint ε} (h : cfg.modemAt srcId = some modem) :
    cfg.tcpPortToId (toString modem.modemTcpPort.toNat) = some srcId := by
  obtain ⟨hmem, hid⟩ := mem_of_modemAt h
  rw [NetSimUDPConfig.tcpPortToId, Option.map_eq_some_iff]
  cases hfind : cfg.modem.find? fun other =>
      toString other.modemTcpPort.toNat = toString modem.modemTcpPort.toNat with
  | none =>
      rw [List.find?_eq_none] at hfind
      simpa using hfind modem hmem
  | some other =>
      have hport : toString other.modemTcpPort.toNat = toString modem.modemTcpPort.toNat := by
        simpa using List.find?_some hfind
      have hsame : other = modem := List.inj_on_of_nodup_map hports
        (List.mem_of_find?_eq_some hfind) hmem (UInt32.toNat_inj.1 (toString_inj hport))
      exact ⟨other, rfl, hsame ▸ hid⟩

theorem requests_processPerformanceResponse {r : ObjFuncResponse}
    (h : s.processPerformanceResponse cfg r = some s') : Requests cfg [] s s' := by
  unfold processPerformanceResponse at h
  cases hsrc : cfg.tcpPortToId r.contact with
  | none =>
      simp only [hsrc, Option.some_inj] at h
      exact h ▸ .refl s
  | some srcId =>
      simp only [hsrc] at h
      generalize r.receiver = receivers at h
      induction receivers generalizing s with
      | nil =>
          obtain rfl := Option.some_inj.1 h
          exact .refl s
      | cons receiver receivers ih =>
          rw [List.foldlM_cons] at h
          obtain ⟨s₁, hs₁, h⟩ := Option.bind_eq_some_iff.1 h
          obtain ⟨destId, -, rfl⟩ := Option.map_eq_some_iff.1 hs₁
          refine .nil_trans ?_ (ih h)
          exact .of_same rfl rfl rfl fun _ _ _ hmem => hmem

variable [DecidableEq ε] {e : UdpEvent ε}

theorem requests_udpIn {udpSrc : ε} {msg : ModemTransmission} {now : ℚ}
    (h : s.udpIn cfg udpSrc msg now = some s') :
    Requests cfg (accepts cfg (.udpIn udpSrc msg now)) s s' := by
  unfold NetSimUDP.udpIn at h
  unfold accepts
  cases hsrc : cfg.endpointToId udpSrc with
  | none =>
      simp only [hsrc, Option.some_inj] at h ⊢
      exact h ▸ .refl s
  | some srcId =>
      simp only [hsrc] at h ⊢
      generalize destinations cfg srcId msg = dests at h ⊢
      -- on the destinations
      induction dests generalizing s with
      | nil =>
          obtain rfl := Option.some_inj.1 h
          exact .refl s
      | cons dest dests ih =>
          rw [List.foldlM_cons] at h
          obtain ⟨s₁, hs₁, h⟩ := Option.bind_eq_some_iff.1 h
          exact (requests_forwardPacket hs₁).trans (ih h)

/-- One event requests an impulse response for each pair that it makes the application accept. -/
theorem requests_step (h : step cfg s e = some s') : Requests cfg (accepts cfg e) s s' := by
  cases e with
  | udpIn udpSrc msg now => exact requests_udpIn h
  | impulseResponse r luck =>
      simp only [step, processImpulseResponse] at h
      cases hsrc : cfg.tcpPortToId r.source with
      | none =>
          simp only [hsrc, Option.some_inj] at h
          exact h ▸ .refl s
      | some srcId =>
          simp only [hsrc] at h
          obtain ⟨destId, -, h⟩ := Option.bind_eq_some_iff.1 h
          split_ifs at h
          · obtain rfl := Option.some_inj.1 h
            exact .refl s
          · exact requests_handleResponse h
  | performanceResponse r =>
      rw [step] at h
      split_ifs at h
      · exact requests_processPerformanceResponse h
      · obtain rfl := Option.some_inj.1 h
        exact .refl s
  | loop now =>
      obtain rfl := Option.some_inj.1 h
      exact .of_same rfl rfl rfl fun _ _ _ hmem => hmem

/-- Nothing waits for the pair of a response that has been handled, unless the receiver is modem
0. -/
theorem waiting_of_impulseResponse {r : ImpulseResponse} {luck : Luck} (hdest : destId ≠ 0)
    (hsource : cfg.tcpPortToId r.source = some srcId)
    (hreceiver : cfg.tcpPortToId r.receiver = some destId)
    (h : step cfg s (.impulseResponse r luck) = some s') : s'.waiting srcId destId = [] := by
  simp only [step, processImpulseResponse, hsource, hreceiver, Option.bind_some, hdest, if_false]
    at h
  exact waiting_handleResponse h

/-- In a run, the accepted pairs and the requests for them are in the same order. -/
theorem asks_after {es : List (UdpEvent ε)} (h : after cfg es = some s) :
    List.Forall₂ (Asks cfg) s.accepted s.impulseRequests ∧
      s.impulseRequests.map (·.requestId) = List.range s.impulseRequests.length := by
  obtain ⟨s₀, hinit, hrun⟩ := Option.bind_eq_some_iff.1 h
  rw [(ledger_after h).2]
  have hrequests : Requests cfg (es.flatMap (accepts cfg)) s₀ s := by
    clear h
    induction es using List.reverseRecOn generalizing s with
    | nil =>
        cases hrun
        exact .refl s₀
    | append_singleton es e ih =>
        obtain ⟨u, hu, hstep⟩ := (Run.exec_concat_eq_some _ _).1 hrun
        rw [List.flatMap_append, List.flatMap_singleton]
        exact (ih hu).trans (requests_step hstep)
  obtain ⟨reqs, hreqs, hasks, -, hids⟩ := hrequests.impulse
  unfold init at hinit
  split_ifs at hinit
  obtain rfl := Option.some_inj.1 hinit
  rw [List.nil_append] at hreqs
  rw [hreqs]
  exact ⟨hasks, by rw [hids, List.range_eq_range']⟩

end Steps

end NetSimUDP

end Netsim
