import Mathlib.Data.List.Nodup
import Netsim.Udp.Model

/-!
# Conservation of packets

Every accepted pair of a transmission and a destination is at any moment in exactly one place:
waiting for an impulse response under its source and destination, waiting for its travel time to
elapse, published, or discarded. It is published once, to the endpoint of its destination, and not
before the time of transmission plus the travel time that was found when the response of the pair
was handled; and it is discarded only by a response without a raytrace or by a coin flip that fails
(`conserved_after`).
-/

namespace Netsim

namespace NetSimUDP

variable {ε : Type}

/-- The places where an accepted packet can be. -/
inductive Place
  | waiting
  | delayed
  | published
  | discarded

/-- How often a serial number occurs in a place; `waiting` is under `srcId` and `destId`. -/
def occurrences (s : NetSimUDP ε) (srcId destId : ℤ) (serial : ℕ) : Place → ℕ
  | .waiting => (s.waiting srcId destId).countP (·.1 = serial)
  | .delayed => s.delayBuffer.entries.countP (·.2.1 = serial)
  | .published => s.udpOut.countP (·.2.1 = serial)
  | .discarded => s.discarded.count serial

/-- The total number of occurrences. -/
def total (s : NetSimUDP ε) (srcId destId : ℤ) (serial : ℕ) : ℕ :=
  s.occurrences srcId destId serial .waiting + s.occurrences srcId destId serial .delayed +
    s.occurrences srcId destId serial .published + s.occurrences srcId destId serial .discarded

variable [DecidableEq ε]

/-- The pairs that an event makes the application accept. -/
def accepts (cfg : NetSimUDPConfig ε) : UdpEvent ε → List (ℤ × ℤ × ModemTransmission)
  | .udpIn udpSrc msg _ =>
      match cfg.endpointToId udpSrc with
      | none => []
      | some srcId => (destinations cfg srcId msg).map fun destId => (srcId, destId, msg)
  | _ => []

/-- In the run `es` a response of the pair was handled while the packet was waiting for it, and
the travel time found was `owtt`. -/
def Assigned (cfg : NetSimUDPConfig ε) (es : List (UdpEvent ε)) (srcId destId : ℤ) (serial : ℕ)
    (owtt : ℚ) : Prop :=
  ∃ pre r luck post s firstArrival msg, es = pre ++ .impulseResponse r luck :: post ∧
    after cfg pre = some s ∧ cfg.tcpPortToId r.source = some srcId ∧
    cfg.tcpPortToId r.receiver = some destId ∧ (serial, msg) ∈ s.waiting srcId destId ∧
    travelTime luck r = some firstArrival ∧ owtt = firstArrival + luck.outlier.getD 0

/-- The coin flip of the `k`th of the packets that wait for a pair fails, with the probability of
success that the method has. -/
def CoinFails (cfg : NetSimUDPConfig ε) (luck : Luck) (s : NetSimUDP ε) (srcId destId : ℤ)
    (owtt : ℚ) (k : ℕ) : Prop :=
  cfg.packetSuccessMethod = .RANGE_TABLE ∧ luck.coin k
      (cfg.linearInterpolate (owtt * cfg.soundSpeed) cfg.rangeToPacketSuccessProb.entries) = false ∨
    cfg.packetSuccessMethod = .MPP ∧ luck.coin k (s.mppTransmitProbability srcId destId) = false

/-- In the run `es` a response of the pair was handled while the packet was waiting for it, and the
response holds no raytrace, or the coin flip of the packet failed. -/
def Dropped (cfg : NetSimUDPConfig ε) (es : List (UdpEvent ε)) (srcId destId : ℤ) (serial : ℕ) :
    Prop :=
  ∃ pre r luck post s k msg, es = pre ++ .impulseResponse r luck :: post ∧
    after cfg pre = some s ∧ cfg.tcpPortToId r.source = some srcId ∧
    cfg.tcpPortToId r.receiver = some destId ∧ (s.waiting srcId destId)[k]? = some (serial, msg) ∧
    (r.raytrace = [] ∨ ∃ firstArrival, travelTime luck r = some firstArrival ∧
      CoinFails cfg luck s srcId destId (firstArrival + luck.outlier.getD 0) k)

/-- A modem that a transmission from modem `srcId` is for: all other modems if it is a broadcast,
else the one that it is addressed to. -/
def IsFor (cfg : NetSimUDPConfig ε) (srcId : ℤ) (msg : ModemTransmission) (destId : ℤ) : Prop :=
  (∃ modem ∈ cfg.modem, modem.id = destId) ∧
    if msg.type ≠ .ACK ∧ (cfg.sendAllAsBroadcast ∨ msg.dest = cfg.broadcastId) then destId ≠ srcId
    else destId = msg.dest

/-- What is delayed or published for a packet: it carries the travel time, goes to the endpoint of
the destination, and is due at `dueTime`. -/
structure Outgoing (cfg : NetSimUDPConfig ε) (es : List (UdpEvent ε)) (srcId destId : ℤ)
    (msg : ModemTransmission) (serial : ℕ) (io : IOData ε) (owtt : ℚ) (dueTime : ℤ) : Prop where
  /-- The travel time is that found for a response of the pair. -/
  assigned : Assigned cfg es srcId destId serial owtt
  /-- The transmission is the accepted one with the travel time added. -/
  data : io.data = { msg with oneWayTravelTime := msg.oneWayTravelTime ++ [owtt] }
  /-- The endpoint is the destination's. -/
  udpDest : ∃ dest, cfg.modemAt destId = some dest ∧ io.udpDest = dest.endpoint
  /-- It is due when the travel time has elapsed. -/
  dueTime : dueTime = msg.time + cfg.microTime owtt

/-- The invariant of a run. -/
structure Ledger (cfg : NetSimUDPConfig ε) (es : List (UdpEvent ε)) (s : NetSimUDP ε) : Prop where
  waiting : ∀ srcId destId serial msg, (serial, msg) ∈ s.waiting srcId destId →
    s.accepted[serial]? = some (srcId, destId, msg)
  total : ∀ serial srcId destId msg, s.accepted[serial]? = some (srcId, destId, msg) →
    s.total srcId destId serial = 1
  delayed : ∀ e ∈ s.delayBuffer.entries, ∃ srcId destId msg owtt,
    s.accepted[e.2.1]? = some (srcId, destId, msg) ∧
      Outgoing cfg es srcId destId msg e.2.1 e.2.2 owtt e.1
  published : ∀ e ∈ s.udpOut, ∃ srcId destId msg owtt dueTime,
    s.accepted[e.2.1]? = some (srcId, destId, msg) ∧ dueTime ≤ e.1 ∧
      Outgoing cfg es srcId destId msg e.2.1 e.2.2 owtt dueTime
  discarded : ∀ serial ∈ s.discarded, ∃ srcId destId msg,
    s.accepted[serial]? = some (srcId, destId, msg) ∧ Dropped cfg es srcId destId serial

/-! ### Steps -/

section Waiting

variable {s : NetSimUDP ε} {srcId destId srcId' destId' : ℤ}

omit [DecidableEq ε] in
theorem waiting_eraseWaiting :
    (s.eraseWaiting srcId destId).waiting srcId' destId' =
      if srcId' = srcId ∧ destId' = destId then [] else s.waiting srcId' destId' := by
  unfold waiting eraseWaiting
  by_cases hsrc : srcId' = srcId
  · by_cases hdest : destId' = destId
    · simp [hsrc, hdest]
    · simp [hsrc, hdest, Multimap.equalRange_erase_of_ne hdest]
  · simp [hsrc]

end Waiting

/-- What a step leaves alone that only moves packets of one pair out of `forward_buffer_`. -/
structure SameLedger (s s' : NetSimUDP ε) : Prop where
  accepted : s'.accepted = s.accepted
  forwardBuffer : s'.forwardBuffer = s.forwardBuffer
  udpOut : s'.udpOut = s.udpOut

omit [DecidableEq ε] in
theorem SameLedger.waiting {s s' : NetSimUDP ε} (h : SameLedger s s') : s'.waiting = s.waiting := by
  funext srcId destId
  rw [NetSimUDP.waiting, h.forwardBuffer, NetSimUDP.waiting]

/-- Every packet of `queue`, waiting for modem `destId`, has been moved to `delay_buffer_`, with a
travel time that meets `found`, or has been discarded, which meets `lost`. -/
structure Moved (cfg : NetSimUDPConfig ε) (destId : ℤ) (found : ℚ → Prop) (lost : ℕ → Prop)
    (queue : List (ℕ × ModemTransmission)) (s s' : NetSimUDP ε) : Prop where
  same : SameLedger s s'
  /-- No packet is lost or doubled. -/
  count : ∀ serial, s'.delayBuffer.entries.countP (·.2.1 = serial) + s'.discarded.count serial =
    s.delayBuffer.entries.countP (·.2.1 = serial) + s.discarded.count serial +
      queue.countP (·.1 = serial)
  delayed : ∀ e ∈ s'.delayBuffer.entries, e ∈ s.delayBuffer.entries ∨ ∃ msg dest owtt,
    (e.2.1, msg) ∈ queue ∧ cfg.modemAt destId = some dest ∧ found owtt ∧
      e.1 = msg.time + cfg.microTime owtt ∧
      e.2.2 = ⟨{ msg with oneWayTravelTime := msg.oneWayTravelTime ++ [owtt] }, dest.endpoint⟩
  discarded : ∀ serial ∈ s'.discarded, serial ∈ s.discarded ∨ ∃ k msg,
    queue[k]? = some (serial, msg) ∧ lost k

section HandleWaiting

variable {cfg : NetSimUDPConfig ε} {luck : Luck} {srcId destId : ℤ} {owtt : ℚ}

omit [DecidableEq ε] in
/-- Whether a packet succeeds depends on the performance table alone. -/
theorem packetSuccess_congr {s t : NetSimUDP ε} (h : t.perfTable = s.perfTable) (k : ℕ) :
    packetSuccess cfg luck t srcId destId owtt k =
      packetSuccess cfg luck s srcId destId owtt k := by
  simp only [packetSuccess, mppTransmitProbability, h]

omit [DecidableEq ε] in
theorem packetSuccess_eq_false_iff {s : NetSimUDP ε} {k : ℕ} :
    packetSuccess cfg luck s srcId destId owtt k = false ↔
      CoinFails cfg luck s srcId destId owtt k := by
  cases hmethod : cfg.packetSuccessMethod <;> simp [packetSuccess, CoinFails, hmethod]

omit [DecidableEq ε] in
/-- The loop over the waiting packets moves each of them to `delay_buffer_` or discards it. -/
theorem moved_handleWaiting {k : ℕ} {queue : List (ℕ × ModemTransmission)} {s s' : NetSimUDP ε}
    (h : handleWaiting cfg luck srcId destId owtt k queue s = some s') :
    Moved cfg destId (· = owtt) (fun j => CoinFails cfg luck s srcId destId owtt (k + j)) queue
      s s' := by
  -- on the packets that wait; the state is what the packets before have left
  induction queue generalizing k s with
  | nil =>
      obtain rfl := Option.some_inj.1 h
      exact ⟨⟨rfl, rfl, rfl⟩, by simp, fun e he => .inl he, fun x hx => .inl hx⟩
  | cons packet queue ih =>
      obtain ⟨serial, msg⟩ := packet
      rw [handleWaiting] at h
      split_ifs at h with hsuccess
      · -- the packet succeeds and is delayed
        obtain ⟨dest, hdest, h⟩ := Option.bind_eq_some_iff.1 h
        obtain ⟨hsame, hcount, hdelayed, hdiscarded⟩ := ih h
        refine ⟨⟨hsame.accepted, hsame.forwardBuffer, hsame.udpOut⟩, fun x => ?_, fun e he => ?_,
          fun x hx => ?_⟩
        · rw [hcount x, delay, Multimap.countP_insert, List.countP_cons]
          simp only [decide_eq_true_eq]
          omega
        · rcases hdelayed e he with he | ⟨msg', dest', owtt', hmem, hfound⟩
          · rcases Multimap.mem_entries_insert.1 he with rfl | he
            · exact .inr ⟨msg, dest, owtt, by simp, hdest, rfl, rfl, rfl⟩
            · exact .inl he
          · exact .inr ⟨msg', dest', owtt', by simp [hmem], hfound⟩
        · rcases hdiscarded x hx with hx | ⟨j, msg', hj, hlost⟩
          · exact .inl hx
          · exact .inr ⟨j + 1, msg', hj, by rwa [Nat.add_comm j 1, ← Nat.add_assoc]⟩
      · -- the coin flip fails
        obtain ⟨hsame, hcount, hdelayed, hdiscarded⟩ := ih h
        refine ⟨⟨hsame.accepted, hsame.forwardBuffer, hsame.udpOut⟩, fun x => ?_, fun e he => ?_,
          fun x hx => ?_⟩
        · rw [hcount x, List.count_append, List.countP_cons, List.count_singleton]
          simp only [decide_eq_true_eq, beq_iff_eq]
          omega
        · rcases hdelayed e he with he | ⟨msg', dest', owtt', hmem, hfound⟩
          · exact .inl he
          · exact .inr ⟨msg', dest', owtt', by simp [hmem], hfound⟩
        · rcases hdiscarded x hx with hx | ⟨j, msg', hj, hlost⟩
          · rcases List.mem_append.1 hx with hx | hx
            · exact .inl hx
            · rw [List.mem_singleton.1 hx]
              rw [Bool.not_eq_true, packetSuccess_eq_false_iff] at hsuccess
              exact .inr ⟨0, msg, rfl, hsuccess⟩
          · exact .inr ⟨j + 1, msg', hj, by rwa [Nat.add_comm j 1, ← Nat.add_assoc]⟩

omit [DecidableEq ε] in
/-- Whether or not the response holds a raytrace, the packets that wait for it are moved, and the
travel time is the one found for it. -/
theorem moved_answerWaiting {r : ImpulseResponse} {s s' : NetSimUDP ε}
    (h : s.answerWaiting cfg r luck srcId destId = some s') :
    Moved cfg destId
      (fun owtt => ∃ firstArrival, travelTime luck r = some firstArrival ∧
        owtt = firstArrival + luck.outlier.getD 0)
      (fun k => r.raytrace = [] ∨ ∃ firstArrival, travelTime luck r = some firstArrival ∧
        CoinFails cfg luck s srcId destId (firstArrival + luck.outlier.getD 0) k)
      (s.waiting srcId destId) s s' := by
  unfold answerWaiting at h
  split_ifs at h with hrays
  · obtain ⟨firstArrival, harrival, hwait⟩ := Option.bind_eq_some_iff.1 h
    obtain ⟨hsame, hcount, hdelayed, hdiscarded⟩ := moved_handleWaiting hwait
    refine ⟨hsame, hcount, fun e he => ?_, fun x hx => ?_⟩
    · rcases hdelayed e he with he | ⟨msg, dest, owtt, hmem, hdest, howtt, hout⟩
      · exact .inl he
      · exact .inr ⟨msg, dest, owtt, hmem, hdest, ⟨firstArrival, harrival, howtt⟩, hout⟩
    · rcases hdiscarded x hx with hx | ⟨k, msg, hk, hfails⟩
      · exact .inl hx
      · rw [Nat.zero_add] at hfails
        exact .inr ⟨k, msg, hk, .inr ⟨firstArrival, harrival, hfails⟩⟩
  · -- no raytrace: all of them are discarded
    obtain rfl := Option.some_inj.1 h
    refine ⟨⟨rfl, rfl, rfl⟩, fun serial => ?_, fun e he => .inl he, fun x hx => ?_⟩
    · rw [List.count_append, Nat.add_assoc, List.count_eq_countP (l := (_ : List _).map _),
        List.countP_map]
      rfl
    · refine (List.mem_append.1 hx).imp id fun hx => ?_
      obtain ⟨packet, hpacket, rfl⟩ := List.mem_map.1 hx
      obtain ⟨k, hk⟩ := List.mem_iff_getElem?.1 hpacket
      exact ⟨k, packet.2, hk, .inl (not_not.1 hrays)⟩

end HandleWaiting

section Steps

variable {cfg : NetSimUDPConfig ε} {es : List (UdpEvent ε)} {e : UdpEvent ε} {s s' : NetSimUDP ε}
  {srcId destId : ℤ} {msg : ModemTransmission} {serial : ℕ} {io : IOData ε} {owtt : ℚ}
  {dueTime : ℤ}

theorem Assigned.concat (h : Assigned cfg es srcId destId serial owtt) :
    Assigned cfg (es ++ [e]) srcId destId serial owtt := by
  obtain ⟨pre, r, luck, post, rest, firstArrival, msg, rfl, hrest⟩ := h
  exact ⟨pre, r, luck, post ++ [e], rest, firstArrival, msg, by simp, hrest⟩

theorem Dropped.concat (h : Dropped cfg es srcId destId serial) :
    Dropped cfg (es ++ [e]) srcId destId serial := by
  obtain ⟨pre, r, luck, post, rest, k, msg, rfl, hrest⟩ := h
  exact ⟨pre, r, luck, post ++ [e], rest, k, msg, by simp, hrest⟩

theorem Outgoing.concat (h : Outgoing cfg es srcId destId msg serial io owtt dueTime) :
    Outgoing cfg (es ++ [e]) srcId destId msg serial io owtt dueTime :=
  ⟨h.assigned.concat, h.data, h.udpDest, h.dueTime⟩

/-- The invariant holds of a longer run in the same state. -/
theorem Ledger.concat (h : Ledger cfg es s) : Ledger cfg (es ++ [e]) s where
  waiting := h.waiting
  total := h.total
  delayed x hx := by
    obtain ⟨srcId, destId, msg, owtt, haccepted, hout⟩ := h.delayed x hx
    exact ⟨srcId, destId, msg, owtt, haccepted, hout.concat⟩
  published x hx := by
    obtain ⟨srcId, destId, msg, owtt, dueTime, haccepted, hle, hout⟩ := h.published x hx
    exact ⟨srcId, destId, msg, owtt, dueTime, haccepted, hle, hout.concat⟩
  discarded x hx := by
    obtain ⟨srcId, destId, msg, haccepted, hdropped⟩ := h.discarded x hx
    exact ⟨srcId, destId, msg, haccepted, hdropped.concat⟩

/-- The invariant only depends on the packets. -/
theorem Ledger.of_same (h : Ledger cfg es s) (hsame : SameLedger s s')
    (hdelay : s'.delayBuffer = s.delayBuffer) (hdiscarded : s'.discarded = s.discarded) :
    Ledger cfg es s' where
  waiting srcId destId serial msg hmem := by
    rw [hsame.accepted]
    exact h.waiting _ _ _ _ (hsame.waiting ▸ hmem)
  total serial srcId destId msg haccepted := by
    rw [hsame.accepted] at haccepted
    rw [← h.total serial srcId destId msg haccepted]
    simp only [NetSimUDP.total, occurrences, hsame.waiting, hsame.udpOut, hdelay, hdiscarded]
  delayed := by
    rw [hsame.accepted, hdelay]
    exact h.delayed
  published := by
    rw [hsame.accepted, hsame.udpOut]
    exact h.published
  discarded := by
    rw [hsame.accepted, hdiscarded]
    exact h.discarded

/-! #### Accepting -/

/-- A new serial number occurs nowhere. -/
theorem Ledger.total_length (h : Ledger cfg es s) (srcId destId : ℤ) :
    s.total srcId destId s.accepted.length = 0 := by
  have hlt {serial : ℕ} {x : ℤ × ℤ × ModemTransmission} (hx : s.accepted[serial]? = some x) :
      serial < s.accepted.length := (List.getElem?_eq_some_iff.1 hx).1
  simp only [NetSimUDP.total, occurrences, Nat.add_eq_zero_iff, List.countP_eq_zero,
    decide_eq_true_eq]
  -- in each place the serial numbers are those of the ledger
  refine ⟨⟨⟨fun x hx heq => ?_, fun x hx heq => ?_⟩, fun x hx heq => ?_⟩, ?_⟩
  · exact absurd (hlt (h.waiting srcId destId x.1 x.2 hx)) (by omega)
  · obtain ⟨_, _, _, _, haccepted, -⟩ := h.delayed x hx
    exact absurd (hlt haccepted) (by omega)
  · obtain ⟨_, _, _, _, _, haccepted, -⟩ := h.published x hx
    exact absurd (hlt haccepted) (by omega)
  · refine List.count_eq_zero.2 fun hmem => ?_
    obtain ⟨_, _, _, haccepted, -⟩ := h.discarded _ hmem
    exact absurd (hlt haccepted) (Nat.lt_irrefl _)

omit [DecidableEq ε] in
/-- A request of an impulse response accepts a packet and lets it wait. -/
theorem impulseRequest_spec {now : ℚ}
    (hrequest : s.impulseRequest cfg now srcId destId msg = some s') :
    s'.accepted = s.accepted ++ [(srcId, destId, msg)] ∧ s'.delayBuffer = s.delayBuffer ∧
      s'.udpOut = s.udpOut ∧ s'.discarded = s.discarded ∧
      ∀ srcId' destId', s'.waiting srcId' destId' =
        if srcId' = srcId ∧ destId' = destId then
          s.waiting srcId destId ++ [(s.accepted.length, msg)]
        else s.waiting srcId' destId' := by
  simp only [impulseRequest, Option.bind_eq_bind, Option.bind_eq_some_iff, Option.some_inj]
    at hrequest
  obtain ⟨src, -, dest, -, rfl⟩ := hrequest
  refine ⟨rfl, rfl, rfl, rfl, fun srcId' destId' => ?_⟩
  simp only [NetSimUDP.waiting]
  -- only the pair of the packet waits for something new
  by_cases hsrc : srcId' = srcId
  · by_cases hdest : destId' = destId
    · simp [hsrc, hdest]
    · simp [hsrc, hdest, Multimap.equalRange_insert_of_ne hdest]
  · simp [hsrc]

theorem Ledger.impulseRequest {now : ℚ} (h : Ledger cfg es s)
    (hrequest : s.impulseRequest cfg now srcId destId msg = some s') : Ledger cfg es s' := by
  obtain ⟨haccepted, hdelay, hudpOut, hdiscarded, hwaiting⟩ := impulseRequest_spec hrequest
  have hold {serial : ℕ} {x : ℤ × ℤ × ModemTransmission} (hx : s.accepted[serial]? = some x) :
      s'.accepted[serial]? = some x := by
    rw [haccepted]
    exact List.getElem?_append_left (List.getElem?_eq_some_iff.1 hx).1 ▸ hx
  have htotal (serial : ℕ) (srcId' destId' : ℤ) : s'.total srcId' destId' serial =
      s.total srcId' destId' serial +
        if (srcId' = srcId ∧ destId' = destId) ∧ serial = s.accepted.length then 1 else 0 := by
    simp only [NetSimUDP.total, occurrences, hdelay, hudpOut, hdiscarded, hwaiting]
    by_cases hpair : srcId' = srcId ∧ destId' = destId
    · rw [if_pos hpair, hpair.1, hpair.2, List.countP_append, List.countP_singleton]
      simp only [decide_eq_true_eq, and_self, true_and, eq_comm (a := serial)]
      omega
    · simp [hpair]
  refine ⟨fun srcId' destId' serial msg' hmem => ?_, fun serial srcId' destId' msg' hserial => ?_,
    fun x hx => ?_, fun x hx => ?_, fun x hx => ?_⟩
  · rw [hwaiting] at hmem
    split_ifs at hmem with hpair
    · rcases List.mem_append.1 hmem with hmem | hmem
      · exact hold (hpair.1 ▸ hpair.2 ▸ h.waiting _ _ _ _ hmem)
      · rw [List.mem_singleton, Prod.mk.injEq] at hmem
        rw [haccepted, hmem.1, hmem.2, hpair.1, hpair.2]
        simp
    · exact hold (h.waiting _ _ _ _ hmem)
  · rw [htotal]
    rw [haccepted] at hserial
    -- a packet of the ledger, or the new one
    by_cases hlt : serial < s.accepted.length
    · rw [List.getElem?_append_left hlt] at hserial
      rw [h.total serial srcId' destId' msg' hserial, if_neg fun heq => absurd heq.2 hlt.ne]
    · have heq : serial = s.accepted.length := by
        have hlength := (List.getElem?_eq_some_iff.1 hserial).1
        rw [List.length_append, List.length_singleton] at hlength
        omega
      subst heq
      have hnew : (srcId, destId, msg) = (srcId', destId', msg') := by
        simpa using hserial
      rw [Prod.mk.injEq, Prod.mk.injEq] at hnew
      rw [h.total_length, if_pos ⟨⟨hnew.1.symm, hnew.2.1.symm⟩, rfl⟩]
  · obtain ⟨srcId', destId', msg', owtt, hserial, hout⟩ := h.delayed x (hdelay ▸ hx)
    exact ⟨srcId', destId', msg', owtt, hold hserial, hout⟩
  · obtain ⟨srcId', destId', msg', owtt, dueTime, hserial, hout⟩ := h.published x (hudpOut ▸ hx)
    exact ⟨srcId', destId', msg', owtt, dueTime, hold hserial, hout⟩
  · obtain ⟨srcId', destId', msg', hserial, hdropped⟩ := h.discarded x (hdiscarded ▸ hx)
    exact ⟨srcId', destId', msg', hold hserial, hdropped⟩

theorem Ledger.forwardPacket {now : ℚ} (h : Ledger cfg es s)
    (hforward : forwardPacket cfg now srcId msg s destId = some s') :
    Ledger cfg es s' ∧ s'.accepted = s.accepted ++ [(srcId, destId, msg)] := by
  obtain ⟨s₁, hs₁, hrequest⟩ := Option.bind_eq_some_iff.1 hforward
  split_ifs at hs₁
  -- with MPP, a performance request comes first and moves no packet
  · simp only [performanceRequest, Option.bind_eq_bind, Option.bind_eq_some_iff, Option.some_inj]
      at hs₁
    obtain ⟨src, -, dest, -, rfl⟩ := hs₁
    refine ⟨Ledger.impulseRequest ?_ hrequest, (impulseRequest_spec hrequest).1⟩
    exact h.of_same ⟨rfl, rfl, rfl⟩ rfl rfl
  · obtain rfl := Option.some_inj.1 hs₁
    exact ⟨h.impulseRequest hrequest, (impulseRequest_spec hrequest).1⟩

theorem Ledger.udpIn {udpSrc : ε} {now : ℚ} (h : Ledger cfg es s)
    (hin : s.udpIn cfg udpSrc msg now = some s') :
    Ledger cfg es s' ∧ s'.accepted = s.accepted ++ accepts cfg (.udpIn udpSrc msg now) := by
  unfold NetSimUDP.udpIn at hin
  unfold accepts
  cases hsrc : cfg.endpointToId udpSrc with
  | none =>
      simp only [hsrc, Option.some_inj] at hin
      subst hin
      exact ⟨h, by simp [hsrc]⟩
  | some srcId =>
      simp only [hsrc] at hin ⊢
      generalize destinations cfg srcId msg = dests at hin ⊢
      -- on the destinations, each of which is accepted and waits
      induction dests generalizing s with
      | nil =>
          obtain rfl := Option.some_inj.1 hin
          exact ⟨h, by simp⟩
      | cons dest dests ih =>
          rw [List.foldlM_cons] at hin
          obtain ⟨s₁, hs₁, hin⟩ := Option.bind_eq_some_iff.1 hin
          obtain ⟨h₁, haccepted₁⟩ := h.forwardPacket hs₁
          obtain ⟨h', haccepted'⟩ := ih h₁ hin
          exact ⟨h', by rw [haccepted', haccepted₁, List.append_assoc]; rfl⟩

/-! #### Handling a response -/

/-- Once a response of a pair has been handled, all packets that waited for it are delayed or
discarded. -/
theorem Ledger.handleResponse {r : ImpulseResponse} {luck : Luck} (h : Ledger cfg es s)
    (hreach : after cfg es = some s) (hsrc : cfg.tcpPortToId r.source = some srcId)
    (hdest : cfg.tcpPortToId r.receiver = some destId)
    (hresponse : s.handleResponse cfg r luck srcId destId = some s') :
    Ledger cfg (es ++ [.impulseResponse r luck]) s' ∧ s'.accepted = s.accepted := by
  obtain ⟨s₁, hanswer, hs₁⟩ := Option.map_eq_some_iff.1 hresponse
  obtain ⟨hsame, hcount, hdelayed, hdiscarded⟩ := moved_answerWaiting hanswer
  have hwaiting (srcId' destId' : ℤ) : s'.waiting srcId' destId' =
      if srcId' = srcId ∧ destId' = destId then [] else s.waiting srcId' destId' := by
    rw [← hs₁, waiting_eraseWaiting, hsame.waiting]
  have haccepted : s'.accepted = s.accepted := by rw [← hs₁]; exact hsame.accepted
  have hudpOut : s'.udpOut = s.udpOut := by rw [← hs₁]; exact hsame.udpOut
  have hdelay' : s'.delayBuffer = s₁.delayBuffer := by rw [← hs₁]; rfl
  have hdiscarded' : s'.discarded = s₁.discarded := by rw [← hs₁]; rfl
  refine ⟨⟨fun srcId' destId' serial msg hmem => ?_, fun serial srcId' destId' msg hserial => ?_,
    fun x hx => ?_, fun x hx => ?_, fun x hx => ?_⟩, haccepted⟩
  · rw [hwaiting] at hmem
    split_ifs at hmem
    · simp at hmem
    · rw [haccepted]
      exact h.waiting _ _ _ _ hmem
  · rw [haccepted] at hserial
    have htotal := h.total serial srcId' destId' msg hserial
    have hmoved := hcount serial
    simp only [NetSimUDP.total, occurrences] at htotal ⊢
    rw [hwaiting, hdelay', hdiscarded', hudpOut]
    -- what was waiting for the pair is now counted where it was moved to
    split_ifs with hpair
    · rw [hpair.1, hpair.2] at htotal
      simp only [List.countP_nil]
      omega
    · -- the packet is of another pair, so it was not among those that were handled
      have hzero : (s.waiting srcId destId).countP (·.1 = serial) = 0 := by
        rw [List.countP_eq_zero]
        intro x hx heq
        have hledger := h.waiting srcId destId x.1 x.2 hx
        rw [of_decide_eq_true heq, hserial, Option.some_inj, Prod.mk.injEq, Prod.mk.injEq]
          at hledger
        exact hpair ⟨hledger.1, hledger.2.1⟩
      omega
  · rw [haccepted]
    rw [hdelay'] at hx
    rcases hdelayed x hx with hx | ⟨msg, dest, owtt, hmem, hmodem, hfound, htime, hio⟩
    · obtain ⟨srcId', destId', msg, owtt, hserial, hout⟩ := h.delayed x hx
      exact ⟨srcId', destId', msg, owtt, hserial, hout.concat⟩
    · -- it has just been moved: this is the event that assigned its travel time
      obtain ⟨firstArrival, harrival, howtt⟩ := hfound
      refine ⟨srcId, destId, msg, owtt, h.waiting _ _ _ _ hmem, ?_, ?_, ⟨dest, hmodem, ?_⟩, htime⟩
      · exact ⟨es, r, luck, [], s, firstArrival, msg, rfl, hreach, hsrc, hdest, hmem, harrival,
          howtt⟩
      · rw [hio]
      · rw [hio]
  · rw [haccepted]
    obtain ⟨srcId', destId', msg, owtt, dueTime, hserial, hle, hout⟩ := h.published x (hudpOut ▸ hx)
    exact ⟨srcId', destId', msg, owtt, dueTime, hserial, hle, hout.concat⟩
  · rw [haccepted]
    rw [hdiscarded'] at hx
    rcases hdiscarded x hx with hx | ⟨k, msg, hk, hlost⟩
    · obtain ⟨srcId', destId', msg, hserial, hdropped⟩ := h.discarded x hx
      exact ⟨srcId', destId', msg, hserial, hdropped.concat⟩
    -- this is the event that dropped it
    · exact ⟨srcId, destId, msg, h.waiting _ _ _ _ (List.mem_of_getElem? hk), es, r, luck, [], s,
        k, msg, rfl, hreach, hsrc, hdest, hk, hlost⟩

/-! #### The loop -/

omit [DecidableEq ε] in
theorem total_loop (now : ℤ) (srcId destId : ℤ) (serial : ℕ) :
    (s.loop now).total srcId destId serial = s.total srcId destId serial := by
  have hsplit := Multimap.countP_upTo_add_above (fun e => decide (e.2.1 = serial)) now s.delayBuffer
  -- the clock that is added to each message does not change the count
  have hpublished : ((s.delayBuffer.upTo now).entries.map fun e => (now, e.2)).countP
      (fun e => decide (e.2.1 = serial)) =
        (s.delayBuffer.upTo now).entries.countP fun e => decide (e.2.1 = serial) := by
    rw [List.countP_map]
    rfl
  simp only [NetSimUDP.total, occurrences, NetSimUDP.loop, List.countP_append, hpublished]
  have hwaiting : ({ s with
      udpOut := s.udpOut ++ (s.delayBuffer.upTo now).entries.map fun e => (now, e.2)
      delayBuffer := s.delayBuffer.above now } : NetSimUDP ε).waiting = s.waiting := rfl
  rw [hwaiting]
  omega

theorem Ledger.loop (h : Ledger cfg es s) (now : ℤ) : Ledger cfg es (s.loop now) where
  waiting := h.waiting
  total serial srcId destId msg haccepted :=
    (total_loop now srcId destId serial).trans (h.total serial srcId destId msg haccepted)
  delayed x hx := h.delayed x (List.mem_filter.1 hx).1
  published x hx := by
    rcases List.mem_append.1 hx with hx | hx
    · exact h.published x hx
    · obtain ⟨e, he, rfl⟩ := List.mem_map.1 hx
      -- published now: its key in the buffer is not after the clock
      obtain ⟨he, hle⟩ := List.mem_filter.1 he
      obtain ⟨srcId, destId, msg, owtt, hserial, hout⟩ := h.delayed e he
      exact ⟨srcId, destId, msg, owtt, e.1, hserial, by simpa using hle, hout⟩
  discarded := h.discarded

/-! #### Performance responses -/

omit [DecidableEq ε] in
theorem processPerformanceResponse_spec {r : ObjFuncResponse}
    (h : s.processPerformanceResponse cfg r = some s') :
    SameLedger s s' ∧ s'.delayBuffer = s.delayBuffer ∧ s'.discarded = s.discarded := by
  unfold processPerformanceResponse at h
  cases hsrc : cfg.tcpPortToId r.contact with
  | none =>
      simp only [hsrc, Option.some_inj] at h
      subst h
      exact ⟨⟨rfl, rfl, rfl⟩, rfl, rfl⟩
  | some srcId =>
      simp only [hsrc] at h
      generalize r.receiver = receivers at h
      induction receivers generalizing s with
      | nil =>
          obtain rfl := Option.some_inj.1 h
          exact ⟨⟨rfl, rfl, rfl⟩, rfl, rfl⟩
      | cons receiver receivers ih =>
          rw [List.foldlM_cons] at h
          obtain ⟨s₁, hs₁, h⟩ := Option.bind_eq_some_iff.1 h
          -- only `perf_table_` has changed
          obtain ⟨destId, -, rfl⟩ := Option.map_eq_some_iff.1 hs₁
          obtain ⟨hsame, hdelay, hdiscarded⟩ := ih h
          exact ⟨⟨hsame.accepted, hsame.forwardBuffer, hsame.udpOut⟩, hdelay, hdiscarded⟩

/-- A performance response changes no packet, whatever the method is. -/
theorem performanceResponse_spec {r : ObjFuncResponse}
    (h : s.step cfg (.performanceResponse r) = some s') :
    SameLedger s s' ∧ s'.delayBuffer = s.delayBuffer ∧ s'.discarded = s.discarded := by
  rw [NetSimUDP.step] at h
  split_ifs at h
  · exact processPerformanceResponse_spec h
  · obtain rfl := Option.some_inj.1 h
    exact ⟨⟨rfl, rfl, rfl⟩, rfl, rfl⟩

end Steps

/-! ### Runs -/

section Runs

variable {cfg : NetSimUDPConfig ε} {es : List (UdpEvent ε)} {e : UdpEvent ε} {s s' : NetSimUDP ε}

theorem ledger_init (h : init cfg = some s) : Ledger cfg [] s ∧ s.accepted = [] := by
  unfold init at h
  split_ifs at h
  obtain rfl := Option.some_inj.1 h
  refine ⟨⟨fun _ _ _ _ hmem => ?_, fun _ _ _ _ hserial => ?_, ?_, ?_, ?_⟩, rfl⟩
  · simp [NetSimUDP.waiting] at hmem
  · simp at hserial
  · simp
  · simp
  · simp

/-- One event keeps the invariant and accepts the pairs of the event. -/
theorem Ledger.step (h : Ledger cfg es s) (hreach : after cfg es = some s)
    (hstep : NetSimUDP.step cfg s e = some s') :
    Ledger cfg (es ++ [e]) s' ∧ s'.accepted = s.accepted ++ accepts cfg e := by
  have hnothing (hsame : s'.accepted = s.accepted) (haccepts : accepts cfg e = []) :
      s'.accepted = s.accepted ++ accepts cfg e := by
    rw [haccepts, List.append_nil, hsame]
  -- only transmissions are accepted; the other events move what is there
  cases e with
  | udpIn udpSrc msg now => exact (h.concat (e := .udpIn udpSrc msg now)).udpIn hstep
  | impulseResponse r luck =>
      simp only [NetSimUDP.step, processImpulseResponse] at hstep
      cases hsrc : cfg.tcpPortToId r.source with
      | none =>
          simp only [hsrc, Option.some_inj] at hstep
          subst hstep
          exact ⟨h.concat, hnothing rfl rfl⟩
      | some srcId =>
          simp only [hsrc] at hstep
          obtain ⟨destId, hdest, hstep⟩ := Option.bind_eq_some_iff.1 hstep
          split_ifs at hstep
          · obtain rfl := Option.some_inj.1 hstep
            exact ⟨h.concat, hnothing rfl rfl⟩
          · obtain ⟨hledger, haccepted⟩ := h.handleResponse hreach hsrc hdest hstep
            exact ⟨hledger, hnothing haccepted rfl⟩
  | performanceResponse r =>
      obtain ⟨hsame, hdelay, hdiscarded⟩ := performanceResponse_spec hstep
      exact ⟨h.concat.of_same hsame hdelay hdiscarded, hnothing hsame.accepted rfl⟩
  | loop now =>
      obtain rfl := Option.some_inj.1 hstep
      exact ⟨h.concat.loop now, hnothing rfl rfl⟩

/-- The invariant holds in every run, and the ledger lists the accepted pairs of its events. -/
theorem ledger_after (h : after cfg es = some s) :
    Ledger cfg es s ∧ s.accepted = es.flatMap (accepts cfg) := by
  obtain ⟨s₀, hs₀, hrun⟩ := Option.bind_eq_some_iff.1 h
  have hinv := Run.exec_invariant (NetSimUDP.step cfg) s₀
    (I := fun es s => after cfg es = some s ∧ Ledger cfg es s ∧
      s.accepted = es.flatMap (accepts cfg))
    ⟨by rw [after, hs₀]; rfl, (ledger_init hs₀).1, (ledger_init hs₀).2⟩
    (fun es e s s' ⟨hreach, hledger, haccepted⟩ hstep => by
      obtain ⟨hledger', haccepted'⟩ := hledger.step hreach hstep
      refine ⟨?_, hledger', by rw [haccepted', haccepted, List.flatMap_append]; simp⟩
      rw [after, hs₀, Option.bind_some] at hreach ⊢
      exact (Run.exec_concat_eq_some _ _).2 ⟨s, hreach, hstep⟩)
    es s hrun
  exact hinv.2

end Runs

/-! ### Modems -/

section Modems

variable {cfg : NetSimUDPConfig ε}

omit [DecidableEq ε] in
/-- The modem that is found is configured and has the id. -/
theorem mem_of_modemAt {id : ℤ} {modem : ModemEndPoint ε} (h : cfg.modemAt id = some modem) :
    modem ∈ cfg.modem ∧ modem.id = id := by
  have hmem : (id, modem) ∈ cfg.modems.entries :=
    Multimap.mem_equalRange.1 (List.mem_of_mem_head? h)
  obtain ⟨modem', hmodem', heq⟩ := List.mem_map.1 (Multimap.mem_of_mem_ofList hmem)
  rw [Prod.mk.injEq] at heq
  obtain ⟨hid, rfl⟩ := heq
  exact ⟨hmodem', hid⟩

omit [DecidableEq ε] in
theorem modemAt_isSome_iff {id : ℤ} :
    (cfg.modemAt id).isSome ↔ ∃ modem ∈ cfg.modem, modem.id = id := by
  constructor
  · intro h
    obtain ⟨modem, hmodem⟩ := Option.isSome_iff_exists.1 h
    exact ⟨modem, mem_of_modemAt hmodem⟩
  · rintro ⟨modem, hmem, rfl⟩
    have hne : cfg.modems.equalRange modem.id ≠ [] :=
      Multimap.equalRange_ofList_ne_nil (List.mem_map_of_mem hmem)
    rw [NetSimUDPConfig.modemAt, List.isSome_head?]
    exact hne

omit [DecidableEq ε] in
/-- A broadcast goes to all other modems, each once. -/
theorem destinations_of_broadcast {srcId : ℤ} {msg : ModemTransmission}
    (h : msg.type ≠ .ACK ∧ (cfg.sendAllAsBroadcast ∨ msg.dest = cfg.broadcastId)) :
    (destinations cfg srcId msg).Nodup ∧ ∀ id, id ∈ destinations cfg srcId msg ↔
      (∃ modem ∈ cfg.modem, modem.id = id) ∧ id ≠ srcId := by
  rw [destinations, if_pos h]
  refine ⟨(Multimap.nodup_keys_ofList _).filter _, fun id => ?_⟩
  rw [List.mem_filter, ← modemAt_isSome_iff, NetSimUDPConfig.modemAt]
  -- the keys of `modems_` are the ids of the modems
  have hkey : id ∈ cfg.modems.entries.map (·.1) ↔ (cfg.modems.equalRange id).head?.isSome := by
    rw [List.isSome_head?, ne_eq, Multimap.equalRange_eq_nil_iff]
    simp
  rw [hkey]
  simp

omit [DecidableEq ε] in
/-- Any other transmission goes to the modem it is addressed to, if that is configured. -/
theorem mem_destinations_of_not_broadcast {srcId : ℤ} {msg : ModemTransmission}
    (h : ¬ (msg.type ≠ .ACK ∧ (cfg.sendAllAsBroadcast ∨ msg.dest = cfg.broadcastId))) (id : ℤ) :
    id ∈ destinations cfg srcId msg ↔ id = msg.dest ∧ ∃ modem ∈ cfg.modem, modem.id = id := by
  rw [destinations, if_neg h]
  split_ifs with hsome
  · rw [List.mem_singleton]
    refine ⟨?_, fun hid => hid.1⟩
    rintro rfl
    exact ⟨rfl, modemAt_isSome_iff.1 hsome⟩
  · refine iff_of_false List.not_mem_nil ?_
    rintro ⟨rfl, hmodem⟩
    exact hsome (modemAt_isSome_iff.2 hmodem)

omit [DecidableEq ε] in
theorem nodup_destinations (srcId : ℤ) (msg : ModemTransmission) :
    (destinations cfg srcId msg).Nodup := by
  by_cases h : msg.type ≠ .ACK ∧ (cfg.sendAllAsBroadcast ∨ msg.dest = cfg.broadcastId)
  · exact (destinations_of_broadcast h).1
  · rw [destinations, if_neg h]
    split_ifs
    · exact List.nodup_singleton _
    · exact List.nodup_nil

omit [DecidableEq ε] in
theorem mem_destinations_iff {srcId destId : ℤ} {msg : ModemTransmission} :
    destId ∈ destinations cfg srcId msg ↔ IsFor cfg srcId msg destId := by
  rw [IsFor]
  split_ifs with h
  · exact (destinations_of_broadcast h).2 destId
  · rw [mem_destinations_of_not_broadcast h destId, and_comm]

end Modems

/-! ### The application goes on -/

section GoesOn

variable {cfg : NetSimUDPConfig ε}

/-- The responses name configured modems, and the rays of an impulse response have elements. -/
def Answerable (cfg : NetSimUDPConfig ε) : UdpEvent ε → Prop
  | .impulseResponse r _ =>
      (cfg.tcpPortToId r.receiver).isSome ∧ ∀ ray ∈ r.raytrace, ray.element ≠ []
  | .performanceResponse r => ∀ receiver ∈ r.receiver, (cfg.tcpPortToId receiver.1).isSome
  | _ => True

omit [DecidableEq ε] in
theorem modemAt_isSome_of_tcpPortToId {port : String} {id : ℤ}
    (h : cfg.tcpPortToId port = some id) : (cfg.modemAt id).isSome := by
  obtain ⟨modem, hfind, hid⟩ := Option.map_eq_some_iff.1 h
  exact modemAt_isSome_iff.2 ⟨modem, List.mem_of_find?_eq_some hfind, hid⟩

theorem modemAt_isSome_of_endpointToId {endpoint : ε} {id : ℤ}
    (h : cfg.endpointToId endpoint = some id) : (cfg.modemAt id).isSome := by
  obtain ⟨modem, hfind, hid⟩ := Option.map_eq_some_iff.1 h
  exact modemAt_isSome_iff.2 ⟨modem, List.mem_of_find?_eq_some hfind, hid⟩

omit [DecidableEq ε] in
theorem modemAt_isSome_of_mem_destinations {srcId id : ℤ} {msg : ModemTransmission}
    (h : id ∈ destinations cfg srcId msg) : (cfg.modemAt id).isSome := by
  rw [modemAt_isSome_iff]
  by_cases hbroadcast : msg.type ≠ .ACK ∧ (cfg.sendAllAsBroadcast ∨ msg.dest = cfg.broadcastId)
  · exact (((destinations_of_broadcast hbroadcast).2 id).1 h).1
  · exact ((mem_destinations_of_not_broadcast hbroadcast id).1 h).2

omit [DecidableEq ε] in
theorem exists_forwardPacket (s : NetSimUDP ε) (now : ℚ) {srcId destId : ℤ}
    (msg : ModemTransmission) (hsrc : (cfg.modemAt srcId).isSome)
    (hdest : (cfg.modemAt destId).isSome) :
    ∃ s', forwardPacket cfg now srcId msg s destId = some s' := by
  obtain ⟨src, hsrc⟩ := Option.isSome_iff_exists.1 hsrc
  obtain ⟨dest, hdest⟩ := Option.isSome_iff_exists.1 hdest
  by_cases hmethod : cfg.packetSuccessMethod = .MPP <;>
    simp [forwardPacket, hmethod, performanceRequest, impulseRequest, hsrc, hdest]

theorem exists_udpIn (s : NetSimUDP ε) (udpSrc : ε) (msg : ModemTransmission) (now : ℚ) :
    ∃ s', s.udpIn cfg udpSrc msg now = some s' := by
  rw [udpIn]
  cases hsrc : cfg.endpointToId udpSrc with
  | none => exact ⟨s, rfl⟩
  | some srcId =>
      -- source and destinations are configured, so no `at` throws
      exact Run.exists_exec _ s fun destId hdest t =>
        exists_forwardPacket t now msg (modemAt_isSome_of_endpointToId hsrc)
          (modemAt_isSome_of_mem_destinations hdest)

omit [DecidableEq ε] in
theorem exists_handleWaiting (s : NetSimUDP ε) (luck : Luck) (srcId : ℤ) {destId : ℤ} (owtt : ℚ)
    (hdest : (cfg.modemAt destId).isSome) (k : ℕ) (queue : List (ℕ × ModemTransmission)) :
    ∃ s', handleWaiting cfg luck srcId destId owtt k queue s = some s' := by
  obtain ⟨dest, hdest⟩ := Option.isSome_iff_exists.1 hdest
  -- the endpoint of the destination is there for every packet
  induction queue generalizing k s with
  | nil => exact ⟨s, rfl⟩
  | cons packet queue ih =>
      rw [handleWaiting, hdest]
      split_ifs
      · exact ih _ _
      · exact ih _ _

/-- `travel_time` reads only elements that are there. -/
theorem exists_strongest {rays : List RayTrace} (h : ∀ ray ∈ rays, ray.element ≠ [])
    (maxAmp : Double) (delay : ℚ) : ∃ owtt, strongest maxAmp delay rays = some owtt := by
  induction rays generalizing maxAmp delay with
  | nil => exact ⟨delay, rfl⟩
  | cons ray rays ih =>
      obtain ⟨hray, hrays⟩ := List.forall_mem_cons.1 h
      obtain ⟨element, elements, hcons⟩ := List.exists_cons_of_ne_nil hray
      rw [strongest, hcons]
      split_ifs
      · exact ih hrays _ _
      · exact ih hrays _ _

omit [DecidableEq ε] in
theorem exists_processImpulseResponse (s : NetSimUDP ε) {r : ImpulseResponse} (luck : Luck)
    (hreceiver : (cfg.tcpPortToId r.receiver).isSome)
    (hrays : ∀ ray ∈ r.raytrace, ray.element ≠ []) :
    ∃ s', s.processImpulseResponse cfg r luck = some s' := by
  rw [processImpulseResponse]
  cases cfg.tcpPortToId r.source with
  | none => exact ⟨s, rfl⟩
  | some srcId =>
      obtain ⟨destId, hdest⟩ := Option.isSome_iff_exists.1 hreceiver
      obtain ⟨firstArrival, harrival⟩ := exists_strongest hrays .zero luck.uninitialised
      obtain ⟨s', hs'⟩ := exists_handleWaiting s luck srcId (firstArrival + luck.outlier.getD 0)
        (modemAt_isSome_of_tcpPortToId hdest) 0 (s.waiting srcId destId)
      -- modem 0, an empty response, and the loop over the waiting packets
      by_cases hzero : destId = 0
      · simp [hdest, hzero]
      · by_cases hnil : r.raytrace = []
        · simp [hdest, hzero, handleResponse, answerWaiting, hnil]
        · simp [hdest, hzero, handleResponse, answerWaiting, hnil, travelTime, harrival, hs']

omit [DecidableEq ε] in
theorem exists_processPerformanceResponse (s : NetSimUDP ε) {r : ObjFuncResponse}
    (h : ∀ receiver ∈ r.receiver, (cfg.tcpPortToId receiver.1).isSome) :
    ∃ s', s.processPerformanceResponse cfg r = some s' := by
  rw [processPerformanceResponse]
  cases cfg.tcpPortToId r.contact with
  | none => exact ⟨s, rfl⟩
  | some srcId =>
      refine Run.exists_exec _ s fun receiver hmem t => ?_
      obtain ⟨destId, hdest⟩ := Option.isSome_iff_exists.1 (h receiver hmem)
      rw [hdest]
      exact ⟨_, rfl⟩

/-- If the configuration is accepted and every response can be answered, the run goes on. -/
theorem exists_after {es : List (UdpEvent ε)} (hinit : (init cfg).isSome)
    (h : ∀ e ∈ es, Answerable cfg e) : ∃ s, after cfg es = some s := by
  obtain ⟨s₀, hs₀⟩ := Option.isSome_iff_exists.1 hinit
  rw [after, hs₀, Option.bind_some]
  refine Run.exists_exec _ s₀ fun e he s => ?_
  have hanswer := h e he
  cases e with
  | udpIn udpSrc msg now => exact exists_udpIn s udpSrc msg now
  | impulseResponse r luck =>
      exact exists_processImpulseResponse s luck hanswer.1 hanswer.2
  | performanceResponse r =>
      rw [step]
      split_ifs
      · exact exists_processPerformanceResponse s hanswer
      · exact ⟨s, rfl⟩
  | loop now => exact ⟨_, rfl⟩

end GoesOn

/-! ### Conservation -/

section Conservation

variable {cfg : NetSimUDPConfig ε}

omit [DecidableEq ε] in
/-- What occurs once in all places together is in exactly one of them. -/
theorem existsUnique_place {s : NetSimUDP ε} {srcId destId : ℤ} {serial : ℕ}
    (h : s.total srcId destId serial = 1) :
    ∃! place, s.occurrences srcId destId serial place ≠ 0 := by
  rw [NetSimUDP.total] at h
  obtain hplace | hplace | hplace | hplace :
      s.occurrences srcId destId serial .waiting = 1 ∨
      s.occurrences srcId destId serial .delayed = 1 ∨
      s.occurrences srcId destId serial .published = 1 ∨
      s.occurrences srcId destId serial .discarded = 1 := by omega
  -- the other three summands are zero
  · refine ⟨.waiting, by omega, fun place hne => ?_⟩
    cases place <;> first | rfl | omega
  · refine ⟨.delayed, by omega, fun place hne => ?_⟩
    cases place <;> first | rfl | omega
  · refine ⟨.published, by omega, fun place hne => ?_⟩
    cases place <;> first | rfl | omega
  · refine ⟨.discarded, by omega, fun place hne => ?_⟩
    cases place <;> first | rfl | omega

/-- The pairs that are accepted of a transmission are those of its source and the modems that it is
for, each once. -/
theorem accepts_exactly (hendpoints : (cfg.modem.map (·.endpoint)).Nodup) (udpSrc : ε)
    (msg : ModemTransmission) (now : ℚ) : (accepts cfg (.udpIn udpSrc msg now)).Nodup ∧
      ∀ srcId destId msg', (srcId, destId, msg') ∈ accepts cfg (.udpIn udpSrc msg now) ↔
        msg' = msg ∧ (∃ src ∈ cfg.modem, src.endpoint = udpSrc ∧ src.id = srcId) ∧
          IsFor cfg srcId msg destId := by
  have hsource (srcId : ℤ) : cfg.endpointToId udpSrc = some srcId ↔
      ∃ src ∈ cfg.modem, src.endpoint = udpSrc ∧ src.id = srcId := by
    rw [NetSimUDPConfig.endpointToId, Option.map_eq_some_iff]
    constructor
    · rintro ⟨src, hfind, hid⟩
      exact ⟨src, List.mem_of_find?_eq_some hfind, by simpa using List.find?_some hfind, hid⟩
    -- the first modem with the endpoint is the only one
    · rintro ⟨src, hmem, hsrc, hid⟩
      obtain ⟨first, hfind⟩ : ∃ first, cfg.modem.find? (fun modem => modem.endpoint = udpSrc) =
          some first := by
        rw [← Option.isSome_iff_exists, List.find?_isSome]
        exact ⟨src, hmem, by simpa using hsrc⟩
      have hfirst : first.endpoint = src.endpoint := by
        rw [hsrc]
        simpa using List.find?_some hfind
      have heq := List.inj_on_of_nodup_map hendpoints (List.mem_of_find?_eq_some hfind) hmem hfirst
      exact ⟨first, hfind, heq ▸ hid⟩
  rw [accepts]
  cases hsrc : cfg.endpointToId udpSrc with
  | none =>
      refine ⟨List.nodup_nil, fun srcId destId msg' => iff_of_false List.not_mem_nil ?_⟩
      rintro ⟨-, hsome, -⟩
      rw [← hsource, hsrc] at hsome
      cases hsome
  | some srcId =>
      refine ⟨(nodup_destinations srcId msg).map fun _ _ heq => ?_, fun srcId' destId msg' => ?_⟩
      · exact (Prod.ext_iff.1 (Prod.ext_iff.1 heq).2).1
      rw [← hsource, hsrc, Option.some_inj, List.mem_map]
      constructor
      · rintro ⟨destId', hdest, heq⟩
        obtain ⟨rfl, rfl, rfl⟩ : srcId = srcId' ∧ destId' = destId ∧ msg = msg' := by
          simpa using heq
        exact ⟨rfl, rfl, mem_destinations_iff.1 hdest⟩
      · rintro ⟨rfl, rfl, hfor⟩
        exact ⟨destId, mem_destinations_iff.2 hfor, rfl⟩

/-- In every state that a run leads to, the accepted pairs are those of the transmissions received
and the modems that they are for. Each is in exactly one place, waiting only under its source and
destination, discarded only by a response without a raytrace or a coin flip that fails, and
published at most once, to the endpoint of the destination and not before the time of transmission
plus the travel time assigned. -/
theorem conserved_after (cfg : NetSimUDPConfig ε) (hids : (cfg.modem.map (·.id)).Nodup)
    (hendpoints : (cfg.modem.map (·.endpoint)).Nodup) (es : List (UdpEvent ε)) (s : NetSimUDP ε)
    (h : after cfg es = some s) :
    (s.accepted = es.flatMap (accepts cfg) ∧ ∀ udpSrc msg now,
      (accepts cfg (.udpIn udpSrc msg now)).Nodup ∧
      ∀ srcId destId msg', (srcId, destId, msg') ∈ accepts cfg (.udpIn udpSrc msg now) ↔
        msg' = msg ∧ (∃ src ∈ cfg.modem, src.endpoint = udpSrc ∧ src.id = srcId) ∧
          IsFor cfg srcId msg destId) ∧
    ∀ serial srcId destId msg, s.accepted[serial]? = some (srcId, destId, msg) →
      (∃! place, s.occurrences srcId destId serial place ≠ 0) ∧
      (∀ srcId' destId' msg', (serial, msg') ∈ s.waiting srcId' destId' →
        (srcId', destId', msg') = (srcId, destId, msg)) ∧
      (∀ dueTime io, (dueTime, serial, io) ∈ s.delayBuffer.entries →
        ∃ owtt, Outgoing cfg es srcId destId msg serial io owtt dueTime) ∧
      (serial ∈ s.discarded → Dropped cfg es srcId destId serial) ∧
      s.occurrences srcId destId serial .published ≤ 1 ∧
      ∀ clock io, (clock, serial, io) ∈ s.udpOut →
        (∀ modem ∈ cfg.modem, modem.id = destId → io.udpDest = modem.endpoint) ∧
        ∃ owtt, Assigned cfg es srcId destId serial owtt ∧
          io.data = { msg with oneWayTravelTime := msg.oneWayTravelTime ++ [owtt] } ∧
          msg.time + cfg.microTime owtt ≤ clock := by
  obtain ⟨hledger, haccepted⟩ := ledger_after h
  refine ⟨⟨haccepted, accepts_exactly hendpoints⟩, fun serial srcId destId msg hserial => ?_⟩
  have htotal := hledger.total serial srcId destId msg hserial
  refine ⟨?_, fun srcId' destId' msg' hmem => ?_, fun dueTime io hmem => ?_, fun hmem => ?_, ?_,
    fun clock io hmem => ?_⟩
  · exact existsUnique_place htotal
  · have hfound := hledger.waiting srcId' destId' serial msg' hmem
    rw [hserial, Option.some_inj] at hfound
    exact hfound.symm
  · obtain ⟨srcId', destId', msg', owtt, hfound, hout⟩ := hledger.delayed _ hmem
    simp only [hserial, Option.some_inj, Prod.mk.injEq] at hfound
    obtain ⟨rfl, rfl, rfl⟩ := hfound
    exact ⟨owtt, hout⟩
  · obtain ⟨srcId', destId', msg', hfound, hdropped⟩ := hledger.discarded serial hmem
    simp only [hserial, Option.some_inj, Prod.mk.injEq] at hfound
    obtain ⟨rfl, rfl, -⟩ := hfound
    exact hdropped
  · rw [NetSimUDP.total] at htotal
    omega
  -- what is published is published for the packet of its serial number
  · obtain ⟨srcId', destId', msg', owtt, dueTime, hfound, hle, hout⟩ :=
      hledger.published _ hmem
    simp only [hserial, Option.some_inj, Prod.mk.injEq] at hfound
    obtain ⟨rfl, rfl, rfl⟩ := hfound
    refine ⟨fun modem hmodem hid => ?_, owtt, hout.assigned, hout.data, hout.dueTime ▸ hle⟩
    -- the ids are distinct, so that the destination is one modem
    obtain ⟨dest, hdest, hendpoint⟩ := hout.udpDest
    obtain ⟨hdestmem, hdestid⟩ := mem_of_modemAt hdest
    rw [hendpoint, List.inj_on_of_nodup_map hids hdestmem hmodem (hdestid.trans hid.symm)]

/-- Modem 1 transmits to modem 2 over half a second; the packet is published by the second of two
loops. -/
theorem conserved_of_two_modems :
    let cfg : NetSimUDPConfig ℕ :=
      { modem := [⟨62000, 1, 10⟩, ⟨62001, 2, 20⟩], packetSuccessMethod := .ALL_PACKETS_SUCCEED,
        broadcastId := 0, linearInterpolate := fun _ _ => 0,
        microTime := fun seconds => (seconds * 1000000).floor }
    let es : List (UdpEvent ℕ) :=
      [.udpIn 10 { dest := 2, type := .DATA, time := 1000 } 0,
        .impulseResponse ⟨"62000", "62001", [⟨.ofFields false 1023 0, [1 / 2]⟩]⟩
          ⟨none, fun _ _ => true, 0⟩,
        .loop 400000, .loop 600000]
    ∃ s, after cfg es = some s ∧ (∃! place, s.occurrences 1 2 0 place ≠ 0) ∧
      s.udpOut.map (fun e => (e.1, e.2.1, e.2.2.udpDest)) = [(600000, 0, 20)] := by
  intro cfg es
  -- the first loop comes too early
  have hrun : (after cfg es).map (fun s => (s.accepted[0]?.map fun p => (p.1, p.2.1),
      s.udpOut.map fun e => (e.1, e.2.1, e.2.2.udpDest))) =
        some (some (1, 2), [(600000, 0, 20)]) := by
    decide +kernel
  obtain ⟨s, hs, hresult⟩ := Option.map_eq_some_iff.1 hrun
  rw [Prod.mk.injEq] at hresult
  obtain ⟨⟨srcId, destId, msg⟩, hserial, hpair⟩ := Option.map_eq_some_iff.1 hresult.1
  rw [Prod.mk.injEq] at hpair
  obtain ⟨rfl, rfl⟩ := hpair
  have hconserved := conserved_after cfg (by decide +kernel) (by decide +kernel) es s hs
  exact ⟨s, hs, (hconserved.2 0 1 2 msg hserial).1, hresult.2⟩

end Conservation

end NetSimUDP

end Netsim
