import Netsim.Lib.Component
import Netsim.Lib.DelayQueue
import Netsim.Udp.Conservation

/-!
# Packets are published on time

`delay_buffer_` and what is published are a delay queue, in which a response delays the packets that
succeed and `loop` is the tick (`queuePart`). So a packet is published by the first loop that finds
its travel time elapsed (`onTime_after`).
-/

namespace Netsim

namespace NetSimUDP

variable {ε : Type}

/-- The packets that succeed of those that wait from the `k`th on, with the times of their
arrival. -/
def arrivals (cfg : NetSimUDPConfig ε) (luck : Luck) (s : NetSimUDP ε) (srcId destId : ℤ)
    (owtt : ℚ) : ℕ → List (ℕ × ModemTransmission) → List (ℤ × ℕ × IOData ε)
  | _, [] => []
  | k, (serial, msg) :: waiting =>
      (if packetSuccess cfg luck s srcId destId owtt k then
        (cfg.modemAt destId).toList.map fun dest => (msg.time + cfg.microTime owtt, serial,
          ⟨{ msg with oneWayTravelTime := msg.oneWayTravelTime ++ [owtt] }, dest.endpoint⟩)
      else []) ++ arrivals cfg luck s srcId destId owtt (k + 1) waiting

/-- The packets that a response delays. -/
def delays (cfg : NetSimUDPConfig ε) (s : NetSimUDP ε) (r : ImpulseResponse) (luck : Luck) :
    List (ℤ × ℕ × IOData ε) :=
  match cfg.tcpPortToId r.source, cfg.tcpPortToId r.receiver, travelTime luck r with
  | some srcId, some destId, some firstArrival =>
      if destId = 0 ∨ r.raytrace = [] then []
      else arrivals cfg luck s srcId destId (firstArrival + luck.outlier.getD 0) 0
        (s.waiting srcId destId)
  | _, _, _ => []

/-- The packets that wait to be published, and those that were, as a delay queue. -/
def delayQueue (s : NetSimUDP ε) : DelayQueue ℤ (ℕ × IOData ε) := ⟨s.delayBuffer, s.udpOut⟩

/-! ### Steps -/

section Steps

variable {cfg : NetSimUDPConfig ε} {luck : Luck} {s s' t : NetSimUDP ε} {srcId destId : ℤ}
  {owtt : ℚ}

/-- The loop over the waiting packets delays those that succeed. -/
theorem delayQueue_handleWaiting {k : ℕ} {queue : List (ℕ × ModemTransmission)}
    (hperf : t.perfTable = s.perfTable)
    (h : handleWaiting cfg luck srcId destId owtt k queue t = some s') :
    s'.delayQueue = t.delayQueue.delayAll (arrivals cfg luck s srcId destId owtt k queue) := by
  induction queue generalizing k t with
  | nil =>
      obtain rfl := Option.some_inj.1 h
      rfl
  | cons packet queue ih =>
      rw [handleWaiting, packetSuccess_congr hperf] at h
      rw [arrivals]
      split_ifs at h ⊢ with hsuccess
      · obtain ⟨dest, hdest, h⟩ := Option.bind_eq_some_iff.1 h
        rw [ih (by simpa [delay] using hperf) h, hdest]
        rfl
      · rw [ih (by simpa using hperf) h]
        rfl

/-- A response delays packets and publishes nothing. -/
theorem delayQueue_impulseResponse {r : ImpulseResponse}
    (h : s.processImpulseResponse cfg r luck = some s') :
    s'.delayQueue = s.delayQueue.delayAll (delays cfg s r luck) := by
  unfold processImpulseResponse at h
  unfold delays
  cases hsrc : cfg.tcpPortToId r.source with
  | none =>
      simp only [hsrc, Option.some_inj] at h
      subst h
      rfl
  | some srcId =>
      simp only [hsrc] at h
      obtain ⟨destId, hdest, h⟩ := Option.bind_eq_some_iff.1 h
      simp only [hdest]
      split_ifs at h with hzero
      · obtain rfl := Option.some_inj.1 h
        cases travelTime luck r <;> simp [hzero, DelayQueue.delayAll]
      · obtain ⟨s₁, hanswer, rfl⟩ := Option.map_eq_some_iff.1 h
        unfold answerWaiting at hanswer
        split_ifs at hanswer with hrays
        · obtain ⟨firstArrival, harrival, hwait⟩ := Option.bind_eq_some_iff.1 hanswer
          simp only [harrival, hzero, hrays, or_self, if_false]
          have hqueue := delayQueue_handleWaiting rfl hwait
          exact hqueue
        · obtain rfl := Option.some_inj.1 hanswer
          cases travelTime luck r <;> simp [not_not.1 hrays, DelayQueue.delayAll] <;> rfl

/-- A transmission neither delays nor publishes anything. -/
theorem delayQueue_forwardPacket {now : ℚ} {msg : ModemTransmission}
    (h : forwardPacket cfg now srcId msg s destId = some s') : s'.delayQueue = s.delayQueue := by
  obtain ⟨s₁, hs₁, hrequest⟩ := Option.bind_eq_some_iff.1 h
  obtain ⟨-, hdelay, hudpOut, -⟩ := impulseRequest_spec hrequest
  have hfirst : s₁.delayQueue = s.delayQueue := by
    split_ifs at hs₁
    · simp only [performanceRequest, Option.bind_eq_bind, Option.bind_eq_some_iff, Option.some_inj]
        at hs₁
      obtain ⟨src, -, dest, -, rfl⟩ := hs₁
      rfl
    · obtain rfl := Option.some_inj.1 hs₁
      rfl
  rw [← hfirst, delayQueue, delayQueue, hdelay, hudpOut]

variable [DecidableEq ε]

theorem delayQueue_udpIn {udpSrc : ε} {msg : ModemTransmission} {now : ℚ}
    (h : s.udpIn cfg udpSrc msg now = some s') : s'.delayQueue = s.delayQueue := by
  unfold NetSimUDP.udpIn at h
  cases hsrc : cfg.endpointToId udpSrc with
  | none =>
      simp only [hsrc, Option.some_inj] at h
      rw [h]
  | some srcId =>
      simp only [hsrc] at h
      generalize destinations cfg srcId msg = dests at h
      -- on the destinations
      induction dests generalizing s with
      | nil =>
          obtain rfl := Option.some_inj.1 h
          rfl
      | cons dest dests ih =>
          rw [List.foldlM_cons] at h
          obtain ⟨s₁, hs₁, h⟩ := Option.bind_eq_some_iff.1 h
          rw [ih h, delayQueue_forwardPacket hs₁]

end Steps

variable [DecidableEq ε]

/-- What happens to the delay queue in an event. -/
def queueEvent (cfg : NetSimUDPConfig ε) (s : NetSimUDP ε) :
    UdpEvent ε → Option (DelayQueue.Event ℤ (ℕ × IOData ε))
  | .impulseResponse r luck => some (.delay (delays cfg s r luck))
  | .loop now => some (.tick now)
  | _ => none

/-- The delay queue. -/
def queuePart (cfg : NetSimUDPConfig ε) : Component (step cfg)
    fun (q : DelayQueue ℤ (ℕ × IOData ε)) e => some (q.step e) where
  state := delayQueue
  part := queueEvent cfg
  step_part s e s' h := by
    cases e with
    | udpIn udpSrc msg now => simp [queueEvent, Run.exec, delayQueue_udpIn h]
    | impulseResponse r luck =>
        simp [queueEvent, Run.exec, DelayQueue.step, delayQueue_impulseResponse h]
    | performanceResponse r =>
        obtain ⟨hsame, hdelay, -⟩ := performanceResponse_spec h
        simp [queueEvent, Run.exec, delayQueue, hdelay, hsame.udpOut]
    | loop now =>
        obtain rfl := Option.some_inj.1 h
        rfl

/-! ### Runs -/

/-- In the run `es` the packet was delayed by a response, and `later` are the events since. -/
def DelayedBy (cfg : NetSimUDPConfig ε) (es later : List (UdpEvent ε)) (due : ℤ) (serial : ℕ)
    (io : IOData ε) : Prop :=
  ∃ pre r luck s, es = pre ++ .impulseResponse r luck :: later ∧ after cfg pre = some s ∧
    (due, serial, io) ∈ delays cfg s r luck

section Runs

variable (cfg : NetSimUDPConfig ε) (es : List (UdpEvent ε)) {s₀ s : NetSimUDP ε}

/-- A run of the application is a run of its delay queue. -/
theorem delayQueue_after (hinit : init cfg = some s₀) (h : after cfg es = some s) :
    s.delayQueue = Run.run DelayQueue.step {} ((queuePart cfg).trace s₀ es) := by
  rw [after, hinit, Option.bind_some] at h
  have htrace := Component.exec_trace (c := queuePart cfg) h
  rw [Run.exec_total, Option.some_inj] at htrace
  unfold init at hinit
  split_ifs at hinit
  obtain rfl := Option.some_inj.1 hinit
  exact htrace.symm

/-- What a step of the queue delays is delayed by a response. -/
theorem DelayedBy.of_part {cfg : NetSimUDPConfig ε} {es pre later : List (UdpEvent ε)}
    {e : UdpEvent ε} {items : List (ℤ × ℕ × IOData ε)} {due : ℤ} {serial : ℕ} {io : IOData ε}
    (hinit : init cfg = some s₀) (hes : es = pre ++ e :: later)
    (hpre : Run.exec (step cfg) s₀ pre = some s)
    (hpart : (queuePart cfg).part s e = some (.delay items)) (hmem : (due, serial, io) ∈ items) :
    DelayedBy cfg es later due serial io := by
  cases e with
  | impulseResponse r luck =>
      obtain rfl := DelayQueue.Event.delay.inj (Option.some_inj.1 hpart)
      exact ⟨pre, r, luck, s, hes, by rw [after, hinit]; exact hpre, hmem⟩
  | _ => cases hpart

variable (s)

/-- In every run, what is published was delayed until a time that the clock had reached then, but in
no loop since it was delayed; and what is still delayed is due after every loop since. -/
theorem onTime_after (h : after cfg es = some s) :
    (∀ clock serial io, (clock, serial, io) ∈ s.udpOut → ∃ mid post due,
      DelayedBy cfg es (mid ++ .loop clock :: post) due serial io ∧ due ≤ clock ∧
        ∀ now, .loop now ∈ mid → now < due) ∧
    ∀ due serial io, (due, serial, io) ∈ s.delayBuffer.entries → ∃ post,
      DelayedBy cfg es post due serial io ∧ ∀ now, .loop now ∈ post → now < due := by
  obtain ⟨s₀, hinit, hrun⟩ := Option.bind_eq_some_iff.1 h
  have hqueue := delayQueue_after cfg es hinit h
  have hloop {u v : NetSimUDP ε} {mid : List (UdpEvent ε)} {now : ℤ}
      (hmid : Run.exec (step cfg) u mid = some v) (hmem : UdpEvent.loop now ∈ mid) :
      DelayQueue.Event.tick now ∈ (queuePart cfg).trace u mid :=
    Component.mem_trace hmid hmem fun _ => rfl
  constructor
  · intro clock serial io hmem
    have hreleased : (clock, serial, io) ∈
        DelayQueue.releases ((queuePart cfg).trace s₀ es) := by
      refine (DelayQueue.perm_releases _).mem_iff.1 ?_
      rw [← hqueue]
      exact hmem
    obtain ⟨fs, items, gs, hs, due, htrace, hitem, hle, hgs⟩ :=
      DelayQueue.exists_of_mem_releases hreleased
    obtain ⟨pre, e, rest, u, v, hes, hpre, -, hpart, -, hrest, htrace'⟩ :=
      Component.exists_of_trace_eq hrun htrace
    obtain ⟨mid, f, post, w, x, rfl, hmid, hmidtrace, hf, -⟩ :=
      Component.exists_of_trace_eq hrest htrace'
    have hclock : f = .loop clock := by
      cases f with
      | loop now =>
          cases hf
          rfl
      | _ => cases hf
    subst hclock
    refine ⟨mid, post, due, DelayedBy.of_part hinit hes hpre hpart hitem, hle,
      fun now hnow => hgs now ?_⟩
    rw [← hmidtrace]
    exact hloop hmid hnow
  · intro due serial io hmem
    have hpending : (due, serial, io) ∈ DelayQueue.pending ((queuePart cfg).trace s₀ es) := by
      refine (DelayQueue.perm_pending _).mem_iff.1 ?_
      rw [← hqueue]
      exact hmem
    obtain ⟨fs, items, gs, htrace, hitem, hgs⟩ := DelayQueue.exists_of_mem_pending hpending
    obtain ⟨pre, e, post, u, v, hes, hpre, -, hpart, -, hpost, rfl⟩ :=
      Component.exists_of_trace_eq hrun htrace
    exact ⟨post, DelayedBy.of_part hinit hes hpre hpart hitem,
      fun now hnow => hgs now (hloop hpost hnow)⟩

end Runs

/-- A vehicle with modem 1 and one with modem 2. -/
def twoModems : NetSimUDPConfig ℕ :=
  { modem := [⟨62000, 1, 10⟩, ⟨62001, 2, 20⟩], packetSuccessMethod := .ALL_PACKETS_SUCCEED,
    broadcastId := 0, linearInterpolate := fun _ _ => 0,
    microTime := fun seconds => (seconds * 1000000).floor }

/-- Modem 1 transmits twice to modem 2, over half a second; then the loop runs twice. -/
def twoTransmissions : List (UdpEvent ℕ) :=
  [.udpIn 10 { dest := 2, type := .DATA, time := 1000 } 0,
    .udpIn 10 { dest := 2, type := .DATA, time := 2000 } 0,
    .impulseResponse ⟨"62000", "62001", [⟨.ofFields false 1023 0, [1 / 2]⟩]⟩
      ⟨none, fun _ _ => true, 0⟩,
    .loop 400000, .loop 600000]

/-- The first packet is published by the second loop, since it was due after the first. -/
theorem onTime_twoTransmissions : ∃ s, after twoModems twoTransmissions = some s ∧
    ∃ io mid post due, (600000, 0, io) ∈ s.udpOut ∧
      DelayedBy twoModems twoTransmissions (mid ++ .loop 600000 :: post) due 0 io ∧
        due ≤ 600000 ∧ ∀ now, .loop now ∈ mid → now < due := by
  have hrun : (after twoModems twoTransmissions).map (fun s =>
      s.udpOut.map fun e => (e.1, e.2.1)) = some [(600000, 0), (600000, 1)] := by
    decide +kernel
  obtain ⟨s, hs, hout⟩ := Option.map_eq_some_iff.1 hrun
  have hfirst : ((600000 : ℤ), 0) ∈ s.udpOut.map fun e => (e.1, e.2.1) := by simp [hout]
  obtain ⟨⟨clock, serial, io⟩, hmem, heq⟩ := List.mem_map.1 hfirst
  cases heq
  obtain ⟨mid, post, due, hrest⟩ := (onTime_after _ _ s hs).1 _ _ _ hmem
  exact ⟨s, hs, io, mid, post, due, hmem, hrest⟩

end NetSimUDP

end Netsim
