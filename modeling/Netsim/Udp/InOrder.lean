import Netsim.Udp.Timing

/-!
# Packets between two modems stay in order

The packets of a pair of modems wait in the order in which they were accepted, and a response delays
them in this order. So if their times of arrival ascend, they are published in this order
(`publishedInOrder_after`).
-/

namespace Netsim

namespace NetSimUDP

variable {ε : Type}

/-- Whether the packet with a serial number is of a pair of modems. -/
def ofPair (s : NetSimUDP ε) (srcId destId : ℤ) (serial : ℕ) : Bool :=
  s.accepted[serial]?.any fun pair => pair.1 = srcId && pair.2.1 = destId

/-- In a step from `s` to `s'` packets have been accepted, which wait behind those of their pair. -/
structure Accepts (s s' : NetSimUDP ε) : Prop where
  accepted : s.accepted <+: s'.accepted
  waiting : ∀ srcId destId, ∃ new, s'.waiting srcId destId = s.waiting srcId destId ++ new ∧
    (new.map (·.1)).Pairwise (· < ·) ∧
    ∀ packet ∈ new, s.accepted.length ≤ packet.1 ∧ packet.1 < s'.accepted.length

section Accepts

variable {cfg : NetSimUDPConfig ε} {s s' s'' : NetSimUDP ε} {srcId destId : ℤ}

theorem Accepts.of_same (haccepted : s'.accepted = s.accepted)
    (hforward : s'.forwardBuffer = s.forwardBuffer) : Accepts s s' where
  accepted := haccepted ▸ List.prefix_rfl
  waiting srcId destId := ⟨[], by
    rw [NetSimUDP.waiting, hforward, List.append_nil, NetSimUDP.waiting], .nil, by simp⟩

theorem Accepts.trans (h : Accepts s s') (h' : Accepts s' s'') : Accepts s s'' := by
  refine ⟨h.accepted.trans h'.accepted, fun srcId destId => ?_⟩
  obtain ⟨new, hnew, hascend, hrange⟩ := h.waiting srcId destId
  obtain ⟨new', hnew', hascend', hrange'⟩ := h'.waiting srcId destId
  have hle := h.accepted.length_le
  have hle' := h'.accepted.length_le
  refine ⟨new ++ new', by rw [hnew', hnew, List.append_assoc], ?_, fun packet hmem => ?_⟩
  · rw [List.map_append, List.pairwise_append]
    refine ⟨hascend, hascend', fun x hx y hy => ?_⟩
    obtain ⟨packet, hpacket, rfl⟩ := List.mem_map.1 hx
    obtain ⟨packet', hpacket', rfl⟩ := List.mem_map.1 hy
    exact (hrange packet hpacket).2.trans_le (hrange' packet' hpacket').1
  · rcases List.mem_append.1 hmem with hmem | hmem
    · exact ⟨(hrange packet hmem).1, (hrange packet hmem).2.trans_le hle'⟩
    · exact ⟨hle.trans (hrange' packet hmem).1, (hrange' packet hmem).2⟩

theorem accepts_forwardPacket {now : ℚ} {msg : ModemTransmission}
    (h : forwardPacket cfg now srcId msg s destId = some s') : Accepts s s' := by
  obtain ⟨s₁, hs₁, hrequest⟩ := Option.bind_eq_some_iff.1 h
  have hfirst : Accepts s s₁ := by
    split_ifs at hs₁
    · simp only [performanceRequest, Option.bind_eq_bind, Option.bind_eq_some_iff, Option.some_inj]
        at hs₁
      obtain ⟨src, -, dest, -, rfl⟩ := hs₁
      exact .of_same rfl rfl
    · obtain rfl := Option.some_inj.1 hs₁
      exact .of_same rfl rfl
  obtain ⟨haccepted, -, -, -, hwaiting⟩ := impulseRequest_spec hrequest
  refine hfirst.trans ⟨haccepted ▸ List.prefix_append _ _, fun srcId' destId' => ?_⟩
  rw [hwaiting]
  split_ifs with hpair
  · exact ⟨[(s₁.accepted.length, msg)], by rw [hpair.1, hpair.2], by simp, by simp [haccepted]⟩
  · exact ⟨[], by simp, .nil, by simp⟩

variable [DecidableEq ε]

theorem accepts_udpIn {udpSrc : ε} {msg : ModemTransmission} {now : ℚ}
    (h : s.udpIn cfg udpSrc msg now = some s') : Accepts s s' := by
  unfold NetSimUDP.udpIn at h
  cases hsrc : cfg.endpointToId udpSrc with
  | none =>
      simp only [hsrc, Option.some_inj] at h
      exact h ▸ .of_same rfl rfl
  | some srcId =>
      simp only [hsrc] at h
      generalize destinations cfg srcId msg = dests at h
      induction dests generalizing s with
      | nil =>
          obtain rfl := Option.some_inj.1 h
          exact .of_same rfl rfl
      | cons dest dests ih =>
          rw [List.foldlM_cons] at h
          obtain ⟨s₁, hs₁, h⟩ := Option.bind_eq_some_iff.1 h
          exact (accepts_forwardPacket hs₁).trans (ih h)

end Accepts

/-! ### Responses -/

section Responses

variable {cfg : NetSimUDPConfig ε} {luck : Luck} {s s' : NetSimUDP ε} {srcId destId : ℤ}

/-- The packets that succeed are in the order in which they waited. -/
theorem arrivals_sublist (owtt : ℚ) (k : ℕ) (queue : List (ℕ × ModemTransmission)) :
    ((arrivals cfg luck s srcId destId owtt k queue).map (·.2.1)).Sublist (queue.map (·.1)) := by
  induction queue generalizing k with
  | nil => exact List.Sublist.refl _
  | cons packet queue ih =>
      rw [arrivals, List.map_append, List.map_cons]
      refine List.Sublist.append (?_ : List.Sublist _ [packet.1]) (ih (k + 1))
      split_ifs
      · cases cfg.modemAt destId <;> simp
      · simp

/-- What a response delays has waited. -/
theorem exists_waiting_of_delays {r : ImpulseResponse} {d : ℤ × ℕ × IOData ε}
    (hd : d ∈ delays cfg s r luck) :
    ∃ srcId destId, ∃ packet ∈ s.waiting srcId destId, packet.1 = d.2.1 := by
  rw [delays] at hd
  split at hd
  next src dest firstArrival _ _ _ =>
    split_ifs at hd
    · cases hd
    · obtain ⟨packet, hpacket, hserial⟩ := List.mem_map.1
        ((arrivals_sublist _ _ _).subset (List.mem_map_of_mem hd))
      exact ⟨src, dest, packet, hpacket, hserial⟩
  · cases hd

/-- What a response delays of a pair, and what of it waits then, is in the order in which it
waited. -/
theorem delays_sublist {r : ImpulseResponse}
    (hwaiting : ∀ srcId destId, ∀ packet ∈ s.waiting srcId destId, ofPair s srcId destId packet.1)
    (h : s.processImpulseResponse cfg r luck = some s') (srcId destId : ℤ) :
    (((delays cfg s r luck).filter fun d => ofPair s srcId destId d.2.1).map (·.2.1) ++
      (s'.waiting srcId destId).map (·.1)).Sublist ((s.waiting srcId destId).map (·.1)) := by
  unfold processImpulseResponse at h
  unfold delays
  cases hsrc : cfg.tcpPortToId r.source with
  | none =>
      simp only [hsrc, Option.some_inj] at h
      subst h
      simp
  | some src =>
      simp only [hsrc] at h
      obtain ⟨dest, hdest, h⟩ := Option.bind_eq_some_iff.1 h
      simp only [hdest]
      split_ifs at h with hzero
      · obtain rfl := Option.some_inj.1 h
        cases travelTime luck r <;> simp [hzero]
      · obtain ⟨s₁, hanswer, rfl⟩ := Option.map_eq_some_iff.1 h
        rw [waiting_eraseWaiting, (moved_answerWaiting hanswer).same.waiting]
        have hnothing : (List.map (·.2.1) (([] : List (ℤ × ℕ × IOData ε)).filter fun d =>
            ofPair s srcId destId d.2.1) ++ (if srcId = src ∧ destId = dest then []
              else s.waiting srcId destId).map (·.1)).Sublist
                ((s.waiting srcId destId).map (·.1)) := by
          split_ifs <;> simp
        cases travelTime luck r with
        | none => exact hnothing
        | some firstArrival =>
            simp only [hzero, false_or]
            split_ifs with hrays hpair hpair
            · simp
            · simp
            -- the packets of the pair do not wait any more
            · rw [List.map_nil, List.append_nil, hpair.1, hpair.2]
              exact (List.filter_sublist.map _).trans (arrivals_sublist _ _ _)
            -- those of another pair do, and are not delayed
            · have hnone : ((arrivals cfg luck s src dest (firstArrival + luck.outlier.getD 0) 0
                  (s.waiting src dest)).filter fun d => ofPair s srcId destId d.2.1) = [] := by
                rw [List.filter_eq_nil_iff]
                intro d hd hof
                obtain ⟨packet, hpacket, hserial⟩ := List.mem_map.1
                  ((arrivals_sublist _ _ _).subset (List.mem_map_of_mem hd))
                have hsame := hwaiting src dest packet hpacket
                rw [hserial] at hsame
                simp only [ofPair, Option.any_eq_true, Bool.and_eq_true, decide_eq_true_eq]
                  at hof hsame
                obtain ⟨pair, hsome, hpair'⟩ := hof
                obtain ⟨pair', hsome', hpair''⟩ := hsame
                rw [hsome, Option.some_inj] at hsome'
                subst hsome'
                exact hpair ⟨hpair'.1.symm.trans hpair''.1, hpair'.2.symm.trans hpair''.2⟩
              rw [hnone]
              exact List.Sublist.refl _

end Responses

/-! ### Runs -/

section Runs

variable {cfg : NetSimUDPConfig ε} {s s' : NetSimUDP ε} {es : List (UdpEvent ε)}
  {ds : List (ℤ × ℕ × IOData ε)} {srcId destId : ℤ}

theorem lt_of_ofPair {serial : ℕ} (h : ofPair s srcId destId serial) :
    serial < s.accepted.length := by
  rw [ofPair, Option.any_eq_true] at h
  obtain ⟨pair, hpair, -⟩ := h
  exact (List.getElem?_eq_some_iff.1 hpair).1

/-- An accepted packet stays of its pair. -/
theorem ofPair_of_prefix (h : s.accepted <+: s'.accepted) {serial : ℕ}
    (hserial : serial < s.accepted.length) :
    ofPair s' srcId destId serial = ofPair s srcId destId serial := by
  obtain ⟨new, hnew⟩ := h
  rw [ofPair, ofPair, ← hnew, List.getElem?_append_left hserial]

/-- The packets `ds` were delayed, those of each pair in the order in which they were accepted, and
those that wait still were accepted later. -/
structure Ordered (s : NetSimUDP ε) (ds : List (ℤ × ℕ × IOData ε)) : Prop where
  accepted : ∀ d ∈ ds, d.2.1 < s.accepted.length
  ascend : ∀ srcId destId, ((ds.filter fun d => ofPair s srcId destId d.2.1).map (·.2.1) ++
    (s.waiting srcId destId).map (·.1)).Pairwise (· < ·)

/-- New packets wait behind those of their pair. -/
theorem Ordered.accepts (h : Ordered s ds) (haccepts : Accepts s s')
    (hwaiting : ∀ srcId destId, ∀ packet ∈ s.waiting srcId destId,
      ofPair s srcId destId packet.1) : Ordered s' ds where
  accepted d hd := (h.accepted d hd).trans_le haccepts.accepted.length_le
  ascend srcId destId := by
    have hsame : (ds.filter fun d => ofPair s' srcId destId d.2.1) =
        ds.filter fun d => ofPair s srcId destId d.2.1 :=
      List.filter_congr fun d hd => ofPair_of_prefix haccepts.accepted (h.accepted d hd)
    obtain ⟨new, hnew, hascend, hrange⟩ := haccepts.waiting srcId destId
    rw [hsame, hnew, List.map_append, ← List.append_assoc, List.pairwise_append]
    refine ⟨h.ascend srcId destId, hascend, fun x hx y hy => ?_⟩
    obtain ⟨packet, hpacket, rfl⟩ := List.mem_map.1 hy
    refine lt_of_lt_of_le ?_ (hrange packet hpacket).1
    rcases List.mem_append.1 hx with hx | hx
    · obtain ⟨d, hd, rfl⟩ := List.mem_map.1 hx
      exact h.accepted d (List.mem_of_mem_filter hd)
    · obtain ⟨packet', hpacket', rfl⟩ := List.mem_map.1 hx
      exact lt_of_ofPair (hwaiting srcId destId packet' hpacket')

/-- A response delays the packets of a pair that have waited longest. -/
theorem Ordered.impulseResponse (h : Ordered s ds) {r : ImpulseResponse} {luck : Luck}
    (hwaiting : ∀ srcId destId, ∀ packet ∈ s.waiting srcId destId, ofPair s srcId destId packet.1)
    (haccepted : s'.accepted = s.accepted)
    (hstep : s.processImpulseResponse cfg r luck = some s') :
    Ordered s' (ds ++ delays cfg s r luck) where
  accepted d hd := by
    rw [haccepted]
    rcases List.mem_append.1 hd with hd | hd
    · exact h.accepted d hd
    · obtain ⟨src, dest, packet, hpacket, hserial⟩ := exists_waiting_of_delays hd
      exact hserial ▸ lt_of_ofPair (hwaiting src dest packet hpacket)
  ascend srcId destId := by
    have hsame (serial : ℕ) : ofPair s' srcId destId serial = ofPair s srcId destId serial := by
      rw [ofPair, ofPair, haccepted]
    simp only [hsame, List.filter_append, List.map_append, List.append_assoc]
    exact (h.ascend srcId destId).sublist
      ((delays_sublist hwaiting hstep srcId destId).append_left _)

variable [DecidableEq ε]

/-- The packets that wait are those of their pair. -/
theorem ofPair_of_waiting (h : after cfg es = some s) :
    ∀ srcId destId, ∀ packet ∈ s.waiting srcId destId, ofPair s srcId destId packet.1 :=
  fun srcId destId packet hpacket => by
    rw [ofPair, (ledger_after h).1.waiting srcId destId packet.1 packet.2 hpacket]
    simp

/-- In every run the packets of each pair are delayed in the order in which they were accepted. -/
theorem ordered_after {s₀ : NetSimUDP ε} (hinit : init cfg = some s₀)
    (h : after cfg es = some s) :
    Ordered s (DelayQueue.delayed ((queuePart cfg).trace s₀ es)) := by
  induction es using List.reverseRecOn generalizing s with
  | nil =>
      rw [after, hinit, Option.bind_some] at h
      cases h
      unfold init at hinit
      split_ifs at hinit
      obtain rfl := Option.some_inj.1 hinit
      exact ⟨by simp [Component.trace, DelayQueue.delayed], by
        simp [Component.trace, DelayQueue.delayed, NetSimUDP.waiting]⟩
  | append_singleton es e ih =>
      have hafter := h
      rw [after, hinit, Option.bind_some, Run.exec_concat_eq_some] at h
      obtain ⟨u, hrun, hstep⟩ := h
      have hu : after cfg es = some u := by rw [after, hinit, Option.bind_some, hrun]
      have hwaiting := ofPair_of_waiting hu
      have haccepted : s.accepted = u.accepted ++ accepts cfg e := by
        rw [(ledger_after hafter).2, (ledger_after hu).2, List.flatMap_append,
          List.flatMap_singleton]
      have hpre := ih hu
      rw [Component.trace_concat hrun, DelayQueue.delayed_append]
      -- only a response delays anything
      have hnothing (hnone : DelayQueue.delayed ((queuePart cfg).part u e).toList = [])
          (haccepts : Accepts u s) : Ordered s (DelayQueue.delayed ((queuePart cfg).trace s₀ es) ++
            DelayQueue.delayed ((queuePart cfg).part u e).toList) := by
        rw [hnone, List.append_nil]
        exact hpre.accepts haccepts hwaiting
      cases e with
      | impulseResponse r luck =>
          have hdelays : DelayQueue.delayed
              ((queuePart cfg).part u (.impulseResponse r luck)).toList = delays cfg u r luck :=
            List.append_nil _
          rw [hdelays]
          exact hpre.impulseResponse hwaiting (haccepted.trans (List.append_nil _)) hstep
      | udpIn udpSrc msg now => exact hnothing rfl (accepts_udpIn hstep)
      | performanceResponse r =>
          obtain ⟨hsame, -, -⟩ := performanceResponse_spec hstep
          exact hnothing rfl (.of_same hsame.accepted hsame.forwardBuffer)
      | loop now =>
          obtain rfl := Option.some_inj.1 hstep
          exact hnothing rfl (.of_same rfl rfl)

/-- What was delayed in a run was delayed by a response. -/
theorem delayedBy_of_mem_delayed {s₀ : NetSimUDP ε} (hinit : init cfg = some s₀)
    (h : after cfg es = some s) {due : ℤ} {serial : ℕ} {io : IOData ε}
    (hmem : (due, serial, io) ∈ DelayQueue.delayed ((queuePart cfg).trace s₀ es)) :
    ∃ later, DelayedBy cfg es later due serial io := by
  obtain ⟨f, hf, hitem⟩ := List.mem_flatMap.1 hmem
  obtain ⟨fs, gs, htrace⟩ := List.append_of_mem hf
  rw [after, hinit, Option.bind_some] at h
  obtain ⟨pre, e, later, u, v, hes, hpre, -, hpart, -⟩ := Component.exists_of_trace_eq h htrace
  cases f with
  | delay items => exact ⟨later, .of_part hinit hes hpre hpart hitem⟩
  | tick now => cases hitem

variable (s es)

/-- In every run, if of any two packets of a pair of modems the one that was accepted first is due
first, then the packets of the pair are published in the order in which they were accepted. -/
theorem publishedInOrder_after (h : after cfg es = some s) (srcId destId : ℤ)
    (hdue : ∀ later due serial io later' due' serial' io',
      DelayedBy cfg es later due serial io → DelayedBy cfg es later' due' serial' io' →
        ofPair s srcId destId serial → ofPair s srcId destId serial' → serial < serial' →
          due ≤ due') :
    ((s.udpOut.filter fun e => ofPair s srcId destId e.2.1).map (·.2.1)).Pairwise (· < ·) := by
  obtain ⟨s₀, hinit, -⟩ := Option.bind_eq_some_iff.1 h
  have hserials := (List.pairwise_append.1 ((ordered_after hinit h).ascend srcId destId)).1
  rw [List.pairwise_map] at hserials
  -- the times at which the packets of the pair are due ascend
  have hascend : (DelayQueue.ofClass (fun packet => ofPair s srcId destId packet.1)
      (DelayQueue.delayed ((queuePart cfg).trace s₀ es))).Pairwise (·.1 ≤ ·.1) := by
    refine hserials.imp_of_mem fun {d d'} hd hd' hlt => ?_
    obtain ⟨hmem, hpair⟩ := List.mem_filter.1 hd
    obtain ⟨hmem', hpair'⟩ := List.mem_filter.1 hd'
    obtain ⟨later, hdelayed⟩ := delayedBy_of_mem_delayed hinit h hmem
    obtain ⟨later', hdelayed'⟩ := delayedBy_of_mem_delayed hinit h hmem'
    exact hdue _ _ _ _ _ _ _ _ hdelayed hdelayed' hpair hpair' hlt
  -- so what is published of them is a beginning of what was delayed
  have hqueue := DelayQueue.filter_released_append _ hascend
  rw [← delayQueue_after cfg es hinit h] at hqueue
  have hsublist := (List.IsPrefix.map (fun packet : ℕ × IOData ε => packet.1) ⟨_, hqueue⟩).sublist
  rw [List.map_map, List.map_map] at hsublist
  exact (List.pairwise_map.2 hserials).sublist hsublist

end Runs

/-- Of the two transmissions, the first is published first. -/
theorem publishedInOrder_twoTransmissions : ∃ s, after twoModems twoTransmissions = some s ∧
    ((s.udpOut.filter fun e => ofPair s 1 2 e.2.1).map (·.2.1)).Pairwise (· < ·) ∧
      s.udpOut.map (·.2.1) = [0, 1] := by
  have hrun : (after twoModems twoTransmissions).map (fun s => s.udpOut.map (·.2.1)) =
      some [0, 1] := by
    decide +kernel
  obtain ⟨s, hs, hout⟩ := Option.map_eq_some_iff.1 hrun
  -- the response delays both packets
  have hdelays {later : List (UdpEvent ℕ)} {due : ℤ} {serial : ℕ} {io : IOData ℕ}
      (h : DelayedBy twoModems twoTransmissions later due serial io) :
      (due, serial) ∈ [((501000 : ℤ), 0), (502000, 1)] := by
    obtain ⟨pre, r, luck, u, hes, hu, hmem⟩ := h
    rcases pre with _ | ⟨e, _ | ⟨e', _ | ⟨e'', _ | ⟨f, _ | ⟨f', pre⟩⟩⟩⟩⟩ <;>
      simp only [twoTransmissions, List.nil_append, List.cons_append, List.cons.injEq, reduceCtorEq,
        false_and, and_false, List.nil_eq, List.append_eq_nil_iff, UdpEvent.impulseResponse.injEq]
        at hes
    obtain ⟨rfl, rfl, ⟨rfl, rfl⟩, -⟩ := hes
    have hboth : (after twoModems (twoTransmissions.take 2)).map (fun u =>
        (delays twoModems u ⟨"62000", "62001", [⟨.ofFields false 1023 0, [1 / 2]⟩]⟩
          ⟨none, fun _ _ => true, 0⟩).map fun d => (d.1, d.2.1)) =
            some [(501000, 0), (502000, 1)] := by
      decide +kernel
    obtain ⟨u', hu', hmap⟩ := Option.map_eq_some_iff.1 hboth
    obtain rfl := Option.some_inj.1 (hu.symm.trans hu')
    rw [← hmap]
    exact List.mem_map.2 ⟨_, hmem, rfl⟩
  refine ⟨s, hs, publishedInOrder_after s _ hs 1 2 ?_, hout⟩
  intro later due serial io later' due' serial' io' h h' _ _ hlt
  have hmem := hdelays h
  have hmem' := hdelays h'
  simp only [List.mem_cons, Prod.mk.injEq, List.not_mem_nil, or_false] at hmem hmem'
  omega

end NetSimUDP

end Netsim
