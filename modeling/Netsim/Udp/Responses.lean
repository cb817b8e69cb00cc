import Netsim.Udp.Conservation

/-!
# Responses for unknown modems

The guard of `process_impulse_response` counts the source, but looks the receiver up with `at` and
tests its id: a receiver that is not configured lets it throw, and modem 0 is ignored.
`process_performance_response`, which is called only with MPP, looks every receiver up with `at`. A
run handles all responses, and goes on, iff each of them avoids these cases
(`handled_iff_canHandle`).
-/

namespace Netsim

namespace NetSimUDP

variable {ε : Type}

/-- The mpp a response reports last for an entry of the performance table, of the receivers that
are configured. -/
def reportedMpp (cfg : NetSimUDPConfig ε) (receivers : List (String × ℚ)) (srcId : ℤ)
    (p : ModemPairPerformance) : Option ℚ :=
  ((receivers.filter fun receiver =>
    (cfg.tcpPortToId receiver.1).any fun destId => p.isPair srcId destId).getLast?).map (·.2)

/-- The performance table, updated for the receivers of a response that are configured. -/
def reportedTable (cfg : NetSimUDPConfig ε) (receivers : List (String × ℚ)) (srcId : ℤ)
    (table : List ModemPairPerformance) : List ModemPairPerformance :=
  table.map fun p => { p with mpp := (reportedMpp cfg receivers srcId p).getD p.mpp }

/-- A response of a pair of configured modems empties the queue of the pair, any other impulse
response leaves the buffers alone; a performance response updates the table for the receivers that
are configured. -/
def Handled (cfg : NetSimUDPConfig ε) (s : NetSimUDP ε) : UdpEvent ε → Prop
  | .impulseResponse r luck => ∃ s', s.processImpulseResponse cfg r luck = some s' ∧
      match cfg.tcpPortToId r.source, cfg.tcpPortToId r.receiver with
      | some srcId, some destId => s'.waiting srcId destId = []
      | _, _ => s'.forwardBuffer = s.forwardBuffer ∧ s'.delayBuffer = s.delayBuffer
  | .performanceResponse r => cfg.packetSuccessMethod = .MPP →
      ∃ s', s.processPerformanceResponse cfg r = some s' ∧
        s'.perfTable = match cfg.tcpPortToId r.contact with
          | some srcId => reportedTable cfg r.receiver srcId s.perfTable
          | none => s.perfTable
  | _ => True

/-- Every ray of an amplitude greater than 0 has an array element, unless a ray before it is at
least as strong. A NaN is neither greater than 0 nor at least as strong as anything. -/
def StrongestHaveElements (rays : List RayTrace) : Prop :=
  ∀ before ray after, rays = before ++ ray :: after → ray.amp.gt .zero →
    (∀ r ∈ before, r.amp.ge ray.amp = false) → ray.element ≠ []

/-- The receiver is configured, unless the source is not. If it is modem 0, nothing waits for it,
and if it is another modem, the rays that `travel_time` reads have elements. With MPP, the receivers
of a performance response are configured, unless the contact is not. -/
def CanHandle (cfg : NetSimUDPConfig ε) (s : NetSimUDP ε) : UdpEvent ε → Prop
  | .impulseResponse r _ => ∀ srcId, cfg.tcpPortToId r.source = some srcId →
      ∃ destId, cfg.tcpPortToId r.receiver = some destId ∧
        if destId = 0 then s.waiting srcId 0 = [] else StrongestHaveElements r.raytrace
  | .performanceResponse r => cfg.packetSuccessMethod = .MPP →
      (cfg.tcpPortToId r.contact).isSome →
        ∀ receiver ∈ r.receiver, (cfg.tcpPortToId receiver.1).isSome
  | _ => True

/-! ### Impulse responses -/

section Impulse

open Ieee.Value

variable {cfg : NetSimUDPConfig ε} {s s' : NetSimUDP ε} {r : ImpulseResponse} {luck : Luck}

/-- The loop of `travel_time` goes through iff every ray that is stronger than those before it has
an element. -/
theorem strongest_isSome_iff (rays : List RayTrace) (maxAmp : Double) (delay : ℚ) :
    (strongest maxAmp delay rays).isSome ↔
      ∀ before ray after, rays = before ++ ray :: after → ray.amp.gt maxAmp →
        (∀ r ∈ before, r.amp.ge ray.amp = false) → ray.element ≠ [] := by
  -- on the rays; `maxAmp` is the greatest amplitude of those before
  induction rays generalizing maxAmp delay with
  | nil => simp [strongest]
  | cons ray rays ih =>
      rw [strongest]
      split_ifs with hmax
      · cases helement : ray.element with
        | nil =>
            refine iff_of_false (by simp) fun h => ?_
            exact h [] ray rays rfl hmax (by simp) helement
        | cons element elements =>
            rw [List.head?_cons, Option.bind_some, ih]
            constructor
            · intro h before ray' after heq hgreat hbefore
              cases before with
              | nil =>
                  obtain ⟨rfl, -⟩ := List.cons_eq_cons.1 heq
                  simp [helement]
              | cons first before =>
                  obtain ⟨rfl, rfl⟩ := List.cons_eq_cons.1 heq
                  obtain ⟨hfirst, hbefore⟩ := List.forall_mem_cons.1 hbefore
                  refine h before ray' after rfl ?_ hbefore
                  by_contra hle
                  rw [Bool.not_eq_true, ← le_iff_not_gt (not_isNaN_of_gt hgreat).1
                    (not_isNaN_of_gt hmax).1] at hle
                  exact Bool.false_ne_true (hfirst.symm.trans hle)
            · rintro h before ray' after rfl hgreat hbefore
              exact h (ray :: before) ray' after rfl (gt_trans hgreat hmax)
                (List.forall_mem_cons.2 ⟨not_ge_of_gt hgreat, hbefore⟩)
      -- a ray that is not stronger is passed over
      · rw [ih]
        constructor
        · intro h before ray' after heq hgreat hbefore
          cases before with
          | nil =>
              obtain ⟨rfl, -⟩ := List.cons_eq_cons.1 heq
              exact absurd hgreat hmax
          | cons first before =>
              obtain ⟨rfl, rfl⟩ := List.cons_eq_cons.1 heq
              exact h before ray' after rfl hgreat (List.forall_mem_cons.1 hbefore).2
        · rintro h before ray' after rfl hgreat hbefore
          refine h (ray :: before) ray' after rfl hgreat (List.forall_mem_cons.2 ⟨?_, hbefore⟩)
          by_contra hge
          exact hmax (gt_of_ge_of_gt (Bool.not_eq_false _ ▸ hge) hgreat)

theorem travelTime_isSome_iff (luck : Luck) (r : ImpulseResponse) :
    (travelTime luck r).isSome ↔ StrongestHaveElements r.raytrace :=
  strongest_isSome_iff r.raytrace .zero luck.uninitialised

variable (s luck) in
/-- A response of a configured pair goes through iff `travel_time` does. -/
theorem handleResponse_isSome_iff (srcId : ℤ) {destId : ℤ} (hdest : (cfg.modemAt destId).isSome) :
    (s.handleResponse cfg r luck srcId destId).isSome ↔ StrongestHaveElements r.raytrace := by
  rw [handleResponse, Option.isSome_map, answerWaiting]
  split_ifs with hrays
  · rw [← travelTime_isSome_iff luck]
    cases travelTime luck r with
    | none => simp
    | some firstArrival =>
        obtain ⟨s', hs'⟩ := exists_handleWaiting s luck srcId
          (firstArrival + luck.outlier.getD 0) hdest 0 (s.waiting srcId destId)
        simp [hs']
  -- without rays nothing is read
  · refine iff_of_true rfl ?_
    rintro before ray after heq
    rw [not_not.1 hrays] at heq
    simp at heq

/-- It empties the queue of the pair. -/
theorem waiting_handleResponse {srcId destId : ℤ}
    (h : s.handleResponse cfg r luck srcId destId = some s') : s'.waiting srcId destId = [] := by
  obtain ⟨t, -, rfl⟩ := Option.map_eq_some_iff.1 h
  rw [waiting_eraseWaiting, if_pos ⟨rfl, rfl⟩]

theorem impulseResponse_handled_iff :
    Handled cfg s (.impulseResponse r luck) ↔ CanHandle cfg s (.impulseResponse r luck) := by
  rw [Handled, CanHandle]
  cases hsrc : cfg.tcpPortToId r.source with
  | none =>
      simp only [processImpulseResponse, hsrc]
      exact iff_of_true ⟨s, rfl, rfl, rfl⟩ (by simp)
  | some srcId =>
      cases hdest : cfg.tcpPortToId r.receiver with
      | none => simp [processImpulseResponse, hsrc, hdest]
      | some destId =>
          simp only [processImpulseResponse, hsrc, hdest, Option.bind_some, Option.some_inj,
            forall_eq', exists_eq_left']
          -- modem 0 is ignored, so that nothing may wait for it
          by_cases hzero : destId = 0
          · simp [hzero]
          · rw [if_neg hzero, if_neg hzero, ← handleResponse_isSome_iff s luck srcId
              (modemAt_isSome_of_tcpPortToId hdest), Option.isSome_iff_exists]
            exact exists_congr fun s' => and_iff_left_of_imp waiting_handleResponse

end Impulse

/-! ### Performance responses -/

section Performance

variable {cfg : NetSimUDPConfig ε} {s s' : NetSimUDP ε}

/-- A report is replaced by one of a later receiver. -/
theorem reportedMpp_cons (receiver : String × ℚ) (receivers : List (String × ℚ))
    {srcId destId : ℤ} (hdest : cfg.tcpPortToId receiver.1 = some destId)
    (p : ModemPairPerformance) : reportedMpp cfg (receiver :: receivers) srcId p =
      if p.isPair srcId destId then some ((reportedMpp cfg receivers srcId p).getD receiver.2)
      else reportedMpp cfg receivers srcId p := by
  rw [reportedMpp, List.filter_cons, hdest, Option.any_some]
  split_ifs
  · rw [List.getLast?_cons, Option.map_some, reportedMpp, Option.getD_map]
  · rfl

theorem reportedTable_cons (receiver : String × ℚ) (receivers : List (String × ℚ))
    {srcId destId : ℤ} (hdest : cfg.tcpPortToId receiver.1 = some destId)
    (table : List ModemPairPerformance) : reportedTable cfg (receiver :: receivers) srcId table =
      reportedTable cfg receivers srcId (table.map fun p =>
        if p.isPair srcId destId then { p with mpp := receiver.2 } else p) := by
  rw [reportedTable, reportedTable, List.map_map]
  refine List.map_congr_left fun p _ => ?_
  rw [Function.comp_apply, reportedMpp_cons receiver receivers hdest]
  split_ifs with hpair
  -- a report does not change which pair the entry is about
  · rfl
  · rfl

theorem performanceResponse_handled_iff {r : ObjFuncResponse} :
    Handled cfg s (.performanceResponse r) ↔ CanHandle cfg s (.performanceResponse r) := by
  rw [Handled, CanHandle]
  refine imp_congr_right fun _ => ?_
  rw [processPerformanceResponse]
  cases cfg.tcpPortToId r.contact with
  | none => exact iff_of_true ⟨s, rfl, rfl⟩ (by simp)
  | some srcId =>
      simp only [Option.isSome_some, true_implies]
      -- on the receivers; the table is what those before have left
      induction r.receiver generalizing s with
      | nil => simp [reportedTable, reportedMpp]
      | cons receiver receivers ih =>
          rw [List.foldlM_cons, List.forall_mem_cons]
          cases hdest : cfg.tcpPortToId receiver.1 with
          | none => simp
          | some destId =>
              let update (p : ModemPairPerformance) : ModemPairPerformance :=
                if p.isPair srcId destId then { p with mpp := receiver.2 } else p
              rw [← ih (s := { s with perfTable := s.perfTable.map update }),
                reportedTable_cons receiver receivers hdest]
              simp [update]

end Performance

/-! ### Runs -/

section Runs

variable [DecidableEq ε] {cfg : NetSimUDPConfig ε} {s s' : NetSimUDP ε} {e : UdpEvent ε}

omit [DecidableEq ε] in
/-- A response is handled iff the application can handle it. -/
theorem step_handled_iff : Handled cfg s e ↔ CanHandle cfg s e := by
  cases e with
  | udpIn udpSrc msg now => exact Iff.rfl
  | impulseResponse r luck => exact impulseResponse_handled_iff
  | performanceResponse r => exact performanceResponse_handled_iff
  | loop now => exact Iff.rfl

/-- The application goes on after a response it handles. -/
theorem Handled.exists_step (h : Handled cfg s e) : ∃ s', step cfg s e = some s' := by
  cases e with
  | udpIn udpSrc msg now => exact exists_udpIn s udpSrc msg now
  | impulseResponse r luck =>
      obtain ⟨s', hs', -⟩ := h
      exact ⟨s', hs'⟩
  | performanceResponse r =>
      rw [step]
      split_ifs with hmethod
      · obtain ⟨s', hs', -⟩ := h hmethod
        exact ⟨s', hs'⟩
      · exact ⟨s, rfl⟩
  | loop now => exact ⟨_, rfl⟩

/-- A run goes on, and handles all responses, iff the application can handle each of them. -/
theorem handled_iff_canHandle (cfg : NetSimUDPConfig ε) (s₀ : NetSimUDP ε)
    (hinit : init cfg = some s₀) (es : List (UdpEvent ε)) :
    (∃ s, after cfg es = some s) ∧ Run.ExecAlways (step cfg) s₀ (Handled cfg) es ↔
      Run.ExecAlways (step cfg) s₀ (CanHandle cfg) es := by
  have hafter : after cfg es = Run.exec (step cfg) s₀ es := by
    rw [after, hinit, Option.bind_some]
  constructor
  · rintro ⟨-, h⟩ pre e post s heq hs
    exact step_handled_iff.1 (h pre e post s heq hs)
  · intro h
    have hhandled : Run.ExecAlways (step cfg) s₀ (Handled cfg) es :=
      fun pre e post s heq hs => step_handled_iff.2 (h pre e post s heq hs)
    obtain ⟨s, hs, -⟩ := Run.exec_induction (step cfg) s₀ (G := Handled cfg) (P := fun _ => True)
      (I := fun _ _ => True) (fun _ _ _ => trivial) trivial
      (fun es e s _ _ he => by
        obtain ⟨s', hs'⟩ := he.exists_step
        exact ⟨s', hs', trivial⟩) es trivial hhandled
    exact ⟨⟨s, hafter.trans hs⟩, hhandled⟩

/-- A response of a pair of modems, and a report on it. -/
theorem handled_of_two_modems :
    let cfg : NetSimUDPConfig ℕ :=
      { modem := [⟨62000, 1, 10⟩, ⟨62001, 2, 20⟩], packetSuccessMethod := .MPP, broadcastId := 0,
        linearInterpolate := fun _ _ => 0,
        microTime := fun seconds => (seconds * 1000000).floor }
    let es : List (UdpEvent ℕ) :=
      [.udpIn 10 { dest := 2, type := .DATA, time := 1000 } 0,
        .performanceResponse ⟨"62000", [("62001", 50)]⟩,
        .impulseResponse ⟨"62000", "62001", [⟨.ofFields false 1023 0, [1 / 2]⟩]⟩
          ⟨none, fun _ _ => true, 0⟩]
    (∃ s, after cfg es = some s) ∧
      Run.ExecAlways (step cfg) { perfTable := cfg.perfTable } (Handled cfg) es := by
  intro cfg es
  have h1 : cfg.tcpPortToId "62000" = some 1 := by decide +kernel
  have h2 : cfg.tcpPortToId "62001" = some 2 := by decide +kernel
  refine (handled_iff_canHandle cfg _ rfl es).2 ?_
  refine Run.execAlways_cons _ _ trivial fun s _ => ?_
  refine Run.execAlways_cons _ _ (fun _ _ => by simp [h2]) fun s _ => ?_
  refine Run.execAlways_cons _ _ (fun srcId _ => ⟨2, h2, ?_⟩) fun s _ => ?_
  · rintro before ray after heq - -
    have hmem : ray ∈ before ++ ray :: after := by simp
    rw [← heq] at hmem
    rw [List.mem_singleton.1 hmem]
    simp
  · rintro pre e post t heq
    simp at heq

/-- A response for a receiver that is not configured throws. A packet for modem 0 stays in the
queue after the response of its pair. -/
theorem not_handled_of_unknown_receiver_or_modem_zero :
    let luck : Luck := ⟨none, fun _ _ => true, 0⟩
    let cfg (id : UInt32) : NetSimUDPConfig ℕ :=
      { modem := [⟨62000, 1, 10⟩, ⟨62001, id, 20⟩], packetSuccessMethod := .ALL_PACKETS_SUCCEED,
        broadcastId := -1, linearInterpolate := fun _ _ => 0,
        microTime := fun seconds => (seconds * 1000000).floor }
    (∃ s, after (cfg 2) [] = some s ∧
      ¬ Handled (cfg 2) s (.impulseResponse ⟨"62000", "62002", []⟩ luck)) ∧
    ∃ s, after (cfg 0) [.udpIn 10 { dest := 0, type := .DATA, time := 1000 } 0] = some s ∧
      ¬ Handled (cfg 0) s
        (.impulseResponse ⟨"62000", "62001", [⟨.ofFields false 1023 0, [1 / 2]⟩]⟩ luck) := by
  intro luck cfg
  constructor
  · refine ⟨{}, rfl, ?_⟩
    rintro ⟨s', hs', -⟩
    have hthrows : (processImpulseResponse (cfg 2) {} ⟨"62000", "62002", []⟩ luck).isNone := by
      decide +kernel
    rw [hs'] at hthrows
    cases hthrows
  · have hsrc : (cfg 0).tcpPortToId "62000" = some 1 := by decide +kernel
    have hdest : (cfg 0).tcpPortToId "62001" = some 0 := by decide +kernel
    have hwaits : ((after (cfg 0) [.udpIn 10 { dest := 0, type := .DATA, time := 1000 } 0]).map
        fun s => (s.waiting 1 0).length) = some 1 := by
      decide +kernel
    obtain ⟨s, hs, hwaits⟩ := Option.map_eq_some_iff.1 hwaits
    refine ⟨s, hs, ?_⟩
    rintro ⟨s', hs', hempty⟩
    simp only [hsrc, hdest] at hempty
    -- the guard takes modem 0 for unknown, and the state stays the same
    obtain rfl : s = s' := by simpa [processImpulseResponse, hsrc, hdest] using hs'
    rw [hempty] at hwaits
    cases hwaits

end Runs

end NetSimUDP

end Netsim
