import Netsim.Bridge.Model

/-!
# Bridged delivery is exactly once

When the ranges of the processes partition the modems, what a processor receives from a transmitter
of its own process comes from the detector, and what it receives from any other transmitter comes
from the detector by the bridges of the two processes. On every such path the next queue is sent
exactly what was received from the one before (`Relayed`), so that the received sequences are those
the detectors publish (`exactlyOnce_after`).
-/

namespace Netsim

/-- The ranges of the processes partition the modems `0..n-1`, whose number the constructor has
accepted. -/
structure Partitions {π : Type} (platform : Platform) (cfg : π → NetSimCoreConfig) (n : ℤ) :
    Prop where
  /-- All processes are configured with the same number of modems. -/
  modems : ∀ p, (cfg p).numberOfModems = n
  /-- `number_of_modems() <= NETSIM_MAX_MODEMS`. -/
  accepted : n ≤ platform.netsimMaxModems
  /-- Every local modem is one of them. -/
  within : ∀ p i, (cfg p).isLocal i → 0 ≤ i ∧ i < n
  /-- Every modem is local to some process. -/
  covered : ∀ i, 0 ≤ i → i < n → ∃ p, (cfg p).isLocal i
  /-- No modem is local to two processes. -/
  disjoint : ∀ p q i, (cfg p).isLocal i → (cfg q).isLocal i → p = q

namespace Partitions

variable {π : Type} {platform : Platform} {cfg : π → NetSimCoreConfig} {n : ℤ}

/-- The detectors that are launched are those of the local modems. -/
theorem launchesDetector_iff (h : Partitions platform cfg n) (p : π) (i : ℤ) :
    (cfg p).launchesDetector platform i ↔ (cfg p).isLocal i := by
  have hlocal (k : ℤ) : (cfg p).isLocal k ↔ (cfg p).firstModemIndex ≤ k ∧
      k < (cfg p).firstModemIndex + (cfg p).localNumberOfModems := by
    simp [NetSimCoreConfig.isLocal]
  simp only [NetSimCoreConfig.launchesDetector, Bool.and_eq_true, decide_eq_true_eq]
  constructor
  · rintro ⟨⟨-, hlast⟩, hfirst⟩
    exact (hlocal i).2 ⟨hfirst, by omega⟩
  · intro hi
    obtain ⟨hfirst, hlast⟩ := (hlocal i).1 hi
    have hbounds := h.within p i hi
    -- the last local modem is within the range, too
    have hmax := h.within p _ ((hlocal ((cfg p).firstModemIndex +
      (cfg p).localNumberOfModems - 1)).2 ⟨by omega, by omega⟩)
    have haccepted := h.accepted
    refine ⟨⟨⟨⟨?_, ?_⟩, ?_⟩, ?_⟩, hfirst⟩ <;> omega

/-- A processor of a local modem subscribes to all other modems. -/
theorem processorSubscribes_iff (h : Partitions platform cfg n) (q : π) (j i : ℤ) :
    (cfg q).processorSubscribes platform j i ↔
      (cfg q).isLocal j ∧ (0 ≤ i ∧ i < n) ∧ i ≠ j := by
  have haccepted := h.accepted
  simp only [NetSimCoreConfig.processorSubscribes, NetSimCoreConfig.launchesProcessor,
    NetSimCoreConfig.isLocal, NetSimCoreConfig.inSwitch, h.modems q, Bool.and_eq_true,
    decide_eq_true_eq]
  constructor
  · rintro ⟨hlaunch, ⟨hrange, hne⟩, -⟩
    exact ⟨by omega, hrange, hne⟩
  · rintro ⟨hlaunch, hrange, hne⟩
    exact ⟨by omega, ⟨hrange, hne⟩, by omega⟩

/-- A bridge takes what the detectors of its own process publish. -/
theorem bridgeSubscribesInterthread_iff (h : Partitions platform cfg n) (p : π) (i : ℤ) :
    (cfg p).bridgeSubscribesInterthread platform i ↔
      (cfg p).bridge.isSome ∧ (cfg p).isLocal i := by
  have haccepted := h.accepted
  have hwithin := h.within p i
  cases hbridge : (cfg p).bridge with
  | none => simp [NetSimCoreConfig.bridgeSubscribesInterthread, hbridge]
  | some bridge =>
      simp only [NetSimCoreConfig.bridgeSubscribesInterthread, NetSimCoreConfig.isLocal,
        NetSimCoreConfig.firstModemIndex, NetSimCoreConfig.localNumberOfModems,
        NetSimCoreConfig.inSwitch, hbridge, h.modems p, Option.any_some, Option.map_some,
        Option.getD_some, Option.isSome_some, Bool.and_eq_true, decide_eq_true_eq, true_and]
        at hwithin ⊢
      constructor
      · exact And.right
      · intro hi
        have hbounds := hwithin hi
        exact ⟨⟨hbounds, by omega⟩, hi⟩

/-- A bridge takes what the other processes publish of their modems. -/
theorem bridgeSubscribesInterprocess_iff (h : Partitions platform cfg n) (q : π) (i : ℤ) :
    (cfg q).bridgeSubscribesInterprocess platform i ↔
      (cfg q).bridge.isSome ∧ (0 ≤ i ∧ i < n) ∧ ¬ (cfg q).isLocal i := by
  have haccepted := h.accepted
  cases hbridge : (cfg q).bridge with
  | none => simp [NetSimCoreConfig.bridgeSubscribesInterprocess, hbridge]
  | some bridge =>
      simp only [NetSimCoreConfig.bridgeSubscribesInterprocess, NetSimCoreConfig.isLocal,
        NetSimCoreConfig.firstModemIndex, NetSimCoreConfig.localNumberOfModems,
        NetSimCoreConfig.inSwitch, hbridge, h.modems q, Option.any_some, Option.map_some,
        Option.getD_some, Option.isSome_some, Bool.and_eq_true, decide_eq_true_eq, true_and,
        Bool.not_eq_true', ← Bool.not_eq_true]
      constructor
      · rintro ⟨⟨hrange, -⟩, hremote⟩
        exact ⟨hrange, hremote⟩
      · rintro ⟨hrange, hremote⟩
        exact ⟨⟨hrange, by omega⟩, hremote⟩

/-- If another process has modems, a process has a bridge. -/
theorem bridge_isSome (h : Partitions platform cfg n) {p q : π} {j : ℤ} (hne : p ≠ q)
    (hj : (cfg q).isLocal j) : (cfg p).bridge.isSome := by
  by_contra hnone
  rw [Option.not_isSome_iff_eq_none] at hnone
  obtain ⟨hj0, hjn⟩ := h.within q j hj
  -- without a bridge, all modems are local
  have hlocal : (cfg p).isLocal j := by
    simp [NetSimCoreConfig.isLocal, NetSimCoreConfig.firstModemIndex,
      NetSimCoreConfig.localNumberOfModems, hnone, h.modems p, hj0, hjn]
  exact hne (h.disjoint p q j hlocal hj)

end Partitions

namespace NetSimCores

variable {π : Type} {platform : Platform} {cfg : π → NetSimCoreConfig} {n : ℤ}
  {s s' : NetSimCores π}

/-! ### Queues -/

theorem sent_publish (s : NetSimCores π) (hears : Inbox π → Bool) (b : TaggedAudioBuffer)
    (c : Inbox π) : ((s.publish hears b).inbox c).sent =
      (s.inbox c).sent ++ if hears c then [b] else [] := by
  rw [publish]
  dsimp only
  split_ifs <;> simp

theorem received_publish (s : NetSimCores π) (hears : Inbox π → Bool) (b : TaggedAudioBuffer)
    (c : Inbox π) : ((s.publish hears b).inbox c).received = (s.inbox c).received := by
  rw [publish]
  dsimp only
  split_ifs <;> simp

variable [DecidableEq π]

/-- What the receipt of a message does to the queues. -/
theorem receive_eq_some {c : Inbox π} {b : TaggedAudioBuffer} (h : s.receive c = some (b, s')) :
    (s.inbox c).sent ≠ [] ∧ s'.detected = s.detected ∧
      (∀ d, (s'.inbox d).sent = (s.inbox d).sent) ∧
      ∀ d, (s'.inbox d).received = (s.inbox d).received ++ if d = c then [b] else [] := by
  obtain ⟨⟨a, f⟩, hf, heq⟩ := Option.map_eq_some_iff.1 h
  obtain ⟨rfl, rfl⟩ := Prod.mk.injEq _ _ _ _ ▸ heq
  obtain ⟨hsent, hreceived⟩ := Fifo.receive_eq_some hf
  refine ⟨Fifo.sent_ne_nil_of_receive hf, rfl, fun d => ?_, fun d => ?_⟩
  · dsimp only
    split_ifs with hd
    · rw [hd, hsent]
    · rfl
  · dsimp only
    split_ifs with hd
    · rw [hd, hreceived]
    · rw [List.append_nil]

/-! ### The paths -/

/-- Whether there is a subscription. -/
def subscribed (platform : Platform) (cfg : π → NetSimCoreConfig) : Inbox π → Bool
  | .processor q j i => (cfg q).processorSubscribes platform j i
  | .bridgeOut q i => (cfg q).bridgeSubscribesInterthread platform i
  | .bridgeIn q i => (cfg q).bridgeSubscribesInterprocess platform i

/-- Every queue is sent what was received from the one before it on the path from the detector. -/
structure Relayed (platform : Platform) (cfg : π → NetSimCoreConfig) (s : NetSimCores π) :
    Prop where
  silent : ∀ c, subscribed platform cfg c = false → (s.inbox c).sent = []
  fromDetector : ∀ p j i, (cfg p).isLocal i → (cfg p).processorSubscribes platform j i →
    (s.inbox (.processor p j i)).sent = s.detected p i
  toBridge : ∀ p i, (cfg p).bridgeSubscribesInterthread platform i →
    (s.inbox (.bridgeOut p i)).sent = s.detected p i
  across : ∀ p q i, (cfg p).isLocal i → (cfg q).bridgeSubscribesInterprocess platform i →
    (s.inbox (.bridgeIn q i)).sent = (s.inbox (.bridgeOut p i)).received
  fromBridge : ∀ q j i, (cfg q).isLocal i = false → (cfg q).processorSubscribes platform j i →
    (s.inbox (.processor q j i)).sent = (s.inbox (.bridgeIn q i)).received

omit [DecidableEq π] in
theorem relayed_init : Relayed platform cfg {} where
  silent _ _ := rfl
  fromDetector _ _ _ _ _ := rfl
  toBridge _ _ _ := rfl
  across _ _ _ _ _ := rfl
  fromBridge _ _ _ _ _ := rfl

/-- A message is only received from a subscription. -/
theorem Relayed.subscribed_of_receive (h : Relayed platform cfg s) {c : Inbox π}
    {b : TaggedAudioBuffer} (hreceive : s.receive c = some (b, s')) :
    subscribed platform cfg c = true := by
  by_contra hsilent
  exact (receive_eq_some hreceive).1 (h.silent c (Bool.eq_false_iff.2 hsilent))

theorem Relayed.detect (hcfg : Partitions platform cfg n) (h : Relayed platform cfg s) {p : π}
    {i : ℤ} {b : TaggedAudioBuffer} (hstep : s.detect platform cfg p i b = some s') :
    Relayed platform cfg s' := by
  rw [NetSimCores.detect, Option.ite_none_right_eq_some] at hstep
  obtain ⟨hlaunch, heq⟩ := hstep
  have hlocal := (hcfg.launchesDetector_iff p i).1 hlaunch
  have hsent (c : Inbox π) : (s'.inbox c).sent = (s.inbox c).sent ++
      if hearsDetectorAudio platform cfg false p i c then [b] else [] :=
    Option.some_inj.1 heq ▸ sent_publish s _ b c
  have hreceived (c : Inbox π) : (s'.inbox c).received = (s.inbox c).received :=
    Option.some_inj.1 heq ▸ received_publish s _ b c
  have hdetected (q : π) (k : ℤ) : s'.detected q k =
      s.detected q k ++ if q = p ∧ k = i then [b] else [] := by
    rw [← Option.some_inj.1 heq]
    dsimp only
    split_ifs <;> simp
  refine ⟨fun c hc => ?_, fun q j k hk hsub => ?_, fun q k hsub => ?_, fun q r k hk hsub => ?_,
    fun q j k hk hsub => ?_⟩
  · rw [hsent, h.silent c hc]
    cases c <;> simp_all [hearsDetectorAudio, subscribed]
  · rw [hsent, hdetected, h.fromDetector q j k hk hsub]
    simp [hearsDetectorAudio, hsub]
  · rw [hsent, hdetected, h.toBridge q k hsub]
    simp [hearsDetectorAudio, hsub]
  · rw [hsent, hreceived, h.across q r k hk hsub]
    simp [hearsDetectorAudio]
  -- the detector's modem is local, and this one is not
  · rw [hsent, hreceived, h.fromBridge q j k hk hsub]
    have hother : ¬ (q = p ∧ k = i) := by
      rintro ⟨rfl, rfl⟩
      rw [hlocal] at hk
      cases hk
    simp only [hearsDetectorAudio, hsub, Bool.and_true, Bool.and_eq_true, decide_eq_true_eq,
      if_neg hother, List.append_nil]

theorem Relayed.bridgeOut (hcfg : Partitions platform cfg n) (h : Relayed platform cfg s) {p : π}
    {i : ℤ} (hstep : s.bridgeOut platform cfg p i = some s') : Relayed platform cfg s' := by
  obtain ⟨⟨b, t⟩, hreceive, heq⟩ := Option.map_eq_some_iff.1 hstep
  have hsub := h.subscribed_of_receive hreceive
  obtain ⟨-, hdetected, hsent, hreceived⟩ := receive_eq_some hreceive
  obtain ⟨-, hlocal⟩ := (hcfg.bridgeSubscribesInterthread_iff p i).1 hsub
  have hswitch : NetSimCoreConfig.inSwitch platform i := by
    have haccepted := hcfg.accepted
    have hbounds := hcfg.within p i hlocal
    simp only [NetSimCoreConfig.inSwitch, Bool.and_eq_true, decide_eq_true_eq]
    omega
  rw [if_pos hswitch] at heq
  have hdetected' : s'.detected = s.detected := heq ▸ hdetected
  have hsent' (c : Inbox π) : (s'.inbox c).sent = (s.inbox c).sent ++
      if hearsBridgeAudio platform cfg p i c then [b] else [] := by
    rw [← heq, sent_publish, hsent]
  have hreceived' (c : Inbox π) : (s'.inbox c).received = (s.inbox c).received ++
      if c = .bridgeOut p i then [b] else [] := by
    rw [← heq, received_publish, hreceived]
  refine ⟨fun c hc => ?_, fun q j k hk hsub' => ?_, fun q k hsub' => ?_,
    fun q r k hk hsub' => ?_, fun q j k hk hsub' => ?_⟩
  · rw [hsent', h.silent c hc]
    cases c <;> simp_all [hearsBridgeAudio, subscribed]
  · rw [hsent', hdetected', h.fromDetector q j k hk hsub']
    simp [hearsBridgeAudio]
  · rw [hsent', hdetected', h.toBridge q k hsub']
    simp [hearsBridgeAudio]
  -- only the process of the detector sends its buffers across, to all others
  · rw [hsent', hreceived', h.across q r k hk hsub']
    by_cases hki : k = i
    · have hqp : q = p := hcfg.disjoint q p k hk (hki ▸ hlocal)
      have hrp : r ≠ p := by
        rintro rfl
        exact ((hcfg.bridgeSubscribesInterprocess_iff r k).1 hsub').2.2 (hki ▸ hlocal)
      simp [hearsBridgeAudio, ← hki, hsub', hqp, hrp]
    · simp [hearsBridgeAudio, hki]
  · rw [hsent', hreceived', h.fromBridge q j k hk hsub']
    simp [hearsBridgeAudio]

theorem Relayed.bridgeIn (hcfg : Partitions platform cfg n) (h : Relayed platform cfg s) {p : π}
    {i : ℤ} (hstep : s.bridgeIn platform cfg p i = some s') : Relayed platform cfg s' := by
  obtain ⟨⟨b, t⟩, hreceive, heq⟩ := Option.map_eq_some_iff.1 hstep
  have hsub := h.subscribed_of_receive hreceive
  obtain ⟨-, hdetected, hsent, hreceived⟩ := receive_eq_some hreceive
  obtain ⟨-, hbounds, hremote⟩ := (hcfg.bridgeSubscribesInterprocess_iff p i).1 hsub
  have hswitch : NetSimCoreConfig.inSwitch platform i := by
    have haccepted := hcfg.accepted
    simp only [NetSimCoreConfig.inSwitch, Bool.and_eq_true, decide_eq_true_eq]
    omega
  rw [if_pos hswitch] at heq
  have hdetected' : s'.detected = s.detected := heq ▸ hdetected
  have hsent' (c : Inbox π) : (s'.inbox c).sent = (s.inbox c).sent ++
      if hearsDetectorAudio platform cfg true p i c then [b] else [] := by
    rw [← heq, sent_publish, hsent]
  have hreceived' (c : Inbox π) : (s'.inbox c).received = (s.inbox c).received ++
      if c = .bridgeIn p i then [b] else [] := by
    rw [← heq, received_publish, hreceived]
  -- what comes in is of a modem that is not local, so that no local detector is concerned
  have hother {q : π} {k : ℤ} (hk : (cfg q).isLocal k) : ¬ (q = p ∧ k = i) := by
    rintro ⟨rfl, rfl⟩
    exact hremote hk
  refine ⟨fun c hc => ?_, fun q j k hk hsub' => ?_, fun q k hsub' => ?_,
    fun q r k hk hsub' => ?_, fun q j k hk hsub' => ?_⟩
  · rw [hsent', h.silent c hc]
    cases c <;> simp_all [hearsDetectorAudio, subscribed]
  · rw [hsent', hdetected', h.fromDetector q j k hk hsub']
    simp [hearsDetectorAudio, hother hk]
  -- in particular the bridge does not take it up again
  · rw [hsent', hdetected', h.toBridge q k hsub']
    have hk := ((hcfg.bridgeSubscribesInterthread_iff q k).1 hsub').2
    simp [hearsDetectorAudio, hother hk]
  · rw [hsent', hreceived', h.across q r k hk hsub']
    simp [hearsDetectorAudio]
  · rw [hsent', hreceived', h.fromBridge q j k hk hsub']
    simp [hearsDetectorAudio, hsub']

theorem Relayed.detectorAudio (h : Relayed platform cfg s) {p : π} {j i : ℤ}
    {b : TaggedAudioBuffer} (hstep : s.receive (.processor p j i) = some (b, s')) :
    Relayed platform cfg s' := by
  obtain ⟨-, hdetected, hsent, hreceived⟩ := receive_eq_some hstep
  refine ⟨fun c hc => ?_, fun q j k hk hsub => ?_, fun q k hsub => ?_, fun q r k hk hsub => ?_,
    fun q j k hk hsub => ?_⟩
  · rw [hsent, h.silent c hc]
  · rw [hsent, hdetected, h.fromDetector q j k hk hsub]
  · rw [hsent, hdetected, h.toBridge q k hsub]
  · rw [hsent, hreceived, h.across q r k hk hsub]
    simp
  · rw [hsent, hreceived, h.fromBridge q j k hk hsub]
    simp

theorem relayed_after (hcfg : Partitions platform cfg n) {es : List (BridgeEvent π)}
    (h : after platform cfg es = some s) : Relayed platform cfg s := by
  refine Run.exec_invariant (step platform cfg) {} (I := fun _ => Relayed platform cfg)
    relayed_init (fun es e s s' hs hstep => ?_) es s h
  cases e with
  | detect p i buffer => exact hs.detect hcfg hstep
  | detectorAudio p j i =>
      obtain ⟨⟨b, t⟩, hreceive, rfl⟩ := Option.map_eq_some_iff.1 hstep
      exact hs.detectorAudio hreceive
  | bridgeOut p i => exact hs.bridgeOut hcfg hstep
  | bridgeIn p i => exact hs.bridgeIn hcfg hstep

/-! ### Delivery -/

/-- Every processor receives the sequence of buffers of each other transmitter, and no buffer passes
a bridge more than once. -/
structure ExactlyOnce (cfg : π → NetSimCoreConfig) (s : NetSimCores π) : Prop where
  /-- What was received is the beginning of what the detector published. -/
  inOrder : ∀ p q i j, (cfg p).isLocal i → (cfg q).isLocal j → i ≠ j →
    s.received q j i <+: s.detected p i
  /-- With nothing in flight, it is all of that. -/
  complete : s.Delivered → ∀ p q i j, (cfg p).isLocal i → (cfg q).isLocal j → i ≠ j →
    s.received q j i = s.detected p i
  /-- What a bridge is sent by the others is the beginning of what the detector published. -/
  crossesOnce : ∀ p q i, (cfg p).isLocal i →
    (s.inbox (.bridgeIn q i)).sent <+: s.detected p i
  /-- Nothing returns to the process it came from. -/
  notReturned : ∀ p i, (cfg p).isLocal i → (s.inbox (.bridgeIn p i)).sent = []
  /-- Nothing that came in by a bridge goes out by it. -/
  notCirculated : ∀ p i, (cfg p).isLocal i = false → (s.inbox (.bridgeOut p i)).sent = []

section Delivery

variable {p q : π} {i j : ℤ}

omit [DecidableEq π] in
/-- What has been sent out to a bridge is the beginning of what the detector published. -/
theorem Relayed.sent_bridgeOut_prefix (h : Relayed platform cfg s) (p : π) (i : ℤ) :
    (s.inbox (.bridgeOut p i)).sent <+: s.detected p i := by
  cases hsub : (cfg p).bridgeSubscribesInterthread platform i with
  | true => rw [h.toBridge p i hsub]
  | false =>
      rw [h.silent (.bridgeOut p i) hsub]
      exact List.nil_prefix

omit [DecidableEq π] in
theorem Relayed.sent_bridgeIn_prefix (h : Relayed platform cfg s) (hi : (cfg p).isLocal i) (q : π) :
    (s.inbox (.bridgeIn q i)).sent <+: s.detected p i := by
  cases hsub : (cfg q).bridgeSubscribesInterprocess platform i with
  | true =>
      rw [h.across p q i hi hsub]
      exact (Fifo.received_prefix _).trans (h.sent_bridgeOut_prefix p i)
  | false =>
      rw [h.silent (.bridgeIn q i) hsub]
      exact List.nil_prefix

omit [DecidableEq π] in
/-- The path to a processor of another process: out by the bridge of the detector's process, and in
by its own. -/
theorem Relayed.received_eq_detected (hcfg : Partitions platform cfg n)
    (h : Relayed platform cfg s) (hi : (cfg p).isLocal i) (hj : (cfg q).isLocal j) (hij : i ≠ j)
    (hdelivered : s.Delivered) : s.received q j i = s.detected p i := by
  have hsub := (hcfg.processorSubscribes_iff q j i).2 ⟨hj, hcfg.within p i hi, hij⟩
  have hall (c : Inbox π) : (s.inbox c).received = (s.inbox c).sent :=
    Fifo.received_eq_sent (hdelivered c)
  cases hremote : (cfg q).isLocal i with
  | true =>
      obtain rfl := hcfg.disjoint p q i hi hremote
      rw [NetSimCores.received, hall, h.fromDetector p j i hi hsub]
  | false =>
      have hne : p ≠ q := by
        rintro rfl
        rw [hi] at hremote
        cases hremote
      have hout := (hcfg.bridgeSubscribesInterthread_iff p i).2 ⟨hcfg.bridge_isSome hne hj, hi⟩
      have hin := (hcfg.bridgeSubscribesInterprocess_iff q i).2
        ⟨hcfg.bridge_isSome hne.symm hi, hcfg.within p i hi, by simp [hremote]⟩
      calc s.received q j i = (s.inbox (.processor q j i)).sent := hall _
        _ = (s.inbox (.bridgeIn q i)).received := h.fromBridge q j i hremote hsub
        _ = (s.inbox (.bridgeIn q i)).sent := hall _
        _ = (s.inbox (.bridgeOut p i)).received := h.across p q i hi hin
        _ = (s.inbox (.bridgeOut p i)).sent := hall _
        _ = s.detected p i := h.toBridge p i hout

omit [DecidableEq π] in
theorem Relayed.received_prefix (hcfg : Partitions platform cfg n) (h : Relayed platform cfg s)
    (hi : (cfg p).isLocal i) (hj : (cfg q).isLocal j) (hij : i ≠ j) :
    s.received q j i <+: s.detected p i := by
  have hsub := (hcfg.processorSubscribes_iff q j i).2 ⟨hj, hcfg.within p i hi, hij⟩
  refine (Fifo.received_prefix _).trans ?_
  cases hremote : (cfg q).isLocal i with
  | true =>
      obtain rfl := hcfg.disjoint p q i hi hremote
      rw [h.fromDetector p j i hi hsub]
  | false =>
      rw [h.fromBridge q j i hremote hsub]
      exact (Fifo.received_prefix _).trans (h.sent_bridgeIn_prefix hi q)

/-- In every state that a run leads to, delivery is exactly once. -/
theorem exactlyOnce_after (platform : Platform) (cfg : π → NetSimCoreConfig) (n : ℤ)
    (hcfg : Partitions platform cfg n) (es : List (BridgeEvent π)) (s : NetSimCores π)
    (h : after platform cfg es = some s) : ExactlyOnce cfg s := by
  have hs := relayed_after hcfg h
  refine ⟨fun p q i j hi hj hij => hs.received_prefix hcfg hi hj hij,
    fun hdelivered p q i j hi hj hij => hs.received_eq_detected hcfg hi hj hij hdelivered,
    fun p q i hi => hs.sent_bridgeIn_prefix hi q, fun p i hi => ?_, fun p i hi => ?_⟩
  · refine hs.silent (.bridgeIn p i) (Bool.eq_false_iff.2 fun hsub => ?_)
    exact ((hcfg.bridgeSubscribesInterprocess_iff p i).1 hsub).2.2 hi
  · refine hs.silent (.bridgeOut p i) (Bool.eq_false_iff.2 fun hsub => ?_)
    have hlocal := ((hcfg.bridgeSubscribesInterthread_iff p i).1 hsub).2
    rw [hi] at hlocal
    cases hlocal

/-- Three modems in two processes: a buffer of modem 0 is received by the processors of modems 1
and 2. -/
theorem exactlyOnce_of_two_processes :
    let platform : Platform := ⟨16, false⟩
    let cfg : Bool → NetSimCoreConfig := fun p => ⟨3, some (if p then ⟨1, 2⟩ else ⟨0, 1⟩)⟩
    let b : TaggedAudioBuffer := ⟨some ⟨0, 0, []⟩, .START, 0⟩
    let es : List (BridgeEvent Bool) :=
      [.detect false 0 b, .bridgeOut false 0, .bridgeIn true 0, .detectorAudio true 1 0,
        .detectorAudio true 2 0]
    ∃ s, after platform cfg es = some s ∧ ExactlyOnce cfg s ∧ s.received true 1 0 = [b] ∧
      s.received true 2 0 = [b] := by
  intro platform cfg b es
  have hrun : (after platform cfg es).map (fun s => (s.received true 1 0, s.received true 2 0)) =
      some ([b], [b]) := by
    decide +kernel
  obtain ⟨s, hs, hreceived⟩ := Option.map_eq_some_iff.1 hrun
  rw [Prod.mk.injEq] at hreceived
  -- modem 0 is in the one process, modems 1 and 2 are in the other
  have hlocal (p : Bool) (i : ℤ) :
      (cfg p).isLocal i ↔ if p then 1 ≤ i ∧ i < 3 else 0 ≤ i ∧ i < 1 := by
    cases p <;> simp [cfg, NetSimCoreConfig.isLocal, NetSimCoreConfig.firstModemIndex,
      NetSimCoreConfig.localNumberOfModems]
  have hcfg : Partitions platform cfg 3 := by
    refine ⟨fun p => rfl, by decide, fun p i hi => ?_, fun i hi0 hi3 => ?_, fun p q i hp hq => ?_⟩
    · have hi := (hlocal p i).1 hi
      split_ifs at hi <;> omega
    · by_cases hi : i < 1
      · exact ⟨false, (hlocal false i).2 ⟨hi0, hi⟩⟩
      · exact ⟨true, (hlocal true i).2 ⟨by omega, hi3⟩⟩
    · have hp := (hlocal p i).1 hp
      have hq := (hlocal q i).1 hq
      cases p <;> cases q <;> simp at hp hq ⊢ <;> omega
  exact ⟨s, hs, exactlyOnce_after platform cfg 3 hcfg es s hs, hreceived.1, hreceived.2⟩

end Delivery

end NetSimCores

end Netsim
