import Netsim.Bridge.Delivery
import Netsim.Pipeline.Threads

/-!
# What the threads of netsim_core are given

Each thread of a run of the system takes a run of its own, and what it is given in this run are
messages of the thread before it, in order and without loss or repetition, and all of them once
nothing is in flight. This holds along every path: from the captured audio to the detector, and from
the detector by the bridges and processors to the JACK threads that play the audio, and to the
loggers (`conveys_after`).
-/

namespace Netsim

/-! ### What the detectors, the bridges and the processors publish -/

namespace NetSimCores

variable {π : Type} [DecidableEq π] {platform : Platform} {cfg : π → NetSimCoreConfig} {n : ℤ}
  {s s' : NetSimCores π} {p : π} {i k : ℤ} {b : TaggedAudioBuffer}

/-- What has been published on a group in a process. On `DetectorAudio<i>` of a modem that is not
local, the bridge publishes what it has received. -/
def published (cfg : π → NetSimCoreConfig) (s : NetSimCores π) (q : π) :
    LogStream → List TaggedAudioBuffer
  | .detector i =>
      if (cfg q).isLocal i then s.detected q i else (s.inbox (.bridgeIn q i)).received
  | .processor i j => s.received q j i

theorem detect_eq_some (h : s.detect platform cfg p k b = some s') :
    (cfg p).launchesDetector platform k ∧
      (∀ q i, s'.detected q i = s.detected q i ++ if q = p ∧ i = k then [b] else []) ∧
      ∀ c, (s'.inbox c).received = (s.inbox c).received := by
  rw [detect, Option.ite_none_right_eq_some] at h
  obtain ⟨hlaunch, heq⟩ := h
  cases heq
  refine ⟨hlaunch, fun q i => ?_, fun c => received_publish s _ b c⟩
  dsimp only
  split_ifs <;> simp

/-- A detector publishes on its group. -/
theorem published_detect (hcfg : Partitions platform cfg n)
    (h : s.detect platform cfg p k b = some s') (q : π) (g : LogStream) :
    s'.published cfg q g =
      s.published cfg q g ++ if q = p ∧ g = .detector k then [b] else [] := by
  obtain ⟨hlaunch, hdetected, hreceived⟩ := detect_eq_some h
  have hlocal := (hcfg.launchesDetector_iff p k).1 hlaunch
  cases g with
  | detector i =>
      simp only [published, hdetected, hreceived, LogStream.detector.injEq]
      split_ifs with hi heq heq
      · rfl
      · rfl
      · obtain ⟨rfl, rfl⟩ := heq
        exact absurd hlocal hi
      · rw [List.append_nil]
  | processor i j => simp [published, received, hreceived]

theorem published_detectAll (hcfg : Partitions platform cfg n) {bs : List TaggedAudioBuffer}
    (h : s.detectAll platform cfg p k bs = some s') (q : π) (g : LogStream) :
    s'.published cfg q g = s.published cfg q g ++ if q = p ∧ g = .detector k then bs else [] := by
  induction bs generalizing s with
  | nil =>
      cases h
      simp
  | cons b bs ih =>
      rw [detectAll, List.foldlM_cons, Option.bind_eq_bind, Option.bind_eq_some_iff] at h
      obtain ⟨t, ht, h⟩ := h
      rw [ih h, published_detect hcfg ht, List.append_assoc]
      split_ifs <;> rfl

theorem detected_detectAll {bs : List TaggedAudioBuffer}
    (h : s.detectAll platform cfg p k bs = some s') (q : π) (i : ℤ) :
    s'.detected q i = s.detected q i ++ if q = p ∧ i = k then bs else [] := by
  induction bs generalizing s with
  | nil =>
      cases h
      simp
  | cons b bs ih =>
      rw [detectAll, List.foldlM_cons, Option.bind_eq_bind, Option.bind_eq_some_iff] at h
      obtain ⟨t, ht, h⟩ := h
      rw [ih h, (detect_eq_some ht).2.1, List.append_assoc]
      split_ifs <;> rfl

theorem Relayed.detectAll (hcfg : Partitions platform cfg n) (h : Relayed platform cfg s)
    {bs : List TaggedAudioBuffer} (hstep : s.detectAll platform cfg p k bs = some s') :
    Relayed platform cfg s' := by
  induction bs generalizing s with
  | nil =>
      cases hstep
      exact h
  | cons b bs ih =>
      rw [NetSimCores.detectAll, List.foldlM_cons, Option.bind_eq_bind,
        Option.bind_eq_some_iff] at hstep
      obtain ⟨t, ht, hstep⟩ := hstep
      exact ih (h.detect hcfg ht) hstep

/-- A bridge that sends something out publishes it on none of these groups. -/
theorem published_bridgeOut (h : s.bridgeOut platform cfg p k = some s') (q : π) (g : LogStream) :
    s'.published cfg q g = s.published cfg q g ∧ s'.detected = s.detected := by
  obtain ⟨⟨b, t⟩, hreceive, rfl⟩ := Option.map_eq_some_iff.1 h
  obtain ⟨-, hdetected, -, hreceived⟩ := receive_eq_some hreceive
  have hsame : ∀ c, c ≠ .bridgeOut p k → ((if NetSimCoreConfig.inSwitch platform k then
      t.publish (hearsBridgeAudio platform cfg p k) b else t).inbox c).received =
        (s.inbox c).received := by
    intro c hc
    split_ifs
    · rw [received_publish, hreceived, if_neg hc, List.append_nil]
    · rw [hreceived, if_neg hc, List.append_nil]
  have hdetected' : (if NetSimCoreConfig.inSwitch platform k then
      t.publish (hearsBridgeAudio platform cfg p k) b else t).detected = s.detected := by
    split_ifs <;> exact hdetected
  refine ⟨?_, hdetected'⟩
  cases g with
  | detector i => simp only [published, hdetected', hsame (.bridgeIn q i) (by simp)]
  | processor i j => exact hsame (.processor q j i) (by simp)

/-- A bridge that gets something publishes it on the group of its detector. -/
theorem published_bridgeIn (hcfg : Partitions platform cfg n) (hs : Relayed platform cfg s)
    {t : NetSimCores π} (hreceive : s.receive (.bridgeIn p k) = some (b, t))
    (h : s.bridgeIn platform cfg p k = some s') :
    NetSimCoreConfig.inSwitch platform k ∧ s'.detected = s.detected ∧ ∀ q g,
      s'.published cfg q g =
        s.published cfg q g ++ if q = p ∧ g = .detector k then [b] else [] := by
  obtain ⟨-, hrange, hremote⟩ :=
    (hcfg.bridgeSubscribesInterprocess_iff p k).1 (hs.subscribed_of_receive hreceive)
  have hswitch : NetSimCoreConfig.inSwitch platform k := by
    have haccepted := hcfg.accepted
    simp only [NetSimCoreConfig.inSwitch, Bool.and_eq_true, decide_eq_true_eq]
    omega
  rw [bridgeIn, hreceive, Option.map_some, if_pos hswitch] at h
  cases h
  obtain ⟨-, hdetected, -, hreceived⟩ := receive_eq_some hreceive
  have hdetected' : (t.publish (hearsDetectorAudio platform cfg true p k) b).detected =
      s.detected := hdetected
  refine ⟨hswitch, hdetected', fun q g => ?_⟩
  cases g with
  | detector i =>
      simp only [published, hdetected', received_publish, hreceived, Inbox.bridgeIn.injEq,
        LogStream.detector.injEq]
      split_ifs with hi heq heq
      -- the modem is not local
      · obtain ⟨rfl, rfl⟩ := heq
        exact absurd hi hremote
      · rw [List.append_nil]
      · rfl
      · rfl
  | processor i j => simp [published, received, received_publish, hreceived]

/-- A processor that receives something publishes it on its own group. -/
theorem published_receive {j i : ℤ} (h : s.receive (.processor p j i) = some (b, s')) (q : π)
    (g : LogStream) : s'.published cfg q g =
      s.published cfg q g ++ if q = p ∧ g = .processor i j then [b] else [] := by
  obtain ⟨-, hdetected, -, hreceived⟩ := receive_eq_some h
  cases g with
  | detector k => simp [published, hdetected, hreceived]
  | processor k l =>
      simp only [published, received, hreceived, Inbox.processor.injEq, LogStream.processor.injEq,
        and_comm (a := l = j)]

omit [DecidableEq π] in
/-- What is published in a process on the group of a detector comes from the detector, wherever that
is: from another process, out by the bridge there and in by the one here. -/
theorem Relayed.comesThrough_detector (hcfg : Partitions platform cfg n)
    (h : Relayed platform cfg s) {q : π} {j : ℤ} (hi : (cfg p).isLocal i)
    (hj : (cfg q).isLocal j) :
    ComesThrough s.Delivered (s.published cfg q (.detector i)) (s.detected p i) := by
  have hqueue (c : Inbox π) : ComesThrough s.Delivered (s.inbox c).received (s.inbox c).sent :=
    ⟨Fifo.received_prefix _, fun hd => Fifo.received_eq_sent (hd c)⟩
  rw [published]
  split_ifs with hlocal
  · obtain rfl := hcfg.disjoint p q i hi hlocal
    exact .refl _ _
  · have hne : p ≠ q := by
      rintro rfl
      exact hlocal hi
    have hout := (hcfg.bridgeSubscribesInterthread_iff p i).2 ⟨hcfg.bridge_isSome hne hj, hi⟩
    have hin := (hcfg.bridgeSubscribesInterprocess_iff q i).2
      ⟨hcfg.bridge_isSome hne.symm hi, hcfg.within p i hi, hlocal⟩
    have hacross := h.across p q i hi hin ▸ hqueue (.bridgeIn q i)
    exact hacross.trans (h.toBridge p i hout ▸ hqueue (.bridgeOut p i))

omit [DecidableEq π] in
/-- What a processor publishes comes from the detector of the transmitter. -/
theorem Relayed.comesThrough_processor (hcfg : Partitions platform cfg n)
    (h : Relayed platform cfg s) {q : π} {j : ℤ} (hi : (cfg p).isLocal i)
    (hj : (cfg q).isLocal j) (hij : i ≠ j) :
    ComesThrough s.Delivered (s.published cfg q (.processor i j)) (s.detected p i) :=
  ⟨h.received_prefix hcfg hi hj hij, h.received_eq_detected hcfg hi hj hij⟩

omit [DecidableEq π] in
/-- Nothing is published for a modem that is not local, or for the transmitter itself. -/
theorem Relayed.published_eq_nil (hcfg : Partitions platform cfg n) (h : Relayed platform cfg s)
    {q : π} {i j : ℤ} (hij : ¬ ((cfg q).isLocal j ∧ i ≠ j)) :
    s.published cfg q (.processor i j) = [] := by
  have hsilent : subscribed platform cfg (.processor q j i) = false := by
    refine Bool.eq_false_iff.2 fun hsub => hij ?_
    have hsub := (hcfg.processorSubscribes_iff q j i).1 hsub
    exact ⟨hsub.1, hsub.2.2⟩
  have hsent := h.silent _ hsilent
  exact List.prefix_nil.1 (hsent ▸ Fifo.received_prefix (s.inbox (.processor q j i)))

end NetSimCores

namespace Pipeline

variable {π : Type} [DecidableEq π] {platform : Platform} {cfg : π → CoreConfig} {n : ℤ}
  {s s' : Pipeline π}

/-! ### Subscriptions -/

/-- The modems of a stream. -/
def InRange (n : ℤ) : LogStream → Prop
  | .detector i => 0 ≤ i ∧ i < n
  | .processor i j => (0 ≤ i ∧ i < n) ∧ 0 ≤ j ∧ j < n

/-- Whether there is a subscription. -/
def Subscribed (n : ℤ) (cfg : π → CoreConfig) : AudioSubscription π → Prop
  | .jack _ i j => InRange n (.processor i j)
  | .logger q σ => (cfg q).runLogger ∧ InRange n σ

/-- The case of a stream in the switch of the logger subscribes to its group. -/
theorem audioOutGroup_eq (platform : Platform) {i j : ℤ} (hi : 0 ≤ i ∧ i < platform.netsimMaxModems)
    (hj : 0 ≤ j ∧ j < platform.netsimMaxModems) :
    0 ≤ i * platform.netsimMaxModems + j ∧
      i * platform.netsimMaxModems + j < platform.netsimMaxModems * platform.netsimMaxModems ∧
      CoreConfig.audioOutGroup platform (i * platform.netsimMaxModems + j) = .processor i j := by
  have hnonneg : 0 ≤ i * platform.netsimMaxModems + j :=
    add_nonneg (mul_nonneg hi.1 (hi.1.trans hi.2.le)) hj.1
  have hpos : platform.netsimMaxModems ≠ 0 := by omega
  refine ⟨hnonneg, ?_, ?_⟩
  · calc i * platform.netsimMaxModems + j
        < i * platform.netsimMaxModems + platform.netsimMaxModems := by omega
      _ = (i + 1) * platform.netsimMaxModems := by ring
      _ ≤ platform.netsimMaxModems * platform.netsimMaxModems :=
        mul_le_mul_of_nonneg_right (by omega) (hi.1.trans hi.2.le)
  · rw [CoreConfig.audioOutGroup, Int.tdiv_eq_ediv_of_nonneg hnonneg,
      Int.tmod_eq_emod_of_nonneg hnonneg, add_comm, Int.add_mul_ediv_right _ _ hpos,
      Int.add_mul_emod_self_right, Int.ediv_eq_zero_of_lt hj.1 hj.2, Int.emod_eq_of_lt hj.1 hj.2,
      zero_add]

/-- A publication is delivered to the subscriptions to its group in its process. -/
theorem hears_iff (hcfg : Partitions platform (launch cfg) n) (p : π) (g : LogStream)
    (c : AudioSubscription π) :
    hears platform cfg p g c ↔ c.process = p ∧ c.stream = g ∧ Subscribed n cfg c := by
  have haccepted := hcfg.accepted
  have hmodems (q : π) : (cfg q).numberOfModems = n := hcfg.modems q
  cases c with
  | jack q i j =>
      simp only [hears, AudioSubscription.process, AudioSubscription.stream, Subscribed, InRange,
        CoreConfig.jackSubscribes, CoreConfig.launchesJack, NetSimCoreConfig.inSwitch, hmodems,
        Bool.and_eq_true, decide_eq_true_eq]
      constructor
      · rintro ⟨⟨hq, rfl⟩, hrange⟩
        exact ⟨hq, rfl, by omega⟩
      · rintro ⟨hq, rfl, hrange⟩
        exact ⟨⟨hq, rfl⟩, by omega⟩
  | logger q σ =>
      cases σ with
      | detector i =>
          simp only [hears, AudioSubscription.process, AudioSubscription.stream, Subscribed,
            InRange, CoreConfig.loggerSubscribes, NetSimCoreConfig.inSwitch, hmodems,
            Bool.and_eq_true, decide_eq_true_eq]
          constructor
          · rintro ⟨hq, ⟨⟨⟨hrun, hi⟩, hi'⟩, -⟩, rfl⟩
            exact ⟨hq, rfl, hrun, hi, hi'⟩
          · rintro ⟨hq, rfl, hrun, hi, hi'⟩
            exact ⟨hq, ⟨⟨⟨hrun, hi⟩, hi'⟩, hi, by omega⟩, rfl⟩
      | processor i j =>
          simp only [hears, AudioSubscription.process, AudioSubscription.stream, Subscribed,
            InRange, CoreConfig.loggerSubscribes, hmodems, Bool.and_eq_true, decide_eq_true_eq]
          have hgroup (hi : 0 ≤ i ∧ i < n) (hj : 0 ≤ j ∧ j < n) := audioOutGroup_eq platform
            ⟨hi.1, hi.2.trans_le haccepted⟩ ⟨hj.1, hj.2.trans_le haccepted⟩
          constructor
          · rintro ⟨hq, ⟨⟨⟨⟨⟨hrun, hi⟩, hi'⟩, hj⟩, hj'⟩, -⟩, rfl⟩
            exact ⟨hq, (hgroup ⟨hi, hi'⟩ ⟨hj, hj'⟩).2.2.symm, hrun, ⟨hi, hi'⟩, hj, hj'⟩
          · rintro ⟨hq, rfl, hrun, ⟨hi, hi'⟩, hj, hj'⟩
            obtain ⟨hnonneg, hlt, hcase⟩ := hgroup ⟨hi, hi'⟩ ⟨hj, hj'⟩
            exact ⟨hq, ⟨⟨⟨⟨⟨hrun, hi⟩, hi'⟩, hj⟩, hj'⟩, hnonneg, hlt⟩, hcase.symm⟩

/-! ### The invariant -/

/-- What is published is sent to those that have subscribed to it. -/
structure Routes (platform : Platform) (cfg : π → CoreConfig) (n : ℤ) (cores : NetSimCores π)
    (audio : Mailboxes (AudioSubscription π) TaggedAudioBuffer) : Prop where
  relayed : NetSimCores.Relayed platform (launch cfg) cores
  sent : ∀ c, Subscribed n cfg c →
    (audio c).sent = cores.published (launch cfg) c.process c.stream
  silent : ∀ c, ¬ Subscribed n cfg c → (audio c).sent = []

/-- The invariant of the runs. -/
structure Connected (platform : Platform) (cfg : π → CoreConfig) (n : ℤ) (s : Pipeline π) :
    Prop where
  captured : ∀ c : π × ℤ, (s.audioIn c).sent =
    if (cfg c.1).launchesDetector platform c.2 then (s.capture c).published else []
  sizes : ∀ c : π × ℤ, (s.bufferSizeChange c).sent =
    if (cfg c.1).launchesDetector platform c.2 then s.bufferSizes c.1 else []
  detected : ∀ p k, s.cores.detected p k = (s.detector (p, k)).detectorAudio
  routes : Routes platform cfg n s.cores s.audio

omit [DecidableEq π] in
theorem connected_init : Connected platform cfg n {} where
  captured _ := (ite_self _).symm
  sizes _ := (ite_self _).symm
  detected _ _ := rfl
  routes := ⟨NetSimCores.relayed_init, fun c _ => by
    simp only [NetSimCores.published]
    cases c with
    | jack p i j => rfl
    | logger p σ => cases σ <;> simp [AudioSubscription.stream, NetSimCores.received],
    fun _ _ => rfl⟩

section Steps

variable {cores cores' : NetSimCores π}
  {audio audio' : Mailboxes (AudioSubscription π) TaggedAudioBuffer} {p : π} {k : ℤ}
  {e : PipelineEvent π}

/-- What `loop` has published stays published. -/
theorem published_prefix_step {c : CaptureConfig} {t t' : CaptureThread} {e : CaptureEvent}
    (h : CaptureThread.step c t e = some t') : t.published <+: t'.published := by
  cases e with
  | registerPort =>
      cases h
      exact List.prefix_rfl
  | process cycle =>
      rw [CaptureThread.step] at h
      split_ifs at h <;> cases h <;> exact List.prefix_rfl
  | loop =>
      rw [CaptureThread.step] at h
      split_ifs at h
      · rcases CaptureThread.loopStep_cases h with ⟨-, -, rfl⟩ | ⟨-, -, rfl⟩ | ⟨-, -, -, -, rfl⟩ |
          ⟨b, -, rfl⟩ | ⟨-, -, rfl⟩
        · exact List.prefix_rfl
        · exact List.prefix_rfl
        · exact List.prefix_rfl
        · exact List.prefix_append _ _
        · exact List.prefix_rfl
      · cases h
        exact List.prefix_rfl

/-- What the JACK threads publish is sent to the detectors. -/
theorem captured_step (h : s.step platform cfg e = some s')
    (hs : ∀ c : π × ℤ, (s.audioIn c).sent =
      if (cfg c.1).launchesDetector platform c.2 then (s.capture c).published else [])
    (c : π × ℤ) : (s'.audioIn c).sent =
      if (cfg c.1).launchesDetector platform c.2 then (s'.capture c).published else [] := by
  cases moves_of_step h with
  | @capture p k e t ht =>
      dsimp only
      rw [Mailboxes.sent_publish, hs c]
      by_cases hc : c = (p, k)
      · subst hc
        rw [Function.update_self]
        have hbegins := List.prefix_iff_eq_append.1 (published_prefix_step ht)
        cases (cfg p).launchesDetector platform k <;> simp [hbegins]
      · simp [hc]
  | audioIn hreceive _ _ => exact ((Mailboxes.receive_eq_some hreceive).2.1 c).trans (hs c)
  | _ => exact hs c

/-- A buffer size is published to all detectors of the process. -/
theorem sizes_step (h : s.step platform cfg e = some s')
    (hs : ∀ c : π × ℤ, (s.bufferSizeChange c).sent =
      if (cfg c.1).launchesDetector platform c.2 then s.bufferSizes c.1 else [])
    (c : π × ℤ) : (s'.bufferSizeChange c).sent =
      if (cfg c.1).launchesDetector platform c.2 then s'.bufferSizes c.1 else [] := by
  cases moves_of_step h with
  | @jackBufferSizeChange p k nframes t ht =>
      dsimp only
      split_ifs with hk hlaunch hlaunch
      · rw [Mailboxes.sent_publish, hs c, if_pos hlaunch]
        by_cases hc : c.1 = p
        · subst hc
          simp [hlaunch]
        · simp [hc]
      · rw [Mailboxes.sent_publish, hs c, if_neg hlaunch, if_neg]
        · rfl
        · rw [Bool.and_eq_true, decide_eq_true_eq]
          rintro ⟨rfl, hlaunch'⟩
          exact hlaunch hlaunch'
      · rw [hs c, if_pos hlaunch]
      · rw [hs c, if_neg hlaunch]
  | bufferSizeChange hreceive _ _ =>
      exact ((Mailboxes.receive_eq_some hreceive).2.1 c).trans (hs c)
  | _ => exact hs c

/-- A detector publishes the rest of what it has published after the step. -/
theorem detected_detector {d d' : DetectorThread} {detector : π × ℤ → DetectorThread}
    (hs : ∀ q i, cores.detected q i = (detector (q, i)).detectorAudio)
    (hd : d = detector (p, k)) (hbegins : d.detectorAudio <+: d'.detectorAudio)
    (hcores : cores.detectAll platform (launch cfg) p k
      (d'.detectorAudio.drop d.detectorAudio.length) = some cores') (q : π) (i : ℤ) :
    cores'.detected q i = (Function.update detector (p, k) d' (q, i)).detectorAudio := by
  rw [NetSimCores.detected_detectAll hcores, hs]
  by_cases hqi : q = p ∧ i = k
  · obtain ⟨rfl, rfl⟩ := hqi
    rw [if_pos ⟨rfl, rfl⟩, Function.update_self, ← hd]
    exact List.prefix_iff_eq_append.1 hbegins
  · rw [if_neg hqi, List.append_nil, Function.update_of_ne]
    exact fun heq => hqi (Prod.mk.inj heq)

/-- The detectors publish on their groups. -/
theorem detected_step (hcfg : Partitions platform (launch cfg) n)
    (hrelayed : NetSimCores.Relayed platform (launch cfg) s.cores)
    (h : s.step platform cfg e = some s')
    (hs : ∀ p k, s.cores.detected p k = (s.detector (p, k)).detectorAudio) (q : π) (i : ℤ) :
    s'.cores.detected q i = (s'.detector (q, i)).detectorAudio := by
  cases moves_of_step h with
  | bufferSizeChange _ hd hcores | audioIn _ hd hcores =>
      exact detected_detector hs rfl (hd ▸ DetectorThread.prefix_step _ _ _) hcores q i
  | bridgeOut hcores =>
      exact (congrFun₂ (NetSimCores.published_bridgeOut hcores q (.detector i)).2 q i).trans
        (hs q i)
  | bridgeIn hreceive hcores =>
      have hdetected := (NetSimCores.published_bridgeIn hcfg hrelayed hreceive hcores).2.1
      exact (congrFun₂ hdetected q i).trans (hs q i)
  | detectorAudio hreceive =>
      exact (congrFun₂ (NetSimCores.receive_eq_some hreceive).2.1 q i).trans (hs q i)
  | _ => exact hs q i

/-- What is published on a group goes to its subscriptions. -/
theorem Routes.publish (hcfg : Partitions platform (launch cfg) n)
    (h : Routes platform cfg n cores audio) {g : LogStream} {bs : List TaggedAudioBuffer}
    (hrelayed : NetSimCores.Relayed platform (launch cfg) cores')
    (hpublished : ∀ q g', cores'.published (launch cfg) q g' =
      cores.published (launch cfg) q g' ++ if q = p ∧ g' = g then bs else []) :
    Routes platform cfg n cores' (audio.publish (hears platform cfg p g) bs) where
  relayed := hrelayed
  sent c hc := by
    rw [Mailboxes.sent_publish, h.sent c hc, hpublished]
    congr 1
    refine if_congr ?_ rfl rfl
    rw [hears_iff hcfg]
    exact ⟨fun hears => ⟨hears.1, hears.2.1⟩, fun hgroup => ⟨hgroup.1, hgroup.2, hc⟩⟩
  silent c hc := by
    rw [Mailboxes.sent_publish, h.silent c hc, if_neg, List.append_nil]
    exact fun hears => hc ((hears_iff hcfg p g c).1 hears).2.2

omit [DecidableEq π] in
theorem Routes.of_sent (h : Routes platform cfg n cores audio)
    (hsent : ∀ c, (audio' c).sent = (audio c).sent) : Routes platform cfg n cores audio' where
  relayed := h.relayed
  sent c hc := (hsent c).trans (h.sent c hc)
  silent c hc := (hsent c).trans (h.silent c hc)

omit [DecidableEq π] in
/-- A modem in range has a case in the switches. -/
theorem inSwitch_of_range (hcfg : Partitions platform (launch cfg) n) (hk : 0 ≤ k ∧ k < n) :
    NetSimCoreConfig.inSwitch platform k := by
  have haccepted := hcfg.accepted
  simp only [NetSimCoreConfig.inSwitch, Bool.and_eq_true, decide_eq_true_eq]
  omega

theorem Routes.step (hcfg : Partitions platform (launch cfg) n)
    (hs : Routes platform cfg n s.cores s.audio) (h : s.step platform cfg e = some s') :
    Routes platform cfg n s'.cores s'.audio := by
  cases moves_of_step h with
  | bufferSizeChange _ _ hcores | audioIn _ _ hcores =>
      exact hs.publish hcfg (hs.relayed.detectAll hcfg hcores)
        (NetSimCores.published_detectAll hcfg hcores)
  | bridgeOut hcores =>
      exact ⟨hs.relayed.bridgeOut hcfg hcores, fun c hc =>
        (hs.sent c hc).trans (NetSimCores.published_bridgeOut hcores _ _).1.symm, hs.silent⟩
  | bridgeIn hreceive hcores =>
      obtain ⟨hswitch, -, hpublished⟩ :=
        NetSimCores.published_bridgeIn hcfg hs.relayed hreceive hcores
      dsimp only
      rw [if_pos hswitch]
      exact hs.publish hcfg (hs.relayed.bridgeIn hcfg hcores) hpublished
  | @detectorAudio p j i buffer cores hreceive =>
      obtain ⟨-, hrange, -⟩ := (hcfg.processorSubscribes_iff p j i).1
        (hs.relayed.subscribed_of_receive hreceive)
      dsimp only
      rw [if_pos (inSwitch_of_range hcfg hrange)]
      exact hs.publish hcfg (hs.relayed.detectorAudio hreceive)
        (NetSimCores.published_receive hreceive)
  | audioOut hreceive _ | logAudio hreceive _ =>
      exact hs.of_sent (Mailboxes.receive_eq_some hreceive).2.1
  | _ => exact hs

theorem connected_after (hcfg : Partitions platform (launch cfg) n) {es : List (PipelineEvent π)}
    (h : after platform cfg es = some s) : Connected platform cfg n s :=
  Run.exec_invariant (step platform cfg) {} (I := fun _ => Connected platform cfg n)
    connected_init (fun _ _ _ _ hs hstep => ⟨captured_step hstep hs.captured,
      sizes_step hstep hs.sizes, detected_step hcfg hs.routes.relayed hstep hs.detected,
      hs.routes.step hcfg hstep⟩) es s h

end Steps

/-- Nothing waits for modem `j` of a process, or for its bridge or its logger, that comes from
modem `i`. -/
def quiet (s : Pipeline π) (q : π) (i j : ℤ) : Bool :=
  (s.cores.inbox (.processor q j i)).queue.isEmpty &&
    (s.cores.inbox (.bridgeOut q i)).queue.isEmpty &&
    (s.cores.inbox (.bridgeIn q i)).queue.isEmpty && (s.audioIn (q, i)).queue.isEmpty &&
    (s.bufferSizeChange (q, i)).queue.isEmpty && (s.audio (.jack q i j)).queue.isEmpty &&
    (s.audio (.logger q (.detector i))).queue.isEmpty &&
    (s.audio (.logger q (.processor i j))).queue.isEmpty

/-- Messages are only in flight between the modems that there are. -/
theorem delivered_of_quiet (hcfg : Partitions platform (launch cfg) n)
    {es : List (PipelineEvent π)} (h : after platform cfg es = some s)
    (hquiet : ∀ q i j, 0 ≤ i → i < n → 0 ≤ j → j < n → s.quiet q i j) : s.Delivered := by
  have hs := connected_after hcfg h
  simp only [quiet, Bool.and_eq_true, List.isEmpty_iff] at hquiet
  have hlocal (p : π) (i : ℤ) (hi : (cfg p).launchesDetector platform i) : 0 ≤ i ∧ i < n :=
    hcfg.within p i ((hcfg.launchesDetector_iff p i).1 hi)
  have hone (q : π) (i : ℤ) (hi : 0 ≤ i ∧ i < n) := hquiet q i i hi.1 hi.2 hi.1 hi.2
  refine ⟨fun c => ?_, fun c => ?_, fun c => ?_, fun c => ?_⟩
  · by_cases hsub : NetSimCores.subscribed platform (launch cfg) c
    · cases c with
      | processor q j i =>
          obtain ⟨hj, hi, -⟩ := (hcfg.processorSubscribes_iff q j i).1 hsub
          have hj := hcfg.within q j hj
          exact (hquiet q i j hi.1 hi.2 hj.1 hj.2).1.1.1.1.1.1.1
      | bridgeOut q i =>
          have hi := ((hcfg.bridgeSubscribesInterthread_iff q i).1 hsub).2
          exact (hone q i (hcfg.within q i hi)).1.1.1.1.1.1.2
      | bridgeIn q i =>
          have hi := ((hcfg.bridgeSubscribesInterprocess_iff q i).1 hsub).2.1
          exact (hone q i hi).1.1.1.1.1.2
    · exact Fifo.queue_eq_nil_of_sent (hs.routes.relayed.silent c (Bool.eq_false_iff.2 hsub))
  · by_cases hlaunch : (cfg c.1).launchesDetector platform c.2
    · exact (hone c.1 c.2 (hlocal c.1 c.2 hlaunch)).1.1.1.1.2
    · exact Fifo.queue_eq_nil_of_sent ((hs.captured c).trans (if_neg hlaunch))
  · by_cases hlaunch : (cfg c.1).launchesDetector platform c.2
    · exact (hone c.1 c.2 (hlocal c.1 c.2 hlaunch)).1.1.1.2
    · exact Fifo.queue_eq_nil_of_sent ((hs.sizes c).trans (if_neg hlaunch))
  · by_cases hsub : Subscribed n cfg c
    · match c, hsub with
      | .jack q i j, hsub => exact (hquiet q i j hsub.1.1 hsub.1.2 hsub.2.1 hsub.2.2).1.1.2
      | .logger q (.detector i), hsub => exact (hone q i hsub.2).1.2
      | .logger q (.processor i j), hsub =>
          exact (hquiet q i j hsub.2.1.1 hsub.2.1.2 hsub.2.2.1 hsub.2.2.2).2
    · exact Fifo.queue_eq_nil_of_sent (hs.routes.silent c hsub)

/-! ### Delivery -/

/-- What every thread is given in its own run has come through from the thread where it was
published. -/
structure Conveys (platform : Platform) (cfg : π → CoreConfig) (es : List (PipelineEvent π))
    (s : Pipeline π) : Prop where
  /-- A detector is given the captured audio of its modem. -/
  detector : ∀ p k, (cfg p).isLocal k → ComesThrough s.Delivered
    (DetectorThread.buffersOf ((detectorPart platform cfg (p, k)).trace {} es))
    (s.capture (p, k)).published
  /-- A detector is given the buffer sizes of its process. -/
  bufferSize : ∀ p k, (cfg p).isLocal k → ComesThrough s.Delivered
    (sizesOf ((detectorPart platform cfg (p, k)).trace {} es)) (s.bufferSizes p)
  /-- The JACK thread of modem `i` is given the audio of its detector for every other modem of a
  process. -/
  jack : ∀ p q i j, (cfg p).isLocal i → (cfg q).isLocal j → i ≠ j → ComesThrough s.Delivered
    (JackThread.deliveries j ((jackPart platform cfg (q, i)).trace {} es))
    (s.detector (p, i)).detectorAudio
  /-- It is given nothing else. -/
  jackOnly : ∀ q i j, ¬ ((cfg q).isLocal j ∧ i ≠ j) →
    JackThread.deliveries j ((jackPart platform cfg (q, i)).trace {} es) = []
  /-- The logger of a process that has modems is given the audio of the detectors. -/
  loggerIn : ∀ p q i j, (cfg q).runLogger → (cfg p).isLocal i → (cfg q).isLocal j →
    ComesThrough s.Delivered
      (LoggerThread.streamBuffers (.detector i) ((loggerPart platform cfg q).trace {} es))
      (s.detector (p, i)).detectorAudio
  /-- It is given the same for every other modem of the process. -/
  loggerOut : ∀ p q i j, (cfg q).runLogger → (cfg p).isLocal i → (cfg q).isLocal j → i ≠ j →
    ComesThrough s.Delivered
      (LoggerThread.streamBuffers (.processor i j) ((loggerPart platform cfg q).trace {} es))
      (s.detector (p, i)).detectorAudio
  /-- It is given nothing else. -/
  loggerOnly : ∀ q i j, ¬ ((cfg q).isLocal j ∧ i ≠ j) →
    LoggerThread.streamBuffers (.processor i j) ((loggerPart platform cfg q).trace {} es) = []

section Conveys

variable {p q : π} {i j k : ℤ}

omit [DecidableEq π] in
/-- What a subscriber is given has come through from the detector. -/
theorem Connected.comesThrough (h : Connected platform cfg n s) {c : AudioSubscription π}
    (hc : Subscribed n cfg c) (hcores : ComesThrough s.cores.Delivered
      (s.cores.published (launch cfg) c.process c.stream) (s.cores.detected p i)) :
    ComesThrough s.Delivered (s.audio c).received (s.detector (p, i)).detectorAudio := by
  have hqueue := (Mailboxes.comesThrough s.audio c).imp fun hd : s.Delivered => hd.2.2.2
  rw [h.routes.sent c hc] at hqueue
  rw [h.detected] at hcores
  exact hqueue.trans (hcores.imp And.left)

omit [DecidableEq π] in
/-- A stream on which nothing is published is not given to anyone. -/
theorem Connected.received_eq_nil (hcfg : Partitions platform (launch cfg) n)
    (h : Connected platform cfg n s) {c : AudioSubscription π}
    (hstream : c.stream = .processor i j) (hij : ¬ ((cfg c.process).isLocal j ∧ i ≠ j)) :
    (s.audio c).received = [] := by
  have hsent : (s.audio c).sent = [] := by
    by_cases hc : Subscribed n cfg c
    · rw [h.routes.sent c hc, hstream]
      exact h.routes.relayed.published_eq_nil hcfg hij
    · exact h.routes.silent c hc
  exact List.prefix_nil.1 (hsent ▸ Fifo.received_prefix (s.audio c))

/-- In every state that a run of the system leads to, each thread has been given what was published
for it, in order and once. -/
theorem conveys_after (platform : Platform) (cfg : π → CoreConfig) (n : ℤ)
    (hcfg : Partitions platform (launch cfg) n) (es : List (PipelineEvent π)) (s : Pipeline π)
    (h : after platform cfg es = some s) : Conveys platform cfg es s := by
  have hs := connected_after hcfg h
  have hrange (p : π) (i : ℤ) (hi : (cfg p).isLocal i) : 0 ≤ i ∧ i < n := hcfg.within p i hi
  refine ⟨fun p k hk => ?_, fun p k hk => ?_, fun p q i j hi hj hij => ?_, fun q i j hij => ?_,
    fun p q i j hrun hi hj => ?_, fun p q i j hrun hi hj hij => ?_, fun q i j hij => ?_⟩
  · have hcaptured : (s.audioIn (p, k)).sent = (s.capture (p, k)).published :=
      (hs.captured (p, k)).trans (if_pos ((hcfg.launchesDetector_iff p k).2 hk))
    rw [← buffersOf_trace h, ← hcaptured]
    exact (Mailboxes.comesThrough s.audioIn (p, k)).imp fun hd => hd.2.1
  · have hsizes : (s.bufferSizeChange (p, k)).sent = s.bufferSizes p :=
      (hs.sizes (p, k)).trans (if_pos ((hcfg.launchesDetector_iff p k).2 hk))
    rw [← sizesOf_trace h, ← hsizes]
    exact (Mailboxes.comesThrough s.bufferSizeChange (p, k)).imp fun hd => hd.2.2.1
  · rw [← deliveries_trace h]
    exact hs.comesThrough (c := .jack q i j) ⟨hrange p i hi, hrange q j hj⟩
      (hs.routes.relayed.comesThrough_processor hcfg hi hj hij)
  · rw [← deliveries_trace h]
    exact hs.received_eq_nil (c := .jack q i j) hcfg rfl hij
  · rw [← streamBuffers_trace h]
    exact hs.comesThrough (c := .logger q (.detector i)) ⟨hrun, hrange p i hi⟩
      (hs.routes.relayed.comesThrough_detector hcfg hi hj)
  · rw [← streamBuffers_trace h]
    exact hs.comesThrough (c := .logger q (.processor i j)) ⟨hrun, hrange p i hi, hrange q j hj⟩
      (hs.routes.relayed.comesThrough_processor hcfg hi hj hij)
  · rw [← streamBuffers_trace h]
    exact hs.received_eq_nil (c := .logger q (.processor i j)) hcfg rfl hij

/-- A full-scale sample. -/
def loudSample : SampleT := .ofFields false 127 0

/-- Modem 0 in one process and modem 1 in the other. -/
def twoModems (p : Bool) : CoreConfig where
  numberOfModems := 2
  bridge := some (if p then ⟨1, 1⟩ else ⟨0, 1⟩)
  minPlaybackBufferSize := 1
  detectionThreshold := loudSample
  startTime := "20200101T000000"

theorem isLocal_twoModems (p : Bool) (i : ℤ) :
    (twoModems p).isLocal i ↔ if p then i = 1 else i = 0 := by
  cases p <;> simp [twoModems, NetSimCoreConfig.isLocal, NetSimCoreConfig.firstModemIndex,
    NetSimCoreConfig.localNumberOfModems] <;> omega

theorem partitions_twoModems : Partitions ⟨16, false⟩ (launch twoModems) 2 where
  modems _ := rfl
  accepted := by decide
  within p i hi := by
    have hi := (isLocal_twoModems p i).1 hi
    split_ifs at hi <;> omega
  covered i hi0 hi2 := by
    by_cases hi : i = 0
    · exact ⟨false, (isLocal_twoModems false i).2 hi⟩
    · exact ⟨true, (isLocal_twoModems true i).2 (by simp; omega)⟩
  disjoint p q i hp hq := by
    have hp := (isLocal_twoModems p i).1 hp
    have hq := (isLocal_twoModems q i).1 hq
    cases p <;> cases q <;> simp at hp hq ⊢ <;> omega

/-- A loud buffer that modem 0 transmits goes over the bridges to modem 1, and to the log there. -/
def overTheBridges : List (PipelineEvent Bool) :=
  [.capture false 0 .registerPort,
    .capture false 0 (.process ⟨1, [loudSample], Nat.le_refl 1, 7, 3⟩),
    .capture false 0 .loop, .capture false 0 .loop, .audioIn false 0, .bridgeOut false 0,
    .bridgeIn true 0, .detectorAudio true 1 0, .audioOut true 0 1, .logAudio true (.detector 0),
    .logAudio true (.processor 0 1)]

theorem conveys_overTheBridges :
    ∃ s, after ⟨16, false⟩ twoModems overTheBridges = some s ∧
      Conveys ⟨16, false⟩ twoModems overTheBridges s ∧
      ((s.jack (true, 0)).playback 1).queue = [⟨some ⟨3, 7, [loudSample]⟩, .START, 0⟩] ∧
      (s.logger true).disk (LogStream.file (.processor 0 1) 0) =
        some [.time 3, .sample loudSample] := by
  have hrun : (after ⟨16, false⟩ twoModems overTheBridges).map (fun s =>
      (((s.jack (true, 0)).playback 1).queue,
        (s.logger true).disk (LogStream.file (.processor 0 1) 0))) =
      some ([⟨some ⟨3, 7, [loudSample]⟩, .START, 0⟩], some [.time 3, .sample loudSample]) := by
    decide +kernel
  obtain ⟨s, hs, hout⟩ := Option.map_eq_some_iff.1 hrun
  rw [Prod.mk.injEq] at hout
  exact ⟨s, hs, conveys_after _ _ 2 partitions_twoModems _ s hs, hout.1, hout.2⟩

end Conveys

end Pipeline

end Netsim
