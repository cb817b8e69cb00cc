import Netsim.Detector.Continuous
import Netsim.Jack.ExactPlayback
import Netsim.Lib.Component
import Netsim.Logger.Files
import Netsim.Pipeline.Model

/-!
# The threads as parts of the system

In a step of the system one thread takes a step, with what it has received, and its publications are
sent; everything else is as it was (`Moves`). So each thread is a part of the system
(`capturePart`, `detectorPart`, `jackPart`, `loggerPart`), and its `trace` in a run of the system is
its own run.
-/

namespace Netsim

namespace Pipeline

variable {π : Type} [DecidableEq π]

/-- What the steps do. -/
inductive Moves (platform : Platform) (cfg : π → CoreConfig) (s : Pipeline π) :
    PipelineEvent π → Pipeline π → Prop
  | capture {p : π} {k : ℤ} {e : CaptureEvent} {t : CaptureThread}
      (ht : CaptureThread.step ((cfg p).captureConfig k) (s.capture (p, k)) e = some t) :
      Moves platform cfg s (.capture p k e)
        { s with
          capture := Function.update s.capture (p, k) t
          audioIn := s.audioIn.publish
            (fun c => c = (p, k) && (cfg p).launchesDetector platform k)
            (t.published.drop (s.capture (p, k)).published.length) }
  | process {p : π} {k : ℤ} {cycle : Cycle} {t : JackThread}
      (ht : JackThread.step (cfg p).jackConfig (s.jack (p, k)) (.process cycle) = some t) :
      Moves platform cfg s (.process p k cycle)
        { s with jack := Function.update s.jack (p, k) t }
  | registerPort {p : π} {k : ℤ} {i : ℕ} {t : JackThread}
      (ht : JackThread.step (cfg p).jackConfig (s.jack (p, k)) (.registerPort i) = some t) :
      Moves platform cfg s (.registerPort p k i)
        { s with jack := Function.update s.jack (p, k) t }
  | jackBufferSizeChange {p : π} {k : ℤ} {nframes : ℕ} {t : JackThread}
      (ht : JackThread.step (cfg p).jackConfig (s.jack (p, k)) (.bufferSizeChange nframes) =
        some t) :
      Moves platform cfg s (.jackBufferSizeChange p k nframes)
        { s with
          jack := Function.update s.jack (p, k) t
          bufferSizeChange := if k = 0 then
            s.bufferSizeChange.publish
              (fun c => c.1 = p && (cfg p).launchesDetector platform c.2) [nframes]
            else s.bufferSizeChange
          bufferSizes := if k = 0 then
            Function.update s.bufferSizes p (s.bufferSizes p ++ [nframes]) else s.bufferSizes }
  | bufferSizeChange {p : π} {k : ℤ} {nframes : ℕ} {mailboxes : Mailboxes (π × ℤ) ℕ}
      {d : DetectorThread} {cores : NetSimCores π}
      (hreceive : s.bufferSizeChange.receive (p, k) = some (nframes, mailboxes))
      (hd : d = (s.detector (p, k)).step (cfg p).detectorConfig (.bufferSizeChange nframes))
      (hcores : s.cores.detectAll platform (launch cfg) p k
        (d.detectorAudio.drop (s.detector (p, k)).detectorAudio.length) = some cores) :
      Moves platform cfg s (.bufferSizeChange p k)
        { s with
          bufferSizeChange := mailboxes
          detector := Function.update s.detector (p, k) d
          cores := cores
          audio := s.audio.publish (hears platform cfg p (.detector k))
            (d.detectorAudio.drop (s.detector (p, k)).detectorAudio.length) }
  | audioIn {p : π} {k : ℤ} {buffer : AudioBuffer} {mailboxes : Mailboxes (π × ℤ) AudioBuffer}
      {d : DetectorThread} {cores : NetSimCores π}
      (hreceive : s.audioIn.receive (p, k) = some (buffer, mailboxes))
      (hd : d = (s.detector (p, k)).step (cfg p).detectorConfig (.audioIn buffer))
      (hcores : s.cores.detectAll platform (launch cfg) p k
        (d.detectorAudio.drop (s.detector (p, k)).detectorAudio.length) = some cores) :
      Moves platform cfg s (.audioIn p k)
        { s with
          audioIn := mailboxes
          detector := Function.update s.detector (p, k) d
          cores := cores
          audio := s.audio.publish (hears platform cfg p (.detector k))
            (d.detectorAudio.drop (s.detector (p, k)).detectorAudio.length) }
  | bridgeOut {p : π} {i : ℤ} {cores : NetSimCores π}
      (hcores : s.cores.bridgeOut platform (launch cfg) p i = some cores) :
      Moves platform cfg s (.bridgeOut p i) { s with cores := cores }
  | bridgeIn {p : π} {i : ℤ} {buffer : TaggedAudioBuffer} {cores cores' : NetSimCores π}
      (hreceive : s.cores.receive (.bridgeIn p i) = some (buffer, cores'))
      (hcores : s.cores.bridgeIn platform (launch cfg) p i = some cores) :
      Moves platform cfg s (.bridgeIn p i)
        { s with
          cores := cores
          audio := if NetSimCoreConfig.inSwitch platform i then
            s.audio.publish (hears platform cfg p (.detector i)) [buffer] else s.audio }
  | detectorAudio {p : π} {j i : ℤ} {buffer : TaggedAudioBuffer} {cores : NetSimCores π}
      (hreceive : s.cores.receive (.processor p j i) = some (buffer, cores)) :
      Moves platform cfg s (.detectorAudio p j i)
        { s with
          cores := cores
          audio := if NetSimCoreConfig.inSwitch platform i then
            s.audio.publish (hears platform cfg p (.processor i j)) [buffer] else s.audio }
  | audioOut {p : π} {i j : ℤ} {buffer : TaggedAudioBuffer}
      {mailboxes : Mailboxes (AudioSubscription π) TaggedAudioBuffer} {t : JackThread}
      (hreceive : s.audio.receive (.jack p i j) = some (buffer, mailboxes))
      (ht : JackThread.step (cfg p).jackConfig (s.jack (p, i)) (.audioOut buffer j) = some t) :
      Moves platform cfg s (.audioOut p i j)
        { s with audio := mailboxes, jack := Function.update s.jack (p, i) t }
  | logAudio {p : π} {σ : LogStream} {buffer : TaggedAudioBuffer}
      {mailboxes : Mailboxes (AudioSubscription π) TaggedAudioBuffer} {l : LoggerThread}
      (hreceive : s.audio.receive (.logger p σ) = some (buffer, mailboxes))
      (hl : LoggerThread.receive (cfg p).loggerConfig (s.logger p) (σ, buffer) = some l) :
      Moves platform cfg s (.logAudio p σ)
        { s with audio := mailboxes, logger := Function.update s.logger p l }

section Moves

variable {platform : Platform} {cfg : π → CoreConfig} {s s' : Pipeline π}

private theorem exists_of_stepJack {p : π} {k : ℤ} {e : JackEvent}
    (h : s.stepJack platform cfg p k e = some s') : ∃ t,
      JackThread.step (cfg p).jackConfig (s.jack (p, k)) e = some t ∧
        s' = { s with jack := Function.update s.jack (p, k) t } := by
  rw [stepJack, Option.ite_none_right_eq_some] at h
  obtain ⟨t, ht, rfl⟩ := Option.map_eq_some_iff.1 h.2
  exact ⟨t, ht, rfl⟩

/-- What a step does, by the thread or the link that takes it. -/
theorem moves_of_step {e : PipelineEvent π} (h : s.step platform cfg e = some s') :
    Moves platform cfg s e s' := by
  cases e with
  | capture p k e =>
      rw [step, stepCapture, Option.ite_none_right_eq_some] at h
      obtain ⟨t, ht, rfl⟩ := Option.map_eq_some_iff.1 h.2
      exact .capture ht
  | process p k cycle =>
      obtain ⟨t, ht, rfl⟩ := exists_of_stepJack h
      exact .process ht
  | registerPort p k i =>
      obtain ⟨t, ht, rfl⟩ := exists_of_stepJack h
      exact .registerPort ht
  | jackBufferSizeChange p k nframes =>
      obtain ⟨u, hu, rfl⟩ := Option.map_eq_some_iff.1 h
      obtain ⟨t, ht, rfl⟩ := exists_of_stepJack hu
      have hmoves : Moves platform cfg s (.jackBufferSizeChange p k nframes) _ :=
        .jackBufferSizeChange ht
      simp only [publishBufferSizeChange]
      split_ifs with hk
      · simpa only [hk, if_true] using hmoves
      · simpa only [hk, if_false] using hmoves
  | bufferSizeChange p k =>
      obtain ⟨⟨nframes, mailboxes⟩, hreceive, hstep⟩ := Option.bind_eq_some_iff.1 h
      obtain ⟨cores, hcores, rfl⟩ := Option.map_eq_some_iff.1 hstep
      exact .bufferSizeChange hreceive rfl hcores
  | audioIn p k =>
      obtain ⟨⟨b, mailboxes⟩, hreceive, hstep⟩ := Option.bind_eq_some_iff.1 h
      obtain ⟨cores, hcores, rfl⟩ := Option.map_eq_some_iff.1 hstep
      exact .audioIn hreceive rfl hcores
  | bridgeOut p i =>
      obtain ⟨cores, hcores, rfl⟩ := Option.map_eq_some_iff.1 h
      exact .bridgeOut hcores
  | bridgeIn p i =>
      rw [step, stepBridgeIn, Option.bind_eq_bind, Option.bind_eq_some_iff] at h
      obtain ⟨⟨b, t⟩, hreceive, h⟩ := h
      rw [Option.bind_eq_bind, Option.bind_eq_some_iff] at h
      obtain ⟨cores, hcores, h⟩ := h
      cases h
      exact .bridgeIn hreceive hcores
  | detectorAudio p j i =>
      obtain ⟨⟨b, cores⟩, hreceive, rfl⟩ := Option.map_eq_some_iff.1 h
      exact .detectorAudio hreceive
  | audioOut p i j =>
      obtain ⟨⟨b, mailboxes⟩, hreceive, hstep⟩ := Option.bind_eq_some_iff.1 h
      obtain ⟨t, ht, rfl⟩ := exists_of_stepJack hstep
      exact .audioOut hreceive ht
  | logAudio p σ =>
      obtain ⟨⟨b, mailboxes⟩, hreceive, hstep⟩ := Option.bind_eq_some_iff.1 h
      obtain ⟨l, hl, rfl⟩ := Option.map_eq_some_iff.1 hstep
      exact .logAudio hreceive hl

end Moves

/-! ### The parts -/

/-- What `JackThread<k>` does in a step, the capturing half. -/
def captureEvent (c : π × ℤ) : PipelineEvent π → Option CaptureEvent
  | .capture p k e => if (p, k) = c then some e else none
  | _ => none

/-- What `DetectorThread<k>` handles in a step. -/
def detectorEvent (c : π × ℤ) (s : Pipeline π) : PipelineEvent π → Option DetectorEvent
  | .bufferSizeChange p k =>
      if (p, k) = c then
        (s.bufferSizeChange.receive (p, k)).map fun r => .bufferSizeChange r.1
      else none
  | .audioIn p k =>
      if (p, k) = c then (s.audioIn.receive (p, k)).map fun r => .audioIn r.1 else none
  | _ => none

/-- What `JackThread<k>` does in a step, the playing half. -/
def jackEvent (c : π × ℤ) (s : Pipeline π) : PipelineEvent π → Option JackEvent
  | .process p k cycle => if (p, k) = c then some (.process cycle) else none
  | .registerPort p k i => if (p, k) = c then some (.registerPort i) else none
  | .jackBufferSizeChange p k nframes =>
      if (p, k) = c then some (.bufferSizeChange nframes) else none
  | .audioOut p i j =>
      if (p, i) = c then (s.audio.receive (.jack p i j)).map fun r => .audioOut r.1 j else none
  | _ => none

/-- What the logger of a process logs in a step. -/
def loggerEvent (p : π) (s : Pipeline π) : PipelineEvent π → Option (LogStream × TaggedAudioBuffer)
  | .logAudio q σ =>
      if q = p then (s.audio.receive (.logger q σ)).map fun r => (σ, r.1) else none
  | _ => none

section Parts

variable (platform : Platform) (cfg : π → CoreConfig)

/-- `JackThread<k>`, the capturing half. -/
def capturePart (c : π × ℤ) :
    Component (step platform cfg) (CaptureThread.step ((cfg c.1).captureConfig c.2)) where
  state s := s.capture c
  part _ := captureEvent c
  step_part s e s' h := by
    cases moves_of_step h with
    | @capture p k e t ht =>
        by_cases hc : (p, k) = c
        · subst hc
          simp [captureEvent, ht, Run.exec]
        · simp [captureEvent, hc, Function.update_of_ne (Ne.symm hc), Run.exec]
    | _ => rfl

/-- `DetectorThread<k>`. -/
def detectorPart (c : π × ℤ) :
    Component (step platform cfg)
      fun d e => some (DetectorThread.step (cfg c.1).detectorConfig d e) where
  state s := s.detector c
  part := detectorEvent c
  step_part s e s' h := by
    cases moves_of_step h with
    | @bufferSizeChange p k nframes mailboxes d cores hreceive hd hcores =>
        by_cases hc : (p, k) = c
        · subst hc
          simp [detectorEvent, hreceive, hd, Run.exec]
        · simp [detectorEvent, hc, Function.update_of_ne (Ne.symm hc), Run.exec]
    | @audioIn p k buffer mailboxes d cores hreceive hd hcores =>
        by_cases hc : (p, k) = c
        · subst hc
          simp [detectorEvent, hreceive, hd, Run.exec]
        · simp [detectorEvent, hc, Function.update_of_ne (Ne.symm hc), Run.exec]
    | _ => rfl

private theorem exec_jackEvent {c : π × ℤ} {p : π} {k : ℤ} {jack : π × ℤ → JackThread}
    {e : JackEvent} {t : JackThread}
    (ht : JackThread.step (cfg p).jackConfig (jack (p, k)) e = some t) :
    Run.exec (JackThread.step (cfg c.1).jackConfig) (jack c)
      (if (p, k) = c then some e else none).toList = some (Function.update jack (p, k) t c) := by
  by_cases hc : (p, k) = c
  · subst hc
    simp [ht, Run.exec]
  · simp [hc, Function.update_of_ne (Ne.symm hc), Run.exec]

/-- `JackThread<k>`, the playing half. -/
def jackPart (c : π × ℤ) :
    Component (step platform cfg) (JackThread.step (cfg c.1).jackConfig) where
  state s := s.jack c
  part := jackEvent c
  step_part s e s' h := by
    cases moves_of_step h with
    | process ht => exact exec_jackEvent cfg ht
    | registerPort ht => exact exec_jackEvent cfg ht
    | jackBufferSizeChange ht => exact exec_jackEvent cfg ht
    | audioOut hreceive ht =>
        rw [jackEvent, hreceive, Option.map_some]
        exact exec_jackEvent cfg ht
    | _ => rfl

/-- The logger of a process. -/
def loggerPart (p : π) :
    Component (step platform cfg) (LoggerThread.receive (cfg p).loggerConfig) where
  state s := s.logger p
  part := loggerEvent p
  step_part s e s' h := by
    cases moves_of_step h with
    | @logAudio q σ buffer mailboxes l hreceive hl =>
        by_cases hq : q = p
        · subst hq
          simp [loggerEvent, hreceive, hl, Run.exec]
        · simp [loggerEvent, hq, Function.update_of_ne (Ne.symm hq), Run.exec]
    | _ => rfl

end Parts

/-! ### What the threads are given -/

/-- The buffer sizes among what a detector is given. -/
def sizesOf (es : List DetectorEvent) : List ℕ :=
  es.filterMap fun
    | .audioIn _ => none
    | .bufferSizeChange bufferSize => some bufferSize

section Given

variable {platform : Platform} {cfg : π → CoreConfig} {s : Pipeline π} {es : List (PipelineEvent π)}

/-- A detector handles the audio that it receives. -/
theorem buffersOf_trace (h : after platform cfg es = some s) (c : π × ℤ) :
    (s.audioIn c).received =
      DetectorThread.buffersOf ((detectorPart platform cfg c).trace {} es) := by
  refine Component.eq_append_trace (fun s : Pipeline π => (s.audioIn c).received)
    (fun _ _ => List.filterMap_append) (fun s e s' hstep => ?_) h
  cases moves_of_step hstep with
  | capture _ => simp [detectorPart, detectorEvent]
  | bufferSizeChange hreceive _ _ =>
      simp only [detectorPart, detectorEvent, hreceive, Option.map_some]
      split_ifs <;> simp
  | @audioIn p k _ _ _ _ hreceive _ _ =>
      simp only [detectorPart, detectorEvent, hreceive, Option.map_some,
        (Mailboxes.receive_eq_some hreceive).2.2, eq_comm (b := c)]
      split_ifs <;> simp
  | _ => simp [detectorPart, detectorEvent]

/-- A detector handles the buffer sizes that it receives. -/
theorem sizesOf_trace (h : after platform cfg es = some s) (c : π × ℤ) :
    (s.bufferSizeChange c).received = sizesOf ((detectorPart platform cfg c).trace {} es) := by
  refine Component.eq_append_trace (fun s : Pipeline π => (s.bufferSizeChange c).received)
    (fun _ _ => List.filterMap_append) (fun s e s' hstep => ?_) h
  cases moves_of_step hstep with
  | jackBufferSizeChange _ =>
      dsimp only
      split_ifs <;> simp [detectorPart, detectorEvent]
  | bufferSizeChange hreceive _ _ =>
      simp only [detectorPart, detectorEvent, hreceive, Option.map_some,
        (Mailboxes.receive_eq_some hreceive).2.2, eq_comm (b := c)]
      split_ifs <;> simp
  | audioIn hreceive _ _ =>
      simp only [detectorPart, detectorEvent, hreceive, Option.map_some]
      split_ifs <;> simp
  | _ => simp [detectorPart, detectorEvent]

omit [DecidableEq π] in
/-- A publication leaves what was received alone. -/
private theorem received_ite_publish {hears : AudioSubscription π → Bool}
    {bs : List TaggedAudioBuffer} {q : Prop} [Decidable q]
    (audio : Mailboxes (AudioSubscription π) TaggedAudioBuffer) (c : AudioSubscription π) :
    ((if q then audio.publish hears bs else audio) c).received = (audio c).received := by
  split_ifs
  · exact Mailboxes.received_publish _ _ _ _
  · rfl

/-- A JACK thread is given what it receives. -/
theorem deliveries_trace (h : after platform cfg es = some s) (c : π × ℤ) (j : ℤ) :
    (s.audio (.jack c.1 c.2 j)).received =
      JackThread.deliveries j ((jackPart platform cfg c).trace {} es) := by
  refine Component.eq_append_trace (fun s : Pipeline π => (s.audio (.jack c.1 c.2 j)).received)
    (JackThread.deliveries_append j) (fun s e s' hstep => ?_) h
  cases moves_of_step hstep with
  | process _ | registerPort _ | jackBufferSizeChange _ =>
      simp only [jackPart, jackEvent]
      split_ifs <;> simp [JackThread.deliveries]
  | bufferSizeChange _ _ _ | audioIn _ _ _ => simp [jackPart, jackEvent, JackThread.deliveries]
  | bridgeIn _ _ | detectorAudio _ =>
      simp [received_ite_publish, jackPart, jackEvent, JackThread.deliveries]
  | @audioOut p i k buffer mailboxes t hreceive ht =>
      simp only [jackPart, jackEvent, hreceive, Option.map_some,
        (Mailboxes.receive_eq_some hreceive).2.2]
      by_cases hc : (p, i) = c
      · subst hc
        by_cases hk : k = j
        · simp [JackThread.deliveries, hk]
        · simp [JackThread.deliveries, hk, Ne.symm hk]
      · rw [if_neg hc, if_neg]
        · rfl
        · rintro ⟨⟩
          exact hc rfl
  | @logAudio q σ buffer mailboxes l hreceive hl =>
      simp [jackPart, jackEvent, JackThread.deliveries, (Mailboxes.receive_eq_some hreceive).2.2]
  | _ => simp [jackPart, jackEvent, JackThread.deliveries]

private theorem streamBuffers_append (σ : LogStream)
    (es fs : List (LogStream × TaggedAudioBuffer)) :
    LoggerThread.streamBuffers σ (es ++ fs) =
      LoggerThread.streamBuffers σ es ++ LoggerThread.streamBuffers σ fs := by
  simp [LoggerThread.streamBuffers]

/-- A logger logs what it receives. -/
theorem streamBuffers_trace (h : after platform cfg es = some s) (p : π) (σ : LogStream) :
    (s.audio (.logger p σ)).received =
      LoggerThread.streamBuffers σ ((loggerPart platform cfg p).trace {} es) := by
  refine Component.eq_append_trace (fun s : Pipeline π => (s.audio (.logger p σ)).received)
    (streamBuffers_append σ) (fun s e s' hstep => ?_) h
  cases moves_of_step hstep with
  | bufferSizeChange _ _ _ | audioIn _ _ _ =>
      simp [loggerPart, loggerEvent, LoggerThread.streamBuffers]
  | bridgeIn _ _ | detectorAudio _ =>
      simp [received_ite_publish, loggerPart, loggerEvent, LoggerThread.streamBuffers]
  | audioOut hreceive _ =>
      simp [loggerPart, loggerEvent, LoggerThread.streamBuffers,
        (Mailboxes.receive_eq_some hreceive).2.2]
  | @logAudio q τ buffer mailboxes l hreceive hl =>
      simp only [loggerPart, loggerEvent, hreceive, Option.map_some,
        (Mailboxes.receive_eq_some hreceive).2.2]
      by_cases hq : q = p
      · subst hq
        by_cases hτ : τ = σ
        · simp [LoggerThread.streamBuffers, hτ]
        · simp [LoggerThread.streamBuffers, hτ, Ne.symm hτ]
      · simp [LoggerThread.streamBuffers, hq, Ne.symm hq]
  | _ => simp [loggerPart, loggerEvent, LoggerThread.streamBuffers]

end Given

end Pipeline

end Netsim
