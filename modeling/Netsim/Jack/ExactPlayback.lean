import Mathlib.Data.List.Infix
import Netsim.Jack.Playback
import Netsim.Lib.Pass

/-!
# Exact playback of a packet

A packet that is delivered while nothing else starts, and whose queue does not run dry before its
END has been queued, is written to its port sample by sample: silence up to the start of playback,
the packet, and silence up to the end of a cycle (`exists_after_playsExactly`). This holds however
the deliveries and the cycles interleave, whatever the lengths of the buffers are, and whatever
the other ports play.
-/

namespace Netsim

namespace JackThread

open Playback

/-- The buffers delivered for a modem. -/
def deliveries (m : ℤ) (es : List JackEvent) : List TaggedAudioBuffer :=
  es.filterMap fun
    | .audioOut buffer modemIndex => if modemIndex = m then some buffer else none
    | _ => none

/-- The number of frames of the cycles. -/
def framesOf (es : List JackEvent) : ℕ :=
  (es.map fun
    | .process cycle => cycle.nframes
    | _ => 0).sum

/-- A cycle has as many frames as the buffer size says, at least one. -/
def FullCycle (s : JackThread) : JackEvent → Prop
  | .process cycle => cycle.nframes = s.bufferSize ∧ 1 ≤ cycle.nframes
  | _ => True

instance (s : JackThread) (e : JackEvent) : Decidable (FullCycle s e) := by
  cases e <;> unfold FullCycle <;> infer_instance

/-- A cycle has at least one frame, and at most as many as the buffer size says. -/
def WithinBuffer (s : JackThread) : JackEvent → Prop
  | .process cycle => 1 ≤ cycle.nframes ∧ cycle.nframes ≤ s.bufferSize
  | _ => True

instance (s : JackThread) : (e : JackEvent) → Decidable (WithinBuffer s e)
  | .process _ => inferInstanceAs (Decidable (_ ∧ _))
  | .audioOut _ _ | .bufferSizeChange _ | .registerPort _ => inferInstanceAs (Decidable True)

theorem FullCycle.withinBuffer {s : JackThread} {e : JackEvent} (h : FullCycle s e) :
    WithinBuffer s e := by
  cases e with
  | process cycle => exact ⟨h.2, h.1.le⟩
  | _ => trivial

/-- Every delivered buffer holds audio. -/
def DeliversAudio (es : List JackEvent) : Prop :=
  ∀ buffer m, JackEvent.audioOut buffer m ∈ es → buffer.buffer.isSome

/-- Playback on port `i` of a packet that starts at `startTime` began with `cycle`, and `w` was
written to the port since. The run `es` starts from `s₀`, where the packet has just been started,
and leads to `s`. -/
structure Began (cfg : JackConfig) (i : ℕ) (startTime : ℚ) (s₀ : JackThread) (es : List JackEvent)
    (s : JackThread) (cycle : Cycle) (post : List JackEvent) (w : List SampleT) : Prop where
  /-- Before the cycle, the packet was waiting and nothing was written. -/
  before : ∃ pre s₁, es = pre ++ .process cycle :: post ∧ after cfg s₀ pre = some s₁ ∧
    (s₁.playback (cfg.firstModemIndex + i)).newPacket ∧ s₁.written i = s₀.written i
  /-- Playback starts within the cycle. -/
  start_le : frameStart cfg cycle startTime ≤ cycle.nframes
  /-- What was written. -/
  written : s.written i = s₀.written i ++ w

/-- The packet with samples `data` has not begun and nothing was written to port `i`; or it was
written from some cycle on, silence up to the start of playback in that cycle and the packet; or,
when that is complete, also silence up to the end of a cycle, and nothing more. -/
def PlaysExactly (cfg : JackConfig) (i : ℕ) (startTime : ℚ) (data : List SampleT)
    (s₀ : JackThread) (es : List JackEvent) (s : JackThread) : Prop :=
  ((s.playback (cfg.firstModemIndex + i)).newPacket ∧ s.written i = s₀.written i) ∨
  ∃ cycle post w, Began cfg i startTime s₀ es s cycle post w ∧
    ((w <+: List.replicate (frameStart cfg cycle startTime) silence ++ data ∧
        w.length = framesOf (.process cycle :: post)) ∨
      ∃ before last later k, JackEvent.process cycle :: post = before ++ .process last :: later ∧
        w = List.replicate (frameStart cfg cycle startTime) silence ++ data ++
          List.replicate k silence ∧
        w.length = framesOf (before ++ [.process last]) ∧
        framesOf before ≤ frameStart cfg cycle startTime + data.length)

/-! ### All ports -/

/-- All queues hold audio, and the empty buffer is as long as a cycle. -/
structure Healthy (s : JackThread) : Prop where
  audio : ∀ m, AllAudio (s.playback m).queue
  zeros : 1 ≤ s.bufferSize → HoldsZeros s.emptyBuffer s.bufferSize

section Ports

variable {cfg : JackConfig} {cycle : Cycle} {s s' : JackThread}

/-- What a cycle leaves alone. -/
structure SameSetup (s s' : JackThread) : Prop where
  bufferSize : s'.bufferSize = s.bufferSize
  emptyBuffer : s'.emptyBuffer = s.emptyBuffer
  outputPort : s'.outputPort = s.outputPort

theorem SameSetup.trans {s'' : JackThread} (h : SameSetup s s') (h' : SameSetup s' s'') :
    SameSetup s s'' where
  bufferSize := h'.bufferSize.trans h.bufferSize
  emptyBuffer := h'.emptyBuffer.trans h.emptyBuffer
  outputPort := h'.outputPort.trans h.outputPort

/-- The playback of port `i` and what has been written to it. -/
def port (cfg : JackConfig) (s : JackThread) (i : ℕ) : Playback × List SampleT :=
  (s.playback (cfg.firstModemIndex + i), s.written i)

/-- What a cycle does to port `i`, with the ports and the empty buffer of `s`. -/
def portCycle (cfg : JackConfig) (cycle : Cycle) (s : JackThread) (i : ℕ)
    (v : Playback × List SampleT) : Option (Playback × List SampleT) :=
  if s.outputPort i then
    (playPort cfg s.emptyBuffer cycle v.1).map fun r => (r.1, v.2 ++ r.2)
  else some v

/-- What a cycle does to port `i`: nothing if it is not registered. -/
def PlaysPort (cfg : JackConfig) (cycle : Cycle) (s s' : JackThread) (i : ℕ) : Prop :=
  if s.outputPort i then
    ∃ out, (s.playback (cfg.firstModemIndex + i)).playPacket cfg s.emptyBuffer cycle =
        some (s'.playback (cfg.firstModemIndex + i), out) ∧
      s'.written i = s.written i ++ out
  else s'.playback (cfg.firstModemIndex + i) = s.playback (cfg.firstModemIndex + i) ∧
    s'.written i = s.written i

theorem portCycle_eq_some_iff {i : ℕ} (hport : s.outputPort i) :
    portCycle cfg cycle s i (port cfg s i) = some (port cfg s' i) ↔
      ∃ out, playPort cfg s.emptyBuffer cycle (s.playback (cfg.firstModemIndex + i)) =
          some (s'.playback (cfg.firstModemIndex + i), out) ∧
        s'.written i = s.written i ++ out := by
  rw [portCycle, if_pos hport, Option.map_eq_some_iff]
  constructor
  · rintro ⟨⟨p, out⟩, hplay, heq⟩
    obtain ⟨hp, hwritten⟩ := Prod.mk.inj heq
    exact ⟨out, hp ▸ hplay, hwritten.symm⟩
  · rintro ⟨out, hplay, hwritten⟩
    exact ⟨_, hplay, Prod.ext rfl hwritten.symm⟩

theorem processPort_eq (cfg : JackConfig) (cycle : Cycle) (s : JackThread) (i : ℕ) :
    processPort cfg cycle s i =
      if s.outputPort i then
        (playPort cfg s.emptyBuffer cycle (s.playback (cfg.firstModemIndex + i))).map fun r =>
          { s with
            playback := Function.update s.playback (cfg.firstModemIndex + i) r.1
            written := Function.update s.written i (s.written i ++ r.2) }
      else some s := rfl

/-- The loop over the ports is a pass: a port is touched in its own turn only. -/
theorem local_processPort (cfg : JackConfig) (hn : cycle.nframes ≤ s.bufferSize)
    (h1 : 1 ≤ cycle.nframes) :
    Pass.Local (fun t => SameSetup s t ∧ t.Healthy) (port cfg) (portCycle cfg cycle s)
      (processPort cfg cycle) where
  goesOn t i h hact := by
    obtain ⟨⟨-, hempty, hports⟩, -⟩ := h
    rw [portCycle, port, ← hports, ← hempty] at hact
    rw [processPort_eq]
    split_ifs at hact ⊢
    · simpa using hact
    · rfl
  acts t i t' h ht' := by
    obtain ⟨hsetup, haudio, hzeros⟩ := h
    rw [processPort_eq] at ht'
    rw [portCycle, port, port, ← hsetup.outputPort, ← hsetup.emptyBuffer]
    split_ifs at ht' ⊢
    · obtain ⟨⟨p, out⟩, hplay, rfl⟩ := Option.map_eq_some_iff.1 ht'
      refine ⟨⟨⟨hsetup.bufferSize, hsetup.emptyBuffer, hsetup.outputPort⟩, fun m => ?_, hzeros⟩,
        by simp [hplay], fun j hj => by simp [port, hj]⟩
      simp only [Function.update_apply]
      split_ifs
      · have hn' : cycle.nframes ≤ t.bufferSize := hn.trans hsetup.bufferSize.ge
        exact AllAudio.of_playPort (haudio _) (hzeros (h1.trans hn')) hn' hplay
      · exact haudio m
    -- a port that is not registered is not touched
    · cases ht'
      exact ⟨⟨hsetup, haudio, hzeros⟩, rfl, fun _ _ => rfl⟩

/-- The loop over the ports plays each of them from the state before the cycle. -/
theorem processPorts_eq_some {ports : List ℕ} (hports : ports.Nodup) (hs : s.Healthy)
    (hn : cycle.nframes ≤ s.bufferSize) (h1 : 1 ≤ cycle.nframes)
    (hs' : ports.foldlM (processPort cfg cycle) s = some s') :
    s'.Healthy ∧ SameSetup s s' ∧ (∀ i ∈ ports, portCycle cfg cycle s i (port cfg s i) =
      some (port cfg s' i)) := by
  obtain ⟨⟨hsetup, hhealthy⟩, hacts, -⟩ :=
    (local_processPort cfg hn h1).foldlM_eq_some hports ⟨⟨rfl, rfl, rfl⟩, hs⟩ hs'
  exact ⟨hhealthy, hsetup, hacts⟩

/-- In packet mode every port can be played. -/
theorem exists_processPorts (hcfg : cfg.continuous = false) (ports : List ℕ)
    (hports : ports.Nodup) (hs : s.Healthy) (hn : cycle.nframes ≤ s.bufferSize)
    (h1 : 1 ≤ cycle.nframes) :
    ∃ s', ports.foldlM (processPort cfg cycle) s = some s' ∧ s'.Healthy ∧ SameSetup s s' ∧
      ∀ i ∈ ports, PlaysPort cfg cycle s s' i := by
  obtain ⟨s', hs'⟩ := (local_processPort cfg hn h1).exists_foldlM hports ⟨⟨rfl, rfl, rfl⟩, hs⟩
    fun i _ => by
      obtain ⟨p, out, hplay, -⟩ := exists_packetCycle cfg (hs.audio (cfg.firstModemIndex + i))
        (hs.zeros (h1.trans hn)) hn
      simp only [portCycle, port, playPort, hcfg, Bool.false_eq_true, if_false, hplay]
      split_ifs <;> rfl
  obtain ⟨hhealthy, hsetup, hacts⟩ := processPorts_eq_some hports hs hn h1 hs'
  refine ⟨s', hs', hhealthy, hsetup, fun i hi => ?_⟩
  have hact := hacts i hi
  rw [PlaysPort]
  split_ifs with hport
  · obtain ⟨out, hplay, hwritten⟩ := (portCycle_eq_some_iff hport).1 hact
    rw [playPort, hcfg, if_neg Bool.false_ne_true] at hplay
    exact ⟨out, hplay, hwritten⟩
  · rw [portCycle, if_neg hport] at hact
    obtain ⟨hp, hwritten⟩ := Prod.mk.inj (Option.some_inj.1 hact)
    exact ⟨hp.symm, hwritten.symm⟩

theorem exists_jackProcess (hcfg : cfg.continuous = false) (hs : s.Healthy)
    (hn : cycle.nframes ≤ s.bufferSize) (h1 : 1 ≤ cycle.nframes) :
    ∃ s', s.jackProcess cfg cycle = some s' ∧ s'.Healthy ∧ SameSetup s s' ∧
      ∀ i < cfg.localNumberOfModems, PlaysPort cfg cycle s s' i := by
  obtain ⟨s', hs', hhealthy, hsetup, hplays⟩ := exists_processPorts hcfg
    (List.range cfg.localNumberOfModems) List.nodup_range hs hn h1
  exact ⟨s', hs', hhealthy, hsetup, fun i hi => hplays i (List.mem_range.2 hi)⟩

/-- What a cycle does to the ports of a healthy thread. -/
theorem playsPort_of_jackProcess (hcfg : cfg.continuous = false) (hs : s.Healthy)
    (hn : cycle.nframes ≤ s.bufferSize) (h1 : 1 ≤ cycle.nframes)
    (hs' : s.jackProcess cfg cycle = some s') :
    SameSetup s s' ∧ ∀ i < cfg.localNumberOfModems, PlaysPort cfg cycle s s' i := by
  obtain ⟨t, ht, -, hsetup, hplays⟩ := exists_jackProcess hcfg hs hn h1
  obtain rfl : t = s' := Option.some_inj.1 (ht.symm.trans hs')
  exact ⟨hsetup, hplays⟩

/-- A new packet begins in the cycle: its port is registered, its start is in the cycle, and there
are enough buffers. -/
def CanBegin (cfg : JackConfig) (cycle : Cycle) (startTime : ℚ) (s : JackThread) (i : ℕ) : Prop :=
  s.outputPort i ∧ frameStart cfg cycle startTime ≤ cycle.nframes ∧
    cfg.minPlaybackBufferSize % 2 ^ 64 ≤ (s.playback (cfg.firstModemIndex + i)).queue.length

section NewPacket

variable {i : ℕ} {front : TaggedAudioBuffer} {queue : List TaggedAudioBuffer} {audio : AudioBuffer}

/-- A new packet that can begin is played from its start on. -/
theorem PlaysPort.begins (hplays : PlaysPort cfg cycle s s' i) (hs : s.Healthy)
    (hn : cycle.nframes = s.bufferSize) (h1 : 1 ≤ cycle.nframes)
    (hnew : (s.playback (cfg.firstModemIndex + i)).newPacket)
    (hqueue : (s.playback (cfg.firstModemIndex + i)).queue = front :: queue)
    (hfront : front.buffer = some audio) (hcan : CanBegin cfg cycle audio.bufferStartTime s i) :
    ∃ out, s'.written i = s.written i ++ out ∧
      Played { s.playback (cfg.firstModemIndex + i) with index := 0 }
        (s'.playback (cfg.firstModemIndex + i)) (frameStart cfg cycle audio.bufferStartTime)
          cycle.nframes out := by
  obtain ⟨hport, hstart, henough⟩ := hcan
  rw [PlaysPort, if_pos hport] at hplays
  obtain ⟨out, hplay, hwritten⟩ := hplays
  obtain ⟨p', out', hbegin, hplayed⟩ := exists_playPacket_begins cfg hqueue (hs.audio _)
    (hs.zeros (hn ▸ h1)) hn.le hnew hfront hstart henough
  rw [hplay, Option.some_inj, Prod.mk.injEq] at hbegin
  obtain ⟨rfl, rfl⟩ := hbegin
  exact ⟨out, hwritten, hplayed⟩

/-- A new packet that cannot begin is left as it is. -/
theorem PlaysPort.waits (hplays : PlaysPort cfg cycle s s' i)
    (hnew : (s.playback (cfg.firstModemIndex + i)).newPacket)
    (hqueue : (s.playback (cfg.firstModemIndex + i)).queue = front :: queue)
    (hfront : front.buffer = some audio) (hcan : ¬ CanBegin cfg cycle audio.bufferStartTime s i) :
    (s'.playback (cfg.firstModemIndex + i)).newPacket ∧
      (s'.playback (cfg.firstModemIndex + i)).queue =
        (s.playback (cfg.firstModemIndex + i)).queue ∧
      s'.written i = s.written i := by
  rw [PlaysPort] at hplays
  split_ifs at hplays with hport
  · obtain ⟨out, hplay, hwritten⟩ := hplays
    have hwait : playPacket cfg s.emptyBuffer cycle (s.playback (cfg.firstModemIndex + i)) =
        some ({ s.playback (cfg.firstModemIndex + i) with index := 0 }, []) := by
      rw [playPacket_of_new cfg _ _ hqueue hnew hfront]
      split_ifs with hfuture hfew
      · rfl
      · rfl
      · exact absurd ⟨hport, Nat.le_of_not_lt hfuture, le_of_not_gt hfew⟩ hcan
    rw [hplay, Option.some_inj, Prod.mk.injEq] at hwait
    obtain ⟨hplayback, rfl⟩ := hwait
    exact ⟨hplayback ▸ hnew, by rw [hplayback], by rw [hwritten, List.append_nil]⟩
  -- a port that is not registered is not touched
  · obtain ⟨hplayback, hwritten⟩ := hplays
    exact ⟨hplayback ▸ hnew, by rw [hplayback], hwritten⟩

end NewPacket

/-- A packet that has begun goes on. -/
theorem PlaysPort.continues {i : ℕ} (hplays : PlaysPort cfg cycle s s' i) (hs : s.Healthy)
    (hn : cycle.nframes = s.bufferSize) (h1 : 1 ≤ cycle.nframes) (hport : s.outputPort i)
    (hbegun : (s.playback (cfg.firstModemIndex + i)).newPacket = false)
    (hqueue : (s.playback (cfg.firstModemIndex + i)).queue ≠ []) :
    ∃ out, s'.written i = s.written i ++ out ∧
      Played (s.playback (cfg.firstModemIndex + i)) (s'.playback (cfg.firstModemIndex + i)) 0
        cycle.nframes out := by
  rw [PlaysPort, if_pos hport] at hplays
  obtain ⟨out, hplay, hwritten⟩ := hplays
  obtain ⟨p', out', hgo, hplayed⟩ := exists_playPacket_of_begun cfg hqueue (hs.audio _)
    (hs.zeros (hn ▸ h1)) hn.le hbegun
  rw [hplay, Option.some_inj, Prod.mk.injEq] at hgo
  obtain ⟨rfl, rfl⟩ := hgo
  exact ⟨out, hwritten, hplayed⟩

/-- A port with an empty queue is not touched. -/
theorem PlaysPort.of_queue_eq_nil {i : ℕ} (hplays : PlaysPort cfg cycle s s' i)
    (hqueue : (s.playback (cfg.firstModemIndex + i)).queue = []) :
    s'.playback (cfg.firstModemIndex + i) = s.playback (cfg.firstModemIndex + i) ∧
      s'.written i = s.written i := by
  rw [PlaysPort] at hplays
  split_ifs at hplays
  · obtain ⟨out, hplay, hwritten⟩ := hplays
    rw [playPacket, hqueue] at hplay
    simp only [Option.some_inj, Prod.mk.injEq] at hplay
    obtain ⟨hplayback, rfl⟩ := hplay
    exact ⟨hplayback.symm, by rw [hwritten, List.append_nil]⟩
  · exact hplays

end Ports

/-! ### Runs stay healthy -/

section Health

variable {cfg : JackConfig} {s : JackThread}

theorem healthy_init : Healthy {} where
  audio m b hb := by simp at hb
  zeros h := absurd h (by decide)

theorem Healthy.audioOut (hs : s.Healthy) {b : TaggedAudioBuffer} (hb : b.buffer.isSome) (m : ℤ) :
    Healthy { s with playback :=
      Function.update s.playback m ((s.playback m).audioOut cfg b) } := by
  refine ⟨fun m' => ?_, hs.zeros⟩
  simp only [Function.update_apply]
  split_ifs
  · unfold Playback.audioOut
    intro x hx
    -- the queue is the new buffer alone, or has it at its end
    split_ifs at hx
    · rw [List.mem_singleton.1 hx]
      exact hb
    · rw [List.mem_singleton.1 hx]
      exact hb
    · rcases List.mem_append.1 hx with hx | hx
      · exact hs.audio m x hx
      · rw [List.mem_singleton.1 hx]
        exact hb
  · exact hs.audio m'

theorem Healthy.jackBufferSizeChange (hs : s.Healthy) (n : ℕ) :
    (s.jackBufferSizeChange n).Healthy where
  audio := hs.audio
  zeros _ := ⟨_, rfl, rfl, rfl⟩

/-- A healthy thread stays healthy, in either mode. -/
theorem Healthy.step (hs : s.Healthy) {s' : JackThread} {e : JackEvent}
    (haudio : DeliversAudio [e]) (hcycle : WithinBuffer s e)
    (hs' : JackThread.step cfg s e = some s') : s'.Healthy := by
  cases e with
  | audioOut b m =>
      cases hs'
      exact hs.audioOut (haudio b m (by simp)) m
  | process cycle =>
      exact (processPorts_eq_some List.nodup_range hs hcycle.2 hcycle.1 hs').1
  | bufferSizeChange n =>
      cases hs'
      exact hs.jackBufferSizeChange n
  | registerPort i =>
      cases hs'
      exact ⟨hs.audio, hs.zeros⟩

/-- In packet mode a healthy thread goes on, and stays healthy. -/
theorem Healthy.exists_step (hcfg : cfg.continuous = false) (hs : s.Healthy) {e : JackEvent}
    (haudio : DeliversAudio [e]) (hcycle : WithinBuffer s e) :
    ∃ s', JackThread.step cfg s e = some s' ∧ s'.Healthy := by
  have hgoes : ∃ s', JackThread.step cfg s e = some s' := by
    cases e with
    | process cycle =>
        obtain ⟨s', hs', -⟩ := exists_jackProcess hcfg hs hcycle.2 hcycle.1
        exact ⟨s', hs'⟩
    | _ => exact ⟨_, rfl⟩
  obtain ⟨s', hs'⟩ := hgoes
  exact ⟨s', hs', hs.step haudio hcycle hs'⟩

theorem DeliversAudio.of_concat {es : List JackEvent} {e : JackEvent}
    (h : DeliversAudio (es ++ [e])) : DeliversAudio es ∧ DeliversAudio [e] :=
  ⟨fun b m hb => h b m (List.mem_append_left _ hb),
    fun b m hb => h b m (List.mem_append_right _ hb)⟩

/-- In packet mode a healthy thread can handle every run. -/
theorem Healthy.exists_after (hcfg : cfg.continuous = false) (hs : s.Healthy) {es : List JackEvent}
    (haudio : DeliversAudio es) (hcycles : Run.ExecAlways (JackThread.step cfg) s WithinBuffer es) :
    ∃ s', after cfg s es = some s' ∧ s'.Healthy :=
  Run.exec_induction (JackThread.step cfg) s (P := DeliversAudio) (I := fun _ => Healthy)
    (fun _ _ h => h.of_concat.1) hs
    (fun _ _ _ haudio hs hcycle => hs.exists_step hcfg haudio.of_concat.2 hcycle) es haudio hcycles

theorem exists_after_healthy (hcfg : cfg.continuous = false) {es : List JackEvent}
    (haudio : DeliversAudio es) (hcycles : Run.ExecAlways (step cfg) {} FullCycle es) :
    ∃ s, after cfg {} es = some s ∧ s.Healthy :=
  healthy_init.exists_after hcfg haudio
    fun pre e post t heq ht => (hcycles pre e post t heq ht).withinBuffer

/-- In either mode, the thread is healthy after every run that goes on. -/
theorem healthy_of_after {es : List JackEvent} (haudio : DeliversAudio es)
    (hcycles : Run.ExecAlways (step cfg) {} WithinBuffer es) (hs : after cfg {} es = some s) :
    s.Healthy := by
  refine Run.exec_guarded_invariant (step cfg) {} (I := Healthy)
    (G := fun s e => WithinBuffer s e ∧ DeliversAudio [e]) healthy_init
    (fun e t u ht h hu => ht.step h.2 h.1 hu) es s hs fun pre e post t heq ht =>
      ⟨hcycles pre e post t heq ht, fun b m hb => haudio b m ?_⟩
  simp [heq, List.mem_singleton.1 hb]

end Health

/-! ### The packet -/

section Packet

variable {cfg : JackConfig} {i : ℕ} {first : TaggedAudioBuffer} {rest : List TaggedAudioBuffer}
  {audio : AudioBuffer} {s₀ s s' : JackThread} {es : List JackEvent} {e : JackEvent}

theorem deliveries_append (m : ℤ) (es fs : List JackEvent) :
    deliveries m (es ++ fs) = deliveries m es ++ deliveries m fs := List.filterMap_append

theorem framesOf_append (es fs : List JackEvent) :
    framesOf (es ++ fs) = framesOf es + framesOf fs := by
  simp [framesOf]

/-- The packet waits to be played. -/
structure Waiting (cfg : JackConfig) (i : ℕ) (first : TaggedAudioBuffer) (s₀ : JackThread)
    (es : List JackEvent) (s : JackThread) : Prop where
  new : (s.playback (cfg.firstModemIndex + i)).newPacket
  queue : (s.playback (cfg.firstModemIndex + i)).queue =
    first :: deliveries (cfg.firstModemIndex + i) es
  written : s.written i = s₀.written i

/-- The packet is being played: what was written and what is left to play is what was
delivered. -/
structure Playing (cfg : JackConfig) (i : ℕ) (startTime : ℚ) (first : TaggedAudioBuffer)
    (s₀ : JackThread) (es : List JackEvent) (s : JackThread) (cycle : Cycle)
    (post : List JackEvent) (w : List SampleT) : Prop where
  began : Began cfg i startTime s₀ es s cycle post w
  port : s.outputPort i
  begun : (s.playback (cfg.firstModemIndex + i)).newPacket = false
  queue : (s.playback (cfg.firstModemIndex + i)).queue ≠ []
  conserved : w ++ (s.playback (cfg.firstModemIndex + i)).unplayed =
    List.replicate (frameStart cfg cycle startTime) silence ++
      (first :: deliveries (cfg.firstModemIndex + i) es).flatMap (·.samples)
  length : w.length = framesOf (.process cycle :: post)

/-- The packet has been played. -/
structure Finished (cfg : JackConfig) (i : ℕ) (startTime : ℚ) (first : TaggedAudioBuffer)
    (rest : List TaggedAudioBuffer) (s₀ : JackThread) (es : List JackEvent) (s : JackThread)
    (cycle : Cycle) (post : List JackEvent) (w : List SampleT) : Prop where
  began : Began cfg i startTime s₀ es s cycle post w
  queue : (s.playback (cfg.firstModemIndex + i)).queue = []
  delivered : deliveries (cfg.firstModemIndex + i) es = rest
  complete : ∃ before last later k,
    JackEvent.process cycle :: post = before ++ .process last :: later ∧
      w = List.replicate (frameStart cfg cycle startTime) silence ++
        (first :: rest).flatMap (·.samples) ++ List.replicate k silence ∧
      w.length = framesOf (before ++ [.process last]) ∧
      framesOf before ≤
        frameStart cfg cycle startTime + ((first :: rest).flatMap (·.samples)).length

/-- Where playback of the packet stands. -/
def Stands (cfg : JackConfig) (i : ℕ) (startTime : ℚ) (first : TaggedAudioBuffer)
    (rest : List TaggedAudioBuffer) (s₀ : JackThread) (es : List JackEvent) (s : JackThread) :
    Prop :=
  Waiting cfg i first s₀ es s ∨ ∃ cycle post w,
    Playing cfg i startTime first s₀ es s cycle post w ∨
      Finished cfg i startTime first rest s₀ es s cycle post w

theorem Began.concat {startTime : ℚ} {cycle : Cycle} {post : List JackEvent} {w : List SampleT}
    (h : Began cfg i startTime s₀ es s cycle post w) {more : List SampleT}
    (hwritten : s'.written i = s.written i ++ more) :
    Began cfg i startTime s₀ (es ++ [e]) s' cycle (post ++ [e]) (w ++ more) := by
  obtain ⟨⟨pre, s₁, rfl, hpre⟩, hstart, hw⟩ := h
  exact ⟨⟨pre, s₁, by simp, hpre⟩, hstart, by rw [hwritten, hw, List.append_assoc]⟩

/-- A packet that is neither begun nor continued goes on waiting. -/
theorem Waiting.concat (h : Waiting cfg i first s₀ es s)
    (hnew : (s'.playback (cfg.firstModemIndex + i)).newPacket =
      (s.playback (cfg.firstModemIndex + i)).newPacket)
    (hqueue : (s'.playback (cfg.firstModemIndex + i)).queue =
      (s.playback (cfg.firstModemIndex + i)).queue)
    (hwritten : s'.written i = s.written i)
    (hdeliveries : deliveries (cfg.firstModemIndex + i) [e] = []) :
    Waiting cfg i first s₀ (es ++ [e]) s' := by
  refine ⟨hnew ▸ h.new, ?_, hwritten.trans h.written⟩
  rw [hqueue, deliveries_append, hdeliveries, List.append_nil, h.queue]

/-- A packet that has been played stays so. -/
theorem Finished.concat {startTime : ℚ} {cycle : Cycle} {post : List JackEvent} {w : List SampleT}
    (h : Finished cfg i startTime first rest s₀ es s cycle post w)
    (hplayback : s'.playback (cfg.firstModemIndex + i) = s.playback (cfg.firstModemIndex + i))
    (hwritten : s'.written i = s.written i)
    (hdeliveries : deliveries (cfg.firstModemIndex + i) [e] = []) :
    Finished cfg i startTime first rest s₀ (es ++ [e]) s' cycle (post ++ [e]) w := by
  obtain ⟨before, last, later, k, heq, hw, hlength, hle⟩ := h.complete
  have hnone : s'.written i = s.written i ++ [] := by rw [hwritten, List.append_nil]
  refine ⟨?_, hplayback ▸ h.queue, ?_, before, last, later ++ [e], k, ?_, hw, hlength, hle⟩
  · have hbegan := h.began.concat (e := e) hnone
    rwa [List.append_nil] at hbegan
  · rw [deliveries_append, hdeliveries, List.append_nil, h.delivered]
  · rw [← List.cons_append, heq]
    simp

/-- A step that concerns neither the port nor the packet. -/
theorem Stands.of_same {startTime : ℚ} (h : Stands cfg i startTime first rest s₀ es s)
    (hplayback : s'.playback (cfg.firstModemIndex + i) = s.playback (cfg.firstModemIndex + i))
    (hwritten : s'.written i = s.written i) (hport : s.outputPort i → s'.outputPort i)
    (hdeliveries : deliveries (cfg.firstModemIndex + i) [e] = []) (hframes : framesOf [e] = 0) :
    Stands cfg i startTime first rest s₀ (es ++ [e]) s' := by
  have hes : deliveries (cfg.firstModemIndex + i) (es ++ [e]) =
      deliveries (cfg.firstModemIndex + i) es := by
    rw [deliveries_append, hdeliveries, List.append_nil]
  have hnone : s'.written i = s.written i ++ [] := by rw [hwritten, List.append_nil]
  rcases h with h | ⟨cycle, post, w, h | h⟩
  · exact .inl (h.concat (by rw [hplayback]) (by rw [hplayback]) hwritten hdeliveries)
  · refine .inr ⟨cycle, post ++ [e], w ++ [], .inl ⟨h.began.concat hnone, hport h.port,
      hplayback ▸ h.begun, hplayback ▸ h.queue, ?_, ?_⟩⟩
    · rw [hplayback, hes, List.append_nil, h.conserved]
    · rw [List.append_nil, h.length, ← List.cons_append, framesOf_append, hframes, Nat.add_zero]
  · exact .inr ⟨cycle, post ++ [e], w, .inr (h.concat hplayback hwritten hdeliveries)⟩

/-- Only the first buffer of a packet is a START. -/
theorem marker_ne_start (hwhole : WholePacket (first :: rest))
    {delivered : List TaggedAudioBuffer} {b : TaggedAudioBuffer} (hb : delivered ++ [b] <+: rest) :
    b.marker ≠ .START := by
  obtain ⟨more, rfl⟩ := hb
  have hwhole' : WholePacket ((first :: delivered) ++ b :: more) := by simpa using hwhole
  exact fun hb => List.cons_ne_nil _ _ (hwhole'.split.1.1 hb)

/-- A further buffer of a packet is put at the end of the queue. -/
theorem audioOut_of_rest (hcfg : cfg.continuous = false) (hwhole : WholePacket (first :: rest))
    {delivered : List TaggedAudioBuffer} {b : TaggedAudioBuffer} (hb : delivered ++ [b] <+: rest)
    (p : Playback) : p.audioOut cfg b = { p with queue := p.queue ++ [b] } := by
  simp [Playback.audioOut, hcfg, marker_ne_start hwhole hb]

/-- A packet goes on waiting when a buffer of it is delivered. -/
theorem Waiting.audioOut (hcfg : cfg.continuous = false) (hwhole : WholePacket (first :: rest))
    (h : Waiting cfg i first s₀ es s) {b : TaggedAudioBuffer}
    (hdelivered : deliveries (cfg.firstModemIndex + i) es ++ [b] <+: rest) :
    Waiting cfg i first s₀ (es ++ [.audioOut b (cfg.firstModemIndex + i)])
      { s with playback := (Function.update s.playback (cfg.firstModemIndex + i)
          ((s.playback (cfg.firstModemIndex + i)).audioOut cfg b)) } := by
  have hout := audioOut_of_rest hcfg hwhole hdelivered (s.playback (cfg.firstModemIndex + i))
  refine ⟨?_, ?_, h.written⟩
  · simpa [hout] using h.new
  · rw [deliveries_append]
    simp [hout, h.queue, deliveries]

/-- A waiting packet goes on waiting in a cycle, unless it can begin. -/
theorem Waiting.process {c : Cycle} (hfirst : first.buffer = some audio)
    (h : Waiting cfg i first s₀ es s) (hplays : PlaysPort cfg c s s' i)
    (hcan : ¬ CanBegin cfg c audio.bufferStartTime s i) :
    Waiting cfg i first s₀ (es ++ [.process c]) s' := by
  obtain ⟨hnew, hqueue, hwritten⟩ := hplays.waits h.new h.queue hfirst hcan
  exact h.concat (hnew.trans h.new.symm) hqueue hwritten rfl

/-- A buffer of the packet is delivered. -/
theorem Stands.audioOut {startTime : ℚ} (hcfg : cfg.continuous = false)
    (hwhole : WholePacket (first :: rest)) (h : Stands cfg i startTime first rest s₀ es s)
    {b : TaggedAudioBuffer} (hdelivered : deliveries (cfg.firstModemIndex + i) es ++ [b] <+: rest) :
    Stands cfg i startTime first rest s₀ (es ++ [.audioOut b (cfg.firstModemIndex + i)])
      { s with playback := (Function.update s.playback (cfg.firstModemIndex + i)
          ((s.playback (cfg.firstModemIndex + i)).audioOut cfg b)) } := by
  have hout := audioOut_of_rest hcfg hwhole hdelivered (s.playback (cfg.firstModemIndex + i))
  have hes : deliveries (cfg.firstModemIndex + i)
      (es ++ [.audioOut b (cfg.firstModemIndex + i)]) =
        deliveries (cfg.firstModemIndex + i) es ++ [b] := by
    rw [deliveries_append]
    simp [deliveries]
  rcases h with h | ⟨cycle, post, w, h | h⟩
  · exact .inl (h.audioOut hcfg hwhole hdelivered)
  · refine .inr ⟨cycle, post ++ [_], w ++ [], .inl ⟨h.began.concat (by simp), h.port, ?_, ?_, ?_,
      ?_⟩⟩
    · simpa [hout] using h.begun
    · simp [hout]
    · have hconserved := h.conserved
      obtain ⟨front, queue, hqueue⟩ := List.exists_cons_of_ne_nil h.queue
      rw [unplayed, hqueue] at hconserved
      simp only [Function.update_self, hout, hes, unplayed, hqueue, List.append_nil,
        List.cons_append, List.flatMap_append, List.flatMap_cons, ← List.append_assoc]
        at hconserved ⊢
      rw [hconserved]
    · rw [List.append_nil, h.length, ← List.cons_append, framesOf_append]
      simp [framesOf]
  -- a packet that has been played has no buffer left to deliver
  · rw [h.delivered] at hdelivered
    exact absurd hdelivered.length_le (by simp)

/-- A cycle that plays a packet that is being played, or begins to play it. -/
theorem playing_or_finished {startTime : ℚ} {cycle c : Cycle} {post : List JackEvent}
    {w out : List SampleT} {p : Playback} {start : ℕ}
    (hbegan : Began cfg i startTime s₀ es s' cycle post (w ++ out))
    (hplayed : Played p (s'.playback (cfg.firstModemIndex + i)) start c.nframes out)
    (hstart : start ≤ c.nframes) (hport : s'.outputPort i)
    (hconserved : w ++ (List.replicate start silence ++ p.unplayed) =
      List.replicate (frameStart cfg cycle startTime) silence ++
        (first :: deliveries (cfg.firstModemIndex + i) es).flatMap (·.samples))
    (before : List JackEvent) (hpost : JackEvent.process cycle :: post = before ++ [.process c])
    (hlength : w.length = framesOf before)
    (hdry : deliveries (cfg.firstModemIndex + i) es ≠ rest →
      (s'.playback (cfg.firstModemIndex + i)).queue ≠ []) :
    Playing cfg i startTime first s₀ es s' cycle post (w ++ out) ∨
      Finished cfg i startTime first rest s₀ es s' cycle post (w ++ out) := by
  have hframes : (w ++ out).length = framesOf (before ++ [.process c]) := by
    have hout : out.length = c.nframes := by
      rw [hplayed.out_eq]
      simp only [List.length_append, List.length_replicate, List.length_take]
      omega
    rw [List.length_append, framesOf_append, hlength, hout]
    simp [framesOf]
  -- the unplayed samples last to the end of the cycle, or they run out in it
  by_cases hle : c.nframes - start ≤ p.unplayed.length
  · obtain ⟨hqueue, hrest⟩ := hplayed.more hle
    refine .inl ⟨hbegan, hport, hplayed.begun, hqueue, ?_, by rw [hpost, hframes]⟩
    rw [← hconserved, hrest, hplayed.out_eq, Nat.sub_eq_zero_of_le hle]
    simp
  · have hqueue := (hplayed.dry (Nat.lt_of_not_le hle)).1
    -- the queue is empty now, which it is not before END has been delivered
    have hdelivered : deliveries (cfg.firstModemIndex + i) es = rest := by
      by_contra hne
      exact hdry hne hqueue
    rw [hdelivered] at hconserved
    refine .inr ⟨hbegan, hqueue, hdelivered, before, c, [],
      c.nframes - start - p.unplayed.length, hpost, ?_, hframes, ?_⟩
    · rw [← hconserved, hplayed.out_eq, List.take_of_length_le (by omega)]
      simp
    -- the cycle began before the end of the packet
    · have htotal := congrArg List.length hconserved
      simp only [List.length_append, List.length_replicate] at htotal ⊢
      omega

/-- A cycle. -/
theorem Stands.process {c : Cycle} (hfirst : first.buffer = some audio) (hs : s.Healthy)
    (hbefore : after cfg s₀ es = some s) (hn : c.nframes = s.bufferSize) (h1 : 1 ≤ c.nframes)
    (h : Stands cfg i audio.bufferStartTime first rest s₀ es s)
    (hsetup : SameSetup s s') (hplays : PlaysPort cfg c s s' i)
    (hdry : deliveries (cfg.firstModemIndex + i) es ≠ rest →
      (s'.playback (cfg.firstModemIndex + i)).queue ≠ []) :
    Stands cfg i audio.bufferStartTime first rest s₀ (es ++ [.process c]) s' := by
  have hnone : deliveries (cfg.firstModemIndex + i) [.process c] = [] := rfl
  have hes : deliveries (cfg.firstModemIndex + i) (es ++ [.process c]) =
      deliveries (cfg.firstModemIndex + i) es := by
    rw [deliveries_append, hnone, List.append_nil]
  have hport' : s.outputPort i → s'.outputPort i := fun hport => by rw [hsetup.outputPort, hport]
  rcases h with h | ⟨cycle, post, w, h | h⟩
  -- a new packet: it begins here, or it goes on waiting
  · by_cases hcan : CanBegin cfg c audio.bufferStartTime s i
    · obtain ⟨out, hwritten, hplayed⟩ := hplays.begins hs hn h1 h.new h.queue hfirst hcan
      obtain ⟨hport, hstart, -⟩ := hcan
      have hbegan :
          Began cfg i audio.bufferStartTime s₀ (es ++ [.process c]) s' c [] ([] ++ out) :=
        ⟨⟨es, s, rfl, hbefore, h.new, h.written⟩, hstart, by rw [hwritten, h.written]; rfl⟩
      refine .inr ⟨c, [], [] ++ out, playing_or_finished hbegan hplayed hstart (hport' hport) ?_
        [] rfl rfl (by rwa [hes])⟩
      rw [List.nil_append, unplayed, hes]
      simp [h.queue]
    · exact .inl (h.process hfirst hplays hcan)
  -- a packet that is being played: nothing precedes its samples in this cycle
  · obtain ⟨out, hwritten, hplayed⟩ := hplays.continues hs hn h1 h.port h.begun h.queue
    refine .inr ⟨cycle, post ++ [.process c], w ++ out, playing_or_finished
      (h.began.concat hwritten) hplayed (Nat.zero_le _) (hport' h.port) ?_
      (.process cycle :: post) rfl h.length (by rwa [hes])⟩
    rw [hes, List.replicate_zero, List.nil_append, h.conserved]
  -- a packet that has been played: the queue is empty, and the port is not touched
  · obtain ⟨hplayback, hwritten⟩ := hplays.of_queue_eq_nil h.queue
    exact .inr ⟨cycle, post ++ [.process c], w, .inr (h.concat hplayback hwritten hnone)⟩

/-- Where playback stands decides what was written. -/
theorem Stands.playsExactly {startTime : ℚ} (h : Stands cfg i startTime first rest s₀ es s)
    (hdelivered : deliveries (cfg.firstModemIndex + i) es <+: rest) :
    PlaysExactly cfg i startTime ((first :: rest).flatMap (·.samples)) s₀ es s := by
  rcases h with h | ⟨cycle, post, w, h | h⟩
  · exact .inl ⟨h.new, h.written⟩
  · refine .inr ⟨cycle, post, w, h.began, .inl ⟨?_, h.length⟩⟩
    obtain ⟨more, rfl⟩ := hdelivered
    -- what is written is continued by what is left to play and what is to be delivered
    refine ⟨(s.playback (cfg.firstModemIndex + i)).unplayed ++ more.flatMap (·.samples), ?_⟩
    rw [← List.append_assoc, h.conserved]
    simp
  · exact .inr ⟨cycle, post, w, h.began, .inr h.complete⟩

/-- The START buffer makes the packet wait. -/
theorem waiting_of_start (hcfg : cfg.continuous = false) (hfirst : first.marker = .START) :
    Waiting cfg i first
      { s with playback := (Function.update s.playback (cfg.firstModemIndex + i)
          ((s.playback (cfg.firstModemIndex + i)).audioOut cfg first)) } []
      { s with playback := (Function.update s.playback (cfg.firstModemIndex + i)
          ((s.playback (cfg.firstModemIndex + i)).audioOut cfg first)) } := by
  constructor <;> simp [Playback.audioOut, hcfg, hfirst, deliveries]

/-- After any history, the packet waits when its START has been delivered. -/
theorem exists_after_start (hcfg : cfg.continuous = false) (hwhole : WholePacket (first :: rest))
    (hfirst : first.buffer.isSome) {history : List JackEvent} (haudio : DeliversAudio history)
    (hcycles : Run.ExecAlways (step cfg) {} FullCycle history) :
    ∃ s₀, after cfg {} (history ++ [.audioOut first (cfg.firstModemIndex + i)]) = some s₀ ∧
      s₀.Healthy ∧ Waiting cfg i first s₀ [] s₀ := by
  obtain ⟨s, hs, hhealthy⟩ := exists_after_healthy hcfg haudio hcycles
  obtain ⟨_, _, _, heq, hmarker, -⟩ := hwhole
  obtain ⟨rfl, -⟩ := List.cons_eq_cons.1 heq
  exact ⟨_, (Run.exec_concat_eq_some _ _).2 ⟨s, hs, rfl⟩, hhealthy.audioOut hfirst _,
    waiting_of_start hcfg hmarker⟩

/-- Until the END of the packet has been delivered, the queue of the modem is not empty. -/
def NeverDry (cfg : JackConfig) (m : ℤ) (rest : List TaggedAudioBuffer) (s₀ : JackThread)
    (es : List JackEvent) : Prop :=
  ∀ pre s, pre <+: es → after cfg s₀ pre = some s → deliveries m pre ≠ rest →
    (s.playback m).queue ≠ []

/-- One event of the run of a packet. -/
theorem Stands.step (hcfg : cfg.continuous = false) (hi : i < cfg.localNumberOfModems)
    (hwhole : WholePacket (first :: rest)) (hfirst : first.buffer = some audio)
    (hdelivered : deliveries (cfg.firstModemIndex + i) (es ++ [e]) <+: rest)
    (hdry : NeverDry cfg (cfg.firstModemIndex + i) rest s₀ (es ++ [e]))
    (hbefore : after cfg s₀ es = some s) (hs : s.Healthy) (hcycle : FullCycle s e)
    (hafter : JackThread.step cfg s e = some s')
    (h : Stands cfg i audio.bufferStartTime first rest s₀ es s) :
    Stands cfg i audio.bufferStartTime first rest s₀ (es ++ [e]) s' := by
  have hreach : after cfg s₀ (es ++ [e]) = some s' :=
    (Run.exec_concat_eq_some _ _).2 ⟨s, hbefore, hafter⟩
  cases e with
  | audioOut b m =>
      obtain rfl := Option.some_inj.1 hafter
      -- a buffer for another modem does not concern the packet
      by_cases hm : m = cfg.firstModemIndex + i
      · subst hm
        refine h.audioOut hcfg hwhole ?_
        simpa [deliveries_append, deliveries] using hdelivered
      · refine h.of_same ?_ rfl id ?_ rfl
        · simp [Ne.symm hm]
        · simp [deliveries, hm]
  | process c =>
      obtain ⟨hsetup, hplays⟩ := playsPort_of_jackProcess hcfg hs hcycle.1.le hcycle.2 hafter
      refine h.process hfirst hs hbefore hcycle.1 hcycle.2 hsetup (hplays i hi) fun hne => ?_
      refine hdry _ _ (List.prefix_refl _) hreach ?_
      simpa [deliveries_append, deliveries] using hne
  | bufferSizeChange n =>
      obtain rfl := Option.some_inj.1 hafter
      exact h.of_same rfl rfl id rfl rfl
  | registerPort j =>
      obtain rfl := Option.some_inj.1 hafter
      refine h.of_same rfl rfl (fun hport => ?_) rfl rfl
      by_cases hj : i = j
      · simp [hj]
      · simp [hj, hport]

end Packet

/-- After any history, a packet that is started on a modem, delivered while no other packet is
started, and never dry before its END, is played exactly on the modem's port. -/
theorem exists_after_playsExactly (cfg : JackConfig) (hcfg : cfg.continuous = false) (i : ℕ)
    (hi : i < cfg.localNumberOfModems) (first : TaggedAudioBuffer)
    (rest : List TaggedAudioBuffer) (hwhole : WholePacket (first :: rest)) (audio : AudioBuffer)
    (hfirst : first.buffer = some audio) (history es : List JackEvent)
    (haudio : DeliversAudio (history ++ [.audioOut first (cfg.firstModemIndex + i)] ++ es))
    (hcycles : Run.ExecAlways (step cfg) {} FullCycle
      (history ++ [.audioOut first (cfg.firstModemIndex + i)] ++ es))
    (hdelivered : deliveries (cfg.firstModemIndex + i) es <+: rest)
    (hdry : ∀ s₀, after cfg {} (history ++ [.audioOut first (cfg.firstModemIndex + i)]) = some s₀ →
      NeverDry cfg (cfg.firstModemIndex + i) rest s₀ es) :
    ∃ s₀ s, after cfg {} (history ++ [.audioOut first (cfg.firstModemIndex + i)]) = some s₀ ∧
      after cfg s₀ es = some s ∧
      PlaysExactly cfg i audio.bufferStartTime ((first :: rest).flatMap (·.samples)) s₀ es s := by
  have haudio' : DeliversAudio history := fun b m hb =>
    haudio b m (List.mem_append_left _ (List.mem_append_left _ hb))
  obtain ⟨s₀, hs₀, hhealthy, hwaiting⟩ := exists_after_start (i := i) hcfg hwhole (by simp [hfirst])
    haudio' ((hcycles.of_append _ _).of_append _ _)
  have hdry := hdry s₀ hs₀
  -- what is assumed of the events, which holds of every prefix of the run
  let P (es : List JackEvent) : Prop := deliveries (cfg.firstModemIndex + i) es <+: rest ∧
    DeliversAudio es ∧ NeverDry cfg (cfg.firstModemIndex + i) rest s₀ es
  have hP (es : List JackEvent) (e : JackEvent) (h : P (es ++ [e])) : P es := by
    refine ⟨?_, h.2.1.of_concat.1, fun pre s hpre => h.2.2 pre s (hpre.trans ⟨[e], rfl⟩)⟩
    have hdelivered := h.1
    rw [deliveries_append] at hdelivered
    exact (List.prefix_append _ _).trans hdelivered
  obtain ⟨s, hs, -, -, hstands⟩ := Run.exec_induction (step cfg) s₀ (G := FullCycle) (P := P)
    (I := fun es s => after cfg s₀ es = some s ∧ s.Healthy ∧
      Stands cfg i audio.bufferStartTime first rest s₀ es s)
    hP ⟨rfl, hhealthy, .inl hwaiting⟩
    (fun es e s h ⟨hbefore, hs, hstands⟩ hcycle => by
      obtain ⟨s', hs', hhealthy'⟩ := hs.exists_step hcfg h.2.1.of_concat.2 hcycle.withinBuffer
      exact ⟨s', hs', (Run.exec_concat_eq_some _ _).2 ⟨s, hbefore, hs'⟩, hhealthy',
        hstands.step hcfg hi hwhole hfirst h.1 h.2.2 hbefore hs hcycle hs'⟩)
    es ⟨hdelivered, fun b m hb => haudio b m (List.mem_append_right _ hb), hdry⟩
    (hcycles.of_append_right (step cfg) {} hs₀)
  exact ⟨s₀, s, hs₀, hs, hstands.playsExactly hdelivered⟩

/-- A cycle of two frames at time `t`. -/
def twoFrames (t : ℚ) : Cycle := ⟨2, t, fun _ => 0⟩

/-- A packet of two samples, one in each buffer, is played from frame 1 on. -/
theorem playsExactly_of_two_buffers :
    let cfg : JackConfig := { localNumberOfModems := 1, fs := 1, minPlaybackBufferSize := 1 }
    let sample : SampleT := .ofFields true 127 0
    let first : TaggedAudioBuffer := ⟨some ⟨1, 0, [sample]⟩, .START, 0⟩
    let last : TaggedAudioBuffer := ⟨some ⟨2, 0, [sample]⟩, .END, 0⟩
    let history : List JackEvent := [.bufferSizeChange 2, .registerPort 0]
    let es : List JackEvent :=
      [.process (twoFrames 0), .audioOut last 0, .process (twoFrames 2), .process (twoFrames 4)]
    ∃ s₀ s, after cfg {} (history ++ [.audioOut first 0]) = some s₀ ∧ after cfg s₀ es = some s ∧
      PlaysExactly cfg 0 1 [sample, sample] s₀ es s ∧
      s.written 0 = [silence, sample, sample, silence] := by
  intro cfg sample first last history es
  have hwhole : WholePacket [first, last] := ⟨first, [], last, rfl, rfl, rfl, by simp⟩
  have hdry : ∀ s₀, after cfg {} (history ++ [.audioOut first 0]) = some s₀ →
      NeverDry cfg 0 [last] s₀ es := by
    intro s₀ hs₀ pre s hpre hs hne
    -- the queue is tested after every prefix of the run
    have hall : ∀ pre ∈ es.inits, deliveries 0 pre = [last] ∨
        ((after cfg {} (history ++ [.audioOut first 0])).bind fun s₀ => after cfg s₀ pre).all
          fun s => !(s.playback 0).queue.isEmpty := by
      decide +kernel
    rcases hall pre ((List.mem_inits _ _).2 hpre) with heq | hqueue
    · exact absurd heq hne
    · rw [hs₀, Option.bind_some, hs] at hqueue
      simpa using hqueue
  obtain ⟨s₀, s, hs₀, hs, hplays⟩ := exists_after_playsExactly cfg rfl 0 (by decide) first [last]
    hwhole _ rfl history es (by
      intro b m hb
      simp only [history, es, List.cons_append, List.nil_append, List.mem_cons, List.not_mem_nil,
        reduceCtorEq, JackEvent.audioOut.injEq, false_or, or_false] at hb
      rcases hb with ⟨rfl, -⟩ | ⟨rfl, -⟩ <;> rfl)
    (Run.execAlways_of_check _ _ (by decide +kernel)) (by decide +kernel) hdry
  have hs₀ : after cfg {} (history ++ [.audioOut first 0]) = some s₀ := hs₀
  refine ⟨s₀, s, hs₀, hs, hplays, ?_⟩
  have hwritten : ((after cfg {} (history ++ [.audioOut first 0])).bind fun s₀ =>
      after cfg s₀ es).map (·.written 0) = some [silence, sample, sample, silence] := by
    decide +kernel
  rw [hs₀, Option.bind_some, hs, Option.map_some, Option.some_inj] at hwritten
  exact hwritten

end JackThread

end Netsim
