import Netsim.Jack.Pending
import Netsim.Lib.Overwrite

/-!
# Silence outside playback

JACK plays the buffer of every output port in every cycle, and a port that the callback does not
write plays what it held before. A port is to play the frame or the packet that is being played, and
silence elsewhere (`Playback.sound`). `jack_process` writes a port only if there is something to
play: with an empty queue, or with a packet that still waits, it does not write the port at all; and
in continuous mode it copies a frame again that has been played before. In a run, every cycle fills
all registered ports as it should iff in none of its cycles this happens (`fillsPorts_iff`).
-/

namespace Netsim

open Overwrite

namespace Playback

/-- The frame that is copied in continuous mode. -/
def frame (p : Playback) : List SampleT := p.queue.head?.elim [] (·.samples)

/-- The frame of the cycle from which on a packet is played. -/
def startIn (cfg : JackConfig) (cycle : Cycle) (p : Playback) : ℕ :=
  if p.newPacket then
    (p.queue.head?.bind (·.buffer)).elim 0 (frameStart cfg cycle ·.bufferStartTime)
  else 0

/-- A new packet is not played in this cycle: it starts later, or there are too few buffers. -/
def Waits (cfg : JackConfig) (cycle : Cycle) (p : Playback) : Prop :=
  p.newPacket ∧ (cycle.nframes < p.startIn cfg cycle ∨
    (p.queue.length : ℤ) < cfg.minPlaybackBufferSize % 2 ^ 64)

instance (cfg : JackConfig) (cycle : Cycle) (p : Playback) : Decidable (p.Waits cfg cycle) :=
  inferInstanceAs (Decidable (_ ∧ _))

/-- What a port is to play in a cycle: the frame, if it has not been heard, or the packet from its
start on, and silence elsewhere. -/
def sound (cfg : JackConfig) (cycle : Cycle) (unheard : Bool) (p : Playback) : List SampleT :=
  (if cfg.continuous then if unheard then p.frame else []
    else if p.Waits cfg cycle then []
    else List.replicate (p.startIn cfg cycle) silence ++ p.pending).takeD cycle.nframes silence

/-- There is something to play. In continuous mode it is a frame for the whole cycle, which has not
been heard or is silent. In packet mode it is a packet that does not wait. -/
def CanFill (cfg : JackConfig) (cycle : Cycle) (unheard : Bool) (p : Playback) : Prop :=
  if cfg.continuous then
    cycle.nframes ≤ p.frame.length ∧
      (unheard ∨ p.frame.take cycle.nframes = List.replicate cycle.nframes silence)
  else p.queue ≠ [] ∧ ¬ p.Waits cfg cycle

instance (cfg : JackConfig) (cycle : Cycle) (unheard : Bool) (p : Playback) :
    Decidable (p.CanFill cfg cycle unheard) := by
  unfold CanFill
  infer_instance

section Sound

variable {cfg : JackConfig} {emptyBuffer : Option TaggedAudioBuffer} {cycle : Cycle} {n : ℕ}
  {p p' : Playback} {out : List SampleT}

theorem length_sound (cfg : JackConfig) (cycle : Cycle) (unheard : Bool) (p : Playback) :
    (p.sound cfg cycle unheard).length = cycle.nframes := List.takeD_length _ _ _

/-- A cycle writes the unplayed samples from its start on. -/
theorem Played.out_eq_takeD {start nframes : ℕ} (h : Played p p' start nframes out)
    (hstart : start ≤ nframes) :
    out = (List.replicate start silence ++ p.unplayed).takeD nframes silence := by
  have hbefore : (List.replicate start silence).take nframes = List.replicate start silence :=
    List.take_of_length_le (by rwa [List.length_replicate])
  rw [h.out_eq, takeD_eq_append, List.take_append, hbefore, List.length_append,
    List.length_replicate, List.append_assoc, Nat.sub_add_eq]

/-- In packet mode a cycle writes nothing, or all that is to be played. -/
theorem eq_sound_of_playPacket (unheard : Bool) (haudio : AllAudio p.queue)
    (hzeros : HoldsZeros emptyBuffer n) (hcfg : cfg.continuous = false) (hn : cycle.nframes ≤ n)
    (hplay : playPacket cfg emptyBuffer cycle p = some (p', out)) :
    out = if p.CanFill cfg cycle unheard then p.sound cfg cycle unheard else [] := by
  simp only [CanFill, sound, hcfg, Bool.false_eq_true, if_false]
  cases packetCycle_of_playPacket haudio hzeros hn hplay with
  | idle hqueue => simp [hqueue]
  | continues hqueue hbegun hplayed =>
      have hwaits : ¬ p.Waits cfg cycle := by simp [Waits, hbegun]
      rw [if_pos ⟨hqueue, hwaits⟩, if_neg hwaits, hplayed.out_eq_takeD (Nat.zero_le _), pending,
        startIn, hbegun]
      rfl
  | waits hqueue hnew hfront hwaits =>
      have hwaits : p.Waits cfg cycle := by
        simpa [Waits, startIn, hnew, hqueue, hfront] using hwaits
      rw [if_neg fun h => h.2 hwaits]
  | @begins _ _ _ _ audio hqueue hnew hfront hstart henough hplayed =>
      have hstartIn : p.startIn cfg cycle = frameStart cfg cycle audio.bufferStartTime := by
        simp [startIn, hnew, hqueue, hfront]
      have hwaits : ¬ p.Waits cfg cycle := by
        rintro ⟨-, hfuture | hfew⟩
        · exact absurd (hstartIn ▸ hfuture) (Nat.not_lt.2 hstart)
        · exact absurd hfew (not_lt_of_ge henough)
      rw [if_pos ⟨hqueue ▸ List.cons_ne_nil _ _, hwaits⟩, if_neg hwaits,
        hplayed.out_eq_takeD hstart, unplayed_of_index_eq_zero, pending, hnew, if_pos rfl, hstartIn]

/-- In continuous mode a cycle copies the frame, if it is long enough. -/
theorem playContinuous_eq (haudio : AllAudio p.queue) (h1 : 1 ≤ cycle.nframes) :
    playContinuous cycle p =
      if cycle.nframes ≤ p.frame.length then some (p, p.frame.take cycle.nframes)
      else if p.queue = [] then some (p, []) else none := by
  rw [playContinuous]
  cases hqueue : p.queue with
  | nil => simp [frame, hqueue, Nat.ne_of_gt h1]
  | cons front queue =>
      obtain ⟨audio, hfront, hsamples⟩ := AllAudio.exists_audio (hqueue ▸ haudio)
      have hframe : p.frame = audio.samples := by simp [frame, hqueue, hsamples]
      simp only [hfront, Option.bind_some, hframe]
      split_ifs <;> first | rfl | omega

/-- A port plays what it is to play iff there is something to play. -/
theorem exists_playPort_sound_iff (cfg : JackConfig) (unheard : Bool) (haudio : AllAudio p.queue)
    (hzeros : HoldsZeros emptyBuffer n) (hn : cycle.nframes ≤ n) (h1 : 1 ≤ cycle.nframes) :
    (∃ p', playPort cfg emptyBuffer cycle p = some (p', p.sound cfg cycle unheard)) ↔
      p.CanFill cfg cycle unheard := by
  have hlength := length_sound cfg cycle unheard p
  have hne : p.sound cfg cycle unheard ≠ [] := by
    intro hnil
    rw [hnil, List.length_nil] at hlength
    omega
  cases hcfg : cfg.continuous with
  | false =>
      obtain ⟨p', out, hplay, -⟩ := exists_packetCycle cfg haudio hzeros hn
      have hout := eq_sound_of_playPacket unheard haudio hzeros hcfg hn hplay
      simp only [playPort, hcfg, Bool.false_eq_true, if_false, hplay, Option.some_inj,
        Prod.mk.injEq]
      split_ifs at hout with hfills
      · exact iff_of_true ⟨p', rfl, hout⟩ hfills
      · refine iff_of_false ?_ hfills
        rintro ⟨-, -, hsound⟩
        exact hne (hsound ▸ hout)
  | true =>
      have hsound : p.sound cfg cycle unheard =
          (if unheard then p.frame else []).takeD cycle.nframes silence := by
        simp [sound, hcfg]
      have hplay : playPort cfg emptyBuffer cycle p = playContinuous cycle p := by
        rw [playPort, hcfg, if_pos rfl]
      rw [hplay, playContinuous_eq haudio h1, CanFill, hcfg, if_pos rfl]
      by_cases hlong : cycle.nframes ≤ p.frame.length
      · rw [if_pos hlong, hsound]
        cases unheard with
        | true => simp [hlong, List.takeD_eq_take _ hlong]
        | false => simp [hlong]
      -- nothing is written, or the frame is read beyond its end
      · rw [if_neg hlong]
        refine iff_of_false ?_ fun h => hlong h.1
        rintro ⟨p', h⟩
        split_ifs at h
        exact hne (Prod.mk.inj (Option.some_inj.1 h)).2.symm

end Sound

end Playback

namespace JackThread

open Playback

/-- For every port, whether a frame has been delivered for it and has not been heard. A registered
port plays the frame in the next cycle. -/
def hear (cfg : JackConfig) (s : JackThread) (unheard : ℕ → Bool) : JackEvent → ℕ → Bool
  | .audioOut _ modemIndex => fun i => modemIndex = cfg.firstModemIndex + i || unheard i
  | .process _ => fun i => unheard i && !s.outputPort i
  | .bufferSizeChange _ | .registerPort _ => unheard

/-- The thread together with the record of what has been heard. -/
def listen (cfg : JackConfig) (p : JackThread × (ℕ → Bool)) (e : JackEvent) :
    Option (JackThread × (ℕ → Bool)) :=
  (step cfg p.1 e).map fun s => (s, hear cfg p.1 p.2 e)

/-- A cycle writes the whole buffer of port `i`, and the buffer holds what the port is to play,
whatever it held before. -/
def FillsPort (cfg : JackConfig) (cycle : Cycle) (unheard : Bool) (s s' : JackThread) (i : ℕ) :
    Prop :=
  ∃ out, s'.written i = s.written i ++ out ∧ out.length = cycle.nframes ∧
    ∀ contents, contents.length = cycle.nframes → overwrite contents out =
      (s.playback (cfg.firstModemIndex + i)).sound cfg cycle unheard

/-- Every call of `jack_process` fills all registered ports. -/
def FillsPorts (cfg : JackConfig) (p : JackThread × (ℕ → Bool)) : JackEvent → Prop
  | .process cycle => ∃ s', step cfg p.1 (.process cycle) = some s' ∧
      ∀ i < cfg.localNumberOfModems, p.1.outputPort i → FillsPort cfg cycle (p.2 i) p.1 s' i
  | _ => True

/-- Before every call of `jack_process` there is something to play for all registered ports. -/
def CanFillPorts (cfg : JackConfig) (p : JackThread × (ℕ → Bool)) : JackEvent → Prop
  | .process cycle => ∀ i < cfg.localNumberOfModems, p.1.outputPort i →
      (p.1.playback (cfg.firstModemIndex + i)).CanFill cfg cycle (p.2 i)
  | _ => True

instance (cfg : JackConfig) (p : JackThread × (ℕ → Bool)) :
    (e : JackEvent) → Decidable (CanFillPorts cfg p e)
  | .process cycle => inferInstanceAs (Decidable (∀ i < cfg.localNumberOfModems,
      p.1.outputPort i → (p.1.playback (cfg.firstModemIndex + i)).CanFill cfg cycle (p.2 i)))
  | .audioOut _ _ | .bufferSizeChange _ | .registerPort _ => inferInstanceAs (Decidable True)

instance : Nontrivial SampleT := ⟨silence, .ofFields true 127 0, by decide⟩

section Runs

variable {cfg : JackConfig} {cycle : Cycle} {s s' : JackThread} {i : ℕ}

/-- A port is filled iff the cycle writes what the port is to play. -/
theorem fillsPort_iff {unheard : Bool} : FillsPort cfg cycle unheard s s' i ↔
    s'.written i = s.written i ++
      (s.playback (cfg.firstModemIndex + i)).sound cfg cycle unheard := by
  have hlength := length_sound cfg cycle unheard (s.playback (cfg.firstModemIndex + i))
  constructor
  · rintro ⟨out, hwritten, -, hsound⟩
    rw [← hlength] at hsound
    rwa [← overwrite_eq_iff.1 hsound]
  · intro hwritten
    refine ⟨_, hwritten, hlength, ?_⟩
    rw [← hlength]
    exact overwrite_eq_iff.2 rfl

/-- One cycle, in either mode. -/
theorem Healthy.fills_cycle_iff (hs : s.Healthy) (hn : cycle.nframes ≤ s.bufferSize)
    (h1 : 1 ≤ cycle.nframes) (unheard : ℕ → Bool) :
    FillsPorts cfg (s, unheard) (.process cycle) ↔
      CanFillPorts cfg (s, unheard) (.process cycle) := by
  have hsound (i : ℕ) := exists_playPort_sound_iff cfg (unheard i)
    (hs.audio (cfg.firstModemIndex + i)) (hs.zeros (h1.trans hn)) hn h1
  have hacts (s' : JackThread) (hs' : s.jackProcess cfg cycle = some s') :=
    (processPorts_eq_some List.nodup_range hs hn h1 hs').2.2
  constructor
  · rintro ⟨s', hs', hfills⟩ i hi hport
    obtain ⟨out, hplay, hwritten⟩ :=
      (portCycle_eq_some_iff hport).1 (hacts s' hs' i (List.mem_range.2 hi))
    have hfill := fillsPort_iff.1 (hfills i hi hport)
    obtain rfl := List.append_cancel_left (hwritten.symm.trans hfill)
    exact (hsound i).1 ⟨_, hplay⟩
  · intro hcan
    -- no port is read out of range, and so the cycle plays all of them
    obtain ⟨s', hs'⟩ := (local_processPort cfg hn h1).exists_foldlM
      (List.nodup_range (n := cfg.localNumberOfModems)) ⟨⟨rfl, rfl, rfl⟩, hs⟩ fun i hi => by
        rw [portCycle]
        split_ifs with hport
        · obtain ⟨p', hplay⟩ := (hsound i).2 (hcan i (List.mem_range.1 hi) hport)
          rw [port, hplay]
          rfl
        · rfl
    refine ⟨s', hs', fun i hi hport => fillsPort_iff.2 ?_⟩
    obtain ⟨out, hplay, hwritten⟩ :=
      (portCycle_eq_some_iff hport).1 (hacts s' hs' i (List.mem_range.2 hi))
    obtain ⟨p', hplay'⟩ := (hsound i).2 (hcan i hi hport)
    rw [hplay', Option.some_inj, Prod.mk.injEq] at hplay
    rw [hwritten, hplay.2]

/-- In every run, all cycles fill all registered ports iff no cycle finds a registered port that it
cannot fill. -/
theorem fillsPorts_iff (cfg : JackConfig) (es : List JackEvent) (haudio : DeliversAudio es)
    (hcycles : Run.ExecAlways (step cfg) {} WithinBuffer es) :
    Run.ExecAlways (listen cfg) ({}, fun _ => false) (FillsPorts cfg) es ↔
      Run.ExecAlways (listen cfg) ({}, fun _ => false) (CanFillPorts cfg) es := by
  refine forall_congr' fun pre => forall_congr' fun e => forall_congr' fun post =>
    forall_congr' fun p => forall_congr' fun heq => forall_congr' fun hp => ?_
  cases e with
  | process cycle =>
      have hreach : after cfg {} pre = some p.1 := by
        have hrecord := Run.exec_record_fst (step cfg) {} (hear cfg) (fun _ => false) pre
        rw [after, ← hrecord]
        exact congrArg (Option.map Prod.fst) hp
      subst heq
      have hcycle := hcycles pre _ post p.1 rfl hreach
      have hhealthy := healthy_of_after (fun b m hb => haudio b m (List.mem_append_left _ hb))
        (hcycles.of_append _ _) hreach
      exact hhealthy.fills_cycle_iff hcycle.2 hcycle.1 p.2
  | _ => rfl

/-- A packet of one sample that is played in a cycle of two frames. -/
theorem fillsPorts_of_one_cycle :
    let cfg : JackConfig := { localNumberOfModems := 1, fs := 1, minPlaybackBufferSize := 1 }
    let packet : TaggedAudioBuffer := ⟨some ⟨0, 0, [.ofFields true 127 0]⟩, .START, 0⟩
    Run.ExecAlways (listen cfg) ({}, fun _ => false) (FillsPorts cfg)
      [.bufferSizeChange 2, .registerPort 0, .audioOut packet 0, .process (twoFrames 0)] := by
  intro cfg packet
  refine (fillsPorts_iff cfg _ (fun b m hb => ?_)
    (Run.execAlways_of_check _ _ (by decide +kernel))).2
      (Run.execAlways_of_check _ _ (by decide +kernel))
  simp only [List.mem_cons, List.not_mem_nil, reduceCtorEq, JackEvent.audioOut.injEq, false_or,
    or_false] at hb
  exact hb.1 ▸ rfl

/-- After the packet has been played, its port is not written any more, and JACK plays the sample
again. -/
theorem not_fillsPorts_of_next_cycle :
    let cfg : JackConfig := { localNumberOfModems := 1, fs := 1, minPlaybackBufferSize := 1 }
    let sample : SampleT := .ofFields true 127 0
    let packet : TaggedAudioBuffer := ⟨some ⟨0, 0, [sample]⟩, .START, 0⟩
    let es : List JackEvent :=
      [.bufferSizeChange 2, .registerPort 0, .audioOut packet 0, .process (twoFrames 0)]
    (∃ s s', after cfg {} es = some s ∧ step cfg s (.process (twoFrames 2)) = some s' ∧
        s.written 0 = [sample, silence] ∧
        overwrite (s.written 0) ((s'.written 0).drop (s.written 0).length) = s.written 0) ∧
      ¬ Run.ExecAlways (listen cfg) ({}, fun _ => false) (FillsPorts cfg)
        (es ++ [.process (twoFrames 2)]) := by
  intro cfg sample packet es
  have hruns : ((after cfg {} es).bind fun s => (step cfg s (.process (twoFrames 2))).map fun s' =>
      (s.outputPort 0, s.written 0, s'.written 0)) =
        some (true, [sample, silence], [sample, silence]) := by
    decide +kernel
  obtain ⟨s, hs, hstep⟩ := Option.bind_eq_some_iff.1 hruns
  obtain ⟨s', hs', heq⟩ := Option.map_eq_some_iff.1 hstep
  obtain ⟨hport, hwritten, hwritten'⟩ : s.outputPort 0 = true ∧ s.written 0 = [sample, silence] ∧
      s'.written 0 = [sample, silence] := by
    simpa using heq
  refine ⟨⟨s, s', hs, hs', hwritten, ?_⟩, fun hfills => ?_⟩
  · rw [hwritten, hwritten', List.drop_length, overwrite_nil]
  have hrecord := Run.exec_record_fst (step cfg) {} (hear cfg) (fun _ => false) es
  obtain ⟨p, hp, rfl⟩ := Option.map_eq_some_iff.1 (hrecord.trans hs)
  obtain ⟨t, ht, hfill⟩ := hfills es _ [] p rfl hp
  obtain rfl := Option.some_inj.1 (hs'.symm.trans ht)
  -- two samples were to be written, and none was
  have hsound := fillsPort_iff.1 (hfill 0 (by decide) hport)
  have hlength := congrArg List.length hsound
  rw [hwritten, hwritten', List.length_append, length_sound] at hlength
  simp [twoFrames] at hlength

end Runs

end JackThread

end Netsim
