import Mathlib.Data.List.Infix
import Netsim.Jack.ExactPlayback

/-!
# What is played

The samples that are delivered for a modem are pending until they are played (`Playback.pending`).
A cycle takes the first of them and inserts silence before the start of playback and after the
queue has run dry; with the inserted samples left out (`JackThread.kept`), what an event plays and
what is pending after it are what was pending before it and what it delivers, if the delivery is a
safe one (`JackThread.exists_kept_step`).
-/

namespace Netsim

/-- `w` is `played` with silence inserted. -/
inductive Padded : List SampleT → List SampleT → Prop
  /-- Nothing is played. -/
  | nil : Padded [] []
  /-- The next sample is played. -/
  | sample (x : SampleT) {played w : List SampleT} : Padded played w → Padded (x :: played) (x :: w)
  /-- Silence is inserted. -/
  | silence {played w : List SampleT} : Padded played w → Padded played (silence :: w)

namespace Padded

variable {played played' w w' : List SampleT}

theorem refl (w : List SampleT) : Padded w w := by
  induction w with
  | nil => exact .nil
  | cons x w ih => exact .sample x ih

theorem replicate (n : ℕ) : Padded [] (List.replicate n Netsim.silence) := by
  induction n with
  | zero => exact .nil
  | succ n ih => exact .silence ih

theorem append (h : Padded played w) (h' : Padded played' w') :
    Padded (played ++ played') (w ++ w') := by
  induction h with
  | nil => exact h'
  | sample x _ ih => exact .sample x ih
  | silence _ ih => exact .silence ih

/-- Nothing is played where nothing is written. -/
theorem eq_nil (h : Padded played []) : played = [] := by
  cases h
  rfl

end Padded

/-- The samples that are not marked. -/
def keep : List SampleT → List Bool → List SampleT
  | x :: out, mark :: marks => if mark then keep out marks else x :: keep out marks
  | [], _ => []
  | _, [] => []

section Keep

variable {out out' : List SampleT} {marks marks' : List Bool}

theorem keep_append (h : out.length = marks.length) :
    keep (out ++ out') (marks ++ marks') = keep out marks ++ keep out' marks' := by
  induction out generalizing marks with
  | nil =>
      obtain rfl := List.eq_nil_of_length_eq_zero h.symm
      rfl
  | cons x out ih =>
      cases marks with
      | nil => simp at h
      | cons mark marks =>
          have hrest := ih (Nat.succ_injective h)
          cases mark <;> simp [keep, hrest]

theorem keep_replicate_true (out : List SampleT) (n : ℕ) :
    keep out (List.replicate n true) = [] := by
  induction out generalizing n with
  | nil => rfl
  | cons x out ih => cases n <;> simp [keep, List.replicate_succ, ih]

theorem keep_replicate_false (out : List SampleT) :
    keep out (List.replicate out.length false) = out := by
  induction out with
  | nil => rfl
  | cons x out ih => simp [keep, List.replicate_succ, ih]

end Keep

namespace Playback

/-- The samples that are still to be played. A new packet is played from its first sample on. -/
def pending (p : Playback) : List SampleT :=
  if p.newPacket then p.queue.flatMap (·.samples) else p.unplayed

/-- Which of the samples that a cycle writes to a port are inserted. -/
def insertedIn (cfg : JackConfig) (emptyBuffer : Option TaggedAudioBuffer) (cycle : Cycle)
    (p : Playback) : List Bool :=
  match p.queue with
  | [] => []
  | txBuffer :: _ =>
      if p.newPacket then
        inserted emptyBuffer (txBuffer.buffer.elim 0 (frameStart cfg cycle ·.bufferStartTime))
          cycle.nframes 0 ⟨p.queue, 0, txBuffer⟩
      else inserted emptyBuffer 0 cycle.nframes 0 ⟨p.queue, p.index, txBuffer⟩

section Port

variable {cfg : JackConfig} {emptyBuffer : Option TaggedAudioBuffer} {cycle : Cycle} {n : ℕ}
  {p p' : Playback} {out : List SampleT}

theorem unplayed_of_queue_eq_nil (h : p.queue = []) : p.unplayed = [] := by
  rw [unplayed, h]

/-- With the index at 0 nothing of the queue has been played. -/
theorem unplayed_of_index_eq_zero (p : Playback) :
    unplayed { p with index := 0 } = p.queue.flatMap (·.samples) := by
  cases p.queue with
  | nil => simp [unplayed]
  | cons front queue => simp [unplayed]

section Played

variable {start nframes : ℕ}

/-- A cycle writes the first of the unplayed samples, with silence around them. -/
theorem Played.padded (h : Played p p' start nframes out) :
    Padded (p.unplayed.take (nframes - start)) out := by
  rw [h.out_eq]
  have hrest := (Padded.refl (p.unplayed.take (nframes - start))).append
    (Padded.replicate (nframes - start - p.unplayed.length))
  rw [List.append_nil] at hrest
  exact (Padded.replicate start).append hrest

/-- The silence is what is marked. -/
theorem Played.keep_marks (h : Played p p' start nframes out) :
    keep out (marks start nframes p.unplayed.length) = p.unplayed.take (nframes - start) := by
  have hplayed : (p.unplayed.take (nframes - start)).length =
      min (nframes - start) p.unplayed.length := List.length_take
  rw [h.out_eq, marks, keep_append (by simp), keep_append (by simp), keep_replicate_true,
    keep_replicate_true, ← hplayed, keep_replicate_false, List.nil_append, List.append_nil]

/-- What it does not write is pending. -/
theorem Played.unplayed_eq (h : Played p p' start nframes out) :
    p.unplayed = p.unplayed.take (nframes - start) ++ p'.pending := by
  rw [pending, h.begun, if_neg Bool.false_ne_true]
  by_cases hle : nframes - start ≤ p.unplayed.length
  · rw [(h.more hle).2, List.take_append_drop]
  -- the samples have run out, and all of them were written
  · have hlt := Nat.lt_of_not_le hle
    rw [unplayed_of_queue_eq_nil (h.dry hlt).1, List.take_of_length_le hlt.le, List.append_nil]

end Played

/-- A port writes the first of the pending samples in a cycle, and what it inserts is silence. -/
theorem keep_of_playPacket (haudio : AllAudio p.queue) (hzeros : HoldsZeros emptyBuffer n)
    (hn : cycle.nframes ≤ n) (hplay : playPacket cfg emptyBuffer cycle p = some (p', out)) :
    Padded (keep out (insertedIn cfg emptyBuffer cycle p)) out ∧
      p.pending = keep out (insertedIn cfg emptyBuffer cycle p) ++ p'.pending := by
  cases packetCycle_of_playPacket haudio hzeros hn hplay with
  | idle _ => exact ⟨.nil, rfl⟩
  | continues hqueue hbegun hplayed =>
      obtain ⟨front, queue, hcons⟩ := List.exists_cons_of_ne_nil hqueue
      have hmarks : insertedIn cfg emptyBuffer cycle p =
          marks 0 cycle.nframes p.unplayed.length := by
        simp only [insertedIn, hcons, hbegun, if_false, Bool.false_eq_true]
        rw [inserted_eq p.index (hcons ▸ haudio) hzeros (Nat.zero_le _) hn, unplayed, unplayed,
          hcons]
      have hpending : p.pending = p.unplayed := by simp [pending, hbegun]
      rw [hmarks, hplayed.keep_marks, hpending]
      exact ⟨hplayed.padded, hplayed.unplayed_eq⟩
  -- the packet waits, and its index is set to 0
  | waits _ hnew _ _ => exact ⟨.nil, by simp [pending, hnew, keep]⟩
  | @begins _ _ front queue audio hqueue hnew hfront hstart _ hplayed =>
      have hmarks : insertedIn cfg emptyBuffer cycle p =
          marks (frameStart cfg cycle audio.bufferStartTime) cycle.nframes
            (unplayed { p with index := 0 }).length := by
        simp only [insertedIn, hqueue, hnew, if_true, hfront, Option.elim_some]
        rw [inserted_eq 0 (hqueue ▸ haudio) hzeros hstart hn, unplayed, unplayed]
      have hpending : p.pending = unplayed { p with index := 0 } := by
        rw [unplayed_of_index_eq_zero, pending, hnew, if_pos rfl]
      rw [hmarks, hplayed.keep_marks, hpending]
      exact ⟨hplayed.padded, hplayed.unplayed_eq⟩

/-- The buffer destroys no pending sample, and will be played from its first sample on. -/
def Safe (p : Playback) (b : TaggedAudioBuffer) : Prop :=
  if b.marker = .START then p.pending = []
  else p.newPacket = false → p.queue = [] → p.index = 0 ∨ b.samples = []

instance (p : Playback) (b : TaggedAudioBuffer) : Decidable (p.Safe b) := by
  unfold Safe
  infer_instance

/-- A buffer that is delivered safely is played after all that is pending. -/
theorem pending_audioOut (hcfg : cfg.continuous = false) {b : TaggedAudioBuffer} (h : p.Safe b) :
    (p.audioOut cfg b).pending = p.pending ++ b.samples := by
  rw [Safe] at h
  by_cases hb : b.marker = .START
  · rw [if_pos hb] at h
    rw [h]
    simp [audioOut, hcfg, hb, pending]
  · rw [if_neg hb] at h
    have hout : p.audioOut cfg b = { p with queue := p.queue ++ [b] } := by
      simp [audioOut, hcfg, hb]
    rw [hout]
    cases hnew : p.newPacket with
    | true => simp [pending, hnew]
    | false =>
        cases hqueue : p.queue with
        | nil =>
            -- the buffer becomes the front of the queue, with the index that is there
            rcases h hnew hqueue with hindex | hsamples
            · simp [pending, hnew, unplayed, hqueue, hindex]
            · simp [pending, hnew, unplayed, hqueue, hsamples]
        | cons front queue => simp [pending, hnew, unplayed, hqueue]

end Port

end Playback

namespace JackThread

open Playback

/-- A buffer for modem `m` is delivered safely. -/
def SafeDelivery (m : ℤ) (s : JackThread) : JackEvent → Prop
  | .audioOut buffer modemIndex => modemIndex = m → (s.playback m).Safe buffer
  | _ => True

instance (m : ℤ) (s : JackThread) : (e : JackEvent) → Decidable (SafeDelivery m s e)
  | .audioOut _ _ => inferInstanceAs (Decidable (_ → _))
  | .process _ | .bufferSizeChange _ | .registerPort _ => inferInstanceAs (Decidable True)

/-- What an event plays on port `i`: the samples that it writes, but for the inserted ones. -/
def keptBy (cfg : JackConfig) (i : ℕ) (s s' : JackThread) : JackEvent → List SampleT
  | .process cycle =>
      keep ((s'.written i).drop (s.written i).length)
        ((s.playback (cfg.firstModemIndex + i)).insertedIn cfg s.emptyBuffer cycle)
  | _ => []

/-- What some events play on port `i`. -/
def kept (cfg : JackConfig) (i : ℕ) : JackThread → List JackEvent → List SampleT
  | _, [] => []
  | s, e :: es => (step cfg s e).elim [] fun s' => keptBy cfg i s s' e ++ kept cfg i s' es

section Kept

variable {cfg : JackConfig} {i : ℕ} {s s' s'' : JackThread} {es : List JackEvent} {e : JackEvent}

theorem kept_concat (hs' : after cfg s es = some s') (hs'' : step cfg s' e = some s'') :
    kept cfg i s (es ++ [e]) = kept cfg i s es ++ keptBy cfg i s' s'' e := by
  induction es generalizing s with
  | nil =>
      obtain rfl := Option.some_inj.1 hs'
      simp [kept, hs'']
  | cons f es ih =>
      rw [after, Run.exec_cons, Option.bind_eq_some_iff] at hs'
      obtain ⟨t, ht, hs'⟩ := hs'
      simp only [List.cons_append, kept, ht, Option.elim_some]
      rw [ih hs', List.append_assoc]

/-- A safe event plays the first of what was pending; the rest and what it delivers is pending after
it. -/
theorem exists_kept_step (hcfg : cfg.continuous = false) (hi : i < cfg.localNumberOfModems)
    (hs : s.Healthy) (hcycle : FullCycle s e)
    (hsafe : SafeDelivery (cfg.firstModemIndex + i) s e) (hs' : step cfg s e = some s') :
    ∃ w, s'.written i = s.written i ++ w ∧ Padded (keptBy cfg i s s' e) w ∧
      (s.playback (cfg.firstModemIndex + i)).pending ++
          (deliveries (cfg.firstModemIndex + i) [e]).flatMap (·.samples) =
        keptBy cfg i s s' e ++ (s'.playback (cfg.firstModemIndex + i)).pending := by
  cases e with
  | audioOut b m =>
      obtain rfl := Option.some_inj.1 hs'
      refine ⟨[], (List.append_nil _).symm, .nil, ?_⟩
      by_cases hm : m = cfg.firstModemIndex + i
      · subst hm
        simp [deliveries, keptBy, pending_audioOut hcfg (hsafe rfl)]
      · simp [deliveries, keptBy, hm, Function.update_of_ne (Ne.symm hm)]
  | process cycle =>
      have hport := (playsPort_of_jackProcess hcfg hs hcycle.1.le hcycle.2 hs').2 i hi
      rw [PlaysPort] at hport
      split_ifs at hport
      · obtain ⟨out, hplay, hout⟩ := hport
        obtain ⟨hpadded, hpending⟩ := keep_of_playPacket (hs.audio _)
          (hs.zeros (hcycle.1 ▸ hcycle.2)) hcycle.1.le hplay
        have hkept : keptBy cfg i s s' (.process cycle) = keep out
            ((s.playback (cfg.firstModemIndex + i)).insertedIn cfg s.emptyBuffer cycle) := by
          rw [keptBy, hout, List.drop_left]
        refine ⟨out, hout, hkept ▸ hpadded, ?_⟩
        rw [hkept, ← hpending]
        simp [deliveries]
      -- a port that is not registered plays nothing
      · have hkept : keptBy cfg i s s' (.process cycle) = [] := by
          rw [keptBy, hport.2, List.drop_length]
          rfl
        refine ⟨[], by rw [hport.2, List.append_nil], hkept ▸ .nil, ?_⟩
        rw [hkept, hport.1]
        simp [deliveries]
  | bufferSizeChange n =>
      obtain rfl := Option.some_inj.1 hs'
      exact ⟨[], (List.append_nil _).symm, .nil, by simp [deliveries, keptBy, jackBufferSizeChange]⟩
  | registerPort j =>
      obtain rfl := Option.some_inj.1 hs'
      exact ⟨[], (List.append_nil _).symm, .nil, by simp [deliveries, keptBy]⟩

/-- Along a run of safe events, what was played and what is pending is what was pending before it
and what was delivered. -/
theorem exists_after_kept (hcfg : cfg.continuous = false) (hi : i < cfg.localNumberOfModems)
    (hs : s.Healthy) (haudio : DeliversAudio es)
    (hcycles : Run.ExecAlways (step cfg) s FullCycle es)
    (hsafe : Run.ExecAlways (step cfg) s (SafeDelivery (cfg.firstModemIndex + i)) es) :
    ∃ s' w, after cfg s es = some s' ∧ s'.written i = s.written i ++ w ∧
      Padded (kept cfg i s es) w ∧
      (s.playback (cfg.firstModemIndex + i)).pending ++
          (deliveries (cfg.firstModemIndex + i) es).flatMap (·.samples) =
        kept cfg i s es ++ (s'.playback (cfg.firstModemIndex + i)).pending := by
  obtain ⟨s', hs', -, -, w, hwritten, hpadded, hpending⟩ := Run.exec_induction (step cfg) s
    (G := fun s e => FullCycle s e ∧ SafeDelivery (cfg.firstModemIndex + i) s e)
    (P := DeliversAudio)
    (I := fun es s' => s'.Healthy ∧ after cfg s es = some s' ∧ ∃ w,
      s'.written i = s.written i ++ w ∧ Padded (kept cfg i s es) w ∧
        (s.playback (cfg.firstModemIndex + i)).pending ++
            (deliveries (cfg.firstModemIndex + i) es).flatMap (·.samples) =
          kept cfg i s es ++ (s'.playback (cfg.firstModemIndex + i)).pending)
    (fun _ _ h => h.of_concat.1)
    ⟨hs, rfl, [], by simp, .nil, by simp [deliveries, kept]⟩
    (fun es e t haudio ⟨ht, hreach, w, hwritten, hpadded, hpending⟩ ⟨hcycle, hsafe⟩ => by
      obtain ⟨u, hu, hhealthy⟩ := ht.exists_step hcfg haudio.of_concat.2 hcycle.withinBuffer
      obtain ⟨out, hout, hmore, hrest⟩ := exists_kept_step hcfg hi ht hcycle hsafe hu
      have hreach' : after cfg s (es ++ [e]) = some u :=
        (Run.exec_concat_eq_some _ _).2 ⟨t, hreach, hu⟩
      refine ⟨u, hu, hhealthy, hreach', w ++ out, ?_, ?_, ?_⟩
      · rw [hout, hwritten, List.append_assoc]
      · rw [kept_concat hreach hu]
        exact hpadded.append hmore
      · rw [deliveries_append, List.flatMap_append, ← List.append_assoc, hpending,
          List.append_assoc, hrest, kept_concat hreach hu, List.append_assoc])
    es haudio fun pre e post t heq ht => ⟨hcycles pre e post t heq ht, hsafe pre e post t heq ht⟩
  exact ⟨s', w, hs', hwritten, hpadded, hpending⟩

/-- All that is delivered of a waiting packet is pending. -/
theorem Waiting.pending_eq {first : TaggedAudioBuffer} {s₀ : JackThread}
    (h : Waiting cfg i first s₀ es s) : (s.playback (cfg.firstModemIndex + i)).pending =
      (first :: deliveries (cfg.firstModemIndex + i) es).flatMap (·.samples) := by
  rw [pending, if_pos h.new, h.queue]

end Kept

end JackThread

end Netsim
