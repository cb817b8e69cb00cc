import Netsim.Jack.ExactPlayback
import Netsim.Lib.WhileLoop

/-!
# The loops of a cycle

In every frame the inner loop pops buffers until the index is within the next one, or within the
empty buffer when the queue has run dry. The loop would pop an empty queue if the index got to the
end of the empty buffer. It does not: the index is 0 when the queue runs dry, so that it is at most
the number of frames since then, and a cycle has no more frames than the empty buffer has samples.

So in every cycle all inner loops end, no empty queue is popped, and every sample that is read is
within its buffer (`exists_after_cyclesInRange`).
-/

namespace Netsim

namespace Playback

/-! ### The inner loop -/

/-- The condition of the inner loop. -/
def Exhausted (c : Cursor) : Prop := c.txBuffer.samples.length ≤ c.index

instance : DecidablePred Exhausted := fun _ => inferInstanceAs (Decidable (_ ≤ _))

/-- The body of the inner loop. It is undefined if the queue is empty, or `tx_buffer` is or gets
null. -/
def popFront (emptyBuffer : Option TaggedAudioBuffer) (c : Cursor) : Option Cursor :=
  -- the condition has read the size of the buffer
  c.txBuffer.buffer.bind fun _ =>
    match c.queue with
    | [] => none
    | _ :: queue => (queue.head?.or emptyBuffer).map fun next => ⟨queue, 0, next⟩

/-- In a frame with the given local variables, the inner loop ends, pops no empty queue, and leaves
the index within the buffer. -/
structure LoopInRange (emptyBuffer : Option TaggedAudioBuffer) (c : Cursor) : Prop where
  /-- It ends. -/
  ends : ∃ c', WhileLoop.EndsIn Exhausted (popFront emptyBuffer) c c'
  /-- Where another buffer is popped, there is one. -/
  pops : ∀ k c', WhileLoop.iterate Exhausted (popFront emptyBuffer) k c = some c' →
    Exhausted c' → c'.queue ≠ []
  /-- The sample that is read. -/
  reads : ∀ c', WhileLoop.EndsIn Exhausted (popFront emptyBuffer) c c' →
    ∃ audio, c'.txBuffer.buffer = some audio ∧ c'.index < audio.samples.length

/-- In every frame of a cycle, from the start of playback on, the inner loop is in range. -/
def FramesInRange (emptyBuffer : Option TaggedAudioBuffer) (frameStart nframes : ℕ) (c : Cursor) :
    Prop :=
  ∀ frame < nframes, ∃ c' out, playFrames emptyBuffer frameStart frame 0 c = some (c', out) ∧
    (frameStart ≤ frame → LoopInRange emptyBuffer c')

/-- The start of playback and the local variables with which a cycle gets to the frame loop. -/
def entry (cfg : JackConfig) (cycle : Cycle) (p : Playback) : Option (ℕ × Cursor) :=
  match p.queue with
  | [] => none
  | txBuffer :: _ =>
      if p.newPacket then
        txBuffer.buffer.bind fun audio =>
          let frameStart := frameStart cfg cycle audio.bufferStartTime
          if cycle.nframes < frameStart then none
          else if (p.queue.length : ℤ) < cfg.minPlaybackBufferSize % 2 ^ 64 then none
          else some (frameStart, ⟨p.queue, 0, txBuffer⟩)
      else some (0, ⟨p.queue, p.index, txBuffer⟩)

section Loop

variable {emptyBuffer : Option TaggedAudioBuffer} {n left : ℕ} {c c' : Cursor}

theorem exists_audio_of_not_exhausted (h : ¬ Exhausted c) :
    ∃ audio, c.txBuffer.buffer = some audio ∧ c.index < audio.samples.length := by
  cases haudio : c.txBuffer.buffer with
  | none => exact absurd (by simp [Exhausted, TaggedAudioBuffer.samples, haudio]) h
  | some audio =>
      exact ⟨audio, rfl, by simpa [Exhausted, TaggedAudioBuffer.samples, haudio] using h⟩

/-- Within the buffer the index stays as it is. -/
theorem advance_of_not_exhausted {queue : List TaggedAudioBuffer} {index : ℕ}
    {txBuffer : TaggedAudioBuffer} (h : ¬ Exhausted ⟨queue, index, txBuffer⟩) :
    advance emptyBuffer queue index txBuffer = some ⟨queue, index, txBuffer⟩ := by
  obtain ⟨audio, haudio, hlt⟩ := exists_audio_of_not_exhausted h
  cases queue with
  | nil => rw [advance, haudio, Option.bind_some, if_pos hlt]
  | cons front queue => rw [advance, haudio, Option.bind_some, if_pos hlt]

/-- At the end of the buffer a buffer is popped, if there is one. -/
theorem advance_of_exhausted {queue : List TaggedAudioBuffer} {index : ℕ}
    {txBuffer : TaggedAudioBuffer} (h : Exhausted ⟨queue, index, txBuffer⟩) :
    advance emptyBuffer queue index txBuffer =
      (popFront emptyBuffer ⟨queue, index, txBuffer⟩).bind fun c =>
        advance emptyBuffer c.queue c.index c.txBuffer := by
  rw [popFront]
  cases haudio : txBuffer.buffer with
  | none => cases queue <;> simp [advance, haudio]
  | some audio =>
      have hge : ¬ index < audio.samples.length := by
        simpa [Exhausted, TaggedAudioBuffer.samples, haudio] using h
      cases queue with
      | nil => simp [advance, haudio, hge]
      | cons front queue => simp [advance, haudio, hge, Option.bind_map]

/-- `advance` is the inner loop. -/
theorem advance_eq_some_iff :
    advance emptyBuffer c.queue c.index c.txBuffer = some c' ↔
      WhileLoop.EndsIn Exhausted (popFront emptyBuffer) c c' := by
  -- the induction is on the queue, from which each iteration pops a buffer
  obtain ⟨queue, index, txBuffer⟩ := c
  dsimp only
  induction queue generalizing index txBuffer with
  | nil =>
      by_cases h : Exhausted ⟨[], index, txBuffer⟩
      · rw [advance_of_exhausted h, WhileLoop.endsIn_of_cond h]
        cases haudio : txBuffer.buffer <;> simp [popFront, haudio]
      · rw [advance_of_not_exhausted h, WhileLoop.endsIn_of_not_cond h, Option.some_inj, eq_comm]
  | cons front queue ih =>
      by_cases h : Exhausted ⟨front :: queue, index, txBuffer⟩
      · rw [advance_of_exhausted h, WhileLoop.endsIn_of_cond h, Option.bind_eq_some_iff]
        refine exists_congr fun c₁ => and_congr_right fun hc₁ => ?_
        rw [popFront, Option.bind_eq_some_iff] at hc₁
        obtain ⟨-, -, hc₁⟩ := hc₁
        obtain ⟨next, -, rfl⟩ := Option.map_eq_some_iff.1 hc₁
        exact ih 0 next
      · rw [advance_of_not_exhausted h, WhileLoop.endsIn_of_not_cond h, Option.some_inj, eq_comm]

end Loop

/-! ### One cycle -/

/-- With `left` frames to go: the buffer that is played is the front of the queue, or the queue has
run dry and the index will be within the `n` samples of the empty buffer. -/
structure InRange (n left : ℕ) (c : Cursor) : Prop where
  /-- Every queued buffer holds audio. -/
  audio : AllAudio c.queue
  /-- So does the one that is played. -/
  playing : c.txBuffer.buffer.isSome
  /-- Where it stands. -/
  stands : c.queue.head? = some c.txBuffer ∨
    c.queue = [] ∧ c.txBuffer.samples.length = n ∧ c.index + left ≤ n

section InRange

variable {emptyBuffer : Option TaggedAudioBuffer} {n left : ℕ} {c c' : Cursor}

/-- There is a buffer to pop when the index has got to the end of one. -/
theorem InRange.queue_ne_nil (h : InRange n left c) (hleft : 1 ≤ left) (hend : Exhausted c) :
    c.queue ≠ [] := by
  intro hqueue
  rcases h.stands with hhead | ⟨-, hlength, hle⟩
  · simp [hqueue] at hhead
  · rw [Exhausted, hlength] at hend
    omega

/-- Popping a buffer keeps the cursor in range. -/
theorem InRange.popFront (h : InRange n left c) (hzeros : HoldsZeros emptyBuffer n)
    (hleft : 1 ≤ left) (hn : left ≤ n) (hend : Exhausted c) :
    ∃ c', Playback.popFront emptyBuffer c = some c' ∧ InRange n left c' ∧
      c'.queue.length < c.queue.length := by
  obtain ⟨audio, haudio⟩ := Option.isSome_iff_exists.1 h.playing
  obtain ⟨front, queue, hqueue⟩ := List.exists_cons_of_ne_nil (h.queue_ne_nil hleft hend)
  have hall : AllAudio (front :: queue) := hqueue ▸ h.audio
  cases queue with
  | nil =>
      -- the queue runs dry, and the empty buffer is played from its first sample on
      obtain ⟨e, rfl, he, hsamples⟩ := hzeros
      refine ⟨⟨[], 0, e⟩, by simp [Playback.popFront, haudio, hqueue], ⟨hall.tail, he, ?_⟩,
        by simp [hqueue]⟩
      exact .inr ⟨rfl, by rw [hsamples, List.length_replicate], by simpa using hn⟩
  | cons next queue =>
      refine ⟨⟨next :: queue, 0, next⟩, by simp [Playback.popFront, haudio, hqueue],
        ⟨hall.tail, hall.tail next (by simp), .inl rfl⟩, by simp [hqueue]⟩

/-- The inner loop is in range, and leaves the cursor in range. -/
theorem InRange.loopInRange (h : InRange n left c) (hzeros : HoldsZeros emptyBuffer n)
    (hleft : 1 ≤ left) (hn : left ≤ n) :
    LoopInRange emptyBuffer c ∧
      ∀ c', WhileLoop.EndsIn Exhausted (Playback.popFront emptyBuffer) c c' →
        InRange n left c' := by
  have hbody : ∀ c c', InRange n left c → Exhausted c →
      Playback.popFront emptyBuffer c = some c' → InRange n left c' := by
    intro c c' hc hend hpop
    obtain ⟨c₁, hc₁, hrange, -⟩ := hc.popFront hzeros hleft hn hend
    rwa [Option.some_inj.1 (hpop.symm.trans hc₁)]
  refine ⟨⟨?_, fun k c' hk hend => ?_, fun c' ⟨_, _, hend⟩ => exists_audio_of_not_exhausted hend⟩,
    fun c' ⟨k, hk, _⟩ => WhileLoop.iterate_invariant hbody h hk⟩
  -- each iteration makes the queue shorter
  · obtain ⟨c', hc', -⟩ := WhileLoop.exists_endsIn (fun c : Cursor => c.queue.length)
      (fun c hc hend => InRange.popFront hc hzeros hleft hn hend) h
    exact ⟨c', hc'⟩
  · exact (WhileLoop.iterate_invariant hbody h hk).queue_ne_nil hleft hend

/-- After the sample is read, one frame less is to go. -/
theorem InRange.next (h : InRange n (left + 1) c) :
    InRange n left { c with index := c.index + 1 } := by
  refine ⟨h.audio, h.playing, h.stands.imp_right fun ⟨hqueue, hlength, hle⟩ => ?_⟩
  exact ⟨hqueue, hlength, by dsimp only; omega⟩

/-- A frame before the start of playback leaves the cursor as it is. -/
theorem InRange.wait (h : InRange n (left + 1) c) : InRange n left c := by
  refine ⟨h.audio, h.playing, h.stands.imp_right fun ⟨hqueue, hlength, hle⟩ => ?_⟩
  exact ⟨hqueue, hlength, by omega⟩

/-- From a cursor in range, the frames to go are in range. -/
theorem InRange.playFrames (hzeros : HoldsZeros emptyBuffer n) (frameStart frame : ℕ) {k : ℕ}
    (h : InRange n left c) (hn : left ≤ n) (hk : k < left) :
    ∃ c' out, Playback.playFrames emptyBuffer frameStart k frame c = some (c', out) ∧
      (frameStart ≤ frame + k → LoopInRange emptyBuffer c') := by
  -- the induction plays the first frame, and the invariant is about the frames to go
  induction k generalizing c frame left with
  | zero => exact ⟨c, [], rfl, fun _ => (h.loopInRange hzeros (by omega) hn).1⟩
  | succ k ih =>
      obtain ⟨left, rfl⟩ : ∃ m, left = m + 1 := ⟨left - 1, by omega⟩
      rw [Playback.playFrames]
      split_ifs with hwait
      · obtain ⟨c', out, hplay, hloop⟩ := ih (frame + 1) h.wait (by omega) (by omega)
        exact ⟨c', _, by rw [hplay, Option.map_some], fun hle => hloop (by omega)⟩
      · obtain ⟨hloop, hrange⟩ := h.loopInRange hzeros (by omega) hn
        obtain ⟨c₁, hc₁⟩ := hloop.ends
        obtain ⟨audio, haudio, hlt⟩ := hloop.reads c₁ hc₁
        obtain ⟨c', out, hplay, hloop'⟩ :=
          ih (frame + 1) (hrange c₁ hc₁).next (by omega) (by omega)
        refine ⟨c', audio.samples[c₁.index] :: out, ?_, fun hle => hloop' (by omega)⟩
        rw [advance_eq_some_iff.2 hc₁, Option.bind_some, haudio, Option.bind_some,
          List.getElem?_eq_getElem hlt, Option.bind_some, hplay, Option.map_some]

/-- A cycle gets to the frame loop with a cursor in range. -/
theorem inRange_of_entry {cfg : JackConfig} {cycle : Cycle} {p : Playback} {start : ℕ}
    (haudio : AllAudio p.queue) (hentry : entry cfg cycle p = some (start, c)) :
    InRange n left c := by
  cases hqueue : p.queue with
  | nil => simp [entry, hqueue] at hentry
  | cons front queue =>
      have hrange (index : ℕ) : InRange n left ⟨front :: queue, index, front⟩ :=
        ⟨hqueue ▸ haudio, haudio front (by simp [hqueue]), .inl rfl⟩
      cases hnew : p.newPacket with
      | true =>
          simp only [entry, hqueue, hnew, if_true, Option.bind_eq_some_iff] at hentry
          obtain ⟨audio, -, hentry⟩ := hentry
          split_ifs at hentry
          cases hentry
          exact hrange 0
      | false =>
          simp only [entry, hqueue, hnew, Bool.false_eq_true, if_false] at hentry
          cases hentry
          exact hrange p.index

end InRange

end Playback

/-! ### Runs -/

namespace JackThread

open Playback

/-- When a cycle gets to a port, the loops of the port are in range. -/
def CycleInRange (cfg : JackConfig) (s : JackThread) (cycle : Cycle) : Prop :=
  ∀ i < cfg.localNumberOfModems, ∃ sᵢ, (List.range i).foldlM (processPort cfg cycle) s = some sᵢ ∧
    (sᵢ.outputPort i → ∀ start c,
      entry cfg cycle (sᵢ.playback (cfg.firstModemIndex + i)) = some (start, c) →
        FramesInRange sᵢ.emptyBuffer start cycle.nframes c)

theorem Healthy.cycleInRange {cfg : JackConfig} {s : JackThread} {cycle : Cycle}
    (hcfg : cfg.continuous = false) (hs : s.Healthy) (h1 : 1 ≤ cycle.nframes)
    (hn : cycle.nframes ≤ s.bufferSize) : CycleInRange cfg s cycle := by
  intro i _
  obtain ⟨sᵢ, hsᵢ, hhealthy, hsetup, -⟩ :=
    exists_processPorts hcfg (List.range i) List.nodup_range hs hn h1
  have hn' : cycle.nframes ≤ sᵢ.bufferSize := hn.trans hsetup.bufferSize.ge
  refine ⟨sᵢ, hsᵢ, fun _ start c hentry frame hframe => ?_⟩
  have hrange : InRange sᵢ.bufferSize cycle.nframes c := inRange_of_entry (hhealthy.audio _) hentry
  simpa using hrange.playFrames (hhealthy.zeros (h1.trans hn')) start 0 hn' hframe

/-- In packet mode, every run whose cycles have at most as many frames as the empty buffer has
samples goes on, and the loops of every cycle are in range. -/
theorem exists_after_cyclesInRange (cfg : JackConfig) (hcfg : cfg.continuous = false)
    (s₀ : JackThread) (hs₀ : s₀.Healthy) (es : List JackEvent) (haudio : DeliversAudio es)
    (hcycles : Run.ExecAlways (step cfg) s₀ WithinBuffer es) :
    ∃ s, after cfg s₀ es = some s ∧
      ∀ cycle, WithinBuffer s (.process cycle) →
        CycleInRange cfg s cycle ∧ (step cfg s (.process cycle)).isSome := by
  obtain ⟨s, hs, hhealthy⟩ := hs₀.exists_after hcfg haudio hcycles
  refine ⟨s, hs, fun cycle hcycle => ⟨hhealthy.cycleInRange hcfg hcycle.1 hcycle.2, ?_⟩⟩
  obtain ⟨s', hs', -⟩ := exists_jackProcess hcfg hhealthy hcycle.2 hcycle.1
  exact Option.isSome_iff_exists.2 ⟨s', hs'⟩

/-- Cycles of one and of two frames, with buffers that have no samples, and after the queue has run
dry. -/
theorem cyclesInRange_of_empty_buffers :
    let cfg : JackConfig := { localNumberOfModems := 1, fs := 1, minPlaybackBufferSize := 1 }
    let sample : SampleT := .ofFields true 127 0
    let first : TaggedAudioBuffer := ⟨some ⟨1, 0, [sample]⟩, .START, 0⟩
    let middle : TaggedAudioBuffer := ⟨some ⟨2, 0, []⟩, .MIDDLE, 0⟩
    let last : TaggedAudioBuffer := ⟨some ⟨2, 0, [sample]⟩, .END, 0⟩
    let es : List JackEvent :=
      [.bufferSizeChange 2, .registerPort 0, .audioOut first 0, .audioOut middle 0,
        .process (twoFrames 1), .audioOut last 0, .audioOut middle 0, .process ⟨1, 3, fun _ => 0⟩]
    ∃ s, after cfg {} es = some s ∧
      ∀ cycle, WithinBuffer s (.process cycle) →
        CycleInRange cfg s cycle ∧ (step cfg s (.process cycle)).isSome := by
  intro cfg sample first middle last es
  refine exists_after_cyclesInRange cfg rfl {} healthy_init es (fun b m hb => ?_)
    (Run.execAlways_of_check _ _ (by decide +kernel))
  simp only [es, List.mem_cons, List.not_mem_nil, reduceCtorEq, JackEvent.audioOut.injEq, false_or,
    or_false] at hb
  rcases hb with ⟨rfl, -⟩ | ⟨rfl, -⟩ | ⟨rfl, -⟩ | ⟨rfl, -⟩ <;> rfl

end JackThread

end Netsim
