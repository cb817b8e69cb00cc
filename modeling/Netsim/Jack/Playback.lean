import Netsim.Jack.Model

/-!
# One cycle of one output port

The samples that are left to be played are those of the front buffer from the index on, and all
samples of the buffers behind it (`Playback.unplayed`). A cycle writes the first of them, however
they are spread over the buffers, and silence when they have run out (`Playback.Played`). Which of
the samples are such silence follows from where the cursor stands (`Playback.inserted`).
-/

namespace Netsim

namespace Playback

/-! ### What is left to play -/

/-- The samples from the index on. -/
def unplayed (p : Playback) : List SampleT :=
  match p.queue with
  | [] => []
  | front :: queue => front.samples.drop p.index ++ queue.flatMap (·.samples)

/-- Which samples of the frame loop are inserted: those before the start of playback, and those that
are read from the empty buffer. -/
def inserted (emptyBuffer : Option TaggedAudioBuffer) (frameStart : ℕ) :
    ℕ → ℕ → Cursor → List Bool
  | 0, _, _ => []
  | left + 1, frame, c =>
      if frame < frameStart then true :: inserted emptyBuffer frameStart left (frame + 1) c
      else
        (advance emptyBuffer c.queue c.index c.txBuffer).elim [] fun c =>
          c.queue.isEmpty ::
            inserted emptyBuffer frameStart left (frame + 1) { c with index := c.index + 1 }

section Frames

variable {emptyBuffer : Option TaggedAudioBuffer} {n : ℕ} {queue : List TaggedAudioBuffer}
  {front : TaggedAudioBuffer} {index : ℕ}

/-- `empty_buffer_` holds `n` zeros. -/
def HoldsZeros (emptyBuffer : Option TaggedAudioBuffer) (n : ℕ) : Prop :=
  ∃ e, emptyBuffer = some e ∧ e.buffer.isSome ∧ e.samples = List.replicate n silence

/-- Every buffer of a queue holds audio. -/
def AllAudio (queue : List TaggedAudioBuffer) : Prop := ∀ b ∈ queue, b.buffer.isSome

theorem AllAudio.exists_audio (h : AllAudio (front :: queue)) :
    ∃ audio, front.buffer = some audio ∧ front.samples = audio.samples := by
  obtain ⟨audio, haudio⟩ := Option.isSome_iff_exists.1 (h front (by simp))
  exact ⟨audio, haudio, by simp [TaggedAudioBuffer.samples, haudio]⟩

theorem AllAudio.tail (h : AllAudio (front :: queue)) : AllAudio queue :=
  fun b hb => h b (List.mem_cons_of_mem _ hb)

/-- An index within the front buffer points to the next sample. -/
theorem unplayed_of_lt {samples : List SampleT} (hsamples : front.samples = samples)
    (hlt : index < samples.length) : unplayed { queue := front :: queue, index := index } =
      samples[index] :: unplayed { queue := front :: queue, index := index + 1 } := by
  simp only [unplayed, hsamples]
  rw [List.drop_eq_getElem_cons hlt, List.cons_append]

/-- If something is left, the while loop finds the next sample at the index. -/
theorem exists_advance (emptyBuffer : Option TaggedAudioBuffer) (haudio : AllAudio (front :: queue))
    (hne : unplayed { queue := front :: queue, index := index } ≠ []) :
    ∃ front' queue' index' sample, advance emptyBuffer (front :: queue) index front =
        some ⟨front' :: queue', index', front'⟩ ∧ AllAudio (front' :: queue') ∧
      front'.buffer.bind (·.samples[index']?) = some sample ∧
      unplayed { queue := front :: queue, index := index } =
        sample :: unplayed { queue := front' :: queue', index := index' + 1 } := by
  -- the induction is on the queue, as the while loop drops its front
  induction queue generalizing front index with
  | nil =>
      -- the last buffer: the next sample is in it
      obtain ⟨audio, hbuffer, hsamples⟩ := haudio.exists_audio
      have hlt : index < audio.samples.length := by
        by_contra hlt
        exact hne (by simp [unplayed, hsamples, Nat.le_of_not_lt hlt])
      refine ⟨front, [], index, audio.samples[index], by simp [advance, hbuffer, hlt], haudio,
        by simp [hbuffer, hlt], unplayed_of_lt hsamples hlt⟩
  | cons next queue ih =>
      obtain ⟨audio, hbuffer, hsamples⟩ := haudio.exists_audio
      by_cases hlt : index < audio.samples.length
      · refine ⟨front, next :: queue, index, audio.samples[index],
          by simp [advance, hbuffer, hlt], haudio, by simp [hbuffer, hlt],
          unplayed_of_lt hsamples hlt⟩
      -- the front buffer is used up, and the loop goes on with the next one from its beginning
      · have hunplayed : unplayed { queue := front :: next :: queue, index := index } =
            unplayed { queue := next :: queue, index := 0 } := by
          simp [unplayed, hsamples, Nat.le_of_not_lt hlt]
        have hadvance : advance emptyBuffer (front :: next :: queue) index front =
            advance emptyBuffer (next :: queue) 0 next := by
          rw [advance, hbuffer, Option.bind_some, if_neg hlt]
          rfl
        rw [hunplayed] at hne ⊢
        rw [hadvance]
        exact ih haudio.tail hne

/-- If nothing is left, the while loop ends at the empty buffer. -/
theorem advance_of_unplayed_eq_nil (haudio : AllAudio (front :: queue))
    (hnil : unplayed { queue := front :: queue, index := index } = []) {e : TaggedAudioBuffer}
    (hempty : emptyBuffer = some e) (he : 0 < e.samples.length) :
    advance emptyBuffer (front :: queue) index front = some ⟨[], 0, e⟩ := by
  induction queue generalizing front index with
  | nil =>
      obtain ⟨audio, hbuffer, hsamples⟩ := haudio.exists_audio
      have hlt : ¬ index < audio.samples.length := by
        simpa [unplayed, hsamples] using hnil
      -- the queue is empty, and the loop stops at the first zero of the empty buffer
      rw [advance, hbuffer, Option.bind_some, if_neg hlt, hempty, List.head?_nil, Option.none_or,
        Option.bind_some, advance]
      cases hzeros : e.buffer with
      | none => simp [TaggedAudioBuffer.samples, hzeros] at he
      | some zeros =>
          have hlength : 0 < zeros.samples.length := by
            simpa [TaggedAudioBuffer.samples, hzeros] using he
          rw [Option.bind_some, if_pos hlength]
  | cons next queue ih =>
      obtain ⟨audio, hbuffer, hsamples⟩ := haudio.exists_audio
      obtain ⟨hdrop, hrest⟩ := List.append_eq_nil_iff.1 hnil
      have hlt : ¬ index < audio.samples.length := by
        simpa [hsamples] using hdrop
      rw [advance, hbuffer, Option.bind_some, if_neg hlt]
      exact ih haudio.tail (by simpa [unplayed] using hrest)

/-- The empty buffer plays silence, all of it inserted. -/
theorem playFrames_empty (emptyBuffer : Option TaggedAudioBuffer) {e : TaggedAudioBuffer}
    (he : e.buffer.isSome) (hzeros : e.samples = List.replicate n silence)
    {frameStart frame left : ℕ} (hframe : frameStart ≤ frame) (hleft : index + left ≤ n) :
    playFrames emptyBuffer frameStart left frame ⟨[], index, e⟩ =
        some (⟨[], index + left, e⟩, List.replicate left silence) ∧
      inserted emptyBuffer frameStart left frame ⟨[], index, e⟩ = List.replicate left true := by
  obtain ⟨audio, haudio⟩ := Option.isSome_iff_exists.1 he
  have hsamples : audio.samples = List.replicate n silence := by
    simpa [TaggedAudioBuffer.samples, haudio] using hzeros
  -- the cursor walks along the zeros and never reaches their end
  induction left generalizing index frame with
  | zero => exact ⟨rfl, rfl⟩
  | succ left ih =>
      have hlt : index < n := by omega
      have hadvance : advance emptyBuffer [] index e = some ⟨[], index, e⟩ := by
        simp [advance, haudio, hsamples, hlt]
      have hsample : e.buffer.bind (·.samples[index]?) = some silence := by
        simp [haudio, hsamples, hlt]
      have hframe' : frameStart ≤ frame + 1 := by omega
      have hleft' : index + 1 + left ≤ n := by omega
      obtain ⟨hplay, hinserted⟩ := ih hframe' hleft'
      constructor
      · rw [playFrames, if_neg (Nat.not_lt.2 hframe), hadvance, Option.bind_some]
        simp only [hsample, Option.bind_some]
        rw [hplay, Option.map_some, Nat.add_right_comm, Nat.add_assoc]
        rfl
      · rw [inserted, if_neg (Nat.not_lt.2 hframe), hadvance, Option.elim_some, hinserted]
        rfl

/-- From the start of playback on, the unplayed samples are played, then inserted silence. -/
theorem exists_playFrames (index : ℕ) (haudio : AllAudio (front :: queue))
    (hzeros : HoldsZeros emptyBuffer n) {frameStart frame left : ℕ}
    (hframe : frameStart ≤ frame) (hleft : left ≤ n) :
    ∃ c, playFrames emptyBuffer frameStart left frame ⟨front :: queue, index, front⟩ =
        some (c, (unplayed { queue := front :: queue, index := index }).take left ++
          List.replicate (left - (unplayed { queue := front :: queue, index := index }).length)
            silence) ∧
      AllAudio c.queue ∧
      (left ≤ (unplayed { queue := front :: queue, index := index }).length → c.queue ≠ [] ∧
        unplayed { queue := c.queue, index := c.index } =
          (unplayed { queue := front :: queue, index := index }).drop left) ∧
      ((unplayed { queue := front :: queue, index := index }).length < left → c.queue = [] ∧
        c.index = left - (unplayed { queue := front :: queue, index := index }).length) ∧
      inserted emptyBuffer frameStart left frame ⟨front :: queue, index, front⟩ =
        List.replicate (min left (unplayed { queue := front :: queue, index := index }).length)
          false ++
        List.replicate (left - (unplayed { queue := front :: queue, index := index }).length)
          true := by
  induction left generalizing front queue index frame with
  | zero =>
      exact ⟨⟨front :: queue, index, front⟩, by simp [playFrames], haudio, by simp, by simp,
        by simp [inserted]⟩
  | succ left ih =>
      rw [playFrames, inserted, if_neg (Nat.not_lt.2 hframe), if_neg (Nat.not_lt.2 hframe)]
      by_cases hnil : unplayed { queue := front :: queue, index := index } = []
      -- the queue has run dry: the rest of the cycle is played from the empty buffer
      · obtain ⟨e, hempty, hbuffer, hsamples⟩ := hzeros
        have he : 0 < e.samples.length := by
          rw [hsamples, List.length_replicate]
          omega
        obtain ⟨hplay, hinserted⟩ := playFrames_empty emptyBuffer hbuffer hsamples hframe
          (show 0 + (left + 1) ≤ n by omega)
        rw [playFrames, if_neg (Nat.not_lt.2 hframe)] at hplay
        rw [inserted, if_neg (Nat.not_lt.2 hframe)] at hinserted
        have hadvance : advance emptyBuffer [] 0 e = some ⟨[], 0, e⟩ := by
          obtain ⟨audio, haudio⟩ := Option.isSome_iff_exists.1 hbuffer
          have hlt : 0 < audio.samples.length := by
            simpa [TaggedAudioBuffer.samples, haudio] using he
          simp [advance, haudio, hlt]
        simp only [hadvance, Nat.zero_add] at hplay hinserted
        refine ⟨⟨[], left + 1, e⟩, ?_, by simp [AllAudio], by simp [hnil], by simp [hnil], ?_⟩
        · simp only [advance_of_unplayed_eq_nil haudio hnil hempty he, hplay, hnil]
          simp
        · simp only [advance_of_unplayed_eq_nil haudio hnil hempty he, hinserted, hnil]
          simp
      -- one sample of the queue is played, and the induction hypothesis plays the rest
      · obtain ⟨front', queue', index', sample, hadvance, haudio', hsample, hunplayed⟩ :=
          exists_advance emptyBuffer haudio hnil
        obtain ⟨c, hplay, hc, hmore, hdry, hinserted⟩ :=
          ih (index' + 1) haudio' (Nat.le_succ_of_le hframe) (by omega)
        refine ⟨c, ?_, hc, ?_, ?_, ?_⟩
        · simp only [hadvance, Option.bind_some, hsample, hplay, hunplayed]
          simp
        · intro hle
          simp only [hunplayed, List.length_cons] at hle
          simpa [hunplayed] using hmore (by omega)
        · intro hlt
          simp only [hunplayed, List.length_cons] at hlt
          simpa [hunplayed] using hdry (by omega)
        · simp only [hadvance, Option.elim_some, hinserted, hunplayed, List.isEmpty_cons]
          simp [Nat.add_min_add_right, List.replicate_succ]

/-- Before the start of playback there is silence, all of it inserted. -/
theorem playFrames_before (emptyBuffer : Option TaggedAudioBuffer)
    (frameStart left before frame : ℕ) (c : Cursor) (hframe : frame + before = frameStart) :
    playFrames emptyBuffer frameStart (before + left) frame c =
        (playFrames emptyBuffer frameStart left frameStart c).map (fun p =>
          (p.1, List.replicate before silence ++ p.2)) ∧
      inserted emptyBuffer frameStart (before + left) frame c =
        List.replicate before true ++ inserted emptyBuffer frameStart left frameStart c := by
  induction before generalizing frame with
  | zero =>
      obtain rfl : frame = frameStart := by omega
      simp
  | succ before ih =>
      -- a frame before the start of playback does not move the cursor
      obtain ⟨hplay, hinserted⟩ := ih (frame + 1) (by omega)
      constructor
      · rw [Nat.succ_add, playFrames, if_pos (by omega), hplay, Option.map_map]
        rfl
      · rw [Nat.succ_add, inserted, if_pos (by omega), hinserted]
        rfl

/-- The marks of a cycle of `nframes` frames that is played from frame `start` on and finds `n`
samples. -/
def marks (start nframes n : ℕ) : List Bool :=
  List.replicate start true ++ (List.replicate (min (nframes - start) n) false ++
    List.replicate (nframes - start - n) true)

/-- The unplayed samples of a cycle are the ones that are not inserted. -/
theorem inserted_eq (index : ℕ) (haudio : AllAudio (front :: queue))
    (hzeros : HoldsZeros emptyBuffer n) {start nframes : ℕ} (hstart : start ≤ nframes)
    (hn : nframes ≤ n) : inserted emptyBuffer start nframes 0 ⟨front :: queue, index, front⟩ =
      marks start nframes (unplayed { queue := front :: queue, index := index }).length := by
  obtain ⟨c, -, -, -, -, hinserted⟩ := exists_playFrames index haudio hzeros
    (Nat.le_refl start) ((Nat.sub_le nframes start).trans hn)
  have hbefore := (playFrames_before emptyBuffer start (nframes - start) start 0
    ⟨front :: queue, index, front⟩ (Nat.zero_add start)).2
  rw [Nat.add_sub_cancel' hstart] at hbefore
  rw [hbefore, hinserted, marks]

end Frames

/-! ### One cycle -/

/-- A cycle of `nframes` frames, played from frame `start` on, turns `p` into `p'` and writes
`out`. -/
structure Played (p p' : Playback) (start nframes : ℕ) (out : List SampleT) : Prop where
  /-- Silence, the unplayed samples, and silence when they have run out. -/
  out_eq : out = List.replicate start silence ++ (p.unplayed.take (nframes - start) ++
    List.replicate (nframes - start - p.unplayed.length) silence)
  /-- Every queued buffer still holds audio. -/
  audio : AllAudio p'.queue
  /-- Unless the samples have run out, the rest is still to be played. -/
  more : nframes - start ≤ p.unplayed.length →
    p'.queue ≠ [] ∧ p'.unplayed = p.unplayed.drop (nframes - start)
  /-- When they have run out, the queue is empty, and the index is that of the empty buffer. -/
  dry : p.unplayed.length < nframes - start →
    p'.queue = [] ∧ p'.index = nframes - start - p.unplayed.length
  /-- The packet is no longer new. -/
  begun : p'.newPacket = false

section PlayPacket

variable {emptyBuffer : Option TaggedAudioBuffer} {cycle : Cycle} {n : ℕ} {p : Playback}
  {front : TaggedAudioBuffer} {queue : List TaggedAudioBuffer}

theorem exists_play (hqueue : p.queue = front :: queue) (haudio : AllAudio p.queue)
    (hzeros : HoldsZeros emptyBuffer n) (hn : cycle.nframes ≤ n) (hnew : p.newPacket = false)
    {start : ℕ} (hstart : start ≤ cycle.nframes) :
    ∃ p' out, play emptyBuffer cycle p front start = some (p', out) ∧
      Played p p' start cycle.nframes out := by
  rw [hqueue] at haudio
  obtain ⟨c, hplay, hc, hmore, hdry, -⟩ := exists_playFrames p.index haudio hzeros
    (Nat.le_refl start) ((Nat.sub_le cycle.nframes start).trans hn)
  -- the frames before the start of playback are silent
  have hbefore := (playFrames_before emptyBuffer start (cycle.nframes - start) start 0
    ⟨front :: queue, p.index, front⟩ (Nat.zero_add start)).1
  rw [hplay, Option.map_some, Nat.add_sub_cancel' hstart] at hbefore
  have hunplayed : unplayed { queue := front :: queue, index := p.index } = p.unplayed := by
    rw [unplayed, unplayed, hqueue]
  rw [hunplayed] at hbefore hmore hdry
  refine ⟨{ p with queue := c.queue, index := c.index }, _, ?_, ⟨rfl, hc, hmore, hdry, hnew⟩⟩
  rw [play, hqueue, hbefore, Option.map_some]

/-- A packet that is being played goes on. -/
theorem exists_playPacket_of_begun (cfg : JackConfig) (hqueue : p.queue ≠ [])
    (haudio : AllAudio p.queue) (hzeros : HoldsZeros emptyBuffer n) (hn : cycle.nframes ≤ n)
    (hnew : p.newPacket = false) :
    ∃ p' out, playPacket cfg emptyBuffer cycle p = some (p', out) ∧
      Played p p' 0 cycle.nframes out := by
  obtain ⟨front, queue, hqueue⟩ := List.exists_cons_of_ne_nil hqueue
  obtain ⟨p', out, hplay, hplayed⟩ := exists_play hqueue haudio hzeros hn hnew (Nat.zero_le _)
  refine ⟨p', out, ?_, hplayed⟩
  rw [playPacket, hqueue]
  simp [hnew, hplay]

/-- What a cycle does with a new packet. The index is reset even if the packet does not start in
this cycle. -/
theorem playPacket_of_new (cfg : JackConfig) (emptyBuffer : Option TaggedAudioBuffer)
    (cycle : Cycle) (hqueue : p.queue = front :: queue)
    (hnew : p.newPacket = true) {audio : AudioBuffer} (hfront : front.buffer = some audio) :
    playPacket cfg emptyBuffer cycle p =
      if cycle.nframes < frameStart cfg cycle audio.bufferStartTime then
        some ({ p with index := 0 }, [])
      else if (p.queue.length : ℤ) < cfg.minPlaybackBufferSize % 2 ^ 64 then
        some ({ p with index := 0 }, [])
      else play emptyBuffer cycle { p with index := 0, newPacket := false } front
        (frameStart cfg cycle audio.bufferStartTime) := by
  rw [playPacket]
  simp only [hqueue, hnew, hfront, if_true, Option.bind_some]

/-- A new packet is played from its start on, if that is in the cycle and there are enough
buffers. -/
theorem exists_playPacket_begins (cfg : JackConfig) (hqueue : p.queue = front :: queue)
    (haudio : AllAudio p.queue) (hzeros : HoldsZeros emptyBuffer n) (hn : cycle.nframes ≤ n)
    (hnew : p.newPacket = true) {audio : AudioBuffer} (hfront : front.buffer = some audio)
    (hstart : frameStart cfg cycle audio.bufferStartTime ≤ cycle.nframes)
    (henough : cfg.minPlaybackBufferSize % 2 ^ 64 ≤ p.queue.length) :
    ∃ p' out, playPacket cfg emptyBuffer cycle p = some (p', out) ∧
      Played { p with index := 0 } p' (frameStart cfg cycle audio.bufferStartTime)
        cycle.nframes out := by
  obtain ⟨p', out, hplay, hplayed⟩ := exists_play (p := { p with index := 0, newPacket := false })
    hqueue haudio hzeros hn rfl hstart
  refine ⟨p', out, ?_, ⟨hplayed.out_eq, hplayed.audio, hplayed.more, hplayed.dry, hplayed.begun⟩⟩
  rw [playPacket_of_new cfg _ _ hqueue hnew hfront, if_neg (Nat.not_lt.2 hstart),
    if_neg (not_lt_of_ge henough), hplay]

/-- What a cycle does with `p` in packet mode, and what it writes. -/
inductive PacketCycle (cfg : JackConfig) (cycle : Cycle) (p : Playback) :
    Playback → List SampleT → Prop
  /-- Nothing is queued. -/
  | idle (hqueue : p.queue = []) : PacketCycle cfg cycle p p []
  /-- A packet that is being played goes on. -/
  | continues {p' : Playback} {out : List SampleT} (hqueue : p.queue ≠ [])
      (hbegun : p.newPacket = false) (hplayed : Played p p' 0 cycle.nframes out) :
      PacketCycle cfg cycle p p' out
  /-- A new packet starts in a later cycle, or too few buffers are queued. -/
  | waits {front : TaggedAudioBuffer} {queue : List TaggedAudioBuffer} {audio : AudioBuffer}
      (hqueue : p.queue = front :: queue) (hnew : p.newPacket = true)
      (hfront : front.buffer = some audio)
      (hwaits : cycle.nframes < frameStart cfg cycle audio.bufferStartTime ∨
        (p.queue.length : ℤ) < cfg.minPlaybackBufferSize % 2 ^ 64) :
      PacketCycle cfg cycle p { p with index := 0 } []
  /-- A new packet is played from its start on. -/
  | begins {p' : Playback} {out : List SampleT} {front : TaggedAudioBuffer}
      {queue : List TaggedAudioBuffer} {audio : AudioBuffer} (hqueue : p.queue = front :: queue)
      (hnew : p.newPacket = true) (hfront : front.buffer = some audio)
      (hstart : frameStart cfg cycle audio.bufferStartTime ≤ cycle.nframes)
      (henough : cfg.minPlaybackBufferSize % 2 ^ 64 ≤ p.queue.length)
      (hplayed : Played { p with index := 0 } p' (frameStart cfg cycle audio.bufferStartTime)
        cycle.nframes out) : PacketCycle cfg cycle p p' out

/-- A port always plays its cycle. -/
theorem exists_packetCycle (cfg : JackConfig) (haudio : AllAudio p.queue)
    (hzeros : HoldsZeros emptyBuffer n) (hn : cycle.nframes ≤ n) :
    ∃ p' out, playPacket cfg emptyBuffer cycle p = some (p', out) ∧
      PacketCycle cfg cycle p p' out := by
  by_cases hqueue : p.queue = []
  · exact ⟨p, [], by rw [playPacket, hqueue], .idle hqueue⟩
  cases hnew : p.newPacket with
  | false =>
      obtain ⟨p', out, hplay, hplayed⟩ :=
        exists_playPacket_of_begun cfg hqueue haudio hzeros hn hnew
      exact ⟨p', out, hplay, .continues hqueue hnew hplayed⟩
  | true =>
      obtain ⟨front, queue, hcons⟩ := List.exists_cons_of_ne_nil hqueue
      obtain ⟨audio, hfront, -⟩ := AllAudio.exists_audio (hcons ▸ haudio)
      have hplay := playPacket_of_new cfg emptyBuffer cycle hcons hnew hfront
      by_cases hfuture : cycle.nframes < frameStart cfg cycle audio.bufferStartTime
      · rw [if_pos hfuture] at hplay
        exact ⟨_, _, hplay, .waits hcons hnew hfront (.inl hfuture)⟩
      · by_cases hfew : (p.queue.length : ℤ) < cfg.minPlaybackBufferSize % 2 ^ 64
        · rw [if_neg hfuture, if_pos hfew] at hplay
          exact ⟨_, _, hplay, .waits hcons hnew hfront (.inr hfew)⟩
        · obtain ⟨p', out, hbegin, hplayed⟩ := exists_playPacket_begins cfg hcons haudio hzeros hn
            hnew hfront (Nat.le_of_not_lt hfuture) (le_of_not_gt hfew)
          exact ⟨p', out, hbegin, .begins hcons hnew hfront (Nat.le_of_not_lt hfuture)
            (le_of_not_gt hfew) hplayed⟩

/-- What a cycle has done. -/
theorem packetCycle_of_playPacket (haudio : AllAudio p.queue) (hzeros : HoldsZeros emptyBuffer n)
    (hn : cycle.nframes ≤ n) {cfg : JackConfig} {p' : Playback} {out : List SampleT}
    (hplay : playPacket cfg emptyBuffer cycle p = some (p', out)) :
    PacketCycle cfg cycle p p' out := by
  obtain ⟨q, w, hq, hcycle⟩ := exists_packetCycle cfg haudio hzeros hn
  cases hplay.symm.trans hq
  exact hcycle

/-- The queue of the port still holds audio. -/
theorem PacketCycle.audio {cfg : JackConfig} {p' : Playback} {out : List SampleT}
    (h : PacketCycle cfg cycle p p' out) (haudio : AllAudio p.queue) : AllAudio p'.queue := by
  cases h with
  | idle _ => exact haudio
  | continues _ _ hplayed => exact hplayed.audio
  | waits _ _ _ _ => exact haudio
  | begins _ _ _ _ _ hplayed => exact hplayed.audio

end PlayPacket

/-- One output port in one cycle. -/
def playPort (cfg : JackConfig) (emptyBuffer : Option TaggedAudioBuffer) (cycle : Cycle)
    (p : Playback) : Option (Playback × List SampleT) :=
  if cfg.continuous then p.playContinuous cycle else p.playPacket cfg emptyBuffer cycle

/-- In continuous mode the frame stays in the queue. -/
theorem playContinuous_fst {cycle : Cycle} {p p' : Playback} {out : List SampleT}
    (h : playContinuous cycle p = some (p', out)) : p' = p := by
  rw [playContinuous] at h
  split at h
  · cases h
    rfl
  · rw [Option.bind_eq_some_iff] at h
    obtain ⟨audio, -, h⟩ := h
    split_ifs at h
    cases h
    rfl

/-- In either mode the queue of a port still holds audio. -/
theorem AllAudio.of_playPort {cfg : JackConfig} {emptyBuffer : Option TaggedAudioBuffer}
    {cycle : Cycle} {n : ℕ} {p p' : Playback} {out : List SampleT} (h : AllAudio p.queue)
    (hzeros : HoldsZeros emptyBuffer n) (hn : cycle.nframes ≤ n)
    (hplay : playPort cfg emptyBuffer cycle p = some (p', out)) : AllAudio p'.queue := by
  rw [playPort] at hplay
  split_ifs at hplay
  · rw [playContinuous_fst hplay]
    exact h
  · exact (packetCycle_of_playPacket h hzeros hn hplay).audio h

end Playback

end Netsim
