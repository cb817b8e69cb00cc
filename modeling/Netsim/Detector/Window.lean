import Netsim.Detector.Framing
import Netsim.Lib.Window

/-!
# The window before a packet

When a packet is detected, the ring should hold as many of the buffers received last as the latest
buffer size makes of the configured time. A resize of the ring may pad it with nulls, or drop the
newest buffers, and never lowers its capacity; and it is a resize to a number that has been
calculated with floats, which may be another one.

So the window is right as long as every detection finds a ring whose capacity is that number, or
that has not received as many buffers, and that has been filled again if a resize has put it out of
order (`followsSize_of_fits`).
-/

namespace Netsim

namespace DetectorThread

open CircularBuffer

/-- The number of whole buffers in the configured time, at least one. -/
def prebufferSize (cfg : DetectorConfig) (bufferSize : ℕ) : ℕ :=
  max 1 ⌊cfg.samplingFreq * cfg.packetBeginPrebufferSeconds.toRat / bufferSize⌋.toNat

/-- What has happened to the ring, and what should be in it. -/
structure Prebuffered where
  /-- The window of the ring. -/
  window : Window AudioBuffer := {}
  /-- The number of buffers that the latest buffer size makes of the configured time. -/
  size : ℕ := 1

/-- The ring holds the buffers of its window, and these are as many as there should be. -/
def Prebuffered.Fits (w : Prebuffered) : Prop :=
  w.window.Fits ∧ (w.window.size = w.size ∨ w.window.received.length < min w.window.size w.size)

instance (w : Prebuffered) : Decidable w.Fits := inferInstanceAs (Decidable (_ ∧ _))

/-- The window after an event: the stream begins anew behind the END of a packet, and the ring is
left alone inside a packet. -/
def record (cfg : DetectorConfig) (d : DetectorThread) (w : Prebuffered) :
    DetectorEvent → Prebuffered
  | .bufferSizeChange bufferSize =>
      { window := w.window.resize d.prebuffer.items.length
          (max 1 (newPrebufferSize cfg bufferSize)),
        size := prebufferSize cfg bufferSize }
  | .audioIn buffer =>
      let window := w.window
      if d.inPacket then
        { w with window.received :=
            if (scanSilence cfg d.framesSinceSilence buffer.samples).2 then []
            else window.received ++ [buffer] }
      else if detects cfg d buffer then
        -- the ring is emptied
        { w with window := { window with
            received := window.received ++ [buffer], padding := 0, disturbed := none } }
      else { w with window := window.push buffer }

/-- One event, with the window. -/
def recordStep (cfg : DetectorConfig) (p : DetectorThread × Prebuffered)
    (e : DetectorEvent) : DetectorThread × Prebuffered :=
  (p.1.step cfg e, record cfg p.1 p.2 e)

/-- If this event is a detection, what is published are the buffers received last since the last
END, with this one, as many as the configured time has at the latest buffer size, or all of them. -/
def PublishesWindow (cfg : DetectorConfig) (p : DetectorThread × Prebuffered) :
    DetectorEvent → Prop
  | .bufferSizeChange _ => True
  | .audioIn buffer => detects cfg p.1 buffer → ∃ published,
      (p.1.audioIn cfg buffer).detectorAudio = p.1.detectorAudio ++ published ∧
        (∀ t ∈ published, t.marker ≠ .MIDDLE) ∧
        published.map (·.buffer) = ((p.2.window.received ++ [buffer]).rtake p.2.size).map some

/-- The window follows the buffer size, and no published buffer is null. -/
def FollowsSize (cfg : DetectorConfig) (es : List DetectorEvent) : Prop :=
  Run.Always (recordStep cfg) ({}, {}) (PublishesWindow cfg) es ∧
    ∀ t ∈ (after cfg es).detectorAudio, t.buffer.isSome

/-- If this event is a detection, the window fits. -/
def FitsAt (cfg : DetectorConfig) (p : DetectorThread × Prebuffered) : DetectorEvent → Prop
  | .bufferSizeChange _ => True
  | .audioIn buffer => detects cfg p.1 buffer → p.2.Fits

instance (cfg : DetectorConfig) (p : DetectorThread × Prebuffered) (e : DetectorEvent) :
    Decidable (FitsAt cfg p e) :=
  match e with
  | .bufferSizeChange _ => inferInstanceAs (Decidable True)
  | .audioIn buffer => inferInstanceAs (Decidable (detects cfg p.1 buffer → p.2.Fits))

/-! ### The ring holds the window -/

/-- The ring holds the window, or what it becomes of it behind the packet. -/
structure Tracks (p : DetectorThread × Prebuffered) : Prop where
  outside : p.1.inPacket = false → p.1.prebuffer.Holds p.2.window
  inside : p.1.inPacket = true → p.1.prebuffer.Holds { p.2.window with received := [] }
  published : ∀ t ∈ p.1.detectorAudio, t.buffer.isSome

section Steps

variable {cfg : DetectorConfig} {p : DetectorThread × Prebuffered} {buffer : AudioBuffer}

/-- As many buffers as there should be are those of the window. -/
theorem Prebuffered.Fits.rtake_size {w : Prebuffered} (h : w.Fits) (buffer : AudioBuffer) :
    (w.window.received ++ [buffer]).rtake w.window.size =
      (w.window.received ++ [buffer]).rtake w.size := by
  rcases h.2 with hsize | hfew
  · rw [hsize]
  -- both are all of them
  · rw [List.rtake_eq_reverse_take_reverse, List.rtake_eq_reverse_take_reverse, List.reverse_inj,
      List.take_eq_take_iff, List.length_reverse, List.length_append, List.length_singleton]
    omega

theorem tracks_init : Tracks ({}, {}) where
  outside _ := ⟨rfl, Nat.le_refl 1, Nat.le_refl 1, [], rfl, Nat.zero_le _, rfl,
    .inl (Nat.min_le_right _ _), fun _ => Nat.zero_le _⟩
  inside hin := by cases hin
  published := List.forall_mem_nil _

theorem Tracks.bufferSizeChange (h : Tracks p) (bufferSize : ℕ) :
    Tracks (recordStep cfg p (.bufferSizeChange bufferSize)) := by
  have hsize : (if newPrebufferSize cfg bufferSize > 0 then newPrebufferSize cfg bufferSize
      else 1) = max 1 (newPrebufferSize cfg bufferSize) := by
    split_ifs <;> omega
  have hprebuffer : (p.1.bufferSizeChange cfg bufferSize).prebuffer =
      p.1.prebuffer.resize (max 1 (newPrebufferSize cfg bufferSize)) none := by
    rw [DetectorThread.bufferSizeChange, ← hsize]
  rw [recordStep, step]
  refine ⟨fun hout => ?_, fun hin => ?_, ?_⟩
  · rw [inPacket_bufferSizeChange] at hout
    rw [hprebuffer]
    exact (h.outside hout).resize (le_max_left _ _)
  · rw [inPacket_bufferSizeChange] at hin
    rw [hprebuffer, record, Window.resize_received]
    exact (h.inside hin).resize (le_max_left _ _)
  · rw [detectorAudio_bufferSizeChange]
    exact h.published

theorem Tracks.audioIn_of_inPacket (hc : cfg.continuous = false) (h : Tracks p)
    (hin : p.1.inPacket = true) : Tracks (recordStep cfg p (.audioIn buffer)) := by
  rcases hscan : scanSilence cfg p.1.framesSinceSilence buffer.samples with ⟨silence, ended⟩
  have hpublished : ∀ t ∈ p.1.detectorAudio ++
      [{ buffer := some buffer, marker := if ended then .END else .MIDDLE,
         packetId := p.1.inPacketId }], t.buffer.isSome :=
    List.forall_mem_append.2 ⟨h.published, List.forall_mem_singleton.2 rfl⟩
  simp only [recordStep, step, DetectorThread.audioIn_of_inPacket hc hin hscan, record, if_pos hin,
    hscan]
  cases ended with
  | true => exact ⟨fun _ => h.inside hin, fun hin' => by simp at hin', hpublished⟩
  | false => exact ⟨fun hout => by simp at hout, fun _ => h.inside hin, hpublished⟩

theorem Tracks.audioIn_of_not_detects (hc : cfg.continuous = false) (h : Tracks p)
    (hout : p.1.inPacket = false) (hdetects : detects cfg p.1 buffer = false) :
    Tracks (recordStep cfg p (.audioIn buffer)) := by
  rw [recordStep, step, DetectorThread.audioIn_of_not_detects hc hout hdetects, record,
    if_neg (by simp [hout]), if_neg (by simp [hdetects])]
  exact ⟨fun _ => (h.outside hout).push buffer, fun hin => by simp [hout] at hin, h.published⟩

/-- A detection publishes the window, and empties the ring. -/
theorem Tracks.audioIn_of_detects (hc : cfg.continuous = false) (h : Tracks p)
    (hdetects : detects cfg p.1 buffer) (hfits : p.2.Fits) :
    Tracks (recordStep cfg p (.audioIn buffer)) ∧ PublishesWindow cfg p (.audioIn buffer) := by
  have hout := inPacket_of_detects hdetects
  have hholds := h.outside hout
  have hitems := hholds.items_pushBack hfits.1 buffer
  -- the window has at least the buffer itself
  obtain ⟨first, rest, hwindow⟩ : ∃ first rest,
      (p.2.window.received ++ [buffer]).rtake p.2.window.size = first :: rest := by
    obtain ⟨n, hn⟩ := Nat.exists_eq_add_of_le' hholds.size_pos
    rw [hn, List.rtake_concat_succ]
    exact List.exists_cons_of_ne_nil (List.append_ne_nil_of_right_ne_nil _ (List.cons_ne_nil _ _))
  rw [hwindow, List.map_cons] at hitems
  have haudioIn := audioIn_of_items hc hdetects hitems
  have hclear : (p.1.prebuffer.pushBack (some buffer)).clear.Holds
      { p.2.window with received := [], padding := 0, disturbed := none } :=
    (hholds.push buffer).clear
  constructor
  · rw [recordStep, step, haudioIn, record, if_neg (by simp [hout]), if_pos hdetects]
    refine ⟨fun hout' => by simp at hout', fun _ => hclear, ?_⟩
    rw [List.forall_mem_append, List.forall_mem_cons, List.forall_mem_map, List.forall_mem_map]
    exact ⟨h.published, rfl, fun b _ => rfl⟩
  · intro _
    refine ⟨_, by rw [haudioIn], ?_, ?_⟩
    · rw [List.forall_mem_cons, List.forall_mem_map]
      exact ⟨by simp, fun b _ => by simp⟩
    · rw [← hfits.rtake_size, hwindow]
      simp

/-- One event of a run in which the window fits. -/
theorem Tracks.step (hc : cfg.continuous = false) (h : Tracks p) {e : DetectorEvent}
    (hfits : FitsAt cfg p e) : Tracks (recordStep cfg p e) ∧ PublishesWindow cfg p e := by
  cases e with
  | bufferSizeChange bufferSize => exact ⟨h.bufferSizeChange bufferSize, trivial⟩
  | audioIn buffer =>
      cases hdetects : detects cfg p.1 buffer with
      | true => exact h.audioIn_of_detects hc hdetects (hfits hdetects)
      | false =>
          have hnot : PublishesWindow cfg p (.audioIn buffer) := fun h' => by
            rw [hdetects] at h'
            cases h'
          cases hin : p.1.inPacket with
          | true => exact ⟨h.audioIn_of_inPacket hc hin, hnot⟩
          | false => exact ⟨h.audioIn_of_not_detects hc hin hdetects, hnot⟩

end Steps

section Runs

variable {cfg : DetectorConfig}

theorem tracks_run (hc : cfg.continuous = false) (es : List DetectorEvent)
    (h : Run.Always (recordStep cfg) ({}, {}) (FitsAt cfg) es) :
    Tracks (Run.run (recordStep cfg) ({}, {}) es) :=
  Run.run_induction (recordStep cfg) ({}, {}) (I := fun _ => Tracks) tracks_init
    (fun _ _ _ htracks hfits => (htracks.step hc hfits).1) es h

/-- The window follows the buffer size in every run in which it fits at every detection. -/
theorem followsSize_of_fits (hc : cfg.continuous = false) (es : List DetectorEvent)
    (h : Run.Always (recordStep cfg) ({}, {}) (FitsAt cfg) es) : FollowsSize cfg es := by
  have hafter : (Run.run (recordStep cfg) ({}, {}) es).1 = after cfg es :=
    Run.run_record_fst (step cfg) {} (record cfg) {} es
  refine ⟨?_, ?_⟩
  · rintro pre e post rfl
    exact ((tracks_run hc pre h.of_append).step hc (h pre e post rfl)).2
  · rw [← hafter]
    exact (tracks_run hc es h).published

-- 0.7 seconds as a float, at 10 Hz and a sample per buffer: the product is rounded up
example :
    let cfg : DetectorConfig :=
      { samplingFreq := 10, packetBeginPrebufferSeconds := .ofFields false 126 0x333333 }
    newPrebufferSize cfg 1 = 7 ∧ prebufferSize cfg 1 = 6 := by
  decide +kernel

/-- A sample per second, and a window of two seconds. -/
def twoSeconds : DetectorConfig where
  samplingFreq := 1
  packetBeginPrebufferSeconds := .ofFields false 128 0

/-- A buffer with a quiet sample. -/
def quietBuffer (time : ℚ) : AudioBuffer := ⟨time, 0, [silence]⟩

/-- A window of two buffers that has been filled. -/
theorem followsSize_of_three_quiet_buffers :
    FollowsSize twoSeconds [.bufferSizeChange 1, .audioIn (quietBuffer 0),
      .audioIn (quietBuffer 1), .audioIn (quietBuffer 2), .audioIn loudBuffer] :=
  followsSize_of_fits rfl _ (by decide +kernel)

theorem PublishesWindow.map_buffer {p : DetectorThread × Prebuffered}
    {buffer : AudioBuffer} (h : PublishesWindow cfg p (.audioIn buffer))
    (hdetects : detects cfg p.1 buffer) :
    (p.1.audioIn cfg buffer).detectorAudio.map (·.buffer) = p.1.detectorAudio.map (·.buffer) ++
      ((p.2.window.received ++ [buffer]).rtake p.2.size).map some := by
  obtain ⟨published, haudio, -, hbuffers⟩ := h hdetects
  rw [haudio, List.map_append, hbuffers]

/-- The ring has grown, and a first buffer finds a null in front of it, so that nothing is
published; or it has shrunk, and still has the capacity for two buffers, of which the older one is
not the one before the detection. -/
theorem not_followsSize_after_resize :
    ¬ FollowsSize {} [.bufferSizeChange 1024, .audioIn loudBuffer] ∧
      ¬ FollowsSize twoSeconds [.bufferSizeChange 1, .audioIn (quietBuffer 0),
        .audioIn (quietBuffer 1), .audioIn (quietBuffer 2), .bufferSizeChange 2,
        .audioIn loudBuffer] := by
  constructor
  · rintro ⟨h, -⟩
    have hlast := (h [.bufferSizeChange 1024] (.audioIn loudBuffer) [] rfl).map_buffer
      (by decide +kernel)
    exact absurd hlast (by decide +kernel)
  · rintro ⟨h, -⟩
    have hlast := (h [.bufferSizeChange 1, .audioIn (quietBuffer 0), .audioIn (quietBuffer 1),
      .audioIn (quietBuffer 2), .bufferSizeChange 2] (.audioIn loudBuffer) [] rfl).map_buffer
        (by decide +kernel)
    exact absurd hlast (by decide +kernel)

end Runs

end DetectorThread

end Netsim
