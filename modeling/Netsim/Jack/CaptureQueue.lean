import Netsim.Bridge.Model
import Netsim.Lib.Run
import Netsim.Lib.Selection

/-!
# JackThread, capture

`jack_process` appends a buffer with the samples of the input port to `audio_in_buffer_`, and `loop`
publishes the buffers. In one turn the loop takes the mutex twice: to look at the queue, which it
clears if it has got too long, and to pop the front, which it has published in between without the
mutex. Buffers may be captured before each of these steps, but only the loop takes any away, so that
the front is still the one that was published.

What is published and what is queued are the captured buffers in order, each of them once, without
those that were queued when the queue was cleared (`exists_after_accounted`).
-/

namespace Netsim

/-- The part of `NetSimCoreConfig` that capturing reads. -/
structure CaptureConfig extends NetSimCoreConfig where
  /-- `jack_modem_index`. -/
  jackModemIndex : ℤ
  /-- Maximum size of the buffer for captured data. -/
  maxBufferSize : ℤ := 100

/-- What `jack_process` captures in one cycle. -/
structure CapturedCycle where
  /-- `buffer_size_`. -/
  bufferSize : ℕ
  /-- The samples at the input port, one for each frame. -/
  input : List SampleT
  /-- A cycle has no more frames than the buffer size says. -/
  length_le : input.length ≤ bufferSize
  /-- JACK's frame counter. -/
  jackFrameTime : UInt32
  /-- The time of the call. -/
  bufferStartTime : ℚ

/-- `rx_buffer`. -/
def CapturedCycle.rxBuffer (cycle : CapturedCycle) : AudioBuffer where
  bufferStartTime := cycle.bufferStartTime
  jackFrameTime := cycle.jackFrameTime
  -- the frames beyond those of the cycle stay 0
  samples := cycle.input ++ List.replicate (cycle.bufferSize - cycle.input.length) silence

/-- Where `loop` stands. -/
inductive LoopState
  /-- It is about to look at the queue. -/
  | inspect
  /-- It is about to publish `temp_buffer`. -/
  | publish (tempBuffer : AudioBuffer)
  /-- It is about to pop the front of the queue, after it has published `temp_buffer`. -/
  | pop (tempBuffer : AudioBuffer)

/-- The state of the thread. -/
structure CaptureThread where
  /-- Whether `input_port_` has been registered. -/
  inputPort : Bool := false
  /-- `audio_in_buffer_`. -/
  audioInBuffer : List AudioBuffer := []
  /-- The position in `loop`. -/
  loopState : LoopState := .inspect
  /-- What was captured so far. -/
  captured : List AudioBuffer := []
  /-- What was published so far. -/
  published : List AudioBuffer := []
  /-- The sizes of the warnings "Jack buffer exceeds maximum: " so far. -/
  warnings : List ℕ := []

/-- What can happen to the thread. -/
inductive CaptureEvent
  /-- The constructor registers the input port. -/
  | registerPort
  /-- `jack_process`. -/
  | process (cycle : CapturedCycle)
  /-- The next step of `loop`. -/
  | loop

namespace CaptureThread

variable (cfg : CaptureConfig) (s : CaptureThread)

/-- `loop`, from the last point where the mutex was given up to the next one. -/
def loopStep : Option CaptureThread :=
  match s.loopState with
  | .inspect =>
      match s.audioInBuffer with
      -- it waits for the condition variable
      | [] => some s
      | front :: _ =>
          -- `size() >= max_buffer_size`, both unsigned
          if cfg.maxBufferSize % 2 ^ 64 ≤ s.audioInBuffer.length then
            some { s with
              audioInBuffer := []
              warnings := s.warnings ++ [s.audioInBuffer.length] }
          else some { s with loopState := .publish front }
  | .publish tempBuffer =>
      some { s with published := s.published ++ [tempBuffer], loopState := .pop tempBuffer }
  | .pop _ =>
      match s.audioInBuffer with
      -- `pop_front` of an empty queue
      | [] => none
      | _ :: queue => some { s with audioInBuffer := queue, loopState := .inspect }

/-- The reaction to an event. -/
def step : CaptureEvent → Option CaptureThread
  | .registerPort => some { s with inputPort := s.inputPort || cfg.isLocal cfg.jackModemIndex }
  | .process cycle =>
      if s.inputPort then
        some { s with
          audioInBuffer := s.audioInBuffer ++ [cycle.rxBuffer]
          captured := s.captured ++ [cycle.rxBuffer] }
      else some s
  -- without `do_capture_` the loop sleeps
  | .loop => if cfg.isLocal cfg.jackModemIndex then s.loopStep cfg else some s

/-- The thread after some events. -/
def after (es : List CaptureEvent) : Option CaptureThread := Run.exec (step cfg) {} es

/-- What is queued and has not been published. -/
def unpublished : List AudioBuffer :=
  match s.loopState with
  -- the front has been published
  | .pop _ => s.audioInBuffer.tail
  | _ => s.audioInBuffer

/-- The queue has got too long: there is a warning with its length, and it is cleared. -/
structure Overflow (t : CaptureThread) : Prop where
  /-- The queue has got too long. -/
  exceeds : cfg.maxBufferSize % 2 ^ 64 ≤ s.audioInBuffer.length
  /-- The warning. -/
  warned : t.warnings = s.warnings ++ [s.audioInBuffer.length]
  /-- Nothing is queued any more. -/
  cleared : t.audioInBuffer = []

/-- The `i`th captured buffer was queued when the queue was cleared. The queue has the buffers that
were captured last. -/
def Cleared (es : List CaptureEvent) (i : ℕ) : Prop :=
  ∃ pre post s t, es = pre ++ .loop :: post ∧ after cfg pre = some s ∧ step cfg s .loop = some t ∧
    Overflow cfg s t ∧ s.captured.length - s.audioInBuffer.length ≤ i ∧ i < s.captured.length

/-- After the events `es`, every captured buffer is accounted for. -/
structure Accounted (es : List CaptureEvent) : Prop where
  /-- What was published and what is queued are the captured buffers that were not cleared. -/
  selects : ∃ positions, Selection.Selects s.captured positions (s.published ++ s.unpublished) ∧
    ∀ i, i ∈ positions ↔ i < s.captured.length ∧ ¬ Cleared cfg es i
  /-- The queue has the buffers that were captured last. -/
  queued : s.audioInBuffer <:+ s.captured
  /-- The front that is about to be popped is the buffer that was just published. -/
  popped : ∀ tempBuffer, s.loopState = .pop tempBuffer →
    s.audioInBuffer.head? = some tempBuffer ∧ s.published.getLast? = some tempBuffer

/-! ### Steps of the loop -/

section Steps

variable {cfg s} {t : CaptureThread} {es : List CaptureEvent} {e : CaptureEvent}

/-- What a step of the loop does. -/
theorem loopStep_cases (h : s.loopStep cfg = some t) :
    (s.loopState = .inspect ∧ s.audioInBuffer = [] ∧ t = s) ∨
    (s.loopState = .inspect ∧ cfg.maxBufferSize % 2 ^ 64 ≤ s.audioInBuffer.length ∧
      t = { s with
        audioInBuffer := []
        warnings := s.warnings ++ [s.audioInBuffer.length] }) ∨
    (∃ front, s.loopState = .inspect ∧ s.audioInBuffer.head? = some front ∧
      ¬ cfg.maxBufferSize % 2 ^ 64 ≤ s.audioInBuffer.length ∧
      t = { s with loopState := .publish front }) ∨
    (∃ tempBuffer, s.loopState = .publish tempBuffer ∧
      t = { s with published := s.published ++ [tempBuffer], loopState := .pop tempBuffer }) ∨
    ∃ tempBuffer, s.loopState = .pop tempBuffer ∧
      t = { s with audioInBuffer := s.audioInBuffer.tail, loopState := .inspect } := by
  cases hstate : s.loopState with
  | inspect =>
      cases hqueue : s.audioInBuffer with
      | nil =>
          simp only [loopStep, hstate, hqueue, Option.some_inj] at h
          exact .inl ⟨rfl, rfl, h.symm⟩
      | cons front queue =>
          simp only [loopStep, hstate, hqueue] at h
          split_ifs at h with hmax
          · exact .inr (.inl ⟨rfl, hmax, (Option.some_inj.1 h).symm⟩)
          · exact .inr (.inr (.inl ⟨front, rfl, rfl, hmax, (Option.some_inj.1 h).symm⟩))
  | publish tempBuffer =>
      simp only [loopStep, hstate, Option.some_inj] at h
      exact .inr (.inr (.inr (.inl ⟨tempBuffer, rfl, h.symm⟩)))
  | pop tempBuffer =>
      cases hqueue : s.audioInBuffer with
      | nil => simp [loopStep, hstate, hqueue] at h
      | cons front queue =>
          simp only [loopStep, hstate, hqueue, Option.some_inj] at h
          exact .inr (.inr (.inr (.inr ⟨tempBuffer, rfl, h.symm⟩)))

/-- One more event clears what it finds in the queue. -/
theorem cleared_concat (hs : after cfg es = some s) (i : ℕ) :
    Cleared cfg (es ++ [e]) i ↔ Cleared cfg es i ∨
      (e = .loop ∧ (∃ t, step cfg s .loop = some t ∧ Overflow cfg s t) ∧
        s.captured.length - s.audioInBuffer.length ≤ i ∧ i < s.captured.length) := by
  constructor
  · rintro ⟨pre, post, u, t, heq, hu, ht, hover, hi⟩
    rcases Run.place_concat.1 heq with ⟨rfl, rfl, -⟩ | ⟨mid, -, rfl⟩
    · obtain rfl : s = u := Option.some_inj.1 (hs.symm.trans hu)
      exact .inr ⟨rfl, ⟨t, ht, hover⟩, hi⟩
    · exact .inl ⟨pre, mid, u, t, rfl, hu, ht, hover, hi⟩
  · rintro (⟨pre, post, u, t, rfl, h⟩ | ⟨rfl, ⟨t, ht, hover⟩, hi⟩)
    · exact ⟨pre, post ++ [e], u, t, by simp, h⟩
    · exact ⟨es, [], s, t, rfl, hs, ht, hover, hi⟩

/-- Without a new warning nothing is cleared. -/
theorem cleared_concat_of_warnings_eq (hs : after cfg es = some s) (ht : step cfg s e = some t)
    (hwarnings : t.warnings = s.warnings) (i : ℕ) :
    Cleared cfg (es ++ [e]) i ↔ Cleared cfg es i := by
  rw [cleared_concat hs, or_iff_left]
  rintro ⟨rfl, ⟨u, hu, hover⟩, -⟩
  obtain rfl : t = u := Option.some_inj.1 (ht.symm.trans hu)
  simpa [hwarnings] using hover.warned

/-- The place of the queue among the captured buffers. -/
theorem getElem?_of_head? {xs queue : List AudioBuffer} {front : AudioBuffer} (h : queue <:+ xs)
    (hfront : queue.head? = some front) : xs[xs.length - queue.length]? = some front := by
  obtain ⟨pre, rfl⟩ := h
  rw [List.length_append, Nat.add_sub_cancel, List.getElem?_append_right le_rfl, Nat.sub_self,
    ← List.head?_eq_getElem?, hfront]

end Steps

/-! ### Runs -/

/-- The number of captured buffers that have been published or cleared. -/
def finished : ℕ := s.captured.length - s.unpublished.length

/-- The invariant of the runs. -/
structure Inv (es : List CaptureEvent) : Prop where
  /-- The state is reached. -/
  reached : after cfg es = some s
  /-- What was published. -/
  selects : ∃ positions, Selection.Selects s.captured positions s.published ∧
    ∀ i, i ∈ positions ↔ i < s.finished ∧ ¬ Cleared cfg es i
  /-- What was cleared. -/
  cleared : ∀ i, Cleared cfg es i → i < s.finished
  /-- The queue has the buffers that were captured last. -/
  queued : s.audioInBuffer <:+ s.captured
  /-- The buffer that is about to be published is the front. -/
  taken : ∀ tempBuffer, s.loopState = .publish tempBuffer →
    s.audioInBuffer.head? = some tempBuffer
  /-- The buffer that was published is the front. -/
  popped : ∀ tempBuffer, s.loopState = .pop tempBuffer →
    s.audioInBuffer.head? = some tempBuffer ∧ s.published.getLast? = some tempBuffer

section Runs

variable {cfg s} {t : CaptureThread} {es : List CaptureEvent} {e : CaptureEvent}

theorem unpublished_suffix (s : CaptureThread) : s.unpublished <:+ s.audioInBuffer := by
  rw [unpublished]
  split
  · exact List.tail_suffix _
  · exact List.suffix_rfl

theorem inv_init (cfg : CaptureConfig) : Inv cfg {} [] where
  reached := rfl
  selects := ⟨[], Selection.selects_nil _, by simp [finished]⟩
  cleared := by
    rintro i ⟨pre, post, -, -, heq, -⟩
    simp at heq
  queued := List.suffix_rfl
  taken _ h := by cases h
  popped _ h := by cases h

/-- What is queued is selected from the end. -/
theorem Inv.accounted (h : Inv cfg s es) : Accounted cfg s es := by
  have hsuffix : s.unpublished <:+ s.captured := (unpublished_suffix s).trans h.queued
  obtain ⟨positions, hselects, hmem⟩ := h.selects
  refine ⟨⟨positions ++ List.range' s.finished (s.captured.length - s.finished), ?_, fun i => ?_⟩,
    h.queued, h.popped⟩
  · rw [List.suffix_iff_eq_drop.1 hsuffix]
    exact hselects.append_drop fun p hp => ((hmem p).1 hp).1
  · have hle : s.finished ≤ s.captured.length := Nat.sub_le _ _
    rw [List.mem_append, hmem, List.mem_range'_1, Nat.add_sub_cancel' hle]
    constructor
    · rintro (⟨hlt, hcleared⟩ | ⟨hge, hlt⟩)
      · exact ⟨hlt.trans_le hle, hcleared⟩
      · exact ⟨hlt, fun hcleared => absurd (h.cleared i hcleared) (Nat.not_lt.2 hge)⟩
    · rintro ⟨hlt, hcleared⟩
      by_cases hi : i < s.finished
      · exact .inl ⟨hi, hcleared⟩
      · exact .inr ⟨Nat.le_of_not_lt hi, hlt⟩

/-- A step that neither publishes nor clears keeps the account. -/
theorem Inv.of_same (h : Inv cfg s es) (ht : step cfg s e = some t)
    (hwarnings : t.warnings = s.warnings) (hpublished : t.published = s.published)
    (hcaptured : s.captured <+: t.captured) (hfinished : t.finished = s.finished)
    (hqueued : t.audioInBuffer <:+ t.captured)
    (htaken : ∀ tempBuffer, t.loopState = .publish tempBuffer →
      t.audioInBuffer.head? = some tempBuffer)
    (hpopped : ∀ tempBuffer, t.loopState = .pop tempBuffer →
      t.audioInBuffer.head? = some tempBuffer ∧ t.published.getLast? = some tempBuffer) :
    Inv cfg t (es ++ [e]) := by
  have hcleared := cleared_concat_of_warnings_eq h.reached ht hwarnings
  obtain ⟨positions, hselects, hmem⟩ := h.selects
  obtain ⟨more, hmore⟩ := hcaptured
  refine ⟨(Run.exec_concat_eq_some _ _).2 ⟨s, h.reached, ht⟩, ⟨positions, ?_, fun i => ?_⟩,
    fun i hi => ?_, hqueued, htaken, hpopped⟩
  · rw [← hmore, hpublished]
    exact hselects.append_list more
  · rw [hmem, hcleared, hfinished]
  · rw [hfinished]
    exact h.cleared i ((hcleared i).1 hi)

/-- A captured buffer is queued behind the others, the front of which stays where it is. -/
theorem Inv.capture (h : Inv cfg s es) (hport : s.inputPort) (cycle : CapturedCycle) :
    ∃ t, step cfg s (.process cycle) = some t ∧ Inv cfg t (es ++ [.process cycle]) := by
  have hhead : ∀ tempBuffer, s.audioInBuffer.head? = some tempBuffer →
      (s.audioInBuffer ++ [cycle.rxBuffer]).head? = some tempBuffer := by
    intro tempBuffer hfront
    rw [List.head?_append, hfront]
    rfl
  refine ⟨_, if_pos hport, h.of_same (if_pos hport) rfl rfl (List.prefix_append _ _) ?_ ?_
    (fun tempBuffer hstate => hhead _ (h.taken tempBuffer hstate))
    (fun tempBuffer hstate =>
      ⟨hhead _ (h.popped tempBuffer hstate).1, (h.popped tempBuffer hstate).2⟩)⟩
  · have hunpublished : unpublished { s with
        audioInBuffer := s.audioInBuffer ++ [cycle.rxBuffer]
        captured := s.captured ++ [cycle.rxBuffer] } = s.unpublished ++ [cycle.rxBuffer] := by
      cases hstate : s.loopState with
      | inspect => simp [unpublished, hstate]
      | publish tempBuffer => simp [unpublished, hstate]
      | pop tempBuffer =>
          -- the front that has been published is still there
          obtain ⟨queue, hqueue⟩ := List.head?_eq_some_iff.1 (h.popped tempBuffer hstate).1
          simp [unpublished, hstate, hqueue]
    rw [finished, hunpublished, List.length_append, List.length_append, List.length_singleton,
      Nat.add_sub_add_right, finished]
  · obtain ⟨pre, hpre⟩ := h.queued
    exact ⟨pre, by rw [← hpre, List.append_assoc]⟩

/-- Clearing the queue finishes with all captured buffers. -/
theorem Inv.overflow (h : Inv cfg s es) (hlocal : cfg.isLocal cfg.jackModemIndex)
    (hstate : s.loopState = .inspect)
    (hmax : cfg.maxBufferSize % 2 ^ 64 ≤ s.audioInBuffer.length)
    (ht : s.loopStep cfg = some { s with
      audioInBuffer := []
      warnings := s.warnings ++ [s.audioInBuffer.length] }) :
    Inv cfg { s with audioInBuffer := [], warnings := s.warnings ++ [s.audioInBuffer.length] }
      (es ++ [.loop]) := by
  have hstep : step cfg s .loop = some { s with
      audioInBuffer := []
      warnings := s.warnings ++ [s.audioInBuffer.length] } := by
    rw [step, if_pos hlocal, ht]
  have hfinished : s.finished = s.captured.length - s.audioInBuffer.length := by
    rw [finished, unpublished, hstate]
  have hall : finished { s with
      audioInBuffer := []
      warnings := s.warnings ++ [s.audioInBuffer.length] } = s.captured.length := by
    simp [finished, unpublished, hstate]
  have hcleared (i : ℕ) : Cleared cfg (es ++ [.loop]) i ↔
      Cleared cfg es i ∨ s.finished ≤ i ∧ i < s.captured.length := by
    rw [cleared_concat h.reached, hfinished]
    refine or_congr_right ⟨fun hi => hi.2.2, fun hi => ⟨rfl, ⟨_, hstep, hmax, rfl, rfl⟩, hi⟩⟩
  have hle : s.finished ≤ s.captured.length := Nat.sub_le _ _
  obtain ⟨positions, hselects, hmem⟩ := h.selects
  refine ⟨(Run.exec_concat_eq_some _ _).2 ⟨s, h.reached, hstep⟩,
    ⟨positions, hselects, fun i => ?_⟩, fun i hi => ?_, List.nil_suffix,
    fun tempBuffer hpublish => ?_, fun tempBuffer hpop => ?_⟩
  · rw [hmem, hcleared, hall]
    constructor
    · rintro ⟨hlt, hnot⟩
      exact ⟨hlt.trans_le hle, fun hi => hi.elim hnot fun hi => absurd hlt (Nat.not_lt.2 hi.1)⟩
    · rintro ⟨hlt, hnot⟩
      rw [not_or] at hnot
      exact ⟨Nat.lt_of_not_le fun hge => hnot.2 ⟨hge, hlt⟩, hnot.1⟩
  · rw [hall]
    rcases (hcleared i).1 hi with hi | hi
    · exact (h.cleared i hi).trans_le hle
    · exact hi.2
  · simp [hstate] at hpublish
  · simp [hstate] at hpop

/-- Publishing selects the front of the queue. -/
theorem Inv.publish (h : Inv cfg s es) (hlocal : cfg.isLocal cfg.jackModemIndex)
    {tempBuffer : AudioBuffer} (hstate : s.loopState = .publish tempBuffer)
    (ht : s.loopStep cfg = some { s with
      published := s.published ++ [tempBuffer], loopState := .pop tempBuffer }) :
    Inv cfg { s with published := s.published ++ [tempBuffer], loopState := .pop tempBuffer }
      (es ++ [.loop]) := by
  have hstep : step cfg s .loop = some { s with
      published := s.published ++ [tempBuffer], loopState := .pop tempBuffer } := by
    rw [step, if_pos hlocal, ht]
  have hcleared := cleared_concat_of_warnings_eq h.reached hstep rfl
  have hfront := h.taken tempBuffer hstate
  have hfinished : s.finished = s.captured.length - s.audioInBuffer.length := by
    rw [finished, unpublished, hstate]
  have hnext : finished { s with
      published := s.published ++ [tempBuffer]
      loopState := .pop tempBuffer } = s.finished + 1 := by
    obtain ⟨queue, hqueue⟩ := List.head?_eq_some_iff.1 hfront
    have hle : s.audioInBuffer.length ≤ s.captured.length := h.queued.length_le
    rw [hfinished, finished, unpublished]
    simp only [hqueue, List.tail_cons, List.length_cons] at hle ⊢
    omega
  have hentry : s.captured[s.finished]? = some tempBuffer := by
    rw [hfinished]
    exact getElem?_of_head? h.queued hfront
  obtain ⟨positions, hselects, hmem⟩ := h.selects
  refine ⟨(Run.exec_concat_eq_some _ _).2 ⟨s, h.reached, hstep⟩,
    ⟨positions ++ [s.finished], hselects.concat (fun p hp => ((hmem p).1 hp).1) hentry,
      fun i => ?_⟩, fun i hi => ?_, h.queued, fun temp hpublish => ?_, fun temp hpop => ?_⟩
  · rw [hcleared, hnext, List.mem_append, List.mem_singleton, hmem, Nat.lt_succ_iff_lt_or_eq]
    constructor
    · rintro (⟨hlt, hnot⟩ | rfl)
      · exact ⟨.inl hlt, hnot⟩
      · exact ⟨.inr rfl, fun hi => absurd (h.cleared _ hi) (Nat.lt_irrefl _)⟩
    · rintro ⟨hlt | rfl, hnot⟩
      · exact .inl ⟨hlt, hnot⟩
      · exact .inr rfl
  · rw [hnext]
    exact Nat.lt_succ_of_lt (h.cleared i ((hcleared i).1 hi))
  · cases hpublish
  · cases hpop
    exact ⟨hfront, List.getLast?_concat⟩

/-- The loop never pops an empty queue. -/
theorem Inv.exists_loopStep (h : Inv cfg s es) : ∃ t, s.loopStep cfg = some t := by
  cases hstate : s.loopState with
  | inspect =>
      cases hqueue : s.audioInBuffer with
      | nil => exact ⟨s, by simp [loopStep, hstate, hqueue]⟩
      | cons front queue =>
          simp only [loopStep, hstate, hqueue]
          split_ifs
          · exact ⟨_, rfl⟩
          · exact ⟨_, rfl⟩
  | publish tempBuffer => exact ⟨_, by rw [loopStep, hstate]⟩
  | pop tempBuffer =>
      obtain ⟨queue, hqueue⟩ := List.head?_eq_some_iff.1 (h.popped tempBuffer hstate).1
      exact ⟨_, by rw [loopStep, hstate, hqueue]⟩

/-- Every event is handled, and keeps the account. -/
theorem Inv.exists_step (h : Inv cfg s es) (e : CaptureEvent) :
    ∃ t, step cfg s e = some t ∧ Inv cfg t (es ++ [e]) := by
  cases e with
  | registerPort =>
      exact ⟨_, rfl, h.of_same rfl rfl rfl List.prefix_rfl rfl h.queued h.taken h.popped⟩
  | process cycle =>
      by_cases hport : s.inputPort
      · exact h.capture hport cycle
      · exact ⟨s, if_neg hport, h.of_same (if_neg hport) rfl rfl List.prefix_rfl rfl h.queued
          h.taken h.popped⟩
  | loop =>
      by_cases hlocal : cfg.isLocal cfg.jackModemIndex
      · obtain ⟨t, ht⟩ := h.exists_loopStep
        have hstep : step cfg s .loop = some t := by rw [step, if_pos hlocal, ht]
        refine ⟨t, hstep, ?_⟩
        rcases loopStep_cases ht with ⟨hstate, -, rfl⟩ | ⟨hstate, hmax, rfl⟩ |
          ⟨front, hstate, hfront, -, rfl⟩ | ⟨tempBuffer, hstate, rfl⟩ | ⟨tempBuffer, hstate, rfl⟩
        -- it waits
        · exact h.of_same hstep rfl rfl List.prefix_rfl rfl h.queued h.taken h.popped
        · exact h.overflow hlocal hstate hmax ht
        -- it takes the front
        · refine h.of_same hstep rfl rfl List.prefix_rfl ?_ h.queued (fun tempBuffer htaken => ?_)
            fun tempBuffer hpop => by cases hpop
          · simp [finished, unpublished, hstate]
          · cases htaken
            exact hfront
        · exact h.publish hlocal hstate ht
        -- it pops the front that has been published
        · refine h.of_same hstep rfl rfl List.prefix_rfl ?_
            ((List.tail_suffix _).trans h.queued) (fun _ htaken => by cases htaken)
            fun _ hpop => by cases hpop
          simp [finished, unpublished, hstate]
      · exact ⟨s, if_neg hlocal, h.of_same (if_neg hlocal) rfl rfl List.prefix_rfl rfl h.queued
          h.taken h.popped⟩

/-- Every run goes on, and every captured buffer is accounted for: published or queued, once and in
order, or cleared when the queue had got too long. -/
theorem exists_after_accounted (cfg : CaptureConfig) (es : List CaptureEvent) :
    ∃ s, after cfg es = some s ∧ Accounted cfg s es := by
  obtain ⟨s, hs, hinv⟩ := Run.exec_induction (step cfg) {} (G := fun _ _ => True)
    (P := fun _ => True) (I := fun es s => Inv cfg s es) (fun _ _ _ => trivial) (inv_init cfg)
    (fun _ e _ _ h _ => h.exists_step e) es trivial fun _ _ _ _ _ _ => trivial
  exact ⟨s, hs, hinv.accounted⟩

/-- The cycles of `jack_process` only append to the queue. -/
theorem exists_exec_process (cfg : CaptureConfig) (s : CaptureThread)
    (cycles : List CapturedCycle) :
    ∃ more, Run.exec (step cfg) s (cycles.map .process) = some { s with
      audioInBuffer := s.audioInBuffer ++ more, captured := s.captured ++ more } := by
  induction cycles generalizing s with
  | nil => exact ⟨[], by simp [Run.exec]⟩
  | cons cycle cycles ih =>
      rw [List.map_cons]
      by_cases hport : s.inputPort
      · obtain ⟨more, hmore⟩ := ih { s with
          audioInBuffer := s.audioInBuffer ++ [cycle.rxBuffer]
          captured := s.captured ++ [cycle.rxBuffer] }
        refine ⟨cycle.rxBuffer :: more, ?_⟩
        rw [Run.exec_cons, step, if_pos hport, Option.bind_some, hmore]
        simp
      · obtain ⟨more, hmore⟩ := ih s
        exact ⟨more, by rw [Run.exec_cons, step, if_neg hport, Option.bind_some, hmore]⟩

/-- One turn of the loop publishes the front of a queue that has not got too long and pops it,
whatever is captured between its steps. -/
theorem exists_turn (hlocal : cfg.isLocal cfg.jackModemIndex) (hstate : s.loopState = .inspect)
    {front : AudioBuffer} {queue : List AudioBuffer} (hqueue : s.audioInBuffer = front :: queue)
    (hmax : ¬ cfg.maxBufferSize % 2 ^ 64 ≤ s.audioInBuffer.length)
    (cycles cycles' : List CapturedCycle) :
    ∃ t more, Run.exec (step cfg) s
        (.loop :: cycles.map .process ++ .loop :: (cycles'.map .process ++ [.loop])) = some t ∧
      t.published = s.published ++ [front] ∧ t.captured = s.captured ++ more ∧
      t.audioInBuffer = queue ++ more ∧ t.loopState = .inspect := by
  have hinspect : step cfg s .loop = some { s with loopState := .publish front } := by
    rw [step, if_pos hlocal, loopStep, hstate, hqueue]
    exact if_neg (hqueue ▸ hmax)
  obtain ⟨more, hmore⟩ := exists_exec_process cfg { s with loopState := .publish front } cycles
  -- the front is published without the mutex, and popped when others have been queued
  obtain ⟨more', hmore'⟩ := exists_exec_process cfg
    { s with
      audioInBuffer := s.audioInBuffer ++ more
      loopState := .pop front
      captured := s.captured ++ more
      published := s.published ++ [front] } cycles'
  refine ⟨{ s with
    audioInBuffer := queue ++ (more ++ more')
    captured := s.captured ++ (more ++ more')
    published := s.published ++ [front] }, more ++ more', ?_, rfl, rfl, rfl, hstate⟩
  rw [List.cons_append, Run.exec_cons, hinspect, Option.bind_some, Run.exec_append, hmore,
    Option.bind_some, Run.exec_cons, step, if_pos hlocal, loopStep, Option.bind_some,
    Run.exec_concat, hmore', Option.bind_some, step, if_pos hlocal, loopStep]
  simp [hqueue, hstate]

/-- What is published was captured: in order, and each buffer once. -/
theorem published_sublist (h : after cfg es = some s) : s.published.Sublist s.captured := by
  have hinv := Run.exec_invariant (step cfg) {} (I := fun es s => Inv cfg s es) (inv_init cfg)
    (fun es e t u ht hu => by
      obtain ⟨u', hu', hinv⟩ := ht.exists_step e
      rw [hu, Option.some_inj] at hu'
      exact hu' ▸ hinv) es s h
  obtain ⟨positions, hselects, -⟩ := hinv.selects
  exact hselects.sublist

end Runs

end CaptureThread

end Netsim
