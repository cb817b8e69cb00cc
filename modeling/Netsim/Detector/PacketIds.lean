import Mathlib.Data.List.Nodup
import Mathlib.Logic.Function.Basic
import Netsim.Detector.Capture

/-!
# Packet ids of a process

A `netsim_core` process runs one `DetectorThread<i>` for every local modem. The counter
`global_packet_id` is a static local of a member function of the class template, and so there is
one for each `i`, which starts from 0 like all others. The ids of a process are therefore distinct
iff only one of its detectors ever hears anything, and does not start more packets than an `int`
has values (`uniqueIds_iff_oneDetects`).
-/

namespace Netsim

/-- The detectors of a process. -/
structure Detectors where
  /-- `DetectorThread<from_index>`, with the counter of its own instantiation. -/
  thread : ℤ → DetectorThread := fun _ => {}
  /-- The packets started so far: the detector, and the id it gave. -/
  started : List (ℤ × ℤ) := []

namespace Detectors

open DetectorThread

/-- Whether the event starts a packet. -/
def starts (cfg : DetectorConfig) (d : DetectorThread) : DetectorEvent → Bool
  | .bufferSizeChange _ => false
  | .audioIn buffer => detects cfg d buffer

/-- One event at the detector with the given index. -/
def step (cfg : DetectorConfig) (s : Detectors) (e : ℤ × DetectorEvent) : Detectors :=
  let d := (s.thread e.1).step cfg e.2
  { thread := Function.update s.thread e.1 d
    started :=
      if starts cfg (s.thread e.1) e.2 then s.started ++ [(e.1, d.inPacketId)] else s.started }

/-- The detectors after the events `es`. -/
def after (cfg : DetectorConfig) (es : List (ℤ × DetectorEvent)) : Detectors :=
  Run.run (step cfg) {} es

/-- Different packets have different ids. -/
def UniqueIds (s : Detectors) : Prop := (s.started.map (·.2)).Nodup

/-- All loud buffers are received by one detector. -/
def OneDetects (cfg : DetectorConfig) (es : List (ℤ × DetectorEvent)) : Prop :=
  ∀ i j buffer buffer', (i, .audioIn buffer) ∈ es → (j, .audioIn buffer') ∈ es →
    loud cfg buffer → loud cfg buffer' → i = j

/-- A packet is started after fewer packets than the counter has values. -/
def CounterFresh (cfg : DetectorConfig) (s : Detectors) (e : ℤ × DetectorEvent) : Prop :=
  starts cfg (s.thread e.1) e.2 → s.started.length < 2 ^ 32

/-! ### One detector -/

section Thread

variable {cfg : DetectorConfig} {d : DetectorThread} {e : DetectorEvent}

/-- The start of a packet takes the id from the counter. -/
theorem startPacket_ids (cfg : DetectorConfig) (d : DetectorThread) (buffer : AudioBuffer) :
    (d.startPacket cfg buffer).inPacket = true ∧
      (d.startPacket cfg buffer).inPacketId = d.globalPacketId ∧
      (d.startPacket cfg buffer).globalPacketId = (d.globalPacketId + 1).bmod (2 ^ 32) := by
  unfold startPacket
  dsimp only
  -- the branches differ in what they publish
  split
  · exact ⟨rfl, rfl, rfl⟩
  · split
    · exact ⟨rfl, rfl, rfl⟩
    · exact ⟨rfl, rfl, rfl⟩

theorem step_of_starts (h : starts cfg d e) :
    (d.step cfg e).inPacketId = d.globalPacketId ∧
      (d.step cfg e).globalPacketId = (d.globalPacketId + 1).bmod (2 ^ 32) := by
  cases e with
  | bufferSizeChange n => simp [starts] at h
  | audioIn buffer =>
      obtain ⟨hout, hloud⟩ :
          d.inPacket = false ∧ buffer.samples.any (overThreshold cfg) = true := by
        simpa [starts, detects] using h
      obtain ⟨hin, hid, hnext⟩ := startPacket_ids cfg
        { d with prebuffer := d.prebuffer.pushBack (some buffer) } buffer
      have hopen : (!d.inPacket) = true := by simp [hout]
      rw [DetectorThread.step, audioIn, if_pos hopen]
      dsimp only
      rw [if_pos hloud, if_neg (by simp [hin])]
      exact ⟨hid, hnext⟩

/-- Any other event leaves the counter alone, and opens no packet. -/
theorem step_of_not_starts (h : starts cfg d e = false) :
    (d.step cfg e).globalPacketId = d.globalPacketId ∧
      (d.inPacket = false → (d.step cfg e).inPacket = false) := by
  cases e with
  | bufferSizeChange n => simp [DetectorThread.step]
  | audioIn buffer =>
      rw [DetectorThread.step, audioIn]
      cases hin : d.inPacket with
      | false =>
          have hquiet : buffer.samples.any (overThreshold cfg) = false := by
            simpa [starts, detects, hin] using h
          simp only [hquiet, Bool.not_false, if_true, Bool.false_eq_true, if_false, Bool.and_true]
          -- the buffer is published in continuous mode, and only there
          split
          · exact ⟨rfl, fun _ => rfl⟩
          · exact ⟨rfl, fun _ => rfl⟩
      | true =>
          simp only [Bool.not_true, Bool.false_eq_true, if_false]
          refine ⟨?_, fun hout => absurd hout (by simp)⟩
          split <;> split <;> rfl

end Thread

/-! ### All detectors -/

/-- The packets of one detector. -/
def startedBy (s : Detectors) (i : ℤ) : List (ℤ × ℤ) := s.started.filter (·.1 = i)

/-- The invariant of a run: each detector has counted its packets from 0 on, and has started one iff
it has heard something. -/
structure Numbered (cfg : DetectorConfig) (es : List (ℤ × DetectorEvent)) (s : Detectors) :
    Prop where
  ids : ∀ i, (s.startedBy i).map (·.2) =
    (List.range (s.startedBy i).length).map fun k : ℕ => (k : ℤ).bmod (2 ^ 32)
  counter : ∀ i, (s.thread i).globalPacketId = ((s.startedBy i).length : ℤ).bmod (2 ^ 32)
  waiting : ∀ i, s.startedBy i = [] → (s.thread i).inPacket = false
  heard : ∀ i, s.startedBy i ≠ [] ↔ ∃ buffer, (i, .audioIn buffer) ∈ es ∧ loud cfg buffer

section Runs

variable {cfg : DetectorConfig} {es : List (ℤ × DetectorEvent)} {s : Detectors}

theorem numbered_init (cfg : DetectorConfig) : Numbered cfg [] {} where
  ids _ := by simp [startedBy]
  counter _ := by simp [startedBy]
  waiting _ _ := rfl
  heard _ := by simp [startedBy]

/-- An event that starts a packet is a loud buffer. -/
theorem exists_loud_of_starts {d : DetectorThread} {e : DetectorEvent} (h : starts cfg d e) :
    ∃ buffer, e = .audioIn buffer ∧ loud cfg buffer := by
  cases e with
  | bufferSizeChange n => simp [starts] at h
  | audioIn buffer =>
      simp only [starts, detects, Bool.and_eq_true] at h
      exact ⟨buffer, rfl, h.2⟩

/-- A loud buffer starts a packet, unless the detector is inside one. -/
theorem starts_of_loud {d : DetectorThread} {buffer : AudioBuffer} (hout : d.inPacket = false)
    (hloud : loud cfg buffer) : starts cfg d (.audioIn buffer) := by
  rw [loud] at hloud
  rw [starts, detects, hout, hloud]
  rfl

theorem Numbered.step_of_starts (h : Numbered cfg es s) {i : ℤ} {e : DetectorEvent}
    (hstarts : starts cfg (s.thread i) e) :
    Numbered cfg (es ++ [(i, e)]) (s.step cfg (i, e)) := by
  obtain ⟨hid, hnext⟩ := Detectors.step_of_starts hstarts
  rw [h.counter i] at hid hnext
  have hstarted (j : ℤ) : (s.step cfg (i, e)).startedBy j =
      if j = i then s.startedBy i ++ [(i, ((s.startedBy i).length : ℤ).bmod (2 ^ 32))]
      else s.startedBy j := by
    simp only [step, startedBy, hstarts, if_true, hid, List.filter_append]
    split_ifs with hj
    · simp [hj]
    · simp [Ne.symm hj]
  have hthread (j : ℤ) : (s.step cfg (i, e)).thread j =
      if j = i then (s.thread i).step cfg e else s.thread j := by
    simp [step, Function.update_apply]
  refine ⟨fun j => ?_, fun j => ?_, fun j hj => ?_, fun j => ?_⟩
  · rw [hstarted]
    split_ifs with hj
    · simp [List.range_succ, h.ids i]
    · exact h.ids j
  · rw [hthread, hstarted]
    split_ifs with hj
    · rw [hnext, Int.bmod_add_bmod]
      simp
    · exact h.counter j
  · rw [hstarted] at hj
    rw [hthread]
    split_ifs at hj ⊢ with hi
    · simp at hj
    · exact h.waiting j hj
  · obtain ⟨buffer, rfl, hloud⟩ := exists_loud_of_starts hstarts
    rw [hstarted]
    split_ifs with hj
    · simp only [ne_eq, List.append_eq_nil_iff, List.cons_ne_self, and_false, not_false_eq_true,
        true_iff]
      exact ⟨buffer, by simp [hj], hloud⟩
    · simp [h.heard j, hj]

theorem Numbered.step_of_not_starts (h : Numbered cfg es s) {i : ℤ} {e : DetectorEvent}
    (hstarts : starts cfg (s.thread i) e = false) :
    Numbered cfg (es ++ [(i, e)]) (s.step cfg (i, e)) := by
  obtain ⟨hcounter, hopen⟩ := Detectors.step_of_not_starts hstarts
  have hstarted (j : ℤ) : (s.step cfg (i, e)).startedBy j = s.startedBy j := by
    simp [step, startedBy, hstarts]
  have hthread (j : ℤ) : (s.step cfg (i, e)).thread j =
      if j = i then (s.thread i).step cfg e else s.thread j := by
    simp [step, Function.update_apply]
  refine ⟨fun j => by rw [hstarted, h.ids j], fun j => ?_, fun j hj => ?_, fun j => ?_⟩
  · rw [hthread, hstarted]
    split_ifs with hj
    · rw [hcounter, hj, h.counter i]
    · exact h.counter j
  · rw [hstarted] at hj
    rw [hthread]
    split_ifs with hi
    · exact hopen (h.waiting i (hi ▸ hj))
    · exact h.waiting j hj
  · rw [hstarted, h.heard j]
    constructor
    · rintro ⟨buffer, hmem, hloud⟩
      exact ⟨buffer, List.mem_append_left _ hmem, hloud⟩
    · rintro ⟨buffer, hmem, hloud⟩
      rcases List.mem_append.1 hmem with hmem | hmem
      · exact ⟨buffer, hmem, hloud⟩
      -- a loud buffer that starts no packet comes inside one
      · obtain ⟨rfl, rfl⟩ := Prod.mk.injEq _ _ _ _ ▸ List.mem_singleton.1 hmem
        refine (h.heard j).1 fun hnil => ?_
        rw [starts_of_loud (h.waiting j hnil) hloud] at hstarts
        cases hstarts

theorem numbered_after (cfg : DetectorConfig) (es : List (ℤ × DetectorEvent)) :
    Numbered cfg es (after cfg es) := by
  refine Run.run_invariant (step cfg) {} (numbered_init cfg) (fun es e s h => ?_) es
  obtain ⟨i, e⟩ := e
  cases hstarts : starts cfg (s.thread i) e with
  | true => exact h.step_of_starts hstarts
  | false => exact h.step_of_not_starts hstarts

/-- The packets are at most as many as the counter has values iff every one of them was started
while they were fewer. -/
theorem length_started_le_iff (cfg : DetectorConfig) (es : List (ℤ × DetectorEvent)) :
    (after cfg es).started.length ≤ 2 ^ 32 ↔ Run.Always (step cfg) {} (CounterFresh cfg) es := by
  induction es using List.reverseRecOn with
  | nil => simp [after, Run.always_nil]
  | append_singleton es e ih =>
      rw [Run.always_concat, ← ih, after, Run.run_concat, ← after, CounterFresh, step]
      cases starts cfg ((after cfg es).thread e.1) e.2 with
      | false => simp
      | true =>
          simp only [if_true, List.length_append, List.length_singleton, true_implies]
          omega

end Runs

/-! ### Uniqueness -/

section Unique

variable {cfg : DetectorConfig} {es : List (ℤ × DetectorEvent)} {s : Detectors}

/-- Every detector that has started a packet has given the id 0. -/
theorem Numbered.mem_zero (h : Numbered cfg es s) {i : ℤ} (hi : s.startedBy i ≠ []) :
    (i, 0) ∈ s.started := by
  have hzero : (0 : ℤ) ∈ (s.startedBy i).map (·.2) := by
    rw [h.ids i]
    refine List.mem_map.2 ⟨0, List.mem_range.2 ?_, by simp⟩
    exact List.length_pos_of_ne_nil hi
  obtain ⟨⟨j, id⟩, hmem, hid⟩ := List.mem_map.1 hzero
  obtain ⟨hmem, hj⟩ := List.mem_filter.1 hmem
  simp only [decide_eq_true_eq] at hj hid
  rwa [hj, hid] at hmem

/-- A counter gives different ids until it has given all of its values. -/
theorem nodup_ids_iff (n : ℕ) :
    ((List.range n).map fun k : ℕ => (k : ℤ).bmod (2 ^ 32)).Nodup ↔ n ≤ 2 ^ 32 := by
  constructor
  · intro h
    by_contra hlt
    -- the first id comes again after a full turn
    have heq := List.inj_on_of_nodup_map h (List.mem_range.2 (show 0 < n by omega))
      (List.mem_range.2 (show 2 ^ 32 < n by omega)) (by simp)
    exact absurd heq (by decide)
  · intro h
    refine List.Nodup.map_on (fun k hk l hl heq => ?_) List.nodup_range
    have hk := List.mem_range.1 hk
    have hl := List.mem_range.1 hl
    rw [Int.bmod_def, Int.bmod_def] at heq
    omega

/-- If one detector has started all packets, its own packets are all of them. -/
theorem startedBy_eq_started {i : ℤ} (h : ∀ p ∈ s.started, p.1 = i) : s.startedBy i = s.started :=
  List.filter_eq_self.2 fun p hp => by simp [h p hp]

/-- The ids of a process are distinct iff at most one detector ever receives a loud buffer, and it
starts every packet after fewer than `2 ^ 32` others. -/
theorem uniqueIds_iff_oneDetects (cfg : DetectorConfig) (es : List (ℤ × DetectorEvent)) :
    (after cfg es).UniqueIds ↔
      OneDetects cfg es ∧ Run.Always (step cfg) {} (CounterFresh cfg) es := by
  have hinv := numbered_after cfg es
  rw [← length_started_le_iff, UniqueIds]
  -- a packet is started only by a detector that has heard something
  have hheard {p : ℤ × ℤ} (hmem : p ∈ (after cfg es).started) :
      (after cfg es).startedBy p.1 ≠ [] :=
    List.ne_nil_of_mem (List.mem_filter.2 ⟨hmem, by simp⟩)
  have hone (h : OneDetects cfg es) : ∃ i, ∀ p ∈ (after cfg es).started, p.1 = i := by
    cases hstarted : (after cfg es).started with
    | nil => exact ⟨0, by simp⟩
    | cons p ps =>
        refine ⟨p.1, fun q hq => ?_⟩
        obtain ⟨b, hb, hloud⟩ := (hinv.heard q.1).1 (hheard (hstarted ▸ hq))
        obtain ⟨b', hb', hloud'⟩ := (hinv.heard p.1).1 (hheard (by simp [hstarted]))
        exact h _ _ b b' hb hb' hloud hloud'
  constructor
  · intro hnodup
    have honeDetects : OneDetects cfg es := by
      intro i j b b' hb hb' hloud hloud'
      have hi := hinv.mem_zero ((hinv.heard i).2 ⟨b, hb, hloud⟩)
      have hj := hinv.mem_zero ((hinv.heard j).2 ⟨b', hb', hloud'⟩)
      have hsame := List.inj_on_of_nodup_map hnodup hi hj rfl
      exact congrArg Prod.fst hsame
    obtain ⟨i, hi⟩ := hone honeDetects
    refine ⟨honeDetects, (nodup_ids_iff _).1 ?_⟩
    have hids := hinv.ids i
    rw [startedBy_eq_started hi] at hids
    rwa [← hids]
  · rintro ⟨honeDetects, hlength⟩
    obtain ⟨i, hi⟩ := hone honeDetects
    have hids := hinv.ids i
    rw [startedBy_eq_started hi] at hids
    rw [hids]
    exact (nodup_ids_iff _).2 hlength

/-- Two detectors hear a loud buffer each, and both give the id 0. -/
theorem not_uniqueIds_of_two_detectors :
    ¬ (after {} [(0, .audioIn ⟨0, 0, [.ofFields false 127 0]⟩),
      (1, .audioIn ⟨0, 0, [.ofFields false 127 0]⟩)]).UniqueIds := by
  unfold UniqueIds
  decide +kernel

end Unique

end Detectors

end Netsim
