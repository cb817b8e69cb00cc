import Mathlib.Data.List.Nodup
import Netsim.Detector.Model

/-!
# Capture of packets

In packet mode, and while the ring is not resized, a detector neither loses nor doubles audio: what
it publishes of each packet is a contiguous run of its input, from a bounded number of buffers
before the one that was detected up to END, and every buffer with a loud sample is published
exactly once (`exists_captures`).

The positions of the published buffers in the input are kept as `Capture`s. Outside a packet the
ring holds the newest inputs since the last END; inside a packet the last capture reaches to the
end of the input.
-/

namespace Netsim

namespace DetectorThread

/-- A buffer with a sample at or above the threshold. -/
def loud (cfg : DetectorConfig) (buffer : AudioBuffer) : Bool :=
  buffer.samples.any (overThreshold cfg)

/-- The detector after the buffers `inputs`. -/
def afterInputs (cfg : DetectorConfig) (d : DetectorThread) (inputs : List AudioBuffer) :
    DetectorThread :=
  Run.run (step cfg) d (inputs.map .audioIn)

theorem afterInputs_concat (cfg : DetectorConfig) (d : DetectorThread)
    (inputs : List AudioBuffer) (buffer : AudioBuffer) :
    afterInputs cfg d (inputs ++ [buffer]) = (afterInputs cfg d inputs).audioIn cfg buffer := by
  simp [afterInputs, step]

/-- A packet as a part of the input: the buffers from position `first` up to position `stop`. -/
structure Capture where
  /-- The position of the START buffer. -/
  first : ℕ
  /-- The position of the buffer in which the packet was detected. -/
  detected : ℕ
  /-- The position behind the last buffer. -/
  stop : ℕ
  /-- The last buffer is END. -/
  ended : Bool
  /-- The packet id. -/
  id : ℤ

namespace Capture

/-- The positions of the packet. -/
def positions (c : Capture) : List ℕ := List.range' c.first (c.stop - c.first)

/-- The marker of the buffer at a position. -/
def marker (c : Capture) (k : ℕ) : Marker :=
  if k = c.first then .START
  else if k ≤ c.detected then .NONE
  else if c.ended ∧ k + 1 = c.stop then .END
  else .MIDDLE

/-- What is published of the packet. -/
def published (inputs : List AudioBuffer) (c : Capture) : List TaggedAudioBuffer :=
  c.positions.map fun k => { buffer := inputs[k]?, marker := c.marker k, packetId := c.id }

end Capture

/-- The position behind the last packet. -/
def lastStop (captures : List Capture) : ℕ := (captures.getLast?.map (·.stop)).getD 0

/-- A packet that is detected after position `since` and captured with a ring of `capacity`. -/
structure Captured (cfg : DetectorConfig) (inputs : List AudioBuffer) (capacity since : ℕ)
    (c : Capture) : Prop where
  /-- It is detected at the first loud buffer. -/
  since_le : since ≤ c.detected
  quiet : ∀ k buffer, since ≤ k → k < c.detected → inputs[k]? = some buffer →
    loud cfg buffer = false
  loud : ∃ buffer, inputs[c.detected]? = some buffer ∧ loud cfg buffer
  /-- It begins with the newest buffers up to that one, as many as there are and fit. -/
  first_eq : c.first = c.detected + 1 - min capacity (c.detected + 1 - since)
  /-- It goes on at least to the detecting buffer, and END comes after that. -/
  detected_lt : c.detected < c.stop
  stop_le : c.stop ≤ inputs.length
  end_after : c.ended → c.detected + 1 < c.stop

/-- Packets one after another, each detected after the END of the one before. -/
inductive Captures (cfg : DetectorConfig) (inputs : List AudioBuffer) (capacity : ℕ) :
    List Capture → Prop
  | nil : Captures cfg inputs capacity []
  | concat {captures : List Capture} {c : Capture} (before : Captures cfg inputs capacity captures)
      (ended : ∀ c ∈ captures, c.ended)
      (last : Captured cfg inputs capacity (lastStop captures) c) :
      Captures cfg inputs capacity (captures ++ [c])

/-! ### Positions -/

section Positions

variable {cfg : DetectorConfig} {inputs : List AudioBuffer} {capacity since : ℕ} {c : Capture}
  {captures : List Capture} {buffer : AudioBuffer}

@[simp]
theorem lastStop_nil : lastStop [] = 0 := rfl

@[simp]
theorem lastStop_concat : lastStop (captures ++ [c]) = c.stop := by
  simp [lastStop]

theorem Capture.mem_positions {k : ℕ} : k ∈ c.positions ↔ c.first ≤ k ∧ k < c.stop := by
  rw [positions, List.mem_range'_1]
  omega

theorem Captured.since_le_first (h : Captured cfg inputs capacity since c) : since ≤ c.first := by
  have hsince := h.since_le
  have hfirst := h.first_eq
  omega

/-- A ring that holds something captures at least the detecting buffer. -/
theorem Captured.first_le (h : Captured cfg inputs capacity since c) (hcapacity : 1 ≤ capacity) :
    c.first ≤ c.detected := by
  have hsince := h.since_le
  have hfirst := h.first_eq
  omega

theorem Captured.concat (h : Captured cfg inputs capacity since c) (buffer : AudioBuffer) :
    Captured cfg (inputs ++ [buffer]) capacity since c := by
  have hlt := h.detected_lt
  have hle := h.stop_le
  have hold {k : ℕ} (hk : k < inputs.length) : (inputs ++ [buffer])[k]? = inputs[k]? :=
    List.getElem?_append_left hk
  refine ⟨h.since_le, fun k b hsince hk hb => ?_, ?_, h.first_eq, hlt, ?_, h.end_after⟩
  · rw [hold (by omega)] at hb
    exact h.quiet k b hsince hk hb
  · obtain ⟨b, hb, hloud⟩ := h.loud
    exact ⟨b, by rwa [hold (by omega)], hloud⟩
  · rw [List.length_append]
    omega

theorem Captures.concat_input (h : Captures cfg inputs capacity captures) (buffer : AudioBuffer) :
    Captures cfg (inputs ++ [buffer]) capacity captures := by
  induction h with
  | nil => exact .nil
  | concat before ended last ih => exact ih.concat ended (last.concat buffer)

theorem captures_concat_iff : Captures cfg inputs capacity (captures ++ [c]) ↔
    Captures cfg inputs capacity captures ∧ (∀ c ∈ captures, c.ended) ∧
      Captured cfg inputs capacity (lastStop captures) c := by
  constructor
  · intro h
    generalize heq : captures ++ [c] = all at h
    cases h with
    | nil => simp at heq
    | concat before ended last =>
        obtain ⟨rfl, hc⟩ := List.append_inj' heq rfl
        obtain rfl := List.singleton_inj.1 hc
        exact ⟨before, ended, last⟩
  · rintro ⟨before, ended, last⟩
    exact before.concat ended last

/-- Packets lie within the input, before the end of the last one. -/
theorem Captures.lastStop_le (h : Captures cfg inputs capacity captures) :
    lastStop captures ≤ inputs.length := by
  cases h with
  | nil => exact Nat.zero_le _
  | concat before ended last =>
      rw [lastStop_concat]
      exact last.stop_le

theorem Captures.lt_lastStop (h : Captures cfg inputs capacity captures) {k : ℕ}
    (hk : k ∈ captures.flatMap (·.positions)) : k < lastStop captures := by
  induction h with
  | nil => simp at hk
  | concat before ended last ih =>
      rw [lastStop_concat]
      rw [List.flatMap_append, List.mem_append, List.flatMap_singleton] at hk
      rcases hk with hk | hk
      -- a position of an earlier packet comes before the last packet
      · have hlt := ih hk
        have hsince := last.since_le
        have hstop := last.detected_lt
        omega
      · exact (Capture.mem_positions.1 hk).2

/-- No position occurs twice, and all are in order. -/
theorem Captures.increasing (h : Captures cfg inputs capacity captures) :
    (captures.flatMap (·.positions)).Pairwise (· < ·) := by
  induction h with
  | nil => simp
  | concat before ended last ih =>
      rw [List.flatMap_append, List.flatMap_singleton, List.pairwise_append]
      refine ⟨ih, List.pairwise_lt_range', fun i hi j hj => ?_⟩
      have hlt := before.lt_lastStop hi
      have hfirst := last.since_le_first
      have hle := (Capture.mem_positions.1 hj).1
      omega

/-- What is published of packets within the input does not depend on later input. -/
theorem Captures.published_concat (h : Captures cfg inputs capacity captures)
    (buffer : AudioBuffer) : captures.flatMap (·.published (inputs ++ [buffer])) =
      captures.flatMap (·.published inputs) := by
  induction h with
  | nil => rfl
  | concat before ended last ih =>
      rw [List.flatMap_append, List.flatMap_append, ih]
      simp only [List.flatMap_singleton, List.append_cancel_left_eq, Capture.published]
      refine List.map_congr_left fun k hk => ?_
      have hstop := last.stop_le
      have hlt := (Capture.mem_positions.1 hk).2
      rw [List.getElem?_append_left (by omega)]

end Positions

/-! ### The published buffers of one packet -/

section Published

variable {inputs : List AudioBuffer} {c : Capture} {buffer : AudioBuffer}

/-- The inputs from some position on. -/
theorem map_getElem?_range' (inputs : List AudioBuffer) (m : ℕ) :
    (List.range' m (inputs.length - m)).map (fun k => inputs[k]?) =
      (inputs.drop m).map some := by
  refine List.ext_getElem? fun i => ?_
  rw [List.getElem?_map, List.getElem?_map, List.getElem?_drop]
  by_cases hi : i < inputs.length - m
  · have hlt : m + i < inputs.length := by omega
    simp [List.getElem?_range' hi, hlt]
  · have hle : inputs.length ≤ m + i := by omega
    simp [hi, hle]

/-- A packet that has just been detected is the contents of the ring: its oldest buffer as START,
the others without a marker. -/
theorem published_of_detected {first : AudioBuffer} {rest : List (Option AudioBuffer)}
    (hdetected : inputs.length = c.detected + 1) (hstop : c.stop = c.detected + 1)
    (hitems : (inputs.drop c.first).map some = some first :: rest) :
    c.published inputs = { buffer := some first, marker := .START, packetId := c.id } ::
      rest.map fun b => { buffer := b, packetId := c.id } := by
  have hrange := map_getElem?_range' inputs c.first
  rw [hitems, hdetected, ← hstop] at hrange
  -- the ring is not empty, and the packet begins with its oldest entry
  obtain ⟨n, hn⟩ : ∃ n, c.stop - c.first = n + 1 := by
    refine Nat.exists_eq_succ_of_ne_zero fun hzero => ?_
    simp [hzero] at hrange
  rw [hn, List.range'_succ, List.map_cons, List.cons_eq_cons] at hrange
  obtain ⟨hfirst, hrest⟩ := hrange
  rw [Capture.published, Capture.positions, hn, List.range'_succ, List.map_cons, hfirst, ← hrest,
    List.map_map]
  refine congrArg₂ _ (by simp [Capture.marker]) (List.map_congr_left fun k hk => ?_)
  have hk := List.mem_range'_1.1 hk
  have hmarker : c.marker k = .NONE := by
    rw [Capture.marker, if_neg (by omega), if_pos (by omega)]
  simp [hmarker]

/-- A packet that goes on grows by one buffer. -/
theorem published_of_inPacket (hended : c.ended = false) (hfirst : c.first ≤ c.detected)
    (hdetected : c.detected < c.stop) (hstop : c.stop = inputs.length) (ended : Bool) :
    Capture.published (inputs ++ [buffer]) { c with stop := c.stop + 1, ended := ended } =
      c.published inputs ++ [{ buffer := some buffer, marker := if ended then .END else .MIDDLE,
                               packetId := c.id }] := by
  have hpositions : Capture.positions { c with stop := c.stop + 1, ended := ended } =
      c.positions ++ [c.stop] := by
    have hlength : c.stop + 1 - c.first = c.stop - c.first + 1 := by omega
    have hlast : c.first + (c.stop - c.first) = c.stop := by omega
    simp only [Capture.positions]
    rw [hlength, List.range'_1_concat, hlast]
  rw [Capture.published, hpositions, List.map_append, List.map_singleton, Capture.published]
  congr 1
  -- the marker of an earlier buffer does not change: none of them was END
  · refine List.map_congr_left fun k hk => ?_
    have hlt := (Capture.mem_positions.1 hk).2
    rw [List.getElem?_append_left (by omega)]
    simp [Capture.marker, hended, Nat.ne_of_lt hlt]
  · have hne : ¬ c.stop = c.first := by omega
    have hlt : ¬ c.stop ≤ c.detected := by omega
    have hlast : (inputs ++ [buffer])[c.stop]? = some buffer := by simp [hstop]
    simp [Capture.marker, hne, hlt, hlast]

end Published

/-! ### The detector captures packets -/

/-- What the detector has captured of the inputs so far, starting from `d₀`. -/
structure Capturing (cfg : DetectorConfig) (d₀ : DetectorThread) (inputs : List AudioBuffer)
    (captures : List Capture) (d : DetectorThread) : Prop where
  cut : Captures cfg inputs d₀.prebuffer.capacity captures
  published : d.detectorAudio = d₀.detectorAudio ++ captures.flatMap (·.published inputs)
  capacity : d.prebuffer.capacity = d₀.prebuffer.capacity
  covered : ∀ k buffer, inputs[k]? = some buffer → loud cfg buffer →
    k ∈ captures.flatMap (·.positions)
  /-- Outside a packet, the ring holds the newest inputs since the last END. -/
  outside : d.inPacket = false → (∀ c ∈ captures, c.ended) ∧
    d.prebuffer.items = (inputs.drop
      (max (lastStop captures) (inputs.length - d₀.prebuffer.capacity))).map some
  /-- Inside a packet, the last capture reaches to the last input and the ring is empty. -/
  inside : d.inPacket = true → d.prebuffer.items = [] ∧ ∃ before c, captures = before ++ [c] ∧
    c.ended = false ∧ c.stop = inputs.length ∧ c.id = d.inPacketId

section Steps

variable {cfg : DetectorConfig} {d₀ d : DetectorThread} {inputs : List AudioBuffer}
  {captures : List Capture} {buffer : AudioBuffer}

theorem capturing_init (hout : d₀.inPacket = false) (hempty : d₀.prebuffer.items = []) :
    Capturing cfg d₀ [] [] d₀ where
  cut := .nil
  published := by simp
  capacity := rfl
  covered k b hb := by simp at hb
  outside _ := by simp [hempty]
  inside hin := by simp [hout] at hin

/-- A buffer enters the ring, which then holds the newest inputs since the last END. -/
theorem Capturing.items_pushBack (h : Capturing cfg d₀ inputs captures d)
    (hout : d.inPacket = false) (buffer : AudioBuffer) :
    (d.prebuffer.pushBack (some buffer)).items = ((inputs ++ [buffer]).drop
      (max (lastStop captures) (inputs.length + 1 - d₀.prebuffer.capacity))).map some := by
  have hle := h.cut.lastStop_le
  have hitems := (h.outside hout).2
  have hlength : d.prebuffer.items.length = inputs.length -
      max (lastStop captures) (inputs.length - d₀.prebuffer.capacity) := by
    simp [hitems]
  have hdrop : (inputs ++ [buffer]).drop
      (max (lastStop captures) (inputs.length - d₀.prebuffer.capacity)) =
        inputs.drop (max (lastStop captures) (inputs.length - d₀.prebuffer.capacity)) ++
          [buffer] := List.drop_append_of_le_length (by omega)
  -- what the ring drops is dropped from the inputs as well
  have hsum : max (lastStop captures) (inputs.length + 1 - d₀.prebuffer.capacity) =
      max (lastStop captures) (inputs.length - d₀.prebuffer.capacity) +
        (d.prebuffer.items.length + 1 - d.prebuffer.capacity) := by
    rw [hlength, h.capacity]
    omega
  rw [CircularBuffer.items_pushBack, hsum, ← List.drop_drop, hdrop]
  generalize d.prebuffer.items.length + 1 - d.prebuffer.capacity = n
  simp only [hitems, List.map_drop, List.map_append, List.map_singleton]

theorem Capturing.covered_concat (h : Capturing cfg d₀ inputs captures d)
    {captures' : List Capture} (hcaptures : ∀ k ∈ captures.flatMap (·.positions),
      k ∈ captures'.flatMap (·.positions))
    (hlast : loud cfg buffer → inputs.length ∈ captures'.flatMap (·.positions)) (k : ℕ)
    (b : AudioBuffer) (hb : (inputs ++ [buffer])[k]? = some b) (hloud : loud cfg b) :
    k ∈ captures'.flatMap (·.positions) := by
  rcases Nat.lt_trichotomy k inputs.length with hlt | rfl | hgt
  · rw [List.getElem?_append_left hlt] at hb
    exact hcaptures k (h.covered k b hb hloud)
  · obtain rfl : buffer = b := by simpa using hb
    exact hlast hloud
  · have hnone : (inputs ++ [buffer])[k]? = none := List.getElem?_eq_none (by simp; omega)
    rw [hnone] at hb
    cases hb

/-- A quiet buffer outside a packet. -/
theorem Capturing.audioIn_of_quiet (hc : cfg.continuous = false)
    (h : Capturing cfg d₀ inputs captures d) (hout : d.inPacket = false)
    (hquiet : loud cfg buffer = false) :
    Capturing cfg d₀ (inputs ++ [buffer]) captures (d.audioIn cfg buffer) := by
  have hdetects : detects cfg d buffer = false := by
    rw [loud] at hquiet
    rw [detects, hquiet, Bool.and_false]
  have hitems := h.items_pushBack hout buffer
  rw [audioIn_of_not_detects hc hout hdetects]
  refine ⟨h.cut.concat_input buffer, ?_, ?_, ?_, fun _ => ⟨(h.outside hout).1, ?_⟩, ?_⟩
  · rw [h.cut.published_concat]
    exact h.published
  · simpa using h.capacity
  · exact h.covered_concat (fun k hk => hk) (by simp [hquiet])
  · simpa using hitems
  · intro hin
    simp [hout] at hin

/-- A loud buffer outside a packet starts the next one. -/
theorem Capturing.audioIn_of_loud (hc : cfg.continuous = false)
    (hcapacity : 1 ≤ d₀.prebuffer.capacity) (h : Capturing cfg d₀ inputs captures d)
    (hout : d.inPacket = false) (hloud : loud cfg buffer) :
    ∃ captures', Capturing cfg d₀ (inputs ++ [buffer]) captures' (d.audioIn cfg buffer) := by
  have hle := h.cut.lastStop_le
  have hitems := h.items_pushBack hout buffer
  have hdetects : detects cfg d buffer := by
    rw [loud] at hloud
    rw [detects, hout, hloud]
    rfl
  let c : Capture :=
    { first := max (lastStop captures) (inputs.length + 1 - d₀.prebuffer.capacity)
      detected := inputs.length
      stop := inputs.length + 1
      ended := false
      id := d.globalPacketId }
  have hcaptured : Captured cfg (inputs ++ [buffer]) d₀.prebuffer.capacity (lastStop captures) c :=
    { since_le := hle
      quiet := fun k b hsince hk hb => by
        -- a loud buffer would have been captured already, before the last END
        rw [List.getElem?_append_left hk] at hb
        by_contra hb'
        have hlt := h.cut.lt_lastStop (h.covered k b hb (by simpa using hb'))
        omega
      loud := ⟨buffer, by simp [c], hloud⟩
      first_eq := by
        simp only [c]
        omega
      detected_lt := Nat.lt_succ_self _
      stop_le := by simp [c]
      end_after := fun hended => by simp [c] at hended }
  have hring : ((inputs ++ [buffer]).drop c.first).map some =
      (d.prebuffer.pushBack (some buffer)).items := hitems.symm
  have hlast : inputs.length ∈ c.positions := by
    rw [Capture.mem_positions]
    exact ⟨hcaptured.first_le hcapacity, Nat.lt_succ_self _⟩
  -- the ring holds at least the buffer itself
  obtain ⟨first, rest, hcons⟩ : ∃ first rest,
      (d.prebuffer.pushBack (some buffer)).items = some first :: rest := by
    have hne : (inputs ++ [buffer]).drop c.first ≠ [] := by
      have hfirst := hcaptured.first_le hcapacity
      simp only [ne_eq, List.drop_eq_nil_iff, List.length_append, List.length_singleton]
      exact Nat.not_le.2 (Nat.lt_succ_of_le hfirst)
    obtain ⟨first, rest, hdrop⟩ := List.exists_cons_of_ne_nil hne
    exact ⟨first, rest.map some, by rw [← hring, hdrop, List.map_cons]⟩
  refine ⟨captures ++ [c], ?_⟩
  rw [audioIn_of_items hc hdetects hcons]
  refine ⟨(h.cut.concat_input buffer).concat (h.outside hout).1 hcaptured, ?_, ?_,
    h.covered_concat ?_ ?_, fun hin => by simp at hin, fun _ => ⟨rfl, captures, c, rfl, rfl, ?_,
      rfl⟩⟩
  · rw [List.flatMap_append, List.flatMap_singleton, h.cut.published_concat, h.published,
      published_of_detected (by simp [c]) rfl (hring.trans hcons), List.append_assoc]
  · simpa using h.capacity
  · intro k hk
    rw [List.flatMap_append]
    exact List.mem_append_left _ hk
  · intro _
    rw [List.flatMap_append, List.flatMap_singleton]
    exact List.mem_append_right _ hlast
  · simp [c]

/-- A buffer inside a packet is its next one. -/
theorem Capturing.audioIn_of_inPacket (hc : cfg.continuous = false)
    (hcapacity : 1 ≤ d₀.prebuffer.capacity) (h : Capturing cfg d₀ inputs captures d)
    (hin : d.inPacket = true) :
    ∃ captures', Capturing cfg d₀ (inputs ++ [buffer]) captures' (d.audioIn cfg buffer) := by
  obtain ⟨hempty, before, c, rfl, hended, hstop, hid⟩ := h.inside hin
  obtain ⟨hbefore, hallEnded, hcaptured⟩ := captures_concat_iff.1 h.cut
  rcases hscan : scanSilence cfg d.framesSinceSilence buffer.samples with ⟨silence, ended⟩
  have hfirst := hcaptured.first_le hcapacity
  have hlt := hcaptured.detected_lt
  let c' : Capture := { c with stop := c.stop + 1, ended := ended }
  have hcaptured' : Captured cfg (inputs ++ [buffer]) d₀.prebuffer.capacity (lastStop before) c' :=
    { hcaptured.concat buffer with
      detected_lt := Nat.lt_succ_of_lt hlt
      stop_le := by simp [c', hstop]
      end_after := fun _ => Nat.succ_lt_succ hlt }
  have hmem (k : ℕ) : k ∈ c'.positions ↔ k ∈ c.positions ∨ k = c.stop := by
    have hfirst' : c'.first = c.first := rfl
    have hstop' : c'.stop = c.stop + 1 := rfl
    rw [Capture.mem_positions, Capture.mem_positions, hfirst', hstop']
    omega
  refine ⟨before ++ [c'], ?_⟩
  rw [DetectorThread.audioIn_of_inPacket hc hin hscan]
  refine ⟨(hbefore.concat_input buffer).concat hallEnded hcaptured', ?_, h.capacity,
    h.covered_concat ?_ ?_, fun hout => ⟨?_, ?_⟩, fun hin' => ⟨hempty, before, c', rfl, ?_, ?_,
      hid⟩⟩
  · simp only [h.published, List.flatMap_append, List.flatMap_singleton,
      hbefore.published_concat, c']
    rw [published_of_inPacket hended hfirst hlt hstop, hid, List.append_assoc, List.append_assoc]
  · intro k hk
    rw [List.flatMap_append, List.flatMap_singleton, List.mem_append] at hk ⊢
    exact hk.imp_right fun hk => (hmem k).2 (.inl hk)
  · intro _
    rw [List.flatMap_append, List.flatMap_singleton]
    exact List.mem_append_right _ ((hmem _).2 (.inr hstop.symm))
  -- END: the next packet begins behind this buffer
  · intro x hx
    rcases List.mem_append.1 hx with hx | hx
    · exact hallEnded x hx
    · rw [List.mem_singleton.1 hx]
      simpa [c'] using hout
  · simp [hempty, c', hstop]
  · simpa [c'] using hin'
  · simp [c', hstop]

end Steps

/-- In packet mode, with a ring that is empty and not resized, what is published of each packet is
the run of the input from the newest buffers that fit before the detection up to END. No input is
published twice, and every loud one is published once. -/
theorem exists_captures (cfg : DetectorConfig) (hc : cfg.continuous = false) (d₀ : DetectorThread)
    (hcapacity : 1 ≤ d₀.prebuffer.capacity) (hout : d₀.inPacket = false)
    (hempty : d₀.prebuffer.items = []) (inputs : List AudioBuffer) :
    ∃ captures, Captures cfg inputs d₀.prebuffer.capacity captures ∧
      (∀ c ∈ captures, c.ended ∨ c.stop = inputs.length) ∧
      (afterInputs cfg d₀ inputs).detectorAudio =
        d₀.detectorAudio ++ captures.flatMap (·.published inputs) ∧
      (captures.flatMap (·.positions)).Pairwise (· < ·) ∧
      ∀ k buffer, inputs[k]? = some buffer → loud cfg buffer →
        (captures.flatMap (·.positions)).count k = 1 := by
  have hinv : ∃ captures, Capturing cfg d₀ inputs captures (afterInputs cfg d₀ inputs) := by
    -- on the inputs so far: the next one is quiet, starts a packet or goes on with one
    induction inputs using List.reverseRecOn with
    | nil => exact ⟨[], capturing_init hout hempty⟩
    | append_singleton inputs buffer ih =>
        obtain ⟨captures, h⟩ := ih
        rw [afterInputs_concat]
        cases hin : (afterInputs cfg d₀ inputs).inPacket with
        | true => exact h.audioIn_of_inPacket hc hcapacity hin
        | false =>
            cases hloud : loud cfg buffer with
            | true => exact h.audioIn_of_loud hc hcapacity hin hloud
            | false => exact ⟨captures, h.audioIn_of_quiet hc hin hloud⟩
  obtain ⟨captures, h⟩ := hinv
  refine ⟨captures, h.cut, fun c hmem => ?_, h.published, h.cut.increasing,
    fun k buffer hk hloud => ?_⟩
  · cases hin : (afterInputs cfg d₀ inputs).inPacket with
    | false => exact .inl ((h.outside hin).1 c hmem)
    -- only the last packet can be open
    | true =>
        obtain ⟨-, before, last, rfl, -, hstop, -⟩ := h.inside hin
        obtain ⟨-, hended, -⟩ := captures_concat_iff.1 h.cut
        rcases List.mem_append.1 hmem with hmem | hmem
        · exact .inl (hended c hmem)
        · rw [List.mem_singleton.1 hmem]
          exact .inr hstop
  · have hnodup : (captures.flatMap (·.positions)).Nodup :=
      h.cut.increasing.imp Nat.ne_of_lt
    exact List.count_eq_one_of_mem hnodup (h.covered k buffer hk hloud)

/-- A ring of two buffers: a loud buffer after three quiet ones, followed by a quiet one. -/
theorem exists_captures_of_five_inputs :
    let loudBuffer : AudioBuffer := ⟨3, 0, [.ofFields false 127 0]⟩
    let inputs : List AudioBuffer := [⟨0, 0, [silence]⟩, ⟨1, 0, [silence]⟩, ⟨2, 0, [silence]⟩,
      loudBuffer, ⟨4, 0, [silence]⟩]
    (afterInputs {} { prebuffer := .empty 2 } inputs).detectorAudio.map (·.buffer) =
        [inputs[2]?, inputs[3]?, inputs[4]?] ∧
      ∃ captures, Captures {} inputs 2 captures ∧
        (afterInputs {} { prebuffer := .empty 2 } inputs).detectorAudio =
          captures.flatMap (·.published inputs) := by
  intro loudBuffer inputs
  obtain ⟨captures, hcaptures, -, hpublished, -⟩ :=
    exists_captures {} rfl { prebuffer := .empty 2 } (by decide) rfl rfl inputs
  exact ⟨by decide +kernel, captures, hcaptures, by simpa using hpublished⟩

end DetectorThread

end Netsim
