import Mathlib.Data.List.Basic
import Mathlib.Data.Rat.Defs
import Netsim.Core.Floats

/-!
# Audio buffers

The types every `netsim_core` thread exchanges. Sample values are single precision floats,
of which the program only takes the magnitude and compares; times are exact rationals in
seconds. A `shared_ptr` that may be null is an `Option`.
-/

namespace Netsim

/-- `netsim::sample_t`. -/
abbrev SampleT := Single

/-- The sample 0. -/
def silence : SampleT := .zero

/-- A buffer of consecutive samples. -/
structure AudioBuffer where
  /-- Time of the first sample. -/
  bufferStartTime : ℚ
  /-- JACK's frame counter at the first sample. -/
  jackFrameTime : UInt32
  /-- The samples. -/
  samples : List SampleT
deriving DecidableEq

/-- `TaggedAudioBuffer::Marker`. -/
inductive Marker
  | NONE
  | START
  | END
  | MIDDLE
deriving DecidableEq

/-- A buffer together with its place in a packet. -/
structure TaggedAudioBuffer where
  /-- The buffer, possibly null. -/
  buffer : Option AudioBuffer
  /-- The marker, `NONE` unless set. -/
  marker : Marker := .NONE
  /-- The packet the buffer belongs to, `-1` unless set. -/
  packetId : ℤ := -1
deriving DecidableEq

/-- The samples of a buffer. -/
def TaggedAudioBuffer.samples (b : TaggedAudioBuffer) : List SampleT :=
  match b.buffer with
  | some audio => audio.samples
  | none => []

/-- A whole packet: START, buffers that are neither START nor END, END. -/
def WholePacket (bs : List TaggedAudioBuffer) : Prop :=
  ∃ start body last, bs = start :: (body ++ [last]) ∧ start.marker = .START ∧
    last.marker = .END ∧ ∀ b ∈ body, b.marker ≠ .START ∧ b.marker ≠ .END

/-- What a whole packet looks like around one of its buffers. -/
theorem WholePacket.split {bs more : List TaggedAudioBuffer} {b : TaggedAudioBuffer}
    (h : WholePacket (bs ++ b :: more)) :
    (b.marker = .START ↔ bs = []) ∧ (b.marker = .END ↔ more = []) ∧
      ∀ x ∈ bs, x.marker ≠ .END := by
  obtain ⟨start, body, last, heq, hstart, hlast, hbody⟩ := h
  cases bs with
  | nil =>
      obtain ⟨rfl, rfl⟩ := List.cons_eq_cons.1 heq
      simp [hstart]
  | cons x bs =>
      rw [List.cons_append, List.cons_eq_cons] at heq
      obtain ⟨rfl, heq⟩ := heq
      rcases List.eq_nil_or_concat more with rfl | ⟨more, y, rfl⟩
      · obtain ⟨rfl, hb⟩ := List.append_inj' heq rfl
        obtain rfl : b = last := by simpa using hb
        refine ⟨by simp [hlast], by simp [hlast], ?_⟩
        intro y hy
        rcases List.mem_cons.1 hy with rfl | hy
        · simp [hstart]
        · exact (hbody y hy).2
      · have hsplit : (bs ++ b :: more) ++ [y] = body ++ [last] := by simpa using heq
        obtain ⟨rfl, -⟩ := List.append_inj' hsplit rfl
        have hb := hbody b (by simp)
        refine ⟨by simp [hb.1], by simp [hb.2], ?_⟩
        intro z hz
        rcases List.mem_cons.1 hz with rfl | hz
        · simp [hstart]
        · exact (hbody z (by simp [hz])).2

/-- A whole packet ends. -/
theorem WholePacket.exists_end {bs : List TaggedAudioBuffer} (h : WholePacket bs) :
    ∃ b ∈ bs, b.marker = .END := by
  obtain ⟨start, body, last, rfl, -, hlast, -⟩ := h
  exact ⟨last, by simp, hlast⟩

end Netsim
