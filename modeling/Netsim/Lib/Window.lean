import Mathlib.Data.List.DropRight
import Netsim.Lib.CircularBuffer

/-!
# Windows of a stream

A circular buffer of optional entries is pushed the elements of a stream, so that it holds the last
ones, and is resized now and then. The capacity follows the greatest size, and a resize may put the
buffer out of order: it pads it with nulls, which the next element buries, or drops the newest
elements.

`Holds.items_pushBack` says when the buffer has the last elements of the stream all the same, as
many as its latest size is.
-/

namespace CircularBuffer

variable {α : Type*}

/-- What has happened to a buffer. -/
structure Window (α : Type*) where
  /-- The stream. -/
  received : List α := []
  /-- The latest size. -/
  size : ℕ := 1
  /-- The greatest size. -/
  capacity : ℕ := 1
  /-- Nulls that have been padded, and not been buried. -/
  padding : ℕ := 0
  /-- The number of elements since the buffer was put out of order, if it was. -/
  disturbed : Option ℕ := none
deriving DecidableEq

namespace Window

/-- The number of elements that are in order. -/
def since (w : Window α) : ℕ := w.disturbed.getD w.received.length

/-- The number of elements since the buffer was put out of order, once one more has been pushed. -/
def pushed (w : Window α) : Option ℕ :=
  if 0 < w.padding then some 1 else w.disturbed.map (· + 1)

/-- One more element. -/
def push (w : Window α) (x : α) : Window α :=
  { w with received := w.received ++ [x], padding := 0, disturbed := w.pushed }

/-- A resize of a buffer with `count` entries to `n`. -/
def resize (w : Window α) (count n : ℕ) : Window α :=
  if count ≤ n + w.padding then
    { w with size := n, capacity := max w.capacity n, padding := w.padding + n - count }
  -- elements are dropped
  else { w with size := n, capacity := max w.capacity n, padding := 0, disturbed := some 0 }

/-- The buffer is emptied, and the stream begins anew. -/
def clear (w : Window α) : Window α := { w with received := [], padding := 0, disturbed := none }

/-- The stream fits the latest size, or that is the capacity; and if the buffer was put out of
order, it has been filled again. -/
def Fits (w : Window α) : Prop :=
  (w.received.length < w.size ∨ w.size = w.capacity) ∧ ∀ k ∈ w.pushed, w.capacity ≤ k

instance (w : Window α) : Decidable w.Fits := inferInstanceAs (Decidable (_ ∧ _))

/-- The entries in front of the padding, newest first: those since the buffer was put out of order
are the last ones of the stream. -/
structure Ordered (w : Window α) (newest : List (Option α)) : Prop where
  since_le : w.since ≤ w.received.length
  take_since : newest.take w.since =
    (w.received.reverse.take (min w.since newest.length)).map some
  /-- The entries are as many as there can be, or the latest size is less than the capacity. -/
  length : min w.capacity w.since ≤ newest.length ∨
    newest.length < w.capacity ∧ (0 < w.padding ∨ w.size ≤ newest.length)
  length_le : w.disturbed = none → newest.length ≤ w.received.length

end Window

/-- A buffer holds a window. -/
structure Holds (b : CircularBuffer (Option α)) (w : Window α) : Prop where
  capacity : b.capacity = w.capacity
  size_pos : 1 ≤ w.size
  size_le : w.size ≤ w.capacity
  items : ∃ newest, b.items = newest.reverse ++ List.replicate w.padding none ∧ w.Ordered newest

/-! ### Operations of the buffer -/

section Operations

variable {b : CircularBuffer α}

/-- Newest first, a buffer holds what fits. -/
theorem reverse_items_pushBack (b : CircularBuffer α) (x : α) :
    (b.pushBack x).items.reverse = (x :: b.items.reverse).take b.capacity := by
  have hlength : (b.items ++ [x]).length - (b.items.length + 1 - b.capacity) =
      min b.capacity (b.items.length + 1) := by
    rw [List.length_append, List.length_singleton]
    omega
  rw [items_pushBack, List.reverse_drop, hlength, List.reverse_concat, List.take_eq_take_iff]
  simp

theorem items_resize (b : CircularBuffer α) (n : ℕ) (fill : α) :
    (b.resize n fill).items = b.items.take n ++ List.replicate (n - b.items.length) fill := by
  rw [resize]
  split_ifs with h
  · rw [List.take_of_length_le (Nat.le_of_lt h)]
  · rw [Nat.sub_eq_zero_of_le (Nat.le_of_not_lt h), List.replicate_zero, List.append_nil]

theorem capacity_resize (b : CircularBuffer α) (n : ℕ) (fill : α) :
    (b.resize n fill).capacity = max b.capacity n := by
  have hlength := b.length_le
  rw [resize]
  split_ifs with h
  · rfl
  · have hle : n ≤ b.capacity := by omega
    exact (max_eq_left hle).symm

end Operations

/-! ### A buffer that holds a window -/

namespace Window

variable {w : Window α} {newest : List (Option α)}

theorem since_of_padding (h : 0 < w.padding) (x : α) : (w.push x).since = 1 := by
  simp [since, push, pushed, h]

theorem since_push (h : w.padding = 0) (x : α) : (w.push x).since = w.since + 1 := by
  cases hdisturbed : w.disturbed <;> simp [since, push, pushed, h, hdisturbed]

/-- An element that buries the padding is the only one in order. -/
theorem ordered_push_of_padding (hpadding : 0 < w.padding) (hcapacity : 1 ≤ w.capacity) (x : α)
    (rest : List (Option α)) : (w.push x).Ordered ((some x :: rest).take w.capacity) := by
  obtain ⟨c, hc⟩ : ∃ c, w.capacity = c + 1 := Nat.exists_eq_succ_of_ne_zero (by omega)
  have hsince := since_of_padding hpadding x
  have hreceived : (w.push x).received = w.received ++ [x] := rfl
  refine ⟨?_, ?_, .inl ?_, fun hnone => ?_⟩
  · rw [hsince, hreceived, List.length_append, List.length_singleton]
    omega
  · simp [hsince, hreceived, hc]
  · rw [hsince]
    exact (Nat.min_le_right _ _).trans (by simp [hc])
  · simp [Window.push, pushed, hpadding] at hnone

/-- A resize does not look at the stream. -/
theorem resize_received (w : Window α) (count n : ℕ) :
    { w.resize count n with received := [] } =
      ({ w with received := [] } : Window α).resize count n := by
  rw [resize, resize]
  split_ifs <;> rfl

/-- Another element in front of the others. -/
theorem Ordered.push (h : w.Ordered newest) (hpadding : w.padding = 0)
    (hcapacity : 1 ≤ w.capacity) (hlength : newest.length ≤ w.capacity) (x : α) :
    (w.push x).Ordered ((some x :: newest).take w.capacity) := by
  obtain ⟨c, hc⟩ : ∃ c, w.capacity = c + 1 := Nat.exists_eq_succ_of_ne_zero (by omega)
  have hsince := since_push hpadding x
  have hreceived : (w.push x).received = w.received ++ [x] := rfl
  have htake : ((some x :: newest).take w.capacity).length = min w.capacity (newest.length + 1) :=
    List.length_take
  refine ⟨?_, ?_, ?_, ?_⟩
  · rw [hsince, hreceived, List.length_append]
    exact Nat.succ_le_succ h.since_le
  · have hmin : min (w.since + 1) (min (c + 1) (newest.length + 1)) =
        min c (min w.since newest.length) + 1 := by omega
    rw [htake, hsince, hreceived, hc, hmin, List.take_succ_cons, List.take_succ_cons,
      List.reverse_concat, List.take_succ_cons, List.map_cons, List.take_take, min_comm,
      ← List.take_take, h.take_since, ← List.map_take, List.take_take]
  · have hw : (w.push x).capacity = w.capacity ∧ (w.push x).size = w.size := ⟨rfl, rfl⟩
    rw [htake, hsince, hw.1, hw.2]
    rcases h.length with hle | ⟨hlt, hsize⟩
    · exact .inl (by omega)
    · omega
  · intro hnone
    rw [Window.push, pushed, if_neg (by omega), Option.map_eq_none_iff] at hnone
    have hle := h.length_le hnone
    rw [htake, hreceived, List.length_append, List.length_singleton]
    omega

end Window

namespace Holds

variable {b : CircularBuffer (Option α)} {w : Window α}

theorem one_le_capacity (h : b.Holds w) : 1 ≤ w.capacity := h.size_pos.trans h.size_le

/-- Another element is pushed to the buffer. -/
theorem push (h : b.Holds w) (x : α) : (b.pushBack (some x)).Holds (w.push x) := by
  obtain ⟨newest, hitems, hordered⟩ := h.items
  have hreverse := reverse_items_pushBack b (some x)
  have hlength := b.length_le
  rw [h.capacity, hitems] at hlength
  refine ⟨by rw [capacity_pushBack, h.capacity]; rfl, h.size_pos, h.size_le,
    (b.pushBack (some x)).items.reverse, ?_, ?_⟩
  · rw [List.reverse_reverse]
    exact (List.append_nil _).symm
  · rw [hreverse, h.capacity, hitems]
    by_cases hpadding : w.padding = 0
    · have hnewest : (newest.reverse ++ List.replicate w.padding none).reverse = newest := by
        simp [hpadding]
      rw [hnewest]
      exact hordered.push hpadding h.one_le_capacity (by simpa [hpadding] using hlength) x
    · rw [List.reverse_append, List.reverse_reverse]
      exact Window.ordered_push_of_padding (Nat.pos_of_ne_zero hpadding) h.one_le_capacity x _

/-- A buffer that is emptied holds the beginning of a stream. -/
theorem clear (h : b.Holds w) : b.clear.Holds w.clear where
  capacity := h.capacity
  size_pos := h.size_pos
  size_le := h.size_le
  items := ⟨[], rfl, Nat.zero_le _, rfl, .inl (Nat.min_le_right _ _), fun _ => Nat.zero_le _⟩

/-- The buffer is resized. -/
theorem resize (h : b.Holds w) {n : ℕ} (hn : 1 ≤ n) :
    (b.resize n none).Holds (w.resize b.items.length n) := by
  obtain ⟨newest, hitems, hordered⟩ := h.items
  have hlength := b.length_le
  have hcount : b.items.length = newest.length + w.padding := by simp [hitems]
  rw [h.capacity, hcount] at hlength
  have hcapacity : (b.resize n none).capacity = max w.capacity n := by
    rw [capacity_resize, h.capacity]
  rw [Window.resize]
  split_ifs with hkeep
  -- nothing but padding is dropped
  · refine ⟨hcapacity, hn, le_max_right _ _, newest, ?_, hordered.since_le, hordered.take_since,
      ?_, hordered.length_le⟩
    · have htake : newest.reverse.take n = newest.reverse := by
        rw [List.take_of_length_le]
        rw [List.length_reverse]
        omega
      have hpadding : min (n - newest.reverse.length) w.padding + (n - b.items.length) =
          w.padding + n - b.items.length := by
        rw [List.length_reverse]
        omega
      rw [items_resize, hitems, List.take_append, htake, List.take_replicate, List.append_assoc,
        List.replicate_append_replicate, ← hitems, hpadding]
    · have hle := le_max_left w.capacity n
      by_cases hlt : newest.length < max w.capacity n
      · exact .inr ⟨hlt, by dsimp only; omega⟩
      · exact .inl ((Nat.min_le_left _ _).trans (Nat.le_of_not_lt hlt))
  · exact ⟨hcapacity, hn, le_max_right _ _, (b.resize n none).items.reverse, by simp,
      Nat.zero_le _, by simp [Window.since], .inl (by simp [Window.since]),
      fun hnone => by simp at hnone⟩

/-- The buffer has the last elements of the stream. -/
theorem items_pushBack (h : b.Holds w) (hfits : w.Fits) (x : α) :
    (b.pushBack (some x)).items = ((w.received ++ [x]).rtake w.size).map some := by
  obtain ⟨newest, hitems, hordered⟩ := h.items
  obtain ⟨hsize, hpushed⟩ := hfits
  have hsizePos := h.size_pos
  have hsizeLe := h.size_le
  have hsince := hordered.since_le
  have hlength := b.length_le
  obtain ⟨c, hc⟩ : ∃ c, w.capacity = c + 1 := Nat.exists_eq_succ_of_ne_zero (by omega)
  obtain ⟨m, hm⟩ : ∃ m, w.size = m + 1 := Nat.exists_eq_succ_of_ne_zero (by omega)
  have hreverse := reverse_items_pushBack b (some x)
  rw [h.capacity, hc, List.take_succ_cons] at hreverse
  have htake : b.items.reverse.take c = (w.received.reverse.take m).map some := by
    by_cases hpadding : w.padding = 0
    · have hnewest : b.items.reverse = newest := by simp [hitems, hpadding]
      have hlengthNewest : newest.length ≤ c + 1 := by
        rw [← hnewest, List.length_reverse, ← hc, ← h.capacity]
        exact hlength
      -- either everything is in order, or enough of it
      have hordered' : w.since = w.received.length ∧ newest.length ≤ w.since ∨ c ≤ w.since := by
        cases hdisturbed : w.disturbed with
        | none =>
            have hwhole : w.since = w.received.length := by rw [Window.since, hdisturbed]; rfl
            exact .inl ⟨hwhole, hwhole ▸ hordered.length_le hdisturbed⟩
        | some k =>
            have hk : w.since = k := by rw [Window.since, hdisturbed]; rfl
            have hle := hpushed (k + 1) (by simp [Window.pushed, hpadding, hdisturbed])
            exact .inr (by omega)
      have hcut : newest.take c = (newest.take w.since).take c := by
        rw [List.take_take, List.take_eq_take_iff]
        omega
      have hlen := hordered.length
      rw [hnewest, hcut, hordered.take_since, ← List.map_take, List.take_take]
      congr 1
      rw [List.take_eq_take_iff, List.length_reverse]
      omega
    · have hone := hpushed 1 (by simp [Window.pushed, Nat.pos_of_ne_zero hpadding])
      obtain ⟨rfl, rfl⟩ : c = 0 ∧ m = 0 := by omega
      rfl
  rw [← List.reverse_inj, hreverse, htake, List.rtake_eq_reverse_take_reverse, hm,
    List.reverse_concat, List.take_succ_cons, ← List.map_reverse, List.reverse_reverse,
    List.map_cons]

end Holds

end CircularBuffer
