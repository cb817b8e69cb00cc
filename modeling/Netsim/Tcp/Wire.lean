import Netsim.Tcp.WireProtocol

/-!
# A direction of a connection

What a session writes arrives at its peer in pieces of any size, and at any time after it was
written. The peer reads from the socket only while its buffer holds no newline; otherwise the next
thing it does is to run the read handler, which dispatches one line. So at every moment the messages
that were written are those that were dispatched, and those whose lines are still on their way
(`Carries`).
-/

namespace Netsim

open TcpSession

/-- The bytes of a direction that have not arrived, and the session that reads them. -/
structure Wire (κ : Type) where
  /-- What has been sent and not received. -/
  inFlight : Bytes := []
  /-- The session of the peer. -/
  reader : TcpSession κ := {}

namespace Wire

variable {κ : Type} (decode encode : Bytes → Bytes) (w : Wire κ)

/-- A message is written, and its send completes. -/
def write (message : Message) : Wire κ :=
  { w with inFlight := w.inFlight ++ line encode message }

/-- The reader has a line to handle. -/
def Ready : Prop := endOfLine ∈ w.reader.buffer

instance : Decidable w.Ready := inferInstanceAs (Decidable (_ ∈ _))

/-- `n` bytes arrive, if the reader waits for any. -/
def arrive (n : ℕ) : Wire κ :=
  if w.Ready then w
  else
    { inFlight := w.inFlight.drop n
      reader := { w.reader with buffer := w.reader.buffer ++ w.inFlight.take n } }

/-- The read handler runs, if there is a line. -/
def handle : Wire κ :=
  if w.Ready then { w with reader := w.reader.handleRead decode } else w

/-- All that was sent has arrived and was handled. -/
def Settled : Prop := w.inFlight = [] ∧ ¬ w.Ready

instance : Decidable w.Settled := inferInstanceAs (Decidable (_ ∧ _))

/-- The name and the data of a message, as they are dispatched. -/
def fields (message : Message) : Bytes × Bytes := (message.fullName, message.serialized)

/-- Of the messages that were written the first have been dispatched, and the lines of the others
are in the buffer or have not arrived. -/
def Carries (written : List Message) : Prop :=
  ∃ done later, written = done ++ later ∧ w.reader.dispatched = done.map fields ∧
    w.reader.buffer ++ w.inFlight = later.flatMap (line encode)

variable {decode encode w} {written : List Message} {message : Message}

@[simp]
theorem callbacks_arrive (n : ℕ) (pbName : Bytes) :
    (w.arrive n).reader.callbacks pbName = w.reader.callbacks pbName := by
  rw [Wire.arrive]
  split_ifs <;> rfl

@[simp]
theorem dispatched_arrive (n : ℕ) : (w.arrive n).reader.dispatched = w.reader.dispatched := by
  rw [Wire.arrive]
  split_ifs <;> rfl

@[simp]
theorem posted_arrive (n : ℕ) : (w.arrive n).reader.posted = w.reader.posted := by
  rw [Wire.arrive]
  split_ifs <;> rfl

@[simp]
theorem callbacks_handle (pbName : Bytes) :
    (w.handle decode).reader.callbacks pbName = w.reader.callbacks pbName := by
  rw [Wire.handle]
  split_ifs <;> rfl

theorem handle_of_not_ready (h : ¬ w.Ready) : w.handle decode = w := if_neg h

theorem Carries.write (h : w.Carries encode written) (message : Message) :
    (w.write encode message).Carries encode (written ++ [message]) := by
  obtain ⟨done, later, rfl, hdispatched, hbytes⟩ := h
  refine ⟨done, later ++ [message], by simp, hdispatched, ?_⟩
  rw [List.flatMap_append, ← hbytes]
  simp [Wire.write]

theorem Carries.arrive (h : w.Carries encode written) (n : ℕ) :
    (w.arrive n).Carries encode written := by
  rw [Wire.arrive]
  split_ifs
  · exact h
  · obtain ⟨done, later, rfl, hdispatched, hbytes⟩ := h
    exact ⟨done, later, rfl, hdispatched, by simp [hbytes]⟩

/-- A buffer with a newline begins with the first of the lines. -/
theorem buffer_of_ready (hname : ProperName message) {buffer inFlight more : Bytes}
    (hready : endOfLine ∈ buffer) (hbytes : buffer ++ inFlight = line encode message ++ more) :
    ∃ rest, buffer = content encode message ++ endOfLine :: rest ∧ rest ++ inFlight = more := by
  obtain ⟨first, rest, rfl, hfirst⟩ := List.eq_append_cons_of_mem hready
  rw [line_eq_content, List.append_assoc, List.append_assoc, List.cons_append, List.cons_append,
    List.nil_append] at hbytes
  have hend := endOfLine_not_mem_content encode hname
  -- neither of the two has a newline before its first
  obtain ⟨rfl, rfl⟩ := Delimited.record_inj endOfLine hfirst hend hbytes
  exact ⟨rest, rfl, rfl⟩

/-- The handler dispatches the first message whose line is on its way. -/
theorem Carries.handle (h : w.Carries encode written) (hcoder : DecodesLines decode encode)
    (hnames : ∀ message ∈ written, ProperName message) (hready : w.Ready) :
    (w.handle decode).Carries encode written ∧
      ∃ message, written[w.reader.dispatched.length]? = some message ∧
        (w.handle decode).reader.dispatched = w.reader.dispatched ++ [fields message] ∧
        (w.handle decode).reader.posted = w.reader.posted ++
          (w.reader.callbacks message.fullName).map fun callback => (callback, fields message) := by
  obtain ⟨done, later, rfl, hdispatched, hbytes⟩ := h
  cases later with
  | nil =>
      rw [List.flatMap_nil, List.append_eq_nil_iff] at hbytes
      rw [Ready, hbytes.1] at hready
      cases hready
  | cons message later =>
      have hname := hnames message (by simp)
      rw [List.flatMap_cons] at hbytes
      obtain ⟨rest, hbuffer, hrest⟩ := buffer_of_ready hname hready hbytes
      have hread : readFields w.reader.buffer = (preamble, message.fullName,
          (encode message.serialized).filter (· ≠ endOfLine), rest) := by
        rw [hbuffer, content]
        simp only [List.append_assoc, List.cons_append]
        exact readFields_line (by decide) hname.1 (by simp) rest
      have hhandle : (w.handle decode).reader = w.reader.handleRead decode := by
        rw [Wire.handle, if_pos hready]
      have hflight : (w.handle decode).inFlight = w.inFlight := by
        rw [Wire.handle, if_pos hready]
      have hdone : (w.handle decode).reader.dispatched =
          w.reader.dispatched ++ [fields message] := by
        rw [hhandle, handleRead, hread]
        simp only [hcoder message.serialized, fields]
      refine ⟨⟨done ++ [message], later, by simp, ?_, ?_⟩, message, ?_, hdone, ?_⟩
      · rw [hdone, hdispatched, List.map_append, List.map_singleton]
      · rw [hhandle, hflight, handleRead, hread]
        exact hrest
      · rw [hdispatched, List.length_map, List.getElem?_append_right (Nat.le_refl _), Nat.sub_self]
        rfl
      · rw [hhandle, handleRead, hread]
        simp only [hcoder message.serialized, fields]

/-- What was dispatched is a beginning of what was written, and all of it once nothing is on its
way. -/
theorem Carries.dispatched (h : w.Carries encode written) :
    w.reader.dispatched <+: written.map fields ∧
      (w.Settled → w.reader.dispatched = written.map fields) := by
  obtain ⟨done, later, rfl, hdispatched, hbytes⟩ := h
  rw [hdispatched, List.map_append]
  refine ⟨List.prefix_append _ _, fun ⟨hflight, hready⟩ => ?_⟩
  cases later with
  | nil => simp
  | cons message later =>
      -- a line ends with a newline, which would be in the buffer
      rw [hflight, List.append_nil] at hbytes
      refine absurd ?_ hready
      rw [Ready, hbytes, List.flatMap_cons, line_eq_content]
      simp

end Wire

end Netsim
