import Netsim.Lib.Delimited
import Netsim.Lib.Run

/-!
# tcp_session

A session writes each Protobuf message as one line
`NETSIM|{full name}|{base64 of the serialized message}\n`, and reads the lines of its peer. The
read handler runs whenever the receive buffer holds a newline, and takes three fields out of the
buffer with `std::getline`: up to a `|`, up to a `|`, and up to a newline. It does not check the
preamble, nor that the first two delimiters stand on the line.

The base64 coder is not part of the repository; `encode` and `decode` stand for
`dccl::b64_encode` and `dccl::b64_decode`.
-/

namespace Netsim

/-- A `std::string`. -/
abbrev Bytes := List UInt8

/-- A Protobuf message on the sending side. -/
structure Message where
  /-- `GetDescriptor()->full_name()`. -/
  fullName : Bytes
  /-- `SerializeAsString()`. -/
  serialized : Bytes
deriving DecidableEq

/-- A session, with callbacks of type `κ`. -/
structure TcpSession (κ : Type) where
  /-- The callbacks for messages of one name. -/
  rxCallbacks : List (Bytes × κ) := []
  /-- The callbacks for all messages. -/
  rxAll : List κ := []
  /-- `self_` is set. -/
  connected : Bool := true
  /-- What was received and not read. -/
  buffer : Bytes := []
  /-- The name and the decoded data of every line that was read. -/
  dispatched : List (Bytes × Bytes) := []
  /-- The calls of `post`. -/
  posted : List (κ × Bytes × Bytes) := []
  /-- The bytes handed to the socket, in the order of the sends. -/
  sent : Bytes := []

/-- A completion of `async_read_until`'s reads from the socket. -/
inductive ReadEvent
  /-- More bytes have arrived. -/
  | received (chunk : Bytes)
  /-- The read failed. -/
  | failed

namespace TcpSession

/-- `end_of_line_`. -/
def endOfLine : UInt8 := 10

/-- `delimiter_`. -/
def delimiter : UInt8 := 124

theorem delimiter_ne_endOfLine : delimiter ≠ endOfLine := by decide

/-- `preamble_`, the bytes of `NETSIM`. -/
def preamble : Bytes := [78, 69, 84, 83, 73, 77]

/-- The three `getline` calls of the read handler: the preamble, `pb_name` and `pb_data_b64`, and
what remains in the buffer. -/
def readFields (buffer : Bytes) : Bytes × Bytes × Bytes × Bytes :=
  let is : Delimited.InputStream UInt8 := { left := buffer }
  let (pre, is) := is.getline delimiter
  let (pbName, is) := is.getline delimiter
  let (pbDataB64, is) := is.getline endOfLine
  (pre, pbName, pbDataB64, is.left)

variable {κ : Type} (decode encode : Bytes → Bytes)

/-- The callbacks a message is posted to: those of its name, then those for all messages. -/
def callbacks (s : TcpSession κ) (pbName : Bytes) : List κ :=
  -- the source keeps both in containers without an order that matters
  (s.rxCallbacks.filter (·.1 = pbName)).map (·.2) ++ s.rxAll

/-- The read handler, without error. -/
def handleRead (s : TcpSession κ) : TcpSession κ :=
  -- the preamble is read and not looked at
  let (_, pbName, pbDataB64, left) := readFields s.buffer
  let pbData := decode pbDataB64
  { s with
    buffer := left
    dispatched := s.dispatched ++ [(pbName, pbData)]
    posted := s.posted ++ (s.callbacks pbName).map fun callback => (callback, pbName, pbData) }

/-- `read` again and again, until the buffer holds no newline; every handler consumes a byte, so
the length of the buffer is fuel enough. -/
def readLoop : ℕ → TcpSession κ → TcpSession κ
  | 0, s => s
  | fuel + 1, s => if endOfLine ∈ s.buffer then readLoop fuel (s.handleRead decode) else s

/-- `disconnect`. -/
def disconnect (s : TcpSession κ) : TcpSession κ := { s with connected := false }

/-- A read from the socket completes. A session that was disconnected has no read pending. -/
def onRead (s : TcpSession κ) : ReadEvent → TcpSession κ
  | .received chunk =>
      if s.connected then
        -- a chunk may complete several lines, and each of them has its own call of the handler
        let buffer := s.buffer ++ chunk
        readLoop decode buffer.length { s with buffer := buffer }
      else s
  | .failed => s.disconnect

/-- The session after the socket delivered `chunks`. -/
def afterChunks (s : TcpSession κ) (chunks : List Bytes) : TcpSession κ :=
  Run.run (onRead decode) s (chunks.map .received)

/-- The bytes of a message on the wire. -/
def line (message : Message) : Bytes :=
  preamble ++ [delimiter] ++ message.fullName ++ [delimiter] ++
    (encode message.serialized).filter (· ≠ endOfLine) ++ [endOfLine]

/-- `write`, whose send completes. -/
def write (s : TcpSession κ) (message : Message) : TcpSession κ :=
  { s with sent := s.sent ++ line encode message }

/-- The session after writing `messages` one after another. -/
def afterWrites (s : TcpSession κ) (messages : List Message) : TcpSession κ :=
  Run.run (write encode) s messages

/-! ### What the handler takes out of the buffer -/

section ReadFields

variable {line pre name data more : Bytes}

/-- A line of three fields is read field by field. -/
theorem readFields_line (hpre : delimiter ∉ pre) (hname : delimiter ∉ name)
    (hdata : endOfLine ∉ data) (more : Bytes) :
    readFields (pre ++ delimiter :: (name ++ delimiter :: (data ++ endOfLine :: more))) =
      (pre, name, data, more) := by
  simp only [readFields, Delimited.InputStream.getline_record hpre,
    Delimited.InputStream.getline_record hname, Delimited.InputStream.getline_record hdata]

/-- Without a `|` the whole buffer is the preamble. -/
theorem readFields_of_not_mem {buffer : Bytes} (h : delimiter ∉ buffer) :
    readFields buffer = (buffer, [], [], []) := by
  simp only [readFields, Delimited.InputStream.getline_of_not_mem h,
    Delimited.InputStream.getline_of_not_good]

/-- With one `|` the name goes to the end of the buffer. -/
theorem readFields_one (hpre : delimiter ∉ pre) (hname : delimiter ∉ name) :
    readFields (pre ++ delimiter :: name) = (pre, name, [], []) := by
  simp only [readFields, Delimited.InputStream.getline_record hpre,
    Delimited.InputStream.getline_of_not_mem hname, Delimited.InputStream.getline_of_not_good]

/-- With two `|` and no newline after them the data goes to the end of the buffer. -/
theorem readFields_two (hpre : delimiter ∉ pre) (hname : delimiter ∉ name)
    (hdata : endOfLine ∉ data) :
    readFields (pre ++ delimiter :: (name ++ delimiter :: data)) = (pre, name, data, []) := by
  simp only [readFields, Delimited.InputStream.getline_record hpre,
    Delimited.InputStream.getline_record hname, Delimited.InputStream.getline_of_not_mem hdata]

/-- The ways a buffer can be read. -/
theorem readFields_cases (buffer : Bytes) :
    (delimiter ∉ buffer) ∨
    (∃ pre name, buffer = pre ++ delimiter :: name ∧ delimiter ∉ pre ∧ delimiter ∉ name) ∨
    (∃ pre name data, buffer = pre ++ delimiter :: (name ++ delimiter :: data) ∧
      delimiter ∉ pre ∧ delimiter ∉ name ∧ endOfLine ∉ data) ∨
    (∃ pre name data more,
      buffer = pre ++ delimiter :: (name ++ delimiter :: (data ++ endOfLine :: more)) ∧
      delimiter ∉ pre ∧ delimiter ∉ name ∧ endOfLine ∉ data) := by
  -- one case for each `getline` that may find no delimiter
  by_cases hbuffer : delimiter ∈ buffer
  · obtain ⟨pre, tail, rfl, hpre⟩ := List.eq_append_cons_of_mem hbuffer
    by_cases htail : delimiter ∈ tail
    · obtain ⟨name, tail, rfl, hname⟩ := List.eq_append_cons_of_mem htail
      by_cases hline : endOfLine ∈ tail
      · obtain ⟨data, more, rfl, hdata⟩ := List.eq_append_cons_of_mem hline
        exact .inr (.inr (.inr ⟨pre, name, data, more, rfl, hpre, hname, hdata⟩))
      · exact .inr (.inr (.inl ⟨pre, name, tail, rfl, hpre, hname, hline⟩))
    · exact .inr (.inl ⟨pre, tail, rfl, hpre, htail⟩)
  · exact .inl hbuffer

/-- The handler reads to the end of the buffer, or to a newline. -/
theorem readFields_left (buffer : Bytes) :
    (readFields buffer).2.2.2 = [] ∨
      ∃ consumed, buffer = consumed ++ endOfLine :: (readFields buffer).2.2.2 := by
  rcases readFields_cases buffer with
    h | ⟨pre, name, rfl, hpre, hname⟩ | ⟨pre, name, data, rfl, hpre, hname, hdata⟩ |
      ⟨pre, name, data, more, rfl, hpre, hname, hdata⟩
  · rw [readFields_of_not_mem h]
    exact .inl rfl
  · rw [readFields_one hpre hname]
    exact .inl rfl
  · rw [readFields_two hpre hname hdata]
    exact .inl rfl
  -- only a line with its fields stops at a newline
  · rw [readFields_line hpre hname hdata]
    exact .inr ⟨pre ++ delimiter :: (name ++ delimiter :: data), by simp⟩

/-- Every handler consumes a newline. -/
theorem count_readFields_lt {buffer : Bytes} (h : endOfLine ∈ buffer) :
    (readFields buffer).2.2.2.count endOfLine < buffer.count endOfLine := by
  -- at least the newline that is known to be there, or the one the data ends at
  rcases readFields_left buffer with hnil | ⟨consumed, hconsumed⟩
  · rw [hnil, List.count_nil]
    exact List.count_pos_iff.2 h
  · rw [congrArg (List.count endOfLine) hconsumed, List.count_append, List.count_cons_self]
    omega

theorem length_readFields_lt {buffer : Bytes} (h : endOfLine ∈ buffer) :
    (readFields buffer).2.2.2.length < buffer.length := by
  rcases readFields_left buffer with hnil | ⟨consumed, hconsumed⟩
  · rw [hnil]
    exact List.length_pos_of_mem h
  · rw [congrArg List.length hconsumed, List.length_append, List.length_cons]
    omega

end ReadFields

end TcpSession

end Netsim
