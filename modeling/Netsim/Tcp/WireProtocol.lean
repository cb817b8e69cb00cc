import Netsim.Lib.Base64
import Netsim.Tcp.Lines

/-!
# The wire protocol

What one session writes, its peer dispatches: the messages in order, each once, with their full
names and their serialized bytes, however the bytes are cut on the way (`afterChunks_of_writes`).
-/

namespace Netsim

namespace TcpSession

variable {κ : Type} {decode encode : Bytes → Bytes}

/-- What the session relies on of the base64 coder: decoding inverts encoding, also after the
newlines have been erased. -/
def DecodesLines (decode encode : Bytes → Bytes) : Prop :=
  ∀ bytes, decode ((encode bytes).filter (· ≠ endOfLine)) = bytes

/-- The full name of a message type, which contains neither `|` nor a newline. -/
def ProperName (message : Message) : Prop :=
  delimiter ∉ message.fullName ∧ endOfLine ∉ message.fullName

/-! ### The lines that are written -/

/-- What stands on the line of a message, before its newline. -/
def content (encode : Bytes → Bytes) (message : Message) : Bytes :=
  preamble ++ delimiter :: (message.fullName ++ delimiter ::
    (encode message.serialized).filter (· ≠ endOfLine))

theorem line_eq_content (message : Message) :
    line encode message = content encode message ++ [endOfLine] := by
  simp [line, content]

/-- The bytes sent are the lines of the messages, one after another. -/
theorem sent_afterWrites (s : TcpSession κ) (messages : List Message) :
    (afterWrites encode s messages).sent = s.sent ++ messages.flatMap (line encode) := by
  induction messages using List.reverseRecOn with
  | nil => simp [afterWrites]
  | append_singleton messages message ih =>
      rw [afterWrites, Run.run_concat, ← afterWrites, write]
      simp [ih]

section Content

variable {message : Message}

theorem endOfLine_not_mem_content (encode : Bytes → Bytes) (hname : ProperName message) :
    endOfLine ∉ content encode message := by
  have hpre : endOfLine ∉ preamble := by decide
  simp [content, hpre, hname.2, Ne.symm delimiter_ne_endOfLine]

theorem lineFields_content (hname : ProperName message) :
    lineFields (content encode message) =
      (message.fullName, (encode message.serialized).filter (· ≠ endOfLine)) := by
  have hpre : delimiter ∉ preamble := by decide
  simp only [lineFields, content, Delimited.splitFirst_record delimiter hpre,
    Delimited.splitFirst_record delimiter hname.1]

theorem parseLine_content (hcoder : DecodesLines decode encode) (hname : ProperName message) :
    parseLine decode (content encode message) = (message.fullName, message.serialized) := by
  -- the coder may wrap its lines: only the newlines were erased
  rw [parseLine, lineFields_content hname, hcoder]

theorem two_le_count_content (message : Message) :
    2 ≤ (content encode message).count delimiter := by
  simp only [content, List.count_append, List.count_cons_self]
  omega

end Content

/-- The stream of some messages is made of their lines, and each has its fields. -/
theorem records_flatMap_line (encode : Bytes → Bytes) {messages : List Message}
    (hnames : ∀ message ∈ messages, ProperName message) :
    Delimited.records endOfLine (messages.flatMap (line encode)) =
        messages.map (content encode) ∧
      Delimited.rest endOfLine (messages.flatMap (line encode)) = [] := by
  induction messages with
  | nil => simp
  | cons message messages ih =>
      obtain ⟨hname, hnames⟩ := List.forall_mem_cons.1 hnames
      obtain ⟨hrecords, hrest⟩ := ih hnames
      -- the line of the message holds no newline but its own
      have hend := endOfLine_not_mem_content encode hname
      have hstream : (message :: messages).flatMap (line encode) =
          content encode message ++ endOfLine :: messages.flatMap (line encode) := by
        simp [line_eq_content]
      rw [hstream, Delimited.records_record hend, Delimited.rest_record hend, hrecords, hrest]
      exact ⟨rfl, rfl⟩

theorem fieldsOnLine_flatMap_line {messages : List Message}
    (hnames : ∀ message ∈ messages, ProperName message) :
    FieldsOnLine (messages.flatMap (line encode)) := by
  intro before text later heq
  rw [(records_flatMap_line encode hnames).1] at heq
  have hmem : text ∈ messages.map (content encode) := by simp [heq]
  obtain ⟨message, -, rfl⟩ := List.mem_map.1 hmem
  exact .inl (two_le_count_content message)

/-! ### The callbacks -/

/-- Every dispatched line was posted to the callbacks of its name and to those for all
messages. -/
def Posted (s : TcpSession κ) : Prop :=
  s.posted = s.dispatched.flatMap fun m => (s.callbacks m.1).map fun callback => (callback, m)

theorem Posted.handleRead {s : TcpSession κ} (h : s.Posted) : (s.handleRead decode).Posted := by
  -- no handler registers a callback
  have hcallbacks : (s.handleRead decode).callbacks = s.callbacks := rfl
  rw [Posted, hcallbacks]
  simp only [TcpSession.handleRead, List.flatMap_append, List.flatMap_singleton]
  rw [h]

theorem Posted.readLoop {s : TcpSession κ} (h : s.Posted) (fuel : ℕ) :
    (readLoop decode fuel s).Posted ∧ (readLoop decode fuel s).callbacks = s.callbacks := by
  induction fuel generalizing s with
  | zero => exact ⟨h, rfl⟩
  | succ fuel ih =>
      rw [TcpSession.readLoop]
      split_ifs
      · exact ih h.handleRead
      · exact ⟨h, rfl⟩

variable (decode) in
theorem Posted.afterChunks {s : TcpSession κ} (h : s.Posted) (chunks : List Bytes) :
    (afterChunks decode s chunks).Posted ∧
      (afterChunks decode s chunks).callbacks = s.callbacks := by
  induction chunks generalizing s with
  | nil => exact ⟨h, rfl⟩
  | cons chunk chunks ih =>
      have hstep : (onRead decode s (.received chunk)).Posted ∧
          (onRead decode s (.received chunk)).callbacks = s.callbacks := by
        rw [onRead]
        -- a session that was disconnected reads nothing
        split_ifs
        · exact Posted.readLoop (s := { s with buffer := s.buffer ++ chunk }) h _
        · exact ⟨h, rfl⟩
      obtain ⟨hposted, hcallbacks⟩ := ih hstep.1
      exact ⟨hposted, hcallbacks.trans hstep.2⟩

/-! ### The round trip -/

/-- The messages a session writes one after another are dispatched by its peer, in order and each
once, however the bytes are cut into chunks, and nothing remains in the peer's buffer. -/
theorem afterChunks_of_writes (hcoder : DecodesLines decode encode)
    (senderCallbacks rxCallbacks : List (Bytes × κ)) (senderAll rxAll : List κ)
    (messages : List Message) (hnames : ∀ message ∈ messages, ProperName message)
    (chunks : List Bytes)
    (hcut : chunks.flatten = (afterWrites encode
      { rxCallbacks := senderCallbacks, rxAll := senderAll } messages).sent) :
    let peer := afterChunks decode { rxCallbacks := rxCallbacks, rxAll := rxAll } chunks
    peer.dispatched = messages.map (fun message => (message.fullName, message.serialized)) ∧
      peer.posted = messages.flatMap (fun message => (peer.callbacks message.fullName).map
        fun callback => (callback, message.fullName, message.serialized)) ∧
      peer.buffer = [] := by
  rw [sent_afterWrites, List.nil_append] at hcut
  -- the stream has the messages for its lines, so the peer reads it line by line
  obtain ⟨hrecords, hrest⟩ := records_flatMap_line encode hnames
  obtain ⟨hdispatched, hbuffer⟩ := afterChunks_of_fieldsOnLine decode
    (s := { rxCallbacks := rxCallbacks, rxAll := rxAll }) chunks rfl (by simp)
    (by rw [List.nil_append, hcut]; exact fieldsOnLine_flatMap_line hnames)
  simp only [List.nil_append, hcut, hrecords, hrest, List.map_map] at hdispatched hbuffer
  have hparse : messages.map (parseLine decode ∘ content encode) =
      messages.map fun message => (message.fullName, message.serialized) :=
    List.map_congr_left fun message hmem => parseLine_content hcoder (hnames message hmem)
  have hposted :
      (afterChunks decode { rxCallbacks := rxCallbacks, rxAll := rxAll } chunks).Posted :=
    (Posted.afterChunks decode (s := { rxCallbacks := rxCallbacks, rxAll := rxAll }) rfl chunks).1
  refine ⟨hdispatched.trans hparse, ?_, hbuffer⟩
  rw [hposted, hdispatched, hparse, List.flatMap_map]

/-- The messages `T` with the bytes 8, 65 and `U` without bytes, cut in the middle of a line. -/
theorem afterChunks_of_two_writes :
    let peer := afterChunks Base64.decode { rxCallbacks := [([84], 0)], rxAll := [1] }
      [[78, 69, 84, 83, 73, 77, 124, 84, 124, 67, 69], [69, 61, 10, 78, 69, 84, 83],
        [73, 77, 124, 85, 124, 10]]
    peer.dispatched = [([84], [8, 65]), ([85], [])] ∧
      peer.posted = [(0, [84], [8, 65]), (1, [84], [8, 65]), (1, [85], [])] ∧
      peer.buffer = [] := by
  obtain ⟨hdispatched, hposted, hbuffer⟩ := afterChunks_of_writes Base64.decode_filter_encode
    [] [([84], 0)] [] [1] [⟨[84], [8, 65]⟩, ⟨[85], []⟩] (by
      -- `T` and `U` are proper names
      intro message hmem
      rcases List.mem_pair.1 hmem with rfl | rfl <;> exact ⟨by decide, by decide⟩)
    [[78, 69, 84, 83, 73, 77, 124, 84, 124, 67, 69], [69, 61, 10, 78, 69, 84, 83],
      [73, 77, 124, 85, 124, 10]] (by decide +kernel)
  exact ⟨hdispatched, hposted.trans (by decide +kernel), hbuffer⟩

end TcpSession

end Netsim
