import Mathlib.Data.List.Flatten
import Netsim.Tcp.WireProtocol

/-!
# Typed callbacks

A callback that is registered with `read_callback<M>`, on a session or on the server, is found by
the full name in the second field of a line. Neither the preamble nor the result of
`ParseFromString` is looked at, so that a line which names a registered type reaches its callbacks
also if it is not a line of the protocol, its text is not base64, or its bytes are not a message:
then with what is left in the message. The callbacks fire exactly on valid lines iff every line
that names a registered type is valid (`fires_iff_valid`).

Base64 and Protobuf are not part of the repository. Both are partial, and what the source goes on
with where they fail is left open.
-/

namespace Netsim

namespace TcpSession

/-! ### Messages and callbacks -/

/-- A Protobuf message type, with messages in `μ`. -/
structure MessageType (μ : Type) where
  /-- `descriptor()->full_name()`. -/
  fullName : Bytes
  /-- The initialized message that is parsed from some bytes, if there is one. -/
  parse : Bytes → Option μ
  /-- What is in the message after a parse that failed. -/
  remains : Bytes → μ
  /-- A full name is not empty, and contains neither `|` nor a newline. -/
  proper : fullName ≠ [] ∧ delimiter ∉ fullName ∧ endOfLine ∉ fullName

/-- `dccl::b64_decode`. -/
structure Base64Decoder where
  /-- The bytes of a base64 text, if it is one. -/
  text : Bytes → Option Bytes
  /-- What is returned for another text. -/
  garbled : Bytes → Bytes

/-- The bytes that are returned for a text. -/
def Base64Decoder.decode (b64 : Base64Decoder) (text : Bytes) : Bytes :=
  (b64.text text).getD (b64.garbled text)

/-- `Receive<ProtobufMessage>`, with functions of type `ι`. -/
structure Receive (ι μ : Type) where
  /-- `ProtobufMessage`. -/
  type : MessageType μ
  /-- `f_`. -/
  f : ι

/-- The function of a `ReceiveUnparsed`. -/
inductive UnparsedCallback (ι : Type)
  /-- A function of a user. -/
  | user (f : ι)
  /-- The one that `tcp_server::accept` registers. -/
  | server

/-- `ReceiveBase`. -/
inductive ReceiveBase (ι μ : Type)
  /-- `Receive`. -/
  | receive (rx : Receive ι μ)
  /-- `ReceiveUnparsed`. -/
  | unparsed (f : UnparsedCallback ι)

/-- What is registered with a session and the server that has accepted it. -/
structure Registered (ι μ : Type) where
  /-- With `read_callback<M>` on the session. -/
  session : List (Receive ι μ)
  /-- With `read_callback` on the session. -/
  all : List (UnparsedCallback ι)
  /-- With `read_callback<M>` on the server. -/
  server : List (Receive ι μ)

variable {ι μ : Type}

/-- `ParseFromString`: the result, and the message. -/
def MessageType.parseFromString (type : MessageType μ) (bytes : Bytes) : Bool × μ :=
  match type.parse bytes with
  | some msg => (true, msg)
  | none => (false, type.remains bytes)

/-- `Receive::post`, the function and the message it is called with. -/
def Receive.post (rx : Receive ι μ) (bytes : Bytes) : ι × μ :=
  -- the result is not looked at
  let (_, msg) := rx.type.parseFromString bytes
  (rx.f, msg)

/-- `rx_callbacks_` of the session. -/
def Registered.rxCallbacks (regs : Registered ι μ) : List (Bytes × ReceiveBase ι μ) :=
  regs.session.map fun rx => (rx.type.fullName, .receive rx)

/-- `rx_callbacks_` of the server. -/
def Registered.serverCallbacks (regs : Registered ι μ) : List (Bytes × Receive ι μ) :=
  regs.server.map fun rx => (rx.type.fullName, rx)

/-- `ReceiveBase::post`, the typed callbacks that are invoked by it. -/
def ReceiveBase.post (regs : Registered ι μ) (pbName bytes : Bytes) :
    ReceiveBase ι μ → List (ι × μ)
  | .receive rx => [rx.post bytes]
  | .unparsed (.user _) => []
  | .unparsed .server =>
      (regs.serverCallbacks.filter (·.1 = pbName)).map fun entry => entry.2.post bytes

/-- The session before anything was received. -/
def Registered.start (regs : Registered ι μ) : TcpSession (ReceiveBase ι μ) :=
  { rxCallbacks := regs.rxCallbacks, rxAll := regs.all.map .unparsed }

/-- The typed callbacks that were invoked. -/
def typedCalls (regs : Registered ι μ) (s : TcpSession (ReceiveBase ι μ)) : List (ι × μ) :=
  s.posted.flatMap fun (callback, pbName, bytes) => callback.post regs pbName bytes

/-! ### Valid lines -/

/-- The message of a line that is `NETSIM|`, the full name of the type, `|`, and the base64 text of
a message of the type. -/
def MessageType.message (b64 : Base64Decoder) (type : MessageType μ) (line : Bytes) : Option μ :=
  let head := preamble ++ [delimiter] ++ type.fullName ++ [delimiter]
  if head <+: line then (b64.text (line.drop head.length)).bind type.parse else none

/-- All callbacks registered with `read_callback<M>`. -/
def Registered.typed (regs : Registered ι μ) : List (Receive ι μ) :=
  regs.session ++ regs.all.flatMap fun
    | .server => regs.server
    | .user _ => []

/-- The typed callbacks that are to be invoked for a line. -/
def Registered.expected (regs : Registered ι μ) (b64 : Base64Decoder) (line : Bytes) :
    List (ι × μ) :=
  regs.typed.filterMap fun rx => (rx.type.message b64 line).map fun msg => (rx.f, msg)

/-- The full name in the second field of a line, if it has two `|`. -/
def pbName (line : Bytes) : Option Bytes :=
  if 2 ≤ line.count delimiter then some (lineFields line).1 else none

/-- A line that names a registered type is a valid line of that type. -/
def Registered.ValidWhereNamed (regs : Registered ι μ) (b64 : Base64Decoder) (line : Bytes) :
    Prop :=
  ∀ rx ∈ regs.typed, pbName line = some rx.type.fullName → (rx.type.message b64 line).isSome

/-- Every complete line of a buffer has two `|`, or is all that remains of the buffer. -/
def LinesApart (buffer : Bytes) : Prop :=
  ∀ before line later, Delimited.records endOfLine buffer = before ++ line :: later →
    2 ≤ line.count delimiter ∨ later = [] ∧ Delimited.rest endOfLine buffer = []

/-- Whenever bytes arrive, every line that is then complete has two `|`, or is the end of what has
arrived. -/
def ArriveApart (chunks : List Bytes) : Prop :=
  ∀ before chunk later, chunks = before ++ chunk :: later →
    LinesApart (Delimited.rest endOfLine before.flatten ++ chunk)

/-! ### The callbacks of a line -/

/-- The typed callbacks that are invoked for a name and decoded data. -/
def Registered.calls (regs : Registered ι μ) (m : Bytes × Bytes) : List (ι × μ) :=
  (regs.typed.filter (·.type.fullName = m.1)).map (·.post m.2)

/-- The typed callbacks that are invoked for a line on its own. -/
def Registered.lineCalls (regs : Registered ι μ) (b64 : Base64Decoder) (line : Bytes) :
    List (ι × μ) :=
  if 2 ≤ line.count delimiter then regs.calls (parseLine b64.decode line) else []

section Calls

variable {regs : Registered ι μ} {b64 : Base64Decoder} {line : Bytes}

/-- A name that is empty or has a newline in it is that of no type. -/
theorem calls_of_improper {m : Bytes × Bytes} (h : m.1 = [] ∨ endOfLine ∈ m.1) :
    regs.calls m = [] := by
  rw [Registered.calls, List.filter_eq_nil_iff.2, List.map_nil]
  rintro rx -
  rw [decide_eq_true_eq]
  intro hname
  rw [← hname] at h
  exact h.elim rx.type.proper.1 rx.type.proper.2.2

/-- The callbacks of the session and of the server that are posted to are those of the name. -/
theorem flatMap_post_callbacks (m : Bytes × Bytes) :
    ((regs.start.callbacks m.1).flatMap fun callback => callback.post regs m.1 m.2) =
      regs.calls m := by
  have hsession : (((regs.rxCallbacks.filter (·.1 = m.1)).map (·.2)).flatMap
      fun callback => callback.post regs m.1 m.2) =
      (regs.session.filter (·.type.fullName = m.1)).map (·.post m.2) := by
    rw [Registered.rxCallbacks, List.filter_map, List.map_map, List.flatMap_map,
      List.map_eq_flatMap]
    rfl
  have hserver : ((regs.all.map ReceiveBase.unparsed).flatMap
      fun callback => callback.post regs m.1 m.2) =
      ((regs.all.flatMap fun
        | .server => regs.server
        | .user _ => []).filter (·.type.fullName = m.1)).map (·.post m.2) := by
    rw [List.flatMap_map, List.filter_flatMap, List.map_flatMap]
    apply List.flatMap_congr
    rintro (f | _) -
    · rfl
    · rw [ReceiveBase.post, Registered.serverCallbacks, List.filter_map, List.map_map]
      rfl
  rw [callbacks, Registered.start, List.flatMap_append, hsession, hserver, Registered.calls,
    Registered.typed, List.filter_append, List.map_append]

/-- The typed callbacks are those of the names and data that were dispatched. -/
theorem typedCalls_eq_flatMap_calls {s : TcpSession (ReceiveBase ι μ)} (hposted : s.Posted)
    (hcallbacks : s.callbacks = regs.start.callbacks) :
    typedCalls regs s = s.dispatched.flatMap regs.calls := by
  rw [typedCalls, hposted, List.flatMap_assoc]
  apply List.flatMap_congr
  intro m _
  rw [List.flatMap_map, hcallbacks]
  exact flatMap_post_callbacks m

end Calls

/-! ### Lines that arrive apart -/

section Apart

variable {regs : Registered ι μ} {b64 : Base64Decoder} {line more : Bytes}

theorem linesApart_line (hline : endOfLine ∉ line) :
    LinesApart (line ++ endOfLine :: more) ↔
      (2 ≤ line.count delimiter ∨ more = []) ∧ LinesApart more := by
  have hmore : more = [] ↔ Delimited.records endOfLine more = [] ∧
      Delimited.rest endOfLine more = [] := eq_nil_iff
  unfold LinesApart
  rw [Delimited.records_record hline, Delimited.rest_record hline, hmore]
  exact Delimited.forall_append_cons_cons (R := fun (line : Bytes) later =>
    2 ≤ line.count delimiter ∨ later = [] ∧ Delimited.rest endOfLine more = [])

/-- A line with fewer than two `|` that ends the buffer is all that is read, and the name of no type
is read from it. -/
theorem readFields_of_short (hshort : line.count delimiter < 2) :
    ((readFields (line ++ [endOfLine])).2.1 = [] ∨
        endOfLine ∈ (readFields (line ++ [endOfLine])).2.1) ∧
      (readFields (line ++ [endOfLine])).2.2.2 = [] := by
  by_cases hmem : delimiter ∈ line
  · obtain ⟨pre, name, rfl, hpre, hname⟩ := exists_of_one hmem hshort
    have hname' : delimiter ∉ name ++ [endOfLine] := by simp [hname, delimiter_ne_endOfLine]
    have hread := readFields_one hpre hname'
    rw [← List.cons_append, ← List.append_assoc] at hread
    rw [hread]
    exact ⟨.inr (by simp), rfl⟩
  · rw [readFields_of_not_mem (by simp [hmem, delimiter_ne_endOfLine])]
    exact ⟨.inl rfl, rfl⟩

variable (regs b64) in
/-- The handler, on a buffer whose first line is apart. -/
theorem calls_handleRead {s : TcpSession (ReceiveBase ι μ)}
    (hbuffer : s.buffer = line ++ endOfLine :: more) (hline : endOfLine ∉ line)
    (h : 2 ≤ line.count delimiter ∨ more = []) :
    (s.handleRead b64.decode).dispatched.flatMap regs.calls =
        s.dispatched.flatMap regs.calls ++ regs.lineCalls b64 line ∧
      (s.handleRead b64.decode).buffer = more := by
  have hdispatched : (s.handleRead b64.decode).dispatched.flatMap regs.calls =
      s.dispatched.flatMap regs.calls ++
        regs.calls ((readFields s.buffer).2.1, b64.decode (readFields s.buffer).2.2.1) := by
    simp [handleRead]
  have hleft : (s.handleRead b64.decode).buffer = (readFields s.buffer).2.2.2 := rfl
  rw [hdispatched, hleft, hbuffer, Registered.lineCalls]
  by_cases htwo : 2 ≤ line.count delimiter
  · rw [if_pos htwo, readFields_of_fields more hline (.inl htwo)]
    exact ⟨rfl, rfl⟩
  · obtain rfl := h.resolve_left htwo
    obtain ⟨hname, hnothing⟩ := readFields_of_short (Nat.lt_of_not_le htwo)
    rw [if_neg htwo, hnothing, calls_of_improper hname]
    exact ⟨rfl, rfl⟩

variable (regs b64) in
/-- The read loop, on a buffer whose lines are apart. -/
theorem calls_readLoop (fuel : ℕ) {s : TcpSession (ReceiveBase ι μ)}
    (hfuel : s.buffer.length ≤ fuel) (h : LinesApart s.buffer) :
    (readLoop b64.decode fuel s).dispatched.flatMap regs.calls =
        s.dispatched.flatMap regs.calls ++
          (Delimited.records endOfLine s.buffer).flatMap (regs.lineCalls b64) ∧
      (readLoop b64.decode fuel s).buffer = Delimited.rest endOfLine s.buffer := by
  refine readLoop_induction b64.decode (motive := fun s t => LinesApart s.buffer →
    t.dispatched.flatMap regs.calls = s.dispatched.flatMap regs.calls ++
        (Delimited.records endOfLine s.buffer).flatMap (regs.lineCalls b64) ∧
      t.buffer = Delimited.rest endOfLine s.buffer)
    (fun s hmem _ => ?_) (fun s t hmem ih h => ?_) fuel s hfuel h
  · rw [Delimited.records_of_not_mem hmem, Delimited.rest_of_not_mem hmem]
    simp
  · obtain ⟨line, more, hbuffer, hline⟩ := List.eq_append_cons_of_mem hmem
    rw [hbuffer, linesApart_line hline] at h
    obtain ⟨hcalls, hleft⟩ := calls_handleRead regs b64 hbuffer hline h.1
    obtain ⟨hall, hrest⟩ := ih (hleft ▸ h.2)
    rw [hall, hrest, hleft, hcalls, hbuffer, Delimited.records_record hline,
      Delimited.rest_record hline]
    simp

/-- A session reads lines that arrive apart one by one. -/
theorem calls_afterChunks (chunks : List Bytes) (h : ArriveApart chunks) :
    (afterChunks b64.decode regs.start chunks).dispatched.flatMap regs.calls =
        (Delimited.records endOfLine chunks.flatten).flatMap (regs.lineCalls b64) ∧
      (afterChunks b64.decode regs.start chunks).buffer =
        Delimited.rest endOfLine chunks.flatten ∧
      (afterChunks b64.decode regs.start chunks).connected := by
  induction chunks using List.reverseRecOn with
  | nil => simp [afterChunks, Registered.start]
  | append_singleton chunks chunk ih =>
      obtain ⟨hcalls, hbuffer, hconnected⟩ := ih fun before c later heq =>
        h before c (later ++ [chunk]) (by rw [heq]; simp)
      have hchunk := h chunks chunk [] rfl
      have hrun : afterChunks b64.decode regs.start (chunks ++ [chunk]) =
          onRead b64.decode (afterChunks b64.decode regs.start chunks) (.received chunk) := by
        simp [afterChunks, Run.run_concat]
      rw [← hbuffer] at hchunk
      obtain ⟨hall, hrest⟩ := calls_readLoop regs b64 _ (Nat.le_refl _)
        (s := { afterChunks b64.decode regs.start chunks with
          buffer := (afterChunks b64.decode regs.start chunks).buffer ++ chunk }) hchunk
      rw [hrun, onRead, if_pos hconnected, hall, hrest, connected_readLoop, hcalls, hbuffer,
        List.flatten_append, List.flatten_singleton, Delimited.records_append chunks.flatten,
        Delimited.rest_append chunks.flatten, List.flatMap_append]
      exact ⟨rfl, rfl, hconnected⟩

/-- Lines that have their fields arrive apart, however the stream is cut. -/
theorem arriveApart_of_fieldsOnLine {chunks : List Bytes} (h : FieldsOnLine chunks.flatten) :
    ArriveApart chunks := by
  rintro before chunk later rfl
  have hstream : FieldsOnLine (before.flatten ++ chunk ++ later.flatten) := by
    simpa using h
  intro before' line later' heq
  rcases hstream.of_append.of_rest before' line later' heq with htwo | ⟨-, hend⟩
  · exact .inl htwo
  · exact .inr hend

end Apart

/-! ### Comparing calls -/

section Compare

variable {α β : Type} {f g : α → List β} {q : α → Option β} {p : α → Bool} {h : α → β}

/-- Some values that a list is to have, among those that it has. -/
theorem filterMap_sublist_map_filter (hq : ∀ a b, q a = some b → p a ∧ h a = b) (xs : List α) :
    (xs.filterMap q).Sublist ((xs.filter p).map h) := by
  induction xs with
  | nil => exact List.Sublist.refl _
  | cons a xs ih =>
      cases hqa : q a with
      | some b =>
          obtain ⟨hp, rfl⟩ := hq a b hqa
          rw [List.filterMap_cons_some hqa, List.filter_cons_of_pos hp, List.map_cons]
          exact ih.cons_cons _
      | none =>
          rw [List.filterMap_cons_none hqa, List.filter_cons]
          split_ifs
          · exact ih.cons _
          · exact ih

/-- It has no others iff each has a value. -/
theorem filterMap_eq_map_filter_iff (hq : ∀ a b, q a = some b → p a ∧ h a = b) (xs : List α) :
    xs.filterMap q = (xs.filter p).map h ↔ ∀ a ∈ xs, p a → (q a).isSome := by
  induction xs with
  | nil => simp
  | cons a xs ih =>
      rw [List.forall_mem_cons, ← ih]
      cases hqa : q a with
      | some b =>
          obtain ⟨hp, rfl⟩ := hq a b hqa
          rw [List.filterMap_cons_some hqa, List.filter_cons_of_pos hp, List.map_cons]
          simp
      | none =>
          rw [List.filterMap_cons_none hqa]
          by_cases hp : p a
          · rw [List.filter_cons_of_pos hp, List.map_cons]
            -- the list has one value more
            have hlength := (filterMap_sublist_map_filter hq xs).length_le
            refine iff_of_false (fun heq => ?_) (by simp [hp])
            rw [heq, List.length_cons] at hlength
            omega
          · rw [List.filter_cons_of_neg hp]
            simp [hp]

/-- Sublists that make up the whole are the lists themselves. -/
theorem flatMap_eq_flatMap_iff (xs : List α) (hsub : ∀ a ∈ xs, (f a).Sublist (g a)) :
    xs.flatMap f = xs.flatMap g ↔ ∀ a ∈ xs, f a = g a := by
  induction xs with
  | nil => simp
  | cons a xs ih =>
      obtain ⟨hfirst, hothers⟩ := List.forall_mem_cons.1 hsub
      rw [List.forall_mem_cons, ← ih hothers, List.flatMap_cons, List.flatMap_cons]
      constructor
      · intro heq
        have hlength := congrArg List.length heq
        rw [List.length_append, List.length_append] at hlength
        have hle := hfirst.length_le
        have hle' := (List.Sublist.flatMap_right xs hothers).length_le
        have hfa := hfirst.eq_of_length (by omega)
        rw [hfa] at heq
        exact ⟨hfa, List.append_cancel_left heq⟩
      · rintro ⟨hfa, hxs⟩
        rw [hfa, hxs]

end Compare

/-! ### Valid lines and their callbacks -/

section Valid

variable {regs : Registered ι μ} {b64 : Base64Decoder} {line : Bytes}

/-- The line of a message. -/
theorem message_eq_some_iff {type : MessageType μ} {msg : μ} :
    type.message b64 line = some msg ↔ ∃ text bytes,
      line = preamble ++ delimiter :: (type.fullName ++ delimiter :: text) ∧
        b64.text text = some bytes ∧ type.parse bytes = some msg := by
  rw [MessageType.message]
  constructor
  · intro h
    split_ifs at h with hhead
    obtain ⟨text, rfl⟩ := hhead
    rw [List.drop_left, Option.bind_eq_some_iff] at h
    obtain ⟨bytes, htext, hparse⟩ := h
    exact ⟨text, bytes, by simp, htext, hparse⟩
  · rintro ⟨text, bytes, rfl, htext, hparse⟩
    have hline : preamble ++ delimiter :: (type.fullName ++ delimiter :: text) =
        preamble ++ [delimiter] ++ type.fullName ++ [delimiter] ++ text := by simp
    rw [hline, if_pos (List.prefix_append _ _), List.drop_left, htext]
    exact hparse

/-- A valid line names its type, and its message is what the callbacks are called with. -/
theorem post_of_message {rx : Receive ι μ} {msg : μ} (h : rx.type.message b64 line = some msg) :
    pbName line = some rx.type.fullName ∧
      rx.post (parseLine b64.decode line).2 = (rx.f, msg) := by
  obtain ⟨text, bytes, rfl, htext, hparse⟩ := message_eq_some_iff.1 h
  have hpre : delimiter ∉ preamble := by decide
  have hfields : lineFields (preamble ++ delimiter :: (rx.type.fullName ++ delimiter :: text)) =
      (rx.type.fullName, text) := by
    simp only [lineFields, Delimited.splitFirst_record delimiter hpre,
      Delimited.splitFirst_record delimiter rx.type.proper.2.1]
  constructor
  · rw [pbName, hfields, if_pos]
    simp only [List.count_append, List.count_cons_self]
    omega
  · rw [parseLine, hfields, Base64Decoder.decode, htext, Receive.post, Option.getD_some,
      MessageType.parseFromString, hparse]

theorem lineCalls_eq (regs : Registered ι μ) (b64 : Base64Decoder) (line : Bytes) :
    regs.lineCalls b64 line = (regs.typed.filter fun rx => pbName line = some rx.type.fullName).map
      (·.post (parseLine b64.decode line).2) := by
  rw [Registered.lineCalls, pbName]
  split_ifs with htwo
  · apply congrArg (List.map _)
    apply List.filter_congr
    intro rx _
    rw [decide_eq_decide, Option.some_inj, eq_comm]
    rfl
  · simp

/-- What a callback is to be invoked with, it is. -/
theorem post_of_expected (b64 : Base64Decoder) (line : Bytes) (rx : Receive ι μ) (call : ι × μ)
    (h : (rx.type.message b64 line).map (fun msg => (rx.f, msg)) = some call) :
    decide (pbName line = some rx.type.fullName) ∧
      rx.post (parseLine b64.decode line).2 = call := by
  obtain ⟨msg, hmsg, rfl⟩ := Option.map_eq_some_iff.1 h
  simpa using post_of_message hmsg

/-- The callbacks that are to be invoked for a line are among those that are. -/
theorem expected_sublist (regs : Registered ι μ) (b64 : Base64Decoder) (line : Bytes) :
    (regs.expected b64 line).Sublist (regs.lineCalls b64 line) := by
  rw [lineCalls_eq]
  exact filterMap_sublist_map_filter (post_of_expected b64 line) regs.typed

theorem expected_eq_lineCalls_iff :
    regs.expected b64 line = regs.lineCalls b64 line ↔ regs.ValidWhereNamed b64 line := by
  rw [lineCalls_eq, Registered.expected,
    filterMap_eq_map_filter_iff (post_of_expected b64 line) regs.typed, Registered.ValidWhereNamed]
  simp

end Valid

/-- In a session whose lines arrive apart, the typed callbacks that are invoked are those of the
valid lines, with their messages, iff every line that names a registered type is valid. -/
theorem fires_iff_valid (regs : Registered ι μ) (b64 : Base64Decoder) (chunks : List Bytes)
    (h : ArriveApart chunks) :
    typedCalls regs (afterChunks b64.decode regs.start chunks) =
        (Delimited.records endOfLine chunks.flatten).flatMap (regs.expected b64) ↔
      ∀ line ∈ Delimited.records endOfLine chunks.flatten, regs.ValidWhereNamed b64 line := by
  obtain ⟨hposted, hcallbacks⟩ := Posted.afterChunks b64.decode (s := regs.start) rfl chunks
  rw [typedCalls_eq_flatMap_calls hposted hcallbacks, (calls_afterChunks chunks h).1, eq_comm,
    flatMap_eq_flatMap_iff _ fun line _ => expected_sublist regs b64 line]
  exact forall₂_congr fun line _ => expected_eq_lineCalls_iff

/-- The message type `T` with one required field, a number below 128. -/
def numberType : MessageType ℕ where
  fullName := [84]
  parse
    | [8, n] => if n < 128 then some n.toNat else none
    | _ => none
  remains _ := 0
  proper := by decide

/-- A decoder that skips what is no digit. -/
def skippingDecoder : Base64Decoder where
  text text := if text.all (fun c => (Base64.digit c).isSome || c = Base64.pad) then
    some (Base64.decode text) else none
  garbled := Base64.decode

/-- A callback on a session, and one on its server. -/
def numberCallbacks : Registered ℕ ℕ where
  session := [⟨numberType, 0⟩]
  all := [.server]
  server := [⟨numberType, 1⟩]

/-- The lines `NETSIM|T|CEE=` and `NETSIM|U|!`, cut in the middle: both callbacks fire on the first
line, and none on the second. -/
theorem fires_on_valid_line :
    typedCalls numberCallbacks (afterChunks skippingDecoder.decode numberCallbacks.start
      [[78, 69, 84, 83, 73, 77, 124, 84, 124, 67, 69], [69, 61, 10, 78, 69, 84, 83],
        [73, 77, 124, 85, 124, 33, 10]]) = [(0, 65), (1, 65)] := by
  let chunks : List Bytes := [[78, 69, 84, 83, 73, 77, 124, 84, 124, 67, 69],
    [69, 61, 10, 78, 69, 84, 83], [73, 77, 124, 85, 124, 33, 10]]
  have htwo : ∀ line ∈ Delimited.records endOfLine chunks.flatten, 2 ≤ line.count delimiter := by
    decide +kernel
  have hfields : FieldsOnLine chunks.flatten := fun before line later heq =>
    .inl (htwo line (by simp [heq]))
  have hvalid : ∀ line ∈ Delimited.records endOfLine chunks.flatten,
      numberCallbacks.ValidWhereNamed skippingDecoder line := by
    unfold Registered.ValidWhereNamed
    decide +kernel
  refine ((fires_iff_valid numberCallbacks skippingDecoder chunks
    (arriveApart_of_fieldsOnLine hfields)).2 hvalid).trans ?_
  decide +kernel

/-- Both fire on the line `x|T|CEE=`, and on `NETSIM|T|!`. -/
theorem fires_on_invalid_lines :
    let calls (chunks : List Bytes) := typedCalls numberCallbacks
      (afterChunks skippingDecoder.decode numberCallbacks.start chunks)
    let expected (chunks : List Bytes) := (Delimited.records endOfLine chunks.flatten).flatMap
      (numberCallbacks.expected skippingDecoder)
    calls [[120, 124, 84, 124, 67, 69, 69, 61, 10]] = [(0, 65), (1, 65)] ∧
      expected [[120, 124, 84, 124, 67, 69, 69, 61, 10]] = [] ∧
      calls [[78, 69, 84, 83, 73, 77, 124, 84, 124, 33, 10]] = [(0, 0), (1, 0)] ∧
      expected [[78, 69, 84, 83, 73, 77, 124, 84, 124, 33, 10]] = [] := by
  decide +kernel

end TcpSession

end Netsim
