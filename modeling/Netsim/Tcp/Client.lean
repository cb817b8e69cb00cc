import Netsim.Tcp.Lines

/-!
# tcp_client

A client is a session that can be connected again and again. `connect` puts a new socket in the
place of the old one, whose pending read is aborted; the receive buffer stays as it is. What a
connection that was lost has left in the buffer is read together with what the next one receives.

The preamble of a line is not looked at, so that a rest without a `|` does no harm. Connections do
not contaminate each other iff no connection is made while the buffer holds a `|`
(`isolated_iff_leftBare`).
-/

namespace Netsim

/-- A connection of a client. -/
structure Connection where
  /-- The chunks that were received, in order. -/
  received : List Bytes := []
  /-- The messages that were dispatched. -/
  dispatched : List (Bytes × Bytes) := []
deriving DecidableEq

/-- A client, with callbacks of type `κ`. -/
structure TcpClient (κ : Type) where
  /-- The members of `tcp_session`. -/
  session : TcpSession κ := { connected := false }
  /-- The connect handler of the current socket has not run. -/
  connecting : Bool := false
  /-- A read from the current socket is pending. -/
  reading : Bool := false
  /-- The reads from earlier sockets whose handlers have not run. -/
  aborted : ℕ := 0
  /-- The connections that were made, the newest first. -/
  connections : List Connection := []

/-- What can happen to a client. -/
inductive ClientEvent
  /-- `connect` is called. -/
  | connect
  /-- The connect handler runs. -/
  | connectHandler (ok : Bool)
  /-- More bytes have arrived. -/
  | received (chunk : Bytes)
  /-- The connection is lost: the read fails. -/
  | lost
  /-- The handler of an aborted read runs. -/
  | aborted
  /-- `disconnect` is called, for instance because a write has failed. -/
  | disconnect

namespace TcpClient

open TcpSession

variable {κ : Type} (decode : Bytes → Bytes)

/-- `read`, until it waits for more bytes; `chunk` are those that have arrived. The messages are
dispatched for the newest connection. -/
def read (c : TcpClient κ) (chunks : List Bytes) : TcpClient κ :=
  let buffer := c.session.buffer ++ chunks.flatten
  let session := readLoop decode buffer.length { c.session with buffer := buffer }
  { c with
    session := session
    connections := match c.connections with
      | current :: earlier =>
          { received := current.received ++ chunks
            dispatched := current.dispatched ++
              session.dispatched.drop c.session.dispatched.length } :: earlier
      | [] => [] }

/-- `start`. -/
def start (c : TcpClient κ) : TcpClient κ :=
  read decode { c with
    session := { c.session with connected := true }
    connecting := false
    reading := true
    connections := {} :: c.connections } []

/-- The reaction to an event. -/
def step (c : TcpClient κ) : ClientEvent → TcpClient κ
  -- `socket().reset`: neither the buffer nor `self_` is reset
  | .connect =>
      { c with connecting := true, reading := false,
               aborted := if c.reading then c.aborted + 1 else c.aborted }
  | .connectHandler ok =>
      if c.connecting then
        if ok then c.start decode
        -- the error is thrown
        else { c with connecting := false }
      else c
  | .received chunk => if c.reading then c.read decode [chunk] else c
  | .lost =>
      if c.reading then { c with session := c.session.disconnect, reading := false } else c
  | .aborted =>
      if c.aborted = 0 then c
      else { c with session := c.session.disconnect, aborted := c.aborted - 1 }
  | .disconnect => { c with session := c.session.disconnect }

/-- A new client after `es`. -/
def after (es : List ClientEvent) : TcpClient κ := Run.run (step decode) {} es

/-- The session of a first connection. -/
def firstConnection (chunks : List Bytes) : TcpSession κ := afterChunks decode {} chunks

/-- The messages of a connection are those that a first connection would have dispatched for the
same bytes; and, if the lines have their fields, those of the lines on their own. -/
def OfBytesAlone (connection : Connection) : Prop :=
  connection.dispatched = (firstConnection (κ := κ) decode connection.received).dispatched ∧
    (FieldsOnLine connection.received.flatten → connection.dispatched =
      (Delimited.records endOfLine connection.received.flatten).map (parseLine decode))

variable (κ) in
/-- The messages of every connection depend on its bytes alone. -/
def Isolated (es : List ClientEvent) : Prop :=
  ∀ connection ∈ (after (κ := κ) decode es).connections, OfBytesAlone (κ := κ) decode connection

variable (κ) in
/-- Whenever a connection is made, what the earlier ones have left in the buffer holds no `|`. -/
def LeftBare (es : List ClientEvent) : Prop :=
  Run.Always (step (κ := κ) decode) {} (fun c e =>
    e = .connectHandler true → c.connecting → delimiter ∉ c.session.buffer) es

/-! ### A bare rest in front of the buffer -/

section Bare

variable {decode} {left : Bytes}

/-- In front of the preamble, bytes without a `|` change nothing that is looked at. -/
theorem readFields_append_of_bare (hleft : delimiter ∉ left) (buffer : Bytes) :
    (readFields (left ++ buffer)).2 = (readFields buffer).2 := by
  rcases readFields_cases buffer with
    h | ⟨pre, name, rfl, hpre, hname⟩ | ⟨pre, name, data, rfl, hpre, hname, hdata⟩ |
      ⟨pre, name, data, more, rfl, hpre, hname, hdata⟩
  · have hall : delimiter ∉ left ++ buffer := by simp [hleft, h]
    rw [readFields_of_not_mem h, readFields_of_not_mem hall]
  -- otherwise the rest becomes a part of the preamble
  all_goals
    have hpre' : delimiter ∉ left ++ pre := by simp [hleft, hpre]
    rw [← List.append_assoc]
  · rw [readFields_one hpre hname, readFields_one hpre' hname]
  · rw [readFields_two hpre hname hdata, readFields_two hpre' hname hdata]
  · rw [readFields_line hpre hname hdata, readFields_line hpre' hname hdata]

variable (decode) in
/-- What is read from a buffer with a bare rest in front is what is read from the buffer. -/
theorem readLoop_of_bare {s t : TcpSession κ} {fuel fuel' : ℕ} (hs : s.buffer.length ≤ fuel)
    (ht : t.buffer.length ≤ fuel') (hbuffer : s.buffer = left ++ t.buffer)
    (hdelimiter : delimiter ∉ left) (hend : endOfLine ∉ left) :
    ∃ left' more, delimiter ∉ left' ∧
      (readLoop decode fuel s).buffer = left' ++ (readLoop decode fuel' t).buffer ∧
      (readLoop decode fuel s).dispatched = s.dispatched ++ more ∧
      (readLoop decode fuel' t).dispatched = t.dispatched ++ more := by
  -- on the fuel; the first handler takes the rest out of the buffer with the preamble
  induction fuel generalizing fuel' s t left with
  | zero =>
      have hnil : s.buffer = [] := List.length_eq_zero_iff.1 (Nat.le_zero.1 hs)
      rw [hnil, eq_comm, List.append_eq_nil_iff] at hbuffer
      have htend : endOfLine ∉ t.buffer := by simp [hbuffer.2]
      refine ⟨[], [], by simp, ?_, ?_, ?_⟩
      · rw [readLoop, readLoop_of_not_mem _ htend, hnil, hbuffer.2, List.append_nil]
      · rw [readLoop, List.append_nil]
      · rw [readLoop_of_not_mem _ htend, List.append_nil]
  | succ fuel ih =>
      by_cases hmem : endOfLine ∈ t.buffer
      · have hmem' : endOfLine ∈ s.buffer := by simp [hbuffer, hmem]
        obtain ⟨fuel', rfl⟩ : ∃ n, fuel' = n + 1 :=
          Nat.exists_eq_succ_of_ne_zero (by have := List.length_pos_of_mem hmem; omega)
        have hread : (readFields s.buffer).2 = (readFields t.buffer).2 := by
          rw [hbuffer, readFields_append_of_bare hdelimiter]
        have hlength : (s.handleRead decode).buffer.length < s.buffer.length :=
          length_readFields_lt hmem'
        have hlength' : (t.handleRead decode).buffer.length < t.buffer.length :=
          length_readFields_lt hmem
        have hsame : (s.handleRead decode).buffer = [] ++ (t.handleRead decode).buffer := by
          simp [handleRead, hread]
        have hfuel : (t.handleRead decode).buffer.length ≤ fuel' := by omega
        obtain ⟨left', more, hleft', hleft, hmore, hmore'⟩ :=
          ih (by omega) hfuel hsame (by simp) (by simp)
        refine ⟨left', ((readFields t.buffer).2.1, decode (readFields t.buffer).2.2.1) :: more,
          hleft', ?_, ?_, ?_⟩
        · rw [readLoop_succ_of_mem fuel hmem', readLoop_succ_of_mem fuel' hmem, hleft]
        · rw [readLoop_succ_of_mem fuel hmem', hmore]
          simp [handleRead, hread]
        · rw [readLoop_succ_of_mem fuel' hmem, hmore']
          simp [handleRead]
      · have hmem' : endOfLine ∉ s.buffer := by simp [hbuffer, hmem, hend]
        refine ⟨left, [], hdelimiter, ?_, ?_, ?_⟩
        · rw [readLoop_of_not_mem _ hmem, readLoop_of_not_mem _ hmem', hbuffer]
        · rw [readLoop_of_not_mem _ hmem', List.append_nil]
        · rw [readLoop_of_not_mem _ hmem, List.append_nil]

/-- The read loop leaves no complete line. -/
theorem endOfLine_not_mem_readLoop {s : TcpSession κ} {fuel : ℕ} (hfuel : s.buffer.length ≤ fuel) :
    endOfLine ∉ (readLoop decode fuel s).buffer :=
  readLoop_induction decode (motive := fun _ t => endOfLine ∉ t.buffer) (fun _ hmem => hmem)
    (fun _ _ _ ih => ih) fuel s hfuel

end Bare

/-! ### A first connection -/

section First

variable {decode}

@[simp]
theorem connected_afterChunks (s : TcpSession κ) (chunks : List Bytes) :
    (afterChunks decode s chunks).connected = s.connected := by
  induction chunks using List.reverseRecOn with
  | nil => rfl
  | append_singleton chunks chunk ih =>
      rw [afterChunks, List.map_append, List.map_singleton, Run.run_concat, ← afterChunks, onRead]
      split_ifs
      · rw [connected_readLoop, ih]
      · exact ih

variable (decode) in
/-- One more chunk. -/
theorem firstConnection_concat (chunks : List Bytes) (chunk : Bytes) :
    firstConnection (κ := κ) decode (chunks ++ [chunk]) =
      readLoop decode ((firstConnection (κ := κ) decode chunks).buffer ++ chunk).length
        { firstConnection decode chunks with
          buffer := (firstConnection (κ := κ) decode chunks).buffer ++ chunk } := by
  have hconnected : (firstConnection (κ := κ) decode chunks).connected := by
    simp [firstConnection]
  rw [firstConnection, afterChunks, List.map_append, List.map_singleton, Run.run_concat,
    ← afterChunks, ← firstConnection, onRead, if_pos hconnected]

/-- A first connection dispatches its lines, if they have their fields. -/
theorem ofBytesAlone_iff {connection : Connection} : OfBytesAlone (κ := κ) decode connection ↔
    connection.dispatched =
      (firstConnection (κ := κ) decode connection.received).dispatched := by
  refine and_iff_left_of_imp fun h hfields => ?_
  rw [h, firstConnection]
  simpa using (afterChunks_of_fieldsOnLine (κ := κ) decode (s := {}) connection.received rfl
    (by simp) (by simpa using hfields)).1

end First

/-! ### Bare rests do no harm -/

section Bare

variable {decode} {c : TcpClient κ}

variable (decode) in
/-- Between two events the buffer holds no complete line, every connection has dispatched what a
first connection would have, and the newest one differs from a first connection by a bare rest. -/
structure Bare (c : TcpClient κ) : Prop where
  noLine : endOfLine ∉ c.session.buffer
  alone : ∀ connection ∈ c.connections, connection.dispatched =
    (firstConnection (κ := κ) decode connection.received).dispatched
  reading : c.reading → ∃ current earlier left, c.connections = current :: earlier ∧
    delimiter ∉ left ∧
    c.session.buffer = left ++ (firstConnection (κ := κ) decode current.received).buffer

/-- An event that leaves the buffer and the connections alone, and starts no read. -/
theorem Bare.congr {c' : TcpClient κ} (h : Bare decode c)
    (hbuffer : c'.session.buffer = c.session.buffer) (hconnections : c'.connections = c.connections)
    (hreading : c'.reading → c.reading) : Bare decode c' := by
  refine ⟨hbuffer ▸ h.noLine, hconnections ▸ h.alone, fun hr => ?_⟩
  rw [hbuffer, hconnections]
  exact h.reading (hreading hr)

/-- A connection is made, and what is left in the buffer is bare. -/
theorem Bare.start (h : Bare decode c) (hleft : delimiter ∉ c.session.buffer) :
    Bare decode (c.start decode) := by
  have hbuffer : (c.start decode).session.buffer = c.session.buffer := by
    simp [TcpClient.start, read, readLoop_of_not_mem, h.noLine]
  have hconnections : (c.start decode).connections = {} :: c.connections := by
    simp [TcpClient.start, read, readLoop_of_not_mem, h.noLine]
  refine ⟨hbuffer ▸ h.noLine, fun connection hmem => ?_, fun _ => ?_⟩
  · rw [hconnections, List.mem_cons] at hmem
    rcases hmem with rfl | hmem
    · rfl
    · exact h.alone connection hmem
  · refine ⟨{}, c.connections, c.session.buffer, hconnections, hleft, ?_⟩
    rw [hbuffer]
    exact (List.append_nil _).symm

/-- A chunk is read as on a first connection. -/
theorem Bare.read (h : Bare decode c) (hreading : c.reading) (chunk : Bytes) :
    Bare decode (c.read decode [chunk]) := by
  obtain ⟨current, earlier, left, hconnections, hleft, hbuffer⟩ := h.reading hreading
  let first : TcpSession κ := firstConnection decode current.received
  have hend : endOfLine ∉ left := fun hmem => h.noLine (by simp [hbuffer, hmem])
  obtain ⟨left', more, hleft', hrest, hmore, hmore'⟩ := readLoop_of_bare decode
    (s := { c.session with buffer := c.session.buffer ++ chunk })
    (t := { first with buffer := first.buffer ++ chunk })
    (Nat.le_refl _) (Nat.le_refl _) (by simp [hbuffer, first]) hleft hend
  have hfirst := firstConnection_concat (κ := κ) decode current.received chunk
  -- what is added to the record of the connection is what the first connection dispatches
  have hconnections' : (c.read decode [chunk]).connections =
      { received := current.received ++ [chunk],
        dispatched := current.dispatched ++ more } :: earlier := by
    simp only [TcpClient.read, hconnections, List.flatten_singleton, hmore, List.drop_left]
  have hbuffer' : (c.read decode [chunk]).session.buffer =
      left' ++ (firstConnection (κ := κ) decode (current.received ++ [chunk])).buffer := by
    rw [hfirst, ← hrest]
    simp only [TcpClient.read, List.flatten_singleton]
  refine ⟨?_, fun connection hmem => ?_, fun _ => ⟨_, earlier, left', hconnections', hleft',
    hbuffer'⟩⟩
  · simp only [TcpClient.read]
    exact endOfLine_not_mem_readLoop (Nat.le_refl _)
  · rw [hconnections', List.mem_cons] at hmem
    rcases hmem with rfl | hmem
    · rw [hfirst, hmore', h.alone current (by simp [hconnections])]
    · exact h.alone connection (by simp [hconnections, hmem])

variable (decode) in
/-- In a run in which only bare rests are left, every state is as above. -/
theorem bare_after {es : List ClientEvent} (h : LeftBare κ decode es) :
    Bare decode (after (κ := κ) decode es) := by
  refine Run.run_induction (step decode) {} (I := fun _ c => Bare decode c)
    ⟨by simp, by simp, by simp⟩ (fun _ e c hc hguard => ?_) es h
  cases e with
  | connect => exact hc.congr rfl rfl (fun hr => by cases hr)
  | connectHandler ok =>
      rw [step]
      split_ifs with hconnecting hok
      · exact hc.start (hguard (by rw [hok]) hconnecting)
      · exact hc.congr rfl rfl id
      · exact hc
  | received chunk =>
      rw [step]
      split_ifs with hreading
      · exact hc.read hreading chunk
      · exact hc
  | lost =>
      rw [step]
      split_ifs
      · exact hc.congr rfl rfl (fun hr => by cases hr)
      · exact hc
  | aborted =>
      rw [step]
      split_ifs
      · exact hc
      · exact hc.congr rfl rfl id
  | disconnect => exact hc.congr rfl rfl id

end Bare

/-! ### Other rests do -/

section NotBare

variable {decode} {pre name : Bytes}

/-- The name stands between the first two `|`. -/
theorem readFields_name (hpre : delimiter ∉ pre) (hname : delimiter ∉ name) (more : Bytes) :
    (readFields (pre ++ delimiter :: (name ++ delimiter :: more))).2.1 = name := by
  by_cases hend : endOfLine ∈ more
  · obtain ⟨data, more, rfl, hdata⟩ := List.eq_append_cons_of_mem hend
    rw [readFields_line hpre hname hdata]
  · rw [readFields_two hpre hname hend]

/-- If a `|` is left in the buffer, the name is left there as well, and ends at the next `|`. -/
theorem exists_name_of_mem {left : Bytes} (h : delimiter ∈ left) :
    ∃ name, ∀ more, (readFields (left ++ delimiter :: more)).2.1 = name := by
  obtain ⟨pre, tail, rfl, hpre⟩ := List.eq_append_cons_of_mem h
  by_cases htail : delimiter ∈ tail
  · obtain ⟨name, tail, rfl, hname⟩ := List.eq_append_cons_of_mem htail
    refine ⟨name, fun more => ?_⟩
    simpa using readFields_name hpre hname (tail ++ delimiter :: more)
  · refine ⟨tail, fun more => ?_⟩
    simpa using readFields_name hpre htail more

variable (decode) in
/-- The first line that the read loop dispatches. -/
theorem head?_dispatched_readLoop {s : TcpSession κ} {fuel : ℕ} (hfuel : s.buffer.length ≤ fuel)
    (hmem : endOfLine ∈ s.buffer) :
    (((readLoop decode fuel s).dispatched.drop s.dispatched.length).head?.map (·.1)) =
      some (readFields s.buffer).2.1 := by
  obtain ⟨fuel, rfl⟩ : ∃ n, fuel = n + 1 :=
    Nat.exists_eq_succ_of_ne_zero (by have := List.length_pos_of_mem hmem; omega)
  obtain ⟨more, hmore, -⟩ := exists_dispatched_readLoop decode (s.handleRead decode) fuel
  have hone : (s.handleRead decode).dispatched = s.dispatched ++
      [((readFields s.buffer).2.1, decode (readFields s.buffer).2.2.1)] := rfl
  rw [readLoop_succ_of_mem fuel hmem, hmore, hone, List.append_assoc, List.drop_left]
  rfl

/-- A connection that is made with a `|` in the buffer can receive a line whose name is replaced. -/
theorem exists_not_isolated {es : List ClientEvent}
    (hconnecting : (after (κ := κ) decode es).connecting)
    (hleft : delimiter ∈ (after (κ := κ) decode es).session.buffer)
    (hend : endOfLine ∉ (after (κ := κ) decode es).session.buffer) :
    ∃ chunk, ¬ Isolated κ decode (es ++ [.connectHandler true, .received chunk]) := by
  obtain ⟨name, hname⟩ := exists_name_of_mem hleft
  -- another name
  obtain ⟨other, hne, hother⟩ : ∃ other : Bytes, other ≠ name ∧ delimiter ∉ other := by
    by_cases hnil : name = []
    · exact ⟨[65], by simp [hnil], by decide⟩
    · exact ⟨[], Ne.symm hnil, by simp⟩
  let chunk : Bytes := delimiter :: (other ++ [delimiter, endOfLine])
  have hmem : endOfLine ∈ chunk := by simp [chunk]
  refine ⟨chunk, fun h => ?_⟩
  let c : TcpClient κ := after decode es
  let connected : TcpSession κ := { c.session with connected := true }
  have hstart : (c.start decode).session = connected ∧
      (c.start decode).connections = {} :: c.connections := by
    have hnoLine : endOfLine ∉ c.session.buffer := hend
    simp [TcpClient.start, read, readLoop_of_not_mem, hnoLine, connected]
  have hafter : after (κ := κ) decode (es ++ [.connectHandler true, .received chunk]) =
      (c.start decode).read decode [chunk] := by
    have hstep : step decode c (.connectHandler true) = c.start decode := by
      rw [step, if_pos hconnecting, if_pos rfl]
    rw [after, Run.run_append, ← after]
    show step decode (step decode c (.connectHandler true)) (.received chunk) = _
    rw [hstep, step, if_pos (by rfl)]
  let buffer : Bytes := c.session.buffer ++ chunk
  have hconnections : ((c.start decode).read decode [chunk]).connections =
      { received := [chunk],
        dispatched := (readLoop decode buffer.length
          { connected with buffer := buffer }).dispatched.drop connected.dispatched.length } ::
        c.connections := by
    simp only [read, hstart, List.flatten_singleton, List.nil_append, buffer, connected]
  have halone := (h _ (by rw [hafter, hconnections]; exact List.mem_cons_self)).1
  -- the name that is dispatched was left by an earlier connection
  have hreal := head?_dispatched_readLoop decode (s := { connected with buffer := buffer })
    (Nat.le_refl _) (by simp [buffer, hmem])
  have hfirst := head?_dispatched_readLoop decode (s := ({ buffer := chunk } : TcpSession κ))
    (Nat.le_refl _) hmem
  have hsame : firstConnection (κ := κ) decode [chunk] =
      readLoop decode chunk.length { buffer := chunk } := rfl
  simp only at halone hreal hfirst
  rw [halone, hsame] at hreal
  simp only [List.length_nil, List.drop_zero] at hfirst
  rw [hfirst, Option.some_inj] at hreal
  have hreplaced : (readFields buffer).2.1 = name := hname (other ++ [delimiter, endOfLine])
  have hown : (readFields chunk).2.1 = other :=
    readFields_name (List.not_mem_nil (a := delimiter)) hother _
  rw [hreplaced, hown] at hreal
  exact hne hreal

end NotBare

variable {decode} in
/-- Reading makes no connection. -/
theorem LeftBare.received {es : List ClientEvent} (h : LeftBare κ decode es)
    (chunks : List Bytes) : LeftBare κ decode (es ++ chunks.map .received) := by
  induction chunks using List.reverseRecOn with
  | nil => simpa using h
  | append_singleton chunks chunk ih =>
      rw [List.map_append, ← List.append_assoc]
      refine (Run.always_concat _ _ _ _ _).2 ⟨ih, fun heq => ?_⟩
      cases heq

variable (κ) in
/-- At every point of a run, whatever is received next, the messages of every connection depend on
its bytes alone, iff what is left in the buffer holds no `|` whenever a connection is made. -/
theorem isolated_iff_leftBare (es : List ClientEvent) :
    (∀ pre, pre <+: es → ∀ chunks : List Bytes,
      Isolated κ decode (pre ++ chunks.map .received)) ↔ LeftBare κ decode es := by
  constructor
  · intro h
    -- on the events; up to a connection the buffer holds no complete line
    induction es using List.reverseRecOn with
    | nil => exact Run.always_nil _ _ _
    | append_singleton es e ih =>
        have hes : LeftBare κ decode es :=
          ih fun pre hpre => h pre (hpre.trans (List.prefix_append es [e]))
        refine (Run.always_concat _ _ _ es e).2 ⟨hes, ?_⟩
        rintro rfl hconnecting hleft
        obtain ⟨chunk, hchunk⟩ :=
          exists_not_isolated hconnecting hleft (bare_after decode hes).noLine
        have hreceived := h _ List.prefix_rfl [chunk]
        rw [List.append_assoc] at hreceived
        exact hchunk hreceived
  · rintro h pre ⟨post, rfl⟩ chunks connection hmem
    have hbare := LeftBare.received (Run.Always.of_append _ _ h) chunks
    exact ofBytesAlone_iff.2 ((bare_after decode hbare).alone connection hmem)

/-- A connection is lost after `N|T|Q`, and the next one receives `N|T|QQ\n`: the line is not
dispatched as on a first connection. -/
theorem not_isolated_of_cut_line :
    ¬ ∃ messages : List Bytes → List (Bytes × Bytes), ∀ es,
      ∀ connection ∈ (after (κ := Unit) id es).connections,
        connection.dispatched = messages connection.received := by
  rintro ⟨messages, h⟩
  let line : Bytes := [78, 124, 84, 124, 81, 81, 10]
  have hfirst := h [.connect, .connectHandler true, .received line]
    { received := [line], dispatched := [([84], [81, 81])] } (by decide +kernel)
  have hsecond := h [.connect, .connectHandler true, .received [78, 124, 84, 124, 81], .lost,
      .connect, .connectHandler true, .received line]
    { received := [line], dispatched := [([84], [81, 78, 124, 84, 124, 81, 81])] }
    (by decide +kernel)
  rw [← hsecond] at hfirst
  exact absurd hfirst (by decide)

end TcpClient

end Netsim
