import Netsim.Tcp.Session

/-!
# Pending operations of a session

The asynchronous operations of a `tcp_session` of the server: one read, which is started again by
its own handler, and any number of writes. The session lives as long as `self_` is set, since the
server keeps only a weak pointer; the handlers capture a bare `this`.

`async_write` is given a buffer that refers to a local string of `write`. It sends some bytes at
once and the others in later partial sends, which read what is then found where the string was.
Partial sends of several writes may fall between each other.

What the read handler reads, and the callbacks it invokes, are those of `TcpSession`.
-/

namespace Netsim

/-- An `async_write`. -/
structure WriteOperation where
  /-- The message whose line is written. -/
  message : Message
  /-- The number of bytes of the line that have been sent. -/
  sent : ℕ
  /-- Its handler has not run. -/
  pending : Bool := true
deriving DecidableEq

/-- A session with its operations. -/
structure AsyncSession where
  /-- `start` has been called. -/
  started : Bool := false
  /-- `self_` is set. -/
  self : Bool := false
  /-- A read is pending. -/
  readPending : Bool := false
  /-- The writes in the order of the calls. -/
  writes : List WriteOperation := []
  /-- The bytes on the wire. -/
  wire : Bytes := []
  /-- Whether the session was alive, for each handler that has run. -/
  handlers : List Bool := []
deriving DecidableEq

/-- What can happen to a session. -/
inductive AsyncEvent
  /-- `start` is called. -/
  | start
  /-- The server writes a message, and `async_write` sends some bytes of its line at once. -/
  | write (message : Message) (sent : ℕ)
  /-- A partial send of a write, of bytes that are found where its line was. -/
  | send (op : ℕ) (memory : Bytes)
  /-- The read completes, and its handler runs. -/
  | readHandler (ok : Bool)
  /-- A write completes, and its handler runs. -/
  | writeHandler (op : ℕ) (ok : Bool)
  /-- `disconnect` is called. -/
  | disconnect

namespace AsyncSession

variable (encode : Bytes → Bytes)

/-- The line of a write. -/
def line (w : WriteOperation) : Bytes := TcpSession.line encode w.message

/-- All bytes of a write have been sent. -/
def Sent (w : WriteOperation) : Prop := w.sent = (line encode w).length

instance (w : WriteOperation) : Decidable (Sent encode w) := inferInstanceAs (Decidable (_ = _))

/-- `disconnect`, with which the session is destroyed. -/
def disconnect (s : AsyncSession) : AsyncSession := { s with self := false }

/-- A handler runs. -/
def runHandler (s : AsyncSession) : AsyncSession := { s with handlers := s.handlers ++ [s.self] }

/-- The reaction to an event; `none` if it cannot happen. A handler that runs after the session has
been destroyed is undefined in the source, and only the fact that it ran matters. -/
def step (s : AsyncSession) : AsyncEvent → Option AsyncSession
  | .start =>
      -- the server starts a session once, when it is accepted
      if s.started then none
      else some { s with started := true, self := true, readPending := true }
  | .write message sent =>
      let w : WriteOperation := { message := message, sent := sent }
      if !s.started || decide ((line encode w).length < sent) then none
      else if s.self then
        some { s with writes := s.writes ++ [w], wire := s.wire ++ (line encode w).take sent }
      -- the weak pointer of the server has expired
      else some s
  | .send op memory =>
      (s.writes[op]?).bind fun w =>
        -- the socket is destroyed with the session
        if s.self && w.pending && decide (w.sent + memory.length ≤ (line encode w).length) then
          some { s with
            writes := s.writes.set op { w with sent := w.sent + memory.length }
            wire := s.wire ++ memory }
        else none
  | .readHandler ok =>
      if s.readPending then
        -- `read` is called again
        if ok then some s.runHandler
        else some { s.runHandler.disconnect with readPending := false }
      else none
  | .writeHandler op ok =>
      (s.writes[op]?).bind fun w =>
        if w.pending && (!ok || decide (Sent encode w)) then
          let s' : AsyncSession :=
            { s.runHandler with writes := s.writes.set op { w with pending := false } }
          some (if ok then s' else s'.disconnect)
        else none
  | .disconnect => if s.self then some s.disconnect else none

/-- The session after `es`. -/
def after (es : List AsyncEvent) : Option AsyncSession := Run.exec (step encode) {} es

/-! ### What the events do -/

section Step

variable {encode : Bytes → Bytes} {s s' : AsyncSession}

theorem step_start (h : step encode s .start = some s') :
    ¬ s.started ∧ s' = { s with started := true, self := true, readPending := true } := by
  rw [step] at h
  split_ifs at h with hstarted
  exact ⟨hstarted, (Option.some_inj.1 h).symm⟩

/-- A write adds a pending operation to a session that lives. -/
theorem step_write {message : Message} {sent : ℕ}
    (h : step encode s (.write message sent) = some s') :
    (¬ s.self ∧ s' = s) ∨ (s.self ∧ sent ≤ (TcpSession.line encode message).length ∧
      s' = { s with
        writes := s.writes ++ [{ message := message, sent := sent }]
        wire := s.wire ++ (TcpSession.line encode message).take sent }) := by
  simp only [step] at h
  split_ifs at h with hfits hself
  · simp only [Bool.or_eq_true, decide_eq_true_eq, not_or] at hfits
    exact .inr ⟨hself, Nat.le_of_not_lt hfits.2, (Option.some_inj.1 h).symm⟩
  · exact .inl ⟨hself, (Option.some_inj.1 h).symm⟩

theorem started_of_write {message : Message} {sent : ℕ}
    (h : step encode s (.write message sent) = some s') : s.started := by
  simp only [step] at h
  split_ifs at h with hfits
  all_goals
    simp only [Bool.or_eq_true, Bool.not_eq_true', not_or, Bool.not_eq_false] at hfits
    exact hfits.1

/-- A partial send is one of a pending write of a session that lives. -/
theorem step_send {op : ℕ} {memory : Bytes} (h : step encode s (.send op memory) = some s') :
    ∃ w, s.writes[op]? = some w ∧ s.self ∧ w.pending ∧
      w.sent + memory.length ≤ (line encode w).length ∧
      s' = { s with
        writes := s.writes.set op { w with sent := w.sent + memory.length }
        wire := s.wire ++ memory } := by
  rw [step, Option.bind_eq_some_iff] at h
  obtain ⟨w, hw, h⟩ := h
  split_ifs at h with hguard
  simp only [Bool.and_eq_true, decide_eq_true_eq] at hguard
  exact ⟨w, hw, hguard.1.1, hguard.1.2, hguard.2, (Option.some_inj.1 h).symm⟩

theorem step_readHandler {ok : Bool} (h : step encode s (.readHandler ok) = some s') :
    s.readPending ∧ s'.handlers = s.handlers ++ [s.self] ∧ s'.writes = s.writes ∧
      s'.started = s.started ∧ s'.self = (s.self && ok) ∧ s'.readPending = ok ∧
      s'.wire = s.wire := by
  rw [step] at h
  split_ifs at h with hpending hok
  · cases h
    simp [runHandler, hpending, hok]
  · cases h
    simp [runHandler, disconnect, hpending, hok]

theorem step_writeHandler {op : ℕ} {ok : Bool}
    (h : step encode s (.writeHandler op ok) = some s') :
    ∃ w, s.writes[op]? = some w ∧ w.pending ∧ (ok → Sent encode w) ∧
      s'.handlers = s.handlers ++ [s.self] ∧
      s'.writes = s.writes.set op { w with pending := false } ∧
      s'.started = s.started ∧ s'.self = (s.self && ok) ∧ s'.readPending = s.readPending ∧
      s'.wire = s.wire := by
  rw [step, Option.bind_eq_some_iff] at h
  obtain ⟨w, hw, h⟩ := h
  split_ifs at h with hguard hok
  · cases h
    simp only [hok, Bool.and_eq_true, decide_eq_true_eq, Bool.not_true, Bool.false_or] at hguard
    exact ⟨w, hw, hguard.1, fun _ => hguard.2, by simp [runHandler, hok]⟩
  · cases h
    simp only [Bool.and_eq_true] at hguard
    exact ⟨w, hw, hguard.1, fun h => absurd h hok, by simp [runHandler, disconnect, hok]⟩

theorem step_disconnect (h : step encode s .disconnect = some s') :
    s.self ∧ s' = s.disconnect := by
  rw [step] at h
  split_ifs at h with hself
  exact ⟨hself, (Option.some_inj.1 h).symm⟩

end Step

end AsyncSession

end Netsim
