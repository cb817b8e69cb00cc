import Netsim.Tcp.Server

/-!
# The accept handler

Connections wait in a backlog until the accept handler runs; a peer may reset its connection
before. The handler makes a session, enters it in `sessions_` under `remote_endpoint()`, starts it,
and calls `accept` again. `remote_endpoint()` throws if the connection has been reset, so that the
handler is left before it calls `accept`, and no later connection is accepted.

The server keeps listening iff no handler runs for a connection that has been reset, or whose
endpoint still has an entry (`keepsListening_iff_undisturbed`).
-/

namespace Netsim

/-- A connection in the backlog. -/
structure PendingConnection (ε : Type) where
  /-- The endpoint of the peer. -/
  remote : ε
  /-- The peer has reset the connection. -/
  reset : Bool := false

/-- The server and the network, with endpoints of type `ε`. -/
structure Listener (ε : Type) where
  /-- The sessions of the server. -/
  server : TcpServer ε := {}
  /-- The number of calls of `async_accept` whose handler has not run; the constructor makes one. -/
  pending : ℕ := 1
  /-- The connections that have not been accepted, in order. -/
  backlog : List (PendingConnection ε) := []

/-- What can happen to the server and the network. -/
inductive ListenerEvent (ε : Type)
  /-- A peer connects. -/
  | attempt (remote : ε)
  /-- A peer resets its connection while that is in the backlog. -/
  | reset (place : ℕ)
  /-- The accept handler runs, with an error or without. -/
  | acceptHandler (ok : Bool)
  /-- A session is disconnected. -/
  | disconnect (id : ℕ)
  /-- A message is read on a session, and replied to. -/
  | request (id : ℕ) (connected : Bool) (replies : List Message)
  /-- The server writes to an endpoint. -/
  | write (message : Message) (ep : ε)

/-- How a handler ends. -/
inductive Outcome
  | returned
  | threw
deriving DecidableEq

namespace PendingConnection

/-- `remote_endpoint()`; `none` is an exception. -/
def remoteEndpoint {ε : Type} (connection : PendingConnection ε) : Option ε :=
  if connection.reset then none else some connection.remote

end PendingConnection

namespace Listener

variable {ε : Type} [DecidableEq ε]

/-- `accept`. -/
def accept (l : Listener ε) : Listener ε := { l with pending := l.pending + 1 }

/-- The accept handler, for the first connection of the backlog if there is no error; `none` if
there is no handler to run. -/
def acceptHandler (l : Listener ε) (ok : Bool) : Option (Listener ε × Outcome) :=
  if l.pending = 0 then none
  else
    let completed := { l with pending := l.pending - 1 }
    if ok then
      match l.backlog with
      | [] => none
      | connection :: backlog =>
          let server := l.server.accept connection.remoteEndpoint
          let accepted := { completed with server := server, backlog := backlog }
          match connection.remoteEndpoint with
          | some _ => some (accepted.accept, .returned)
          -- the exception leaves the handler
          | none => some (accepted, .threw)
    else some (completed.accept, .returned)

/-- The reaction to an event. -/
def step (noEndpoint : ε) (l : Listener ε) : ListenerEvent ε → Listener ε
  | .attempt remote => { l with backlog := l.backlog ++ [{ remote := remote }] }
  | .reset place =>
      { l with backlog := l.backlog.modify place fun connection =>
          { connection with reset := true } }
  | .acceptHandler ok =>
      match l.acceptHandler ok with
      | some (l', _) => l'
      | none => l
  | .disconnect id => { l with server := l.server.step noEndpoint (.disconnect id) }
  | .request id connected replies =>
      { l with server := l.server.step noEndpoint (.request id connected replies) }
  | .write message ep => { l with server := l.server.step noEndpoint (.write message ep) }

/-- The constructed server after `es`. -/
def after (noEndpoint : ε) (es : List (ListenerEvent ε)) : Listener ε :=
  Run.run (step noEndpoint) {} es

/-- What the accept handler should do: it returns, with one accept pending; it registers and starts
a new session, or makes none; other sessions and their entries are as before. -/
structure Handled (l l' : Listener ε) (outcome : Outcome) : Prop where
  returned : outcome = .returned
  pending : l'.pending = 1
  session : (∃ id remote, l.server.live id = none ∧
      l'.server.live id = some { remote := remote } ∧
      l'.server.sessions.lookup remote = some id) ∨ l'.server = l.server
  others : ∀ id session, l.server.live id = some session → l'.server.live id = some session
  entries : ∀ ep id, l.server.sessions.lookup ep = some id →
    l'.server.sessions.lookup ep = some id

/-- An accept is pending in every state of the run, and every accept handler of the run does what
it should. -/
def KeepsListening (noEndpoint : ε) (es : List (ListenerEvent ε)) : Prop :=
  (∀ pre, pre <+: es → (after noEndpoint pre).pending = 1) ∧
    ∀ pre ok post, es = pre ++ .acceptHandler ok :: post →
      ∀ l' outcome, (after noEndpoint pre).acceptHandler ok = some (l', outcome) →
        Handled (after noEndpoint pre) l' outcome

/-- Whenever the accept handler runs without error, the connection that is accepted has not been
reset, and there is no entry for its endpoint. -/
def Undisturbed (noEndpoint : ε) (es : List (ListenerEvent ε)) : Prop :=
  Run.Always (step noEndpoint) {} (fun l e => e = .acceptHandler true →
    ∀ connection ∈ l.backlog.head?, ¬ connection.reset ∧
      l.server.sessions.lookup connection.remote = none) es

/-! ### The handler -/

section Handler

variable {l l' : Listener ε} {connection : PendingConnection ε}
  {backlog : List (PendingConnection ε)} {outcome : Outcome}

/-- What a run of the accept handler does. -/
theorem acceptHandler_cases {ok : Bool} (h : l.acceptHandler ok = some (l', outcome)) :
    l.pending ≠ 0 ∧
      ((ok = false ∧ outcome = .returned ∧ l' = l) ∨
      (∃ connection backlog, ok = true ∧ l.backlog = connection :: backlog ∧
        connection.reset = false ∧ outcome = .returned ∧
        l' = { l with server := l.server.accept (some connection.remote), backlog := backlog }) ∨
      (∃ connection backlog, ok = true ∧ l.backlog = connection :: backlog ∧
        connection.reset = true ∧ outcome = .threw ∧
        l' = { server := l.server.accept none
               pending := l.pending - 1
               backlog := backlog })) := by
  unfold acceptHandler at h
  split_ifs at h with hpending hok
  · have hsucc : l.pending - 1 + 1 = l.pending := Nat.succ_pred_eq_of_ne_zero hpending
    refine ⟨hpending, .inr ?_⟩
    cases hbacklog : l.backlog with
    | nil => simp [hbacklog] at h
    | cons connection backlog =>
        cases hreset : connection.reset with
        | false =>
            simp only [hbacklog, PendingConnection.remoteEndpoint, hreset, Bool.false_eq_true,
              if_false, accept, hsucc, Option.some_inj, Prod.mk.injEq] at h
            exact .inl ⟨connection, backlog, hok, rfl, hreset, h.2.symm, h.1.symm⟩
        | true =>
            simp only [hbacklog, PendingConnection.remoteEndpoint, hreset, if_true,
              Option.some_inj, Prod.mk.injEq] at h
            exact .inr ⟨connection, backlog, hok, rfl, hreset, h.2.symm, h.1.symm⟩
  · have hsucc : l.pending - 1 + 1 = l.pending := Nat.succ_pred_eq_of_ne_zero hpending
    simp only [accept, hsucc, Option.some_inj, Prod.mk.injEq] at h
    exact ⟨hpending, .inl ⟨eq_false_of_ne_true hok, h.2.symm, h.1.symm⟩⟩

/-- For a connection in the backlog there is a handler to run. -/
theorem exists_acceptHandler (hpending : l.pending ≠ 0)
    (hbacklog : l.backlog = connection :: backlog) :
    ∃ l' outcome, l.acceptHandler true = some (l', outcome) := by
  have hsome : (l.acceptHandler true).isSome := by
    cases hreset : connection.reset <;>
      simp [acceptHandler, hpending, hbacklog, PendingConnection.remoteEndpoint, hreset]
  obtain ⟨⟨l', outcome⟩, h⟩ := Option.isSome_iff_exists.1 hsome
  exact ⟨l', outcome, h⟩

/-- The handler does what it should iff the connection it accepts has not been reset, and there is
no entry for its endpoint. -/
theorem handled_iff {ok : Bool} (hnumbered : l.server.Numbered) (hpending : l.pending = 1)
    (h : l.acceptHandler ok = some (l', outcome)) :
    Handled l l' outcome ↔ (ok = true → ∀ connection ∈ l.backlog.head?, ¬ connection.reset ∧
      l.server.sessions.lookup connection.remote = none) := by
  have hnone : l.server.live l.server.next = none := by
    by_contra hsome
    obtain ⟨session, hsession⟩ := Option.ne_none_iff_exists'.1 hsome
    exact absurd (hnumbered.live _ session hsession) (Nat.lt_irrefl _)
  obtain ⟨-, ⟨rfl, rfl, rfl⟩ | ⟨connection, backlog, rfl, hbacklog, hreset, rfl, rfl⟩ |
    ⟨connection, backlog, rfl, hbacklog, hreset, rfl, rfl⟩⟩ := acceptHandler_cases h
  -- an error: nothing is accepted
  · refine iff_of_true ⟨rfl, hpending, .inr rfl, fun _ _ h => h, fun _ _ h => h⟩ ?_
    intro hok
    cases hok
  -- a session is made
  · have hnew : (l.server.accept (some connection.remote)).live l.server.next =
        some { remote := connection.remote } := by
      simp [TcpServer.accept]
    have hhead : (true = true → ∀ c ∈ l.backlog.head?, ¬ c.reset ∧
        l.server.sessions.lookup c.remote = none) ↔
          l.server.sessions.lookup connection.remote = none := by
      simp [hbacklog, hreset]
    rw [hhead]
    constructor
    · intro hhandled
      rcases hhandled.session with ⟨id, remote, hfree, hlive, hfound⟩ | hsame
      -- the new session is the one that was made, and an entry that was there has an older number
      · have hid : id = l.server.next := by
          by_contra hne
          simp only [TcpServer.accept, Function.update_of_ne hne, hfree] at hlive
          cases hlive
        subst hid
        rw [hnew, Option.some_inj, ServerSession.mk.injEq] at hlive
        obtain ⟨rfl, -⟩ := hlive
        by_contra hentry
        obtain ⟨id, hlookup⟩ := Option.ne_none_iff_exists'.1 hentry
        rw [hhandled.entries _ id hlookup, Option.some_inj] at hfound
        exact absurd (hnumbered.sessions _ id hlookup) (by omega)
      · have hlive := congrArg (fun server => server.live l.server.next) hsame
        simp only [hnew, hnone] at hlive
        cases hlive
    · intro hfresh
      have hmem : connection.remote ∉ l.server.sessions := AList.lookup_eq_none.1 hfresh
      refine ⟨rfl, hpending, .inl ⟨_, _, hnone, hnew, ?_⟩, fun id session hlive => ?_,
        fun ep id hlookup => ?_⟩
      · simp only [TcpServer.accept, if_neg hmem, AList.lookup_insert]
      · have hne : id ≠ l.server.next := by
          rintro rfl
          rw [hnone] at hlive
          cases hlive
        simpa only [TcpServer.accept, Function.update_of_ne hne] using hlive
      · have hne : ep ≠ connection.remote := by
          rintro rfl
          rw [hfresh] at hlookup
          cases hlookup
        simpa only [TcpServer.accept, if_neg hmem, AList.lookup_insert_ne hne] using hlookup
  -- the exception
  · refine iff_of_false (fun hhandled => ?_) (fun hok => ?_)
    · exact absurd hhandled.returned (by decide)
    · exact (hok rfl connection (by simp [hbacklog])).1 hreset

end Handler

/-! ### Runs -/

section Runs

variable {l : Listener ε} {noEndpoint : ε}

/-- The server of a listener is a server in a run of its own. -/
structure Simulates (noEndpoint : ε) (l : Listener ε) : Prop where
  server : ∃ es, l.server = TcpServer.after noEndpoint es
  accepting : l.server.accepting = decide (l.pending ≠ 0)
  atMostOne : l.pending ≤ 1

/-- A write changes nothing but the sessions. -/
theorem accepting_write (s : TcpServer ε) (message : Message) (ep : ε) :
    (s.write message ep).accepting = s.accepting := by
  rcases s.write_cases message ep with ⟨-, heq⟩ | ⟨id, session, -, hlive, heq⟩ | ⟨id, -, -, heq⟩
  · rw [heq]
  · rw [heq, TcpServer.queue, hlive]
    rfl
  · rw [heq]

/-- An event of the server. -/
theorem Simulates.server_step (h : Simulates noEndpoint l) (e : ServerEvent ε)
    (pending : ℕ) (backlog : List (PendingConnection ε))
    (haccepting : (l.server.step noEndpoint e).accepting = decide (pending ≠ 0))
    (hpending : pending ≤ 1) :
    Simulates noEndpoint
      { server := l.server.step noEndpoint e, pending := pending, backlog := backlog } := by
  obtain ⟨es, hserver⟩ := h.server
  exact ⟨⟨es ++ [e], by rw [TcpServer.after, Run.run_concat, ← TcpServer.after, hserver]⟩,
    haccepting, hpending⟩

theorem Simulates.step (h : Simulates noEndpoint l) (e : ListenerEvent ε) :
    Simulates noEndpoint (l.step noEndpoint e) := by
  cases e with
  | attempt remote => exact ⟨h.server, h.accepting, h.atMostOne⟩
  | reset place => exact ⟨h.server, h.accepting, h.atMostOne⟩
  | acceptHandler ok =>
      rw [Listener.step]
      cases hhandler : l.acceptHandler ok with
      | none => exact h
      | some result =>
          obtain ⟨l', outcome⟩ := result
          obtain ⟨hpending, hcases⟩ := acceptHandler_cases hhandler
          have haccepting : l.server.accepting = true := by simp [h.accepting, hpending]
          have hone : l.pending = 1 := by
            have := h.atMostOne
            omega
          rcases hcases with ⟨-, -, heq⟩ | ⟨connection, backlog, -, -, -, -, heq⟩ |
            ⟨connection, backlog, -, -, -, -, heq⟩
          · simpa only [heq] using h
          · have hstep := h.server_step (.accept (some connection.remote)) l.pending backlog
              (by simp [TcpServer.step, haccepting, TcpServer.accept, hpending])
              h.atMostOne
            simpa only [heq, TcpServer.step, if_pos haccepting] using hstep
          · have hstep := h.server_step (.accept none) (l.pending - 1) backlog
              (by simp [TcpServer.step, haccepting, TcpServer.accept, hone]) (by omega)
            simpa only [heq, TcpServer.step, if_pos haccepting] using hstep
  | disconnect id => exact h.server_step _ _ _ h.accepting h.atMostOne
  | request id connected replies =>
      refine h.server_step _ _ _ ?_ h.atMostOne
      rw [← h.accepting, TcpServer.step]
      cases l.server.live id with
      | none => rfl
      | some session =>
          exact TcpServer.foldl_write (P := fun s => s.accepting = l.server.accepting)
            (fun s message ep hs => by rw [accepting_write, hs]) rfl replies _
  | write message ep =>
      refine h.server_step _ _ _ ?_ h.atMostOne
      rw [← h.accepting]
      exact accepting_write _ _ _

theorem simulates_after (noEndpoint : ε) (es : List (ListenerEvent ε)) :
    Simulates noEndpoint (after noEndpoint es) :=
  Run.run_invariant (step noEndpoint) {} (I := fun _ l => Simulates noEndpoint l)
    ⟨⟨[], rfl⟩, rfl, Nat.le_refl _⟩ (fun _ e _ h => h.step e) es

theorem numbered_after (noEndpoint : ε) (es : List (ListenerEvent ε)) :
    (after noEndpoint es).server.Numbered := by
  obtain ⟨es', hserver⟩ := (simulates_after noEndpoint es).server
  rw [hserver]
  exact TcpServer.numbered_after noEndpoint es'

/-- An accept stays pending if the handler does not throw. -/
theorem pending_step_of_guard {e : ListenerEvent ε} (hone : l.pending = 1)
    (h : e = .acceptHandler true → ∀ connection ∈ l.backlog.head?, ¬ connection.reset) :
    (l.step noEndpoint e).pending = 1 := by
  cases e with
  | acceptHandler ok =>
      rw [step]
      cases hhandler : l.acceptHandler ok with
      | none => exact hone
      | some result =>
          obtain ⟨l', outcome⟩ := result
          obtain ⟨-, ⟨-, -, heq⟩ | ⟨connection, backlog, -, -, -, -, heq⟩ |
            ⟨connection, backlog, rfl, hbacklog, hreset, -, -⟩⟩ :=
            acceptHandler_cases hhandler
          · simpa only [heq] using hone
          · simpa only [heq] using hone
          · exact absurd hreset (h rfl connection (by simp [hbacklog]))
  | _ => exact hone

/-- Once no accept is pending, none will ever be, and no connection is accepted. -/
theorem pending_run_of_zero (h : l.pending = 0) (es : List (ListenerEvent ε)) :
    (Run.run (step noEndpoint) l es).pending = 0 := by
  refine Run.run_invariant (step noEndpoint) l (I := fun _ l => l.pending = 0) h
    (fun _ e l hl => ?_) es
  cases e with
  | acceptHandler ok =>
      have hnone : l.acceptHandler ok = none := by simp [acceptHandler, hl]
      rw [step, hnone, hl]
  | _ => exact hl

end Runs

/-- In a run an accept is always pending and every accept handler returns, registers and starts its
session or makes none, and changes nothing else, iff no handler runs for a connection that has been
reset, or whose endpoint still has an entry. -/
theorem keepsListening_iff_undisturbed (noEndpoint : ε) (es : List (ListenerEvent ε)) :
    KeepsListening noEndpoint es ↔ Undisturbed noEndpoint es := by
  constructor
  · rintro ⟨hpending, hhandled⟩ pre e post rfl rfl connection hconnection
    have hone : (after noEndpoint pre).pending = 1 := hpending pre (List.prefix_append _ _)
    obtain ⟨backlog, hbacklog⟩ := List.head?_eq_some_iff.1 hconnection
    obtain ⟨l', outcome, hhandler⟩ := exists_acceptHandler
      (show (after noEndpoint pre).pending ≠ 0 by omega) hbacklog
    exact (handled_iff (numbered_after noEndpoint pre) hone hhandler).1
      (hhandled pre true post rfl l' outcome hhandler) rfl connection hconnection
  · intro h
    have hpending : ∀ pre, pre <+: es → (after noEndpoint pre).pending = 1 := by
      rintro pre ⟨post, rfl⟩
      refine Run.run_induction (step noEndpoint) {} (I := fun _ l => l.pending = 1)
        rfl (fun pre e l hl hguard => ?_) pre (Run.Always.of_append _ _ h)
      exact pending_step_of_guard hl fun he connection hconnection =>
        (hguard he connection hconnection).1
    refine ⟨hpending, ?_⟩
    rintro pre ok post rfl l' outcome hhandler
    refine (handled_iff (numbered_after noEndpoint pre) (hpending pre (List.prefix_append _ _))
      hhandler).2 fun hok => ?_
    exact h pre _ post rfl (by rw [hok])

/-- A peer connects and resets its connection before the accept handler runs: the handler throws,
and no accept is pending any more. -/
theorem not_keepsListening_of_reset :
    ¬ KeepsListening 0 [.attempt 1, .reset 0, .acceptHandler true] := by
  intro h
  have hpending := h.1 _ List.prefix_rfl
  exact absurd hpending (by decide +kernel)

end Listener

end Netsim
