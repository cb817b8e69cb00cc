import Mathlib.Data.List.AList
import Netsim.Tcp.Session

/-!
# tcp_server

The server finds the session to write to through `sessions_`, a map from the remote endpoint to a
weak pointer. A session keeps itself alive until it is disconnected; its entry is erased only by a
later write to its endpoint. `accept` inserts with `std::map::insert`, which keeps an entry that
is already there, so that a new session from an endpoint whose old entry remains is never found.

Replies reach the session that asked in every state of a run iff no accept finds such an entry
(`routesReplies_iff_acceptsFresh`).
-/

namespace Netsim

/-- A session of the server, as far as the server is concerned. -/
structure ServerSession (ε : Type) where
  /-- The remote endpoint of the socket. -/
  remote : ε
  /-- The messages written to the session. -/
  written : List Message := []

/-- The state of the server, with endpoints of type `ε`. -/
structure TcpServer (ε : Type) where
  /-- `sessions_`: the number of the session a weak pointer points to. -/
  sessions : AList (fun _ : ε => ℕ) := ∅
  /-- The sessions that have not been destroyed, by number. -/
  live : ℕ → Option (ServerSession ε) := fun _ => none
  /-- The number of the next session. -/
  next : ℕ := 0
  /-- An accept is pending. -/
  accepting : Bool := true

/-- What can happen at a server. -/
inductive ServerEvent (ε : Type)
  /-- The accept handler runs with an error. -/
  | acceptFailed
  /-- The accept handler runs; `remote_endpoint()` yields `remote`, or throws. -/
  | accept (remote : Option ε)
  /-- A session is disconnected, and with that destroyed. -/
  | disconnect (id : ℕ)
  /-- A message is read on a session, and the callbacks of the server write `replies` to the
  endpoint they are given, that of the session if the socket is still `connected`. -/
  | request (id : ℕ) (connected : Bool) (replies : List Message)
  /-- The server writes to an endpoint. -/
  | write (message : Message) (ep : ε)

namespace TcpServer

variable {ε : Type}

/-- Replace a session that has not been destroyed. -/
def setSession (s : TcpServer ε) (id : ℕ) (session : ServerSession ε) : TcpServer ε :=
  { s with live := Function.update s.live id (some session) }

/-- `session->write(message)`. -/
def queue (s : TcpServer ε) (id : ℕ) (message : Message) : TcpServer ε :=
  match s.live id with
  | some session => s.setSession id { session with written := session.written ++ [message] }
  | none => s

section Queue

variable {s : TcpServer ε} {message : Message} {id : ℕ}

@[simp]
theorem sessions_queue : (s.queue id message).sessions = s.sessions := by
  unfold queue
  cases s.live id <;> rfl

@[simp]
theorem next_queue : (s.queue id message).next = s.next := by
  unfold queue
  cases s.live id <;> rfl

/-- Queueing a message changes no session but its own, and no endpoint. -/
theorem live_queue (id' : ℕ) : (s.queue id message).live id' =
    if id' = id then (s.live id).map fun session =>
      { session with written := session.written ++ [message] } else s.live id' := by
  unfold queue
  cases hlive : s.live id with
  | none =>
      split_ifs with h
      · rw [h, hlive]
        rfl
      · rfl
  | some session => simp [setSession, Function.update_apply]

end Queue

variable [DecidableEq ε]

/-- `write`. -/
def write (s : TcpServer ε) (message : Message) (ep : ε) : TcpServer ε :=
  match s.sessions.lookup ep with
  | some id =>
      match s.live id with
      | some _ => s.queue id message
      -- the session is gone: its entry is erased only here
      | none => { s with sessions := s.sessions.erase ep }
  -- nothing is known of the endpoint, and the message is dropped
  | none => s

/-- The accept handler, without error. If `remote_endpoint()` throws, the new session is destroyed
and no accept is pending any more. -/
def accept (s : TcpServer ε) : Option ε → TcpServer ε
  | some ep =>
      { s with
        -- `std::map::insert` does not replace the entry of an earlier session
        sessions := if ep ∈ s.sessions then s.sessions else s.sessions.insert ep s.next
        live := Function.update s.live s.next (some { remote := ep })
        next := s.next + 1 }
  | none => { s with accepting := false }

/-- The reaction to an event; `noEndpoint` is the endpoint handed to the callbacks if the socket
is no longer connected. -/
def step (noEndpoint : ε) (s : TcpServer ε) : ServerEvent ε → TcpServer ε
  -- the handler calls `accept` again
  | .acceptFailed => s
  | .accept remote => if s.accepting then s.accept remote else s
  | .disconnect id => { s with live := Function.update s.live id none }
  | .request id connected replies =>
      match s.live id with
      | some session =>
          replies.foldl (fun s reply =>
            s.write reply (if connected then session.remote else noEndpoint)) s
      | none => s
  | .write message ep => s.write message ep

/-- The constructed server after `es`. -/
def after (noEndpoint : ε) (es : List (ServerEvent ε)) : TcpServer ε :=
  Run.run (step noEndpoint) {} es

/-- Every session is the one found under its endpoint. -/
def Found (s : TcpServer ε) : Prop :=
  ∀ id session, s.live id = some session → s.sessions.lookup session.remote = some id

/-- A message that the server writes to the endpoint of a session is queued on that session, and
nothing else changes. -/
def Answers (s : TcpServer ε) : Prop :=
  ∀ id session, s.live id = some session →
    ∀ message, s.write message session.remote = s.queue id message

/-- Every accept finds no entry for its endpoint. -/
def AcceptsFresh (noEndpoint : ε) (es : List (ServerEvent ε)) : Prop :=
  ∀ pre ep post, es = pre ++ .accept (some ep) :: post → (after noEndpoint pre).accepting →
    (after noEndpoint pre).sessions.lookup ep = none

/-! ### Writing -/

section Write

variable {s : TcpServer ε}

/-- What a write does. -/
theorem write_cases (s : TcpServer ε) (message : Message) (ep : ε) :
    (s.sessions.lookup ep = none ∧ s.write message ep = s) ∨
    (∃ id session, s.sessions.lookup ep = some id ∧ s.live id = some session ∧
      s.write message ep = s.queue id message) ∨
    (∃ id, s.sessions.lookup ep = some id ∧ s.live id = none ∧
      s.write message ep = { s with sessions := s.sessions.erase ep }) := by
  unfold write
  cases hlookup : s.sessions.lookup ep with
  | none => exact .inl ⟨rfl, rfl⟩
  | some id =>
      cases hlive : s.live id with
      | none => exact .inr (.inr ⟨id, rfl, hlive, by simp [hlive]⟩)
      | some session => exact .inr (.inl ⟨id, session, rfl, hlive, by simp [hlive]⟩)

/-- Replies reach the session that asked iff it is the one found under its endpoint. -/
theorem answers_iff_found : s.Answers ↔ s.Found := by
  constructor
  · intro h id session hlive
    have hwrite := h id session hlive ⟨[], []⟩
    -- a message on the queue of the session can be seen there
    have hlive' : (s.queue id ⟨[], []⟩).live id ≠ s.live id := by
      rw [live_queue, if_pos rfl, hlive, Option.map_some, ne_eq, Option.some_inj]
      intro heq
      have hwritten := congrArg (·.written) heq
      simp at hwritten
    rcases write_cases s ⟨[], []⟩ session.remote with
      ⟨-, heq⟩ | ⟨id', session', hlookup, -, heq⟩ | ⟨id', -, -, heq⟩
    · rw [← hwrite, heq] at hlive'
      exact absurd rfl hlive'
    · by_cases hid : id = id'
      · rw [hlookup, hid]
      · rw [← hwrite, heq, live_queue, if_neg hid] at hlive'
        exact absurd rfl hlive'
    · rw [← hwrite, heq] at hlive'
      exact absurd rfl hlive'
  · intro h id session hlive message
    rw [write, h id session hlive]
    simp [hlive]

end Write

/-! ### Runs -/

/-- The numbers in the map, and those of the sessions, have been given. -/
structure Numbered (s : TcpServer ε) : Prop where
  sessions : ∀ ep id, s.sessions.lookup ep = some id → id < s.next
  live : ∀ id session, s.live id = some session → id < s.next

section Steps

variable {s : TcpServer ε} {noEndpoint : ε}

theorem Numbered.write (h : s.Numbered) (message : Message) (ep : ε) :
    (s.write message ep).Numbered := by
  rcases write_cases s message ep with ⟨-, heq⟩ | ⟨id, session, -, hlive, heq⟩ | ⟨id, -, -, heq⟩
  · rwa [heq]
  -- queued: the session that is changed has a number already
  · rw [heq]
    refine ⟨by simpa using h.sessions, fun id' session' hlive' => ?_⟩
    rw [live_queue] at hlive'
    rw [next_queue]
    split_ifs at hlive' with hid
    · exact hid ▸ h.live id session hlive
    · exact h.live id' session' hlive'
  · rw [heq]
    -- erased: an entry that remains was there before
    refine ⟨fun ep' id' hlookup => h.sessions ep' id' ?_, h.live⟩
    by_cases hep : ep' = ep
    · subst hep
      simp at hlookup
    · rwa [AList.lookup_erase_ne hep] at hlookup

theorem Found.write (h : s.Found) (message : Message) (ep : ε) : (s.write message ep).Found := by
  rcases write_cases s message ep with
    ⟨-, heq⟩ | ⟨id, session, -, hlive, heq⟩ | ⟨id, hlookup, hlive, heq⟩
  · rwa [heq]
  · rw [heq]
    intro id' session' hlive'
    rw [live_queue] at hlive'
    rw [sessions_queue]
    split_ifs at hlive' with hid
    · rw [hlive, Option.map_some, Option.some_inj] at hlive'
      subst hlive'
      exact hid ▸ h id session hlive
    · exact h id' session' hlive'
  · rw [heq]
    intro id' session' hlive'
    have hfound := h id' session' hlive'
    by_cases hep : session'.remote = ep
    · -- the entry that is erased is not that of a session
      rw [hep, hlookup, Option.some_inj] at hfound
      rw [hfound, hlive'] at hlive
      cases hlive
    · simpa [AList.lookup_erase_ne hep] using hfound

/-- A property kept by writes is kept by the replies to a request. -/
theorem foldl_write {P : TcpServer ε → Prop} (hwrite : ∀ s message ep, P s → P (s.write message ep))
    (h : P s) (replies : List Message) (ep : ε) :
    P (replies.foldl (fun s reply => s.write reply ep) s) := by
  induction replies generalizing s with
  | nil => exact h
  | cons reply replies ih => exact ih (hwrite s reply ep h)

theorem Numbered.accept (h : s.Numbered) (ep : ε) : (s.accept (some ep)).Numbered := by
  refine ⟨fun ep' id hlookup => ?_, fun id session hlive => ?_⟩
  · simp only [TcpServer.accept] at hlookup ⊢
    -- an old entry is kept, or the next number is inserted
    split_ifs at hlookup with hmem
    · exact Nat.lt_succ_of_lt (h.sessions ep' id hlookup)
    · by_cases hep : ep' = ep
      · subst hep
        rw [AList.lookup_insert, Option.some_inj] at hlookup
        exact hlookup ▸ Nat.lt_succ_self _
      · rw [AList.lookup_insert_ne hep] at hlookup
        exact Nat.lt_succ_of_lt (h.sessions ep' id hlookup)
  · simp only [TcpServer.accept, Function.update_apply] at hlive ⊢
    split_ifs at hlive with hid
    · exact hid ▸ Nat.lt_succ_self _
    · exact Nat.lt_succ_of_lt (h.live id session hlive)

/-- A new session is found if there was no entry for its endpoint. -/
theorem Found.accept (h : s.Found) {ep : ε} (hfresh : s.sessions.lookup ep = none) :
    (s.accept (some ep)).Found := by
  have hmem : ep ∉ s.sessions := AList.lookup_eq_none.1 hfresh
  intro id session hlive
  simp only [TcpServer.accept, if_neg hmem, Function.update_apply] at hlive ⊢
  split_ifs at hlive with hid
  · obtain rfl := Option.some_inj.1 hlive
    rw [AList.lookup_insert, hid]
  · have hfound := h id session hlive
    -- an older session is found, so its endpoint is not the new one
    have hep : session.remote ≠ ep := by
      rintro rfl
      rw [hfresh] at hfound
      cases hfound
    rwa [AList.lookup_insert_ne hep]

/-- If a new session is found, there was no entry for its endpoint. -/
theorem Numbered.lookup_of_found_accept (h : s.Numbered) {ep : ε}
    (hfound : (s.accept (some ep)).Found) : s.sessions.lookup ep = none := by
  have hlookup := hfound s.next { remote := ep } (by simp [TcpServer.accept])
  -- an entry that was there stays, with the number of an older session
  by_contra hentry
  obtain ⟨id, hid⟩ := Option.ne_none_iff_exists'.1 hentry
  have hmem : ep ∈ s.sessions := AList.lookup_isSome.1 (by simp [hid])
  simp only [TcpServer.accept, if_pos hmem, hid, Option.some_inj] at hlookup
  exact absurd (h.sessions ep id hid) (by omega)

theorem Numbered.disconnect (h : s.Numbered) (id : ℕ) :
    (step noEndpoint s (.disconnect id)).Numbered := by
  refine ⟨h.sessions, fun id' session hlive => h.live id' session ?_⟩
  simp only [step, Function.update_apply] at hlive
  split_ifs at hlive
  exact hlive

theorem Found.disconnect (h : s.Found) (id : ℕ) :
    (step noEndpoint s (.disconnect id)).Found := by
  intro id' session hlive
  simp only [step, Function.update_apply] at hlive
  split_ifs at hlive
  exact h id' session hlive

/-- A property kept by writes, disconnects and accepts is kept by every event. -/
theorem step_induction {P : TcpServer ε → Prop} (e : ServerEvent ε) (h : P s)
    (hwrite : ∀ s message ep, P s → P (s.write message ep))
    (hdisconnect : ∀ id, P (step noEndpoint s (.disconnect id)))
    (haccept : ∀ ep, e = .accept (some ep) → s.accepting → P (s.accept (some ep)))
    (hthrow : P (s.accept none)) : P (step noEndpoint s e) := by
  cases e with
  | acceptFailed => exact h
  | accept remote =>
      rw [step]
      split_ifs with haccepting
      · cases remote with
        | none => exact hthrow
        | some ep => exact haccept ep rfl haccepting
      · exact h
  | disconnect id => exact hdisconnect id
  | request id connected replies =>
      rw [step]
      cases s.live id with
      | none => exact h
      | some session => exact foldl_write hwrite h replies _
  | write message ep => exact hwrite s message ep h

theorem numbered_after (noEndpoint : ε) (es : List (ServerEvent ε)) :
    (after noEndpoint es).Numbered := by
  refine Run.run_invariant (step noEndpoint) {} (I := fun _ s => s.Numbered) ⟨?_, ?_⟩ ?_ es
  · intro ep id h
    simp at h
  · intro id session h
    cases h
  -- an accept that throws changes neither the map nor the sessions
  · exact fun _ e s h => step_induction e h (fun _ message ep h => h.write message ep)
      (fun id => h.disconnect id) (fun ep _ _ => h.accept ep) ⟨h.sessions, h.live⟩

end Steps

/-! ### Routing -/

/-- In every state of a run, every session is the one found under its endpoint and replies to it
are queued on it and only on it, iff every accept of the run finds no entry for its endpoint. -/
theorem routesReplies_iff_acceptsFresh (noEndpoint : ε) (es : List (ServerEvent ε)) :
    (∀ pre, pre <+: es → (after noEndpoint pre).Found ∧ (after noEndpoint pre).Answers) ↔
      AcceptsFresh noEndpoint es := by
  constructor
  · rintro h pre ep post rfl haccepting
    -- the accept is the last event of a prefix of the run
    have hfound := (h (pre ++ [.accept (some ep)]) ⟨post, by simp⟩).1
    rw [after, Run.run_concat, ← after, step, if_pos haccepting] at hfound
    exact (numbered_after noEndpoint pre).lookup_of_found_accept hfound
  · intro h pre hpre
    refine (and_iff_left_of_imp answers_iff_found.2).2 ?_
    -- on the events so far; only an accept can lose a session
    induction pre using List.reverseRecOn with
    | nil =>
        intro id session hlive
        cases hlive
    | append_singleton pre e ih =>
        have hfound := ih ((List.prefix_append pre [e]).trans hpre)
        rw [after, Run.run_concat, ← after]
        obtain ⟨post, rfl⟩ := hpre
        refine step_induction e hfound (fun _ message ep h => h.write message ep)
          (fun id => hfound.disconnect id) ?_ hfound
        rintro ep rfl haccepting
        exact hfound.accept (h pre ep post (by simp) haccepting)

/-- A connection from endpoint 1 ends, and a new one from the same endpoint is accepted: the new
session is not found, and a reply to it is lost. -/
theorem not_found_after_reconnect :
    ¬ (after 0 [.accept (some 1), .disconnect 0, .accept (some 1)]).Found ∧
      ((after 0 [.accept (some 1), .disconnect 0, .accept (some 1),
        .request 1 true [⟨[], []⟩]]).live 1).map (·.written) = some [] := by
  refine ⟨fun h => ?_, by decide +kernel⟩
  have hlookup := h 1 { remote := 1 } rfl
  exact absurd hlookup (by decide +kernel)

end TcpServer

end Netsim
