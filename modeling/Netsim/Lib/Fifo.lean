import Mathlib.Data.List.Infix

/-!
# Reliable queues

A queue that keeps what was sent into it and how much of that has been received. What was received
is a prefix of what was sent by construction, and queues are chained by an equation between what
was sent into the one and what was received from the other.
-/

/-- A first-in first-out queue together with its history. -/
structure Fifo (α : Type*) where
  /-- What was sent, in order. -/
  sent : List α
  /-- How many of the messages were received. -/
  taken : ℕ
  /-- Only what was sent is received. -/
  taken_le : taken ≤ sent.length

namespace Fifo

variable {α : Type*} {f g : Fifo α} {a : α}

/-- The queue before anything was sent. -/
def empty : Fifo α := ⟨[], 0, Nat.le_refl 0⟩

/-- What was received, in order. -/
def received (f : Fifo α) : List α := f.sent.take f.taken

/-- What is in flight. -/
def queue (f : Fifo α) : List α := f.sent.drop f.taken

/-- Send a message. -/
def send (f : Fifo α) (a : α) : Fifo α where
  sent := f.sent ++ [a]
  taken := f.taken
  taken_le := f.taken_le.trans (by simp)

/-- Send some messages. -/
def sendAll (f : Fifo α) (as : List α) : Fifo α where
  sent := f.sent ++ as
  taken := f.taken
  taken_le := f.taken_le.trans (by simp)

/-- Receive the next message, if one is in flight. -/
def receive (f : Fifo α) : Option (α × Fifo α) :=
  if h : f.taken < f.sent.length then
    some (f.sent[f.taken], { sent := f.sent, taken := f.taken + 1, taken_le := h })
  else none

theorem received_append_queue (f : Fifo α) : f.received ++ f.queue = f.sent :=
  List.take_append_drop _ _

/-- What was received is the beginning of what was sent. -/
theorem received_prefix (f : Fifo α) : f.received <+: f.sent := List.take_prefix _ _

/-- With nothing in flight, everything that was sent was received. -/
theorem received_eq_sent (h : f.queue = []) : f.received = f.sent := by
  rw [← f.received_append_queue, h, List.append_nil]

/-- Nothing is in flight where nothing was sent. -/
theorem queue_eq_nil_of_sent (h : f.sent = []) : f.queue = [] := by
  rw [queue, h, List.drop_nil]

@[simp]
theorem sent_empty : (empty : Fifo α).sent = [] := rfl

@[simp]
theorem received_empty : (empty : Fifo α).received = [] := rfl

@[simp]
theorem sent_send (f : Fifo α) (a : α) : (f.send a).sent = f.sent ++ [a] := rfl

@[simp]
theorem received_send (f : Fifo α) (a : α) : (f.send a).received = f.received :=
  List.take_append_of_le_length f.taken_le

@[simp]
theorem queue_send (f : Fifo α) (a : α) : (f.send a).queue = f.queue ++ [a] :=
  List.drop_append_of_le_length f.taken_le

@[simp]
theorem queue_sendAll (f : Fifo α) (as : List α) : (f.sendAll as).queue = f.queue ++ as :=
  List.drop_append_of_le_length f.taken_le

@[simp]
theorem sent_sendAll (f : Fifo α) (as : List α) : (f.sendAll as).sent = f.sent ++ as := rfl

@[simp]
theorem received_sendAll (f : Fifo α) (as : List α) : (f.sendAll as).received = f.received :=
  List.take_append_of_le_length f.taken_le

theorem receive_eq_some (h : f.receive = some (a, g)) :
    g.sent = f.sent ∧ g.received = f.received ++ [a] := by
  rw [receive] at h
  split_ifs at h with hlt
  cases h
  exact ⟨rfl, List.take_succ_eq_append_getElem hlt⟩

/-- What is received is the head of what is in flight. -/
theorem queue_of_receive (h : f.receive = some (a, g)) : f.queue = a :: g.queue := by
  rw [receive] at h
  split_ifs at h with hlt
  cases h
  exact List.drop_eq_getElem_cons hlt

/-- Nothing is received from a queue into which nothing was sent. -/
theorem sent_ne_nil_of_receive (h : f.receive = some (a, g)) : f.sent ≠ [] := by
  rw [receive] at h
  split_ifs at h with hlt
  exact List.ne_nil_of_length_pos (Nat.zero_lt_of_lt hlt)

end Fifo
