import Mathlib.Data.List.Infix
import Netsim.Lib.Fifo

/-!
# Mailboxes

A family of reliable queues, one for each subscription. A publication is delivered to all
subscriptions that hear it, and a subscriber takes one message at a time.

Messages pass from one mailbox to another when a subscriber publishes what it received.
`ComesThrough` says how far they have come: in order, and all of them when nothing is in flight.
This is transitive, so that it goes along any path of mailboxes.
-/

/-- `xs` is what has come through of `ys` so far. -/
structure ComesThrough {α : Type*} (delivered : Prop) (xs ys : List α) : Prop where
  /-- It is the beginning of it. -/
  inOrder : xs <+: ys
  /-- It is all of it, with nothing in flight. -/
  complete : delivered → xs = ys

namespace ComesThrough

variable {α β : Type*} {delivered delivered' : Prop} {xs ys zs : List α}

theorem refl (delivered : Prop) (xs : List α) : ComesThrough delivered xs xs :=
  ⟨List.prefix_rfl, fun _ => rfl⟩

theorem trans (h : ComesThrough delivered xs ys) (h' : ComesThrough delivered ys zs) :
    ComesThrough delivered xs zs :=
  ⟨h.inOrder.trans h'.inOrder, fun hd => (h.complete hd).trans (h'.complete hd)⟩

theorem imp (h : ComesThrough delivered xs ys) (himp : delivered' → delivered) :
    ComesThrough delivered' xs ys :=
  ⟨h.inOrder, fun hd => h.complete (himp hd)⟩

theorem filterMap (h : ComesThrough delivered xs ys) (f : α → Option β) :
    ComesThrough delivered (xs.filterMap f) (ys.filterMap f) :=
  ⟨h.inOrder.filterMap f, fun hd => by rw [h.complete hd]⟩

end ComesThrough

/-- The queue of each subscription. -/
abbrev Mailboxes (ι α : Type*) := ι → Fifo α

namespace Mailboxes

variable {ι α : Type*} (m : Mailboxes ι α)

/-- Deliver some messages to the subscriptions that hear them. -/
def publish (hears : ι → Bool) (as : List α) : Mailboxes ι α :=
  fun c => if hears c then (m c).sendAll as else m c

/-- Take the next message of a subscription. -/
def receive [DecidableEq ι] (c : ι) : Option (α × Mailboxes ι α) :=
  (m c).receive.map fun r => (r.1, fun d => if d = c then r.2 else m d)

/-- Nothing is in flight. -/
def Delivered : Prop := ∀ c, (m c).queue = []

@[simp]
theorem sent_publish (hears : ι → Bool) (as : List α) (c : ι) :
    (m.publish hears as c).sent = (m c).sent ++ if hears c then as else [] := by
  rw [publish]
  split_ifs <;> simp

@[simp]
theorem received_publish (hears : ι → Bool) (as : List α) (c : ι) :
    (m.publish hears as c).received = (m c).received := by
  rw [publish]
  split_ifs <;> simp

@[simp]
theorem queue_publish (hears : ι → Bool) (as : List α) (c : ι) :
    (m.publish hears as c).queue = (m c).queue ++ if hears c then as else [] := by
  rw [publish]
  split_ifs <;> simp

variable {m} {m' : Mailboxes ι α} {c : ι} {a : α}

/-- What is received comes out of the one mailbox, which something was sent into. -/
theorem receive_eq_some [DecidableEq ι] (h : m.receive c = some (a, m')) :
    (m c).sent ≠ [] ∧ (∀ d, (m' d).sent = (m d).sent) ∧
      ∀ d, (m' d).received = (m d).received ++ if d = c then [a] else [] := by
  obtain ⟨⟨b, f⟩, hreceive, heq⟩ := Option.map_eq_some_iff.1 h
  cases heq
  obtain ⟨hsent, hreceived⟩ := Fifo.receive_eq_some hreceive
  refine ⟨Fifo.sent_ne_nil_of_receive hreceive, fun d => ?_, fun d => ?_⟩
  · dsimp only
    split_ifs with hd
    · rw [hsent, hd]
    · rfl
  · dsimp only
    split_ifs with hd
    · rw [hreceived, hd]
    · simp

/-- What is received is the head of what is in flight to the subscription. -/
theorem queue_of_receive [DecidableEq ι] (h : m.receive c = some (a, m')) (d : ι) :
    (m d).queue = (if d = c then [a] else []) ++ (m' d).queue := by
  obtain ⟨⟨b, f⟩, hreceive, heq⟩ := Option.map_eq_some_iff.1 h
  cases heq
  dsimp only
  split_ifs with hd
  · rw [hd, Fifo.queue_of_receive hreceive]
    rfl
  · rfl

/-- What was sent into a mailbox comes through to its subscriber. -/
theorem comesThrough (m : Mailboxes ι α) (c : ι) :
    ComesThrough m.Delivered (m c).received (m c).sent :=
  ⟨Fifo.received_prefix _, fun h => Fifo.received_eq_sent (h c)⟩

end Mailboxes
