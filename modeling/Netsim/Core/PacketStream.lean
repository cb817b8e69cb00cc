import Mathlib.Data.List.Chain
import Mathlib.Data.List.Induction
import Netsim.Core.Common

/-!
# The grammar of a detector's stream

What the consumers of a detector rely on: the buffers it publishes form packets, each a
START buffer, unmarked buffers, MIDDLE buffers and an END buffer, all with the packet's id;
the ids of successive packets increase; and only the last packet may still be open
(`PacketStream`). `accept` is an executable recogniser of this grammar
(`packetStream_iff_accept`); reading one more buffer is one step of `Phase.next`.
-/

namespace Netsim

/-- `bs` is a packet with the given id, up to its END buffer if it is `complete`. -/
def IsPacket (complete : Bool) (id : ℤ) (bs : List TaggedAudioBuffer) : Prop :=
  (∃ k m, bs.map (·.marker) = .START :: (List.replicate k .NONE ++ List.replicate m .MIDDLE ++
    if complete then [.END] else [])) ∧ ∀ b ∈ bs, b.packetId = id

/-- `out` is a sequence of complete packets with increasing ids, and possibly an open one. -/
def PacketStream (out : List TaggedAudioBuffer) : Prop :=
  ∃ (packets : List (ℤ × List TaggedAudioBuffer)) (last : Option (ℤ × List TaggedAudioBuffer)),
    out = packets.flatMap (·.2) ++ last.toList.flatMap (·.2) ∧
    (∀ p ∈ packets, IsPacket true p.1 p.2) ∧
    (∀ p ∈ last, IsPacket false p.1 p.2) ∧
    ((packets ++ last.toList).map (·.1)).Pairwise (· < ·)

/-- Where a reader of the stream stands. -/
inductive Phase
  /-- Between packets; `last` is the id of the packet before, if there was one. -/
  | outside (last : Option ℤ)
  /-- In a packet, before its first MIDDLE buffer. -/
  | window (id : ℤ)
  /-- In a packet, after its first MIDDLE buffer. -/
  | middle (id : ℤ)
deriving DecidableEq

/-- Read one buffer; `none` if it is out of place. -/
def Phase.next : Phase → TaggedAudioBuffer → Option Phase
  | outside last, b =>
      if b.marker = .START ∧ ∀ i ∈ last, i < b.packetId then some (window b.packetId) else none
  | window id, b =>
      if b.packetId = id then
        match b.marker with
        | .NONE => some (window id)
        | .MIDDLE => some (middle id)
        | .END => some (outside (some id))
        | .START => none
      else none
  | middle id, b =>
      if b.packetId = id then
        match b.marker with
        | .MIDDLE => some (middle id)
        | .END => some (outside (some id))
        | .NONE => none
        | .START => none
      else none

/-- Read a whole stream from its beginning. -/
def accept (out : List TaggedAudioBuffer) : Option Phase :=
  out.foldlM Phase.next (.outside none)

theorem accept_append (out more : List TaggedAudioBuffer) :
    accept (out ++ more) = (accept out).bind fun ph => more.foldlM Phase.next ph := by
  simp [accept, List.foldlM_append, Option.bind_eq_bind]

theorem accept_concat (out : List TaggedAudioBuffer) (b : TaggedAudioBuffer) :
    accept (out ++ [b]) = (accept out).bind fun ph => ph.next b := by
  simp [accept_append]

/-- A stream that is out of place stays so. -/
theorem accept_eq_none_of_extends {out out' : List TaggedAudioBuffer} (hpre : out <+: out')
    (h : accept out = none) : accept out' = none := by
  obtain ⟨more, rfl⟩ := hpre
  simp [accept_append, h]

/-! ### The recogniser accepts exactly the grammar -/

/-- `out` consists of the complete `packets` and the open packet `last`. -/
private structure Parsed (out : List TaggedAudioBuffer)
    (packets : List (ℤ × List TaggedAudioBuffer))
    (last : Option (ℤ × List TaggedAudioBuffer)) : Prop where
  out_eq : out = packets.flatMap (·.2) ++ last.toList.flatMap (·.2)
  complete : ∀ p ∈ packets, IsPacket true p.1 p.2
  opened : ∀ p ∈ last, IsPacket false p.1 p.2
  increasing : ((packets ++ last.toList).map (·.1)).Pairwise (· < ·)

/-- Where the reader stands after the complete `packets` and the open packet `last`. -/
private def Phase.At (packets : List (ℤ × List TaggedAudioBuffer))
    (last : Option (ℤ × List TaggedAudioBuffer)) : Phase → Prop
  | outside l => last = none ∧ l = (packets.map (·.1)).getLast?
  | window id => ∃ bs k, last = some (id, bs) ∧
      bs.map (·.marker) = .START :: List.replicate k .NONE
  | middle id => ∃ bs k m, last = some (id, bs) ∧
      bs.map (·.marker) = .START :: (List.replicate k .NONE ++ List.replicate m .MIDDLE)

/-- Ids stay increasing when a larger one is added at the end. -/
private theorem pairwise_concat_of_lt_last {ids : List ℤ} {id : ℤ}
    (hids : ids.Pairwise (· < ·)) (hid : ∀ i ∈ ids.getLast?, i < id) :
    (ids ++ [id]).Pairwise (· < ·) := by
  -- a chain suffices here: only the last id is compared with the new one
  rw [← List.isChain_iff_pairwise] at hids ⊢
  refine List.isChain_append.2 ⟨hids, List.isChain_singleton _, ?_⟩
  intro i hi j hj
  cases hj
  exact hid i hi

/-- A START buffer with a new largest id opens a packet. -/
private theorem Parsed.start {out : List TaggedAudioBuffer}
    {packets : List (ℤ × List TaggedAudioBuffer)} {b : TaggedAudioBuffer}
    (h : Parsed out packets none) (hb : b.marker = .START)
    (hid : ∀ i ∈ (packets.map (·.1)).getLast?, i < b.packetId) :
    Parsed (out ++ [b]) packets (some (b.packetId, [b])) where
  out_eq := by simp [h.out_eq]
  complete := h.complete
  opened := by
    rintro p ⟨⟩
    exact ⟨⟨0, 0, by simp [hb]⟩, by simp⟩
  increasing := by
    have hids : (packets.map (·.1)).Pairwise (· < ·) := by simpa using h.increasing
    simpa using pairwise_concat_of_lt_last hids hid

/-- A buffer that continues the open packet keeps it open. -/
private theorem Parsed.continue {out bs : List TaggedAudioBuffer}
    {packets : List (ℤ × List TaggedAudioBuffer)} {id : ℤ} {b : TaggedAudioBuffer}
    (h : Parsed out packets (some (id, bs))) (hopen : IsPacket false id (bs ++ [b])) :
    Parsed (out ++ [b]) packets (some (id, bs ++ [b])) where
  out_eq := by simp [h.out_eq]
  complete := h.complete
  opened := by
    rintro p ⟨⟩
    exact hopen
  increasing := by simpa using h.increasing

/-- A buffer that completes the open packet closes it. -/
private theorem Parsed.close {out bs : List TaggedAudioBuffer}
    {packets : List (ℤ × List TaggedAudioBuffer)} {id : ℤ} {b : TaggedAudioBuffer}
    (h : Parsed out packets (some (id, bs))) (hcomplete : IsPacket true id (bs ++ [b])) :
    Parsed (out ++ [b]) (packets ++ [(id, bs ++ [b])]) none where
  out_eq := by simp [h.out_eq]
  complete := by
    intro p hp
    rcases List.mem_append.1 hp with hp | hp
    · exact h.complete p hp
    · obtain rfl := List.mem_singleton.1 hp
      exact hcomplete
  opened := by rintro p ⟨⟩
  increasing := by simpa using h.increasing

/-- One more buffer of the packet's own id makes a packet of its markers. -/
private theorem isPacket_concat {c c' : Bool} {id : ℤ} {bs : List TaggedAudioBuffer}
    {b : TaggedAudioBuffer} (h : IsPacket c id bs) (hb : b.packetId = id) (k m : ℕ)
    (hmarkers : bs.map (·.marker) ++ [b.marker] = .START :: (List.replicate k .NONE ++
      List.replicate m .MIDDLE ++ if c' then [.END] else [])) :
    IsPacket c' id (bs ++ [b]) := by
  refine ⟨⟨k, m, by simpa using hmarkers⟩, ?_⟩
  intro x hx
  rcases List.mem_append.1 hx with hx | hx
  · exact h.2 x hx
  · obtain rfl := List.mem_singleton.1 hx
    exact hb

/-- One buffer read inside the open packet `bs`. -/
private theorem parsed_next_open {out bs : List TaggedAudioBuffer}
    {packets : List (ℤ × List TaggedAudioBuffer)} {id : ℤ} {k m : ℕ} {b : TaggedAudioBuffer}
    (h : Parsed out packets (some (id, bs))) (hb : b.packetId = id)
    (hbs : bs.map (·.marker) = .START :: (List.replicate k .NONE ++ List.replicate m .MIDDLE)) :
    (b.marker = .NONE → m = 0 → ∃ packets' last', Parsed (out ++ [b]) packets' last' ∧
      (Phase.window id).At packets' last') ∧
    (b.marker = .MIDDLE → ∃ packets' last', Parsed (out ++ [b]) packets' last' ∧
      (Phase.middle id).At packets' last') ∧
    (b.marker = .END → ∃ packets' last', Parsed (out ++ [b]) packets' last' ∧
      (Phase.outside (some id)).At packets' last') := by
  have hopen := h.opened _ rfl
  refine ⟨?_, ?_, ?_⟩
  -- an unmarked buffer: the window grows, which only happens before the first MIDDLE
  · rintro hm rfl
    refine ⟨_, _, h.continue (isPacket_concat hopen hb (k + 1) 0 ?_),
      bs ++ [b], k + 1, rfl, ?_⟩ <;> simp [hbs, hm, List.replicate_succ']
  -- MIDDLE, from the window or after other ones
  · intro hm
    refine ⟨_, _, h.continue (isPacket_concat hopen hb k (m + 1) ?_),
      bs ++ [b], k, m + 1, rfl, ?_⟩ <;> simp [hbs, hm, List.replicate_succ']
  -- END completes the packet, so that the reader is outside again
  · intro hm
    refine ⟨_, _, h.close (isPacket_concat hopen hb k m ?_), rfl, ?_⟩
    · simp [hbs, hm]
    · simp

/-- One buffer read from anywhere. -/
private theorem parsed_next {out : List TaggedAudioBuffer}
    {packets : List (ℤ × List TaggedAudioBuffer)} {last : Option (ℤ × List TaggedAudioBuffer)}
    {ph ph' : Phase} {b : TaggedAudioBuffer} (h : Parsed out packets last)
    (hat : ph.At packets last) (hnext : ph.next b = some ph') :
    ∃ packets' last', Parsed (out ++ [b]) packets' last' ∧ ph'.At packets' last' := by
  cases ph with
  | outside l =>
      obtain ⟨rfl, rfl⟩ := hat
      simp only [Phase.next, Option.ite_none_right_eq_some, Option.some.injEq] at hnext
      obtain ⟨⟨hm, hid⟩, rfl⟩ := hnext
      exact ⟨_, _, h.start hm hid, [b], 0, rfl, by simp [hm]⟩
  | window id =>
      obtain ⟨bs, k, rfl, hbs⟩ := hat
      simp only [Phase.next, Option.ite_none_right_eq_some] at hnext
      obtain ⟨hb, hnext⟩ := hnext
      obtain ⟨hnone, hmiddle, hend⟩ :=
        parsed_next_open (k := k) (m := 0) h hb (by simpa using hbs)
      -- a second START has no next phase, and is gone with `reduceCtorEq`
      cases hm : b.marker <;> simp only [hm, reduceCtorEq, Option.some.injEq] at hnext <;>
        subst hnext
      · exact hnone hm rfl
      · exact hend hm
      · exact hmiddle hm
  | middle id =>
      obtain ⟨bs, k, m, rfl, hbs⟩ := hat
      simp only [Phase.next, Option.ite_none_right_eq_some] at hnext
      obtain ⟨hb, hnext⟩ := hnext
      obtain ⟨-, hmiddle, hend⟩ := parsed_next_open h hb hbs
      -- neither START nor an unmarked buffer comes after MIDDLE
      cases hm : b.marker <;> simp only [hm, reduceCtorEq, Option.some.injEq] at hnext <;>
        subst hnext
      · exact hend hm
      · exact hmiddle hm

/-- What is accepted parses into packets. -/
private theorem parsed_of_accept {out : List TaggedAudioBuffer} {ph : Phase}
    (h : accept out = some ph) :
    ∃ packets last, Parsed out packets last ∧ ph.At packets last := by
  -- the induction follows the reader: one more buffer is one step of `Phase.next`
  induction out using List.reverseRecOn generalizing ph with
  | nil =>
      cases h
      exact ⟨[], none, ⟨rfl, by simp, by simp, by simp⟩, rfl, rfl⟩
  | append_singleton out b ih =>
      rw [accept_concat, Option.bind_eq_some_iff] at h
      obtain ⟨ph₀, hout, hnext⟩ := h
      obtain ⟨packets, last, hparsed, hat⟩ := ih hout
      exact parsed_next hparsed hat hnext

/-- Reading the MIDDLE buffers of a packet, and its END buffer if it has one. -/
private theorem foldlM_middles {c : Bool} {id : ℤ} {m : ℕ} {bs : List TaggedAudioBuffer}
    (hid : ∀ b ∈ bs, b.packetId = id)
    (hbs : bs.map (·.marker) = List.replicate m .MIDDLE ++ if c then [.END] else []) :
    bs.foldlM Phase.next (.middle id) =
      some (if c then .outside (some id) else .middle id) := by
  induction m generalizing bs with
  | zero =>
      cases c with
      | false => simp_all
      -- only END is left
      | true =>
          simp only [List.replicate_zero, ↓reduceIte, List.nil_append] at hbs
          obtain ⟨b, rfl, hb⟩ := List.map_eq_singleton_iff.1 hbs
          simp [Phase.next, hid b (by simp), hb]
  | succ m ih =>
      rw [List.replicate_succ, List.cons_append, List.map_eq_cons_iff] at hbs
      obtain ⟨b, bs, rfl, hb, hbs⟩ := hbs
      simp only [List.foldlM_cons, Phase.next, hid b (by simp), ↓reduceIte, hb,
        Option.bind_eq_bind, Option.bind_some]
      exact ih (fun x hx => hid x (by simp [hx])) hbs

/-- Reading a packet from its second buffer on. -/
private theorem foldlM_window {c : Bool} {id : ℤ} {k m : ℕ} {bs : List TaggedAudioBuffer}
    (hid : ∀ b ∈ bs, b.packetId = id)
    (hbs : bs.map (·.marker) = List.replicate k .NONE ++ List.replicate m .MIDDLE ++
      if c then [.END] else []) :
    ∃ ph, bs.foldlM Phase.next (.window id) = some ph ∧
      (c = true → ph = .outside (some id)) := by
  induction k generalizing bs with
  | zero =>
      cases m with
      -- no window and no MIDDLE: the packet is a START, and perhaps its END
      | zero =>
          cases c with
          | false => simp_all
          | true =>
              simp only [List.replicate_zero, ↓reduceIte, List.nil_append] at hbs
              obtain ⟨b, rfl, hb⟩ := List.map_eq_singleton_iff.1 hbs
              simp [Phase.next, hid b (by simp), hb]
      -- the first MIDDLE ends the window
      | succ m =>
          rw [List.replicate_succ, List.replicate_zero, List.nil_append, List.cons_append,
            List.map_eq_cons_iff] at hbs
          obtain ⟨b, bs, rfl, hb, hbs⟩ := hbs
          refine ⟨if c then .outside (some id) else .middle id, ?_, fun hc => by simp [hc]⟩
          simp only [List.foldlM_cons, Phase.next, hid b (by simp), ↓reduceIte, hb,
            Option.bind_eq_bind, Option.bind_some]
          exact foldlM_middles (fun x hx => hid x (by simp [hx])) hbs
  | succ k ih =>
      rw [List.replicate_succ, List.cons_append, List.cons_append, List.map_eq_cons_iff] at hbs
      obtain ⟨b, bs, rfl, hb, hbs⟩ := hbs
      simp only [List.foldlM_cons, Phase.next, hid b (by simp), ↓reduceIte, hb,
        Option.bind_eq_bind, Option.bind_some]
      exact ih (fun x hx => hid x (by simp [hx])) hbs

/-- Reading a packet whose id is larger than the last one. -/
private theorem foldlM_packet {c : Bool} {id : ℤ} {bs : List TaggedAudioBuffer} {l : Option ℤ}
    (hbs : IsPacket c id bs) (hl : ∀ i ∈ l, i < id) :
    ∃ ph, bs.foldlM Phase.next (.outside l) = some ph ∧ (c = true → ph = .outside (some id)) := by
  obtain ⟨⟨k, m, hmarkers⟩, hid⟩ := hbs
  rw [List.map_eq_cons_iff] at hmarkers
  obtain ⟨b, bs, rfl, hb, hbs⟩ := hmarkers
  have hb' : b.packetId = id := hid b (by simp)
  have hl' : ∀ i ∈ l, i < b.packetId := by rwa [hb']
  -- the START buffer is in place because its id is larger than the last one
  rw [List.foldlM_cons, Phase.next, if_pos ⟨hb, hl'⟩, hb']
  exact foldlM_window (fun x hx => hid x (by simp [hx])) hbs

/-- Reading complete packets with increasing ids. -/
private theorem foldlM_packets {packets : List (ℤ × List TaggedAudioBuffer)} {l : Option ℤ}
    (hcomplete : ∀ p ∈ packets, IsPacket true p.1 p.2)
    (hids : (l.toList ++ packets.map (·.1)).Pairwise (· < ·)) :
    (packets.flatMap (·.2)).foldlM Phase.next (.outside l) =
      some (.outside ((l.toList ++ packets.map (·.1)).getLast?)) := by
  induction packets generalizing l with
  | nil => cases l <;> rfl
  | cons p packets ih =>
      -- the ids before the first packet are smaller than its own
      have hl : ∀ i ∈ l, i < p.1 := by
        intro i hi
        exact (List.pairwise_append.1 hids).2.2 i (by simpa using hi) p.1 (by simp)
      obtain ⟨ph, hp, hph⟩ := foldlM_packet (hcomplete p (by simp)) hl
      rw [List.flatMap_cons, List.foldlM_append, hp, hph rfl]
      have hrest : (Option.toList (some p.1) ++ packets.map (·.1)).Pairwise (· < ·) := by
        simpa using (List.pairwise_append.1 hids).2.1
      refine (ih (fun q hq => hcomplete q (by simp [hq])) hrest).trans ?_
      cases l <;> simp [List.getLast?_cons_cons]

/-- The recogniser accepts exactly the streams of the grammar. -/
theorem packetStream_iff_accept (out : List TaggedAudioBuffer) :
    PacketStream out ↔ (accept out).isSome := by
  constructor
  -- a stream of the grammar is read packet by packet
  · rintro ⟨packets, last, rfl, hcomplete, hopen, hids⟩
    rw [List.map_append] at hids
    have hpackets : accept (packets.flatMap (·.2)) =
        some (.outside ((packets.map (·.1)).getLast?)) := by
      simpa [accept] using foldlM_packets (l := none) hcomplete
        (by simpa using (List.pairwise_append.1 hids).1)
    rw [accept] at hpackets ⊢
    rw [List.foldlM_append, hpackets]
    cases last with
    | none => rfl
    | some p =>
        -- the open packet comes after all complete ones, and so has the largest id
        have hl : ∀ i ∈ (packets.map (·.1)).getLast?, i < p.1 := by
          intro i hi
          exact (List.pairwise_append.1 hids).2.2 i (List.mem_of_getLast? hi) p.1 (by simp)
        obtain ⟨ph, hp, -⟩ := foldlM_packet (hopen p rfl) hl
        simp only [Option.toList_some, List.flatMap_singleton, Option.bind_eq_bind,
          Option.bind_some]
        rw [hp]
        rfl
  · intro h
    obtain ⟨ph, hph⟩ := Option.isSome_iff_exists.1 h
    obtain ⟨packets, last, hparsed, -⟩ := parsed_of_accept hph
    exact ⟨packets, last, hparsed.out_eq, hparsed.complete, hparsed.opened, hparsed.increasing⟩

/-- A START buffer followed by unmarked ones, read between packets. -/
theorem foldlM_start_window {last : Option ℤ} {id : ℤ} (first : AudioBuffer)
    (rest : List (Option AudioBuffer)) :
    List.foldlM Phase.next (.outside last)
      ({ buffer := some first, marker := .START, packetId := id } ::
        rest.map fun b => { buffer := b, packetId := id }) =
      if ∀ i ∈ last, i < id then some (.window id) else none := by
  -- once the packet is open, the buffers without a marker stay in the window
  have hrest : ∀ rest : List (Option AudioBuffer),
      (rest.map fun b => ({ buffer := b, packetId := id } : TaggedAudioBuffer)).foldlM
        Phase.next (.window id) = some (.window id) := by
    intro rest
    induction rest with
    | nil => rfl
    | cons b rest ih => simpa [Phase.next] using ih
  rw [List.foldlM_cons]
  simp only [Phase.next, true_and]
  split_ifs
  · exact hrest rest
  · rfl

/-- Every prefix of a packet stream is one: the last packet may be open. -/
theorem PacketStream.of_append {out more : List TaggedAudioBuffer}
    (h : PacketStream (out ++ more)) : PacketStream out := by
  rw [packetStream_iff_accept, Option.isSome_iff_ne_none] at h ⊢
  exact fun hout => h (accept_eq_none_of_extends (List.prefix_append out more) hout)

/-! ### Well-framed streams

What the receivers of a stream need less than that: packets one at a time, each from a START
to an END buffer, whatever the markers in between. -/

/-- The id of the open packet after one more buffer; the outer `none` if it is out of place. -/
def nextOpen : Option ℤ → TaggedAudioBuffer → Option (Option ℤ)
  | none, b => if b.marker = .START then some (some b.packetId) else none
  | some id, b =>
      if b.marker ≠ .START ∧ b.packetId = id then
        some (if b.marker = .END then none else some id)
      else none

/-- The id of the packet that is open at the end of a stream. -/
def openAfter (bs : List TaggedAudioBuffer) : Option (Option ℤ) := bs.foldlM nextOpen none

/-- Packets one at a time, each from a START to an END buffer; the last may be open. -/
def WellFramed (bs : List TaggedAudioBuffer) : Prop := (openAfter bs).isSome

instance (bs : List TaggedAudioBuffer) : Decidable (WellFramed bs) :=
  inferInstanceAs (Decidable ((openAfter bs).isSome = true))

/-- The packets of a stream: each START buffer with the buffers up to the next one. -/
def packetsOf (bs : List TaggedAudioBuffer) : List (TaggedAudioBuffer × List TaggedAudioBuffer) :=
  bs.foldl (fun packets b =>
    if b.marker = .START then packets ++ [(b, [])]
    else packets.dropLast ++ packets.getLast?.toList.map fun p => (p.1, p.2 ++ [b])) []

theorem openAfter_concat (bs : List TaggedAudioBuffer) (b : TaggedAudioBuffer) :
    openAfter (bs ++ [b]) = (openAfter bs).bind fun o => nextOpen o b := by
  simp [openAfter, List.foldlM_append, Option.bind_eq_bind]

theorem openAfter_append (bs more : List TaggedAudioBuffer) :
    openAfter (bs ++ more) = (openAfter bs).bind fun o => more.foldlM nextOpen o := by
  simp [openAfter, List.foldlM_append, Option.bind_eq_bind]

theorem WellFramed.of_append {bs more : List TaggedAudioBuffer} (h : WellFramed (bs ++ more)) :
    WellFramed bs := by
  unfold WellFramed at h ⊢
  rw [openAfter_append] at h
  cases hbs : openAfter bs with
  | none => simp [hbs] at h
  | some o => rfl

theorem packetsOf_concat_start (bs : List TaggedAudioBuffer) {b : TaggedAudioBuffer}
    (hb : b.marker = .START) : packetsOf (bs ++ [b]) = packetsOf bs ++ [(b, [])] := by
  simp [packetsOf, hb]

theorem packetsOf_concat_of_ne_start {bs : List TaggedAudioBuffer} {b : TaggedAudioBuffer}
    (hb : b.marker ≠ .START) {packets : List (TaggedAudioBuffer × List TaggedAudioBuffer)}
    {p : TaggedAudioBuffer × List TaggedAudioBuffer} (hbs : packetsOf bs = packets ++ [p]) :
    packetsOf (bs ++ [b]) = packets ++ [(p.1, p.2 ++ [b])] := by
  unfold packetsOf at hbs ⊢
  rw [List.foldl_concat, hbs]
  simp [hb]

/-- The open packet of a well-framed stream is its last one. -/
theorem exists_packetsOf_of_openAfter {bs : List TaggedAudioBuffer} {id : ℤ}
    (h : openAfter bs = some (some id)) :
    ∃ packets p, packetsOf bs = packets ++ [p] ∧ p.1.packetId = id := by
  induction bs using List.reverseRecOn generalizing id with
  | nil => simp [openAfter] at h
  | append_singleton bs b ih =>
      rw [openAfter_concat, Option.bind_eq_some_iff] at h
      obtain ⟨o, ho, hnext⟩ := h
      cases o with
      -- a START buffer opens the packet, which is then the last one
      | none =>
          simp only [nextOpen, Option.ite_none_right_eq_some, Option.some.injEq] at hnext
          exact ⟨_, _, packetsOf_concat_start bs hnext.1, hnext.2⟩
      -- any other buffer is added to the packet that was open
      | some id' =>
          simp only [nextOpen, Option.ite_none_right_eq_some, Option.some.injEq,
            Option.ite_none_left_eq_some] at hnext
          obtain ⟨⟨hb, -⟩, -, rfl⟩ := hnext
          obtain ⟨packets, p, hbs, hp⟩ := ih ho
          exact ⟨_, _, packetsOf_concat_of_ne_start hb hbs, hp⟩

/-- The packets of a well-framed stream are all of it. -/
theorem WellFramed.flatMap_packetsOf {bs : List TaggedAudioBuffer} (h : WellFramed bs) :
    (packetsOf bs).flatMap (fun p => p.1 :: p.2) = bs := by
  induction bs using List.reverseRecOn with
  | nil => rfl
  | append_singleton bs b ih =>
      have hbs := ih h.of_append
      obtain ⟨o, ho⟩ := Option.isSome_iff_exists.1 h
      rw [openAfter_concat, Option.bind_eq_some_iff] at ho
      obtain ⟨id, hid, hnext⟩ := ho
      cases id with
      | none =>
          simp only [nextOpen, Option.ite_none_right_eq_some] at hnext
          rw [packetsOf_concat_start bs hnext.1, List.flatMap_append, hbs]
          simp
      | some id =>
          simp only [nextOpen, Option.ite_none_right_eq_some] at hnext
          obtain ⟨packets, p, hpackets, -⟩ := exists_packetsOf_of_openAfter hid
          rw [hpackets, List.flatMap_append] at hbs
          rw [packetsOf_concat_of_ne_start hnext.1.1 hpackets, List.flatMap_append]
          conv_rhs => rw [← hbs]
          simp

/-- A reader between packets, or inside one, is also one of the well-framed stream. -/
private theorem openAfter_of_accept {out : List TaggedAudioBuffer} {ph : Phase}
    (h : accept out = some ph) :
    openAfter out = some (match ph with
      | .outside _ => none
      | .window id => some id
      | .middle id => some id) := by
  induction out using List.reverseRecOn generalizing ph with
  | nil =>
      cases h
      rfl
  | append_singleton out b ih =>
      rw [accept_concat, Option.bind_eq_some_iff] at h
      obtain ⟨ph₀, hout, hnext⟩ := h
      rw [openAfter_concat, ih hout, Option.bind_some]
      -- each phase allows fewer markers than being open or closed does
      cases ph₀ with
      | outside last =>
          simp only [Phase.next, Option.ite_none_right_eq_some, Option.some.injEq] at hnext
          obtain ⟨⟨hb, -⟩, rfl⟩ := hnext
          simp [nextOpen, hb]
      | window id =>
          simp only [Phase.next, Option.ite_none_right_eq_some] at hnext
          obtain ⟨hid, hnext⟩ := hnext
          cases hb : b.marker <;> simp only [hb, reduceCtorEq, Option.some.injEq] at hnext <;>
            subst hnext <;> simp [nextOpen, hb, hid]
      | middle id =>
          simp only [Phase.next, Option.ite_none_right_eq_some] at hnext
          obtain ⟨hid, hnext⟩ := hnext
          cases hb : b.marker <;> simp only [hb, reduceCtorEq, Option.some.injEq] at hnext <;>
            subst hnext <;> simp [nextOpen, hb, hid]

/-- What a detector guarantees is more than what the receivers of its stream need. -/
theorem PacketStream.wellFramed {out : List TaggedAudioBuffer} (h : PacketStream out) :
    WellFramed out := by
  rw [packetStream_iff_accept] at h
  obtain ⟨ph, hph⟩ := Option.isSome_iff_exists.1 h
  simp [WellFramed, openAfter_of_accept hph]

/-- The id of the packet that a reader has seen last. -/
private def Phase.lastId : Phase → Option ℤ
  | .outside last => last
  | .window id => some id
  | .middle id => some id

/-- A buffer that is no START is added to the packet before, which keeps its id. -/
private theorem ids_concat_of_ne_start {out : List TaggedAudioBuffer} {b : TaggedAudioBuffer}
    {id : ℤ} (hb : b.marker ≠ .START)
    (hlast : ((packetsOf out).map (·.1.packetId)).getLast? = some id) :
    (packetsOf (out ++ [b])).map (·.1.packetId) = (packetsOf out).map (·.1.packetId) := by
  rcases List.eq_nil_or_concat (packetsOf out) with hout | ⟨packets, p, hout⟩
  · simp [hout] at hlast
  · rw [List.concat_eq_append] at hout
    simp [packetsOf_concat_of_ne_start hb hout, hout]

private theorem ids_of_accept {out : List TaggedAudioBuffer} {ph : Phase}
    (h : accept out = some ph) :
    ((packetsOf out).map (·.1.packetId)).Pairwise (· < ·) ∧
      ((packetsOf out).map (·.1.packetId)).getLast? = ph.lastId := by
  induction out using List.reverseRecOn generalizing ph with
  | nil =>
      cases h
      exact ⟨.nil, rfl⟩
  | append_singleton out b ih =>
      rw [accept_concat, Option.bind_eq_some_iff] at h
      obtain ⟨ph₀, hout, hnext⟩ := h
      obtain ⟨hids, hlast⟩ := ih hout
      cases ph₀ with
      | outside last =>
          simp only [Phase.next, Option.ite_none_right_eq_some, Option.some.injEq] at hnext
          obtain ⟨⟨hb, hid⟩, rfl⟩ := hnext
          rw [packetsOf_concat_start out hb, List.map_append]
          refine ⟨pairwise_concat_of_lt_last hids fun i hi => hid i ?_, by simp [Phase.lastId]⟩
          rwa [hlast] at hi
      -- any other buffer belongs to the packet, whether it ends it or not
      | window id | middle id =>
          simp only [Phase.next, Option.ite_none_right_eq_some] at hnext
          obtain ⟨-, hnext⟩ := hnext
          cases hb : b.marker <;> simp only [hb, reduceCtorEq, Option.some.injEq] at hnext <;>
            subst hnext <;> rw [ids_concat_of_ne_start (by simp [hb]) hlast] <;>
            exact ⟨hids, hlast⟩

/-- The packets of a packet stream have different ids. -/
theorem PacketStream.nodup_ids {out : List TaggedAudioBuffer} (h : PacketStream out) :
    ((packetsOf out).map (·.1.packetId)).Nodup := by
  rw [packetStream_iff_accept] at h
  obtain ⟨ph, hph⟩ := Option.isSome_iff_exists.1 h
  exact (ids_of_accept hph).1.imp fun hlt => hlt.ne

end Netsim
