import Netsim.Tcp.Operations

/-!
# Lines on the wire

Nothing keeps a session from writing a line while an earlier one has not been sent completely:
partial sends of the two may then fall between each other. And a partial send that happens after
`write` has returned reads a string that has been destroyed. Otherwise the wire holds whole lines in
the order of the calls, however they are split into partial sends (`whole_of_notOverlapping`); it is
enough that no bytes of a line are sent before those of earlier ones (`whole_of_inOrder`).
-/

namespace Netsim

namespace AsyncSession

variable (encode : Bytes → Bytes)

/-- The messages that have been written. -/
def messages (s : AsyncSession) : List Message := s.writes.map (·.message)

/-- The lines of the messages that have been written, one after another. -/
def lines (s : AsyncSession) : Bytes := s.messages.flatMap (TcpSession.line encode)

/-- All bytes of all lines have been sent. -/
def AllSent (s : AsyncSession) : Prop := ∀ w ∈ s.writes, Sent encode w

instance (s : AsyncSession) : Decidable (s.AllSent encode) :=
  inferInstanceAs (Decidable (∀ w ∈ s.writes, Sent encode w))

/-- The bytes on the wire are the lines in order, and the last one of them that has been begun may
be incomplete. -/
def Whole (s : AsyncSession) : Prop :=
  s.wire <+: s.lines encode ∧ (s.AllSent encode → s.wire = s.lines encode)

instance (s : AsyncSession) : Decidable (s.Whole encode) := inferInstanceAs (Decidable (_ ∧ _))

/-- The bytes of a partial send are those of the line that follow the ones already sent. -/
def Intact (s : AsyncSession) (op : ℕ) (memory : Bytes) : Prop :=
  ∀ w ∈ s.writes[op]?, memory = ((line encode w).drop w.sent).take memory.length

/-- No bytes of a write are sent before all bytes of the writes before it. -/
def InOrder (s : AsyncSession) : AsyncEvent → Prop
  | .write _ sent => s.self → sent = 0 ∨ s.AllSent encode
  | .send op memory =>
      Intact encode s op memory ∧ (memory = [] ∨ ∀ w ∈ s.writes.take op, Sent encode w)
  | _ => True

/-- A message is written only when all bytes of the messages before it have been sent, and where the
line of a write was it still is. -/
def NotOverlapping (s : AsyncSession) : AsyncEvent → Prop
  | .write _ _ => s.self → s.AllSent encode
  | .send op memory => Intact encode s op memory
  | _ => True

instance (s : AsyncSession) : DecidablePred (NotOverlapping encode s) := fun e => by
  unfold NotOverlapping Intact
  split <;> infer_instance

/-- The messages of the write calls of a run. -/
def calls (es : List AsyncEvent) : List Message :=
  es.filterMap fun
    | .write message _ => some message
    | _ => none

variable {encode} {s s' : AsyncSession} {e : AsyncEvent}

/-! ### Sends in order -/

/-- The lines and how much of each has been sent. -/
def progress (encode : Bytes → Bytes) (s : AsyncSession) : List (Bytes × ℕ) :=
  s.writes.map fun w => (line encode w, w.sent)

/-- The lines have been sent one after another, up to a place in one of them. -/
structure Sequential (encode : Bytes → Bytes) (s : AsyncSession) : Prop where
  wire : s.wire = (progress encode s).flatMap fun p => p.1.take p.2
  ordered : (progress encode s).Pairwise fun p q => q.2 = 0 ∨ p.2 = p.1.length

/-- Of lines that are sent one after another the beginning has been sent. -/
theorem prefix_flatMap_of_ordered {ps : List (Bytes × ℕ)}
    (h : ps.Pairwise fun p q => q.2 = 0 ∨ p.2 = p.1.length) :
    (ps.flatMap fun p => p.1.take p.2) <+: ps.flatMap (·.1) := by
  induction ps with
  | nil => exact List.prefix_rfl
  | cons p ps ih =>
      obtain ⟨hfirst, hothers⟩ := List.pairwise_cons.1 h
      rw [List.flatMap_cons, List.flatMap_cons]
      by_cases hsent : p.2 = p.1.length
      · rw [hsent, List.take_length, List.prefix_append_right_inj]
        exact ih hothers
      · -- nothing has been sent of the others
        have hnothing : (ps.flatMap fun q => q.1.take q.2) = [] := by
          rw [List.flatMap_eq_nil_iff]
          intro q hq
          rw [(hfirst q hq).resolve_right hsent, List.take_zero]
        rw [hnothing, List.append_nil]
        exact (List.take_prefix _ _).trans (List.prefix_append _ _)

theorem lines_eq_flatMap_progress : s.lines encode = (progress encode s).flatMap (·.1) := by
  rw [lines, messages, progress, List.flatMap_map, List.flatMap_map]
  rfl

theorem Sequential.whole (h : Sequential encode s) : s.Whole encode := by
  rw [Whole, h.wire, lines_eq_flatMap_progress]
  refine ⟨prefix_flatMap_of_ordered h.ordered, fun hsent => ?_⟩
  rw [progress, List.flatMap_map, List.flatMap_map]
  apply List.flatMap_congr
  intro w hw
  have hlength : w.sent = (line encode w).length := hsent w hw
  simp only [hlength, List.take_length]

/-- A partial send of one of the lines, before which all bytes of earlier lines have been sent. -/
theorem sequential_set {ps : List (Bytes × ℕ)} {op sent : ℕ} {line memory : Bytes}
    (h : ps.Pairwise fun p q => q.2 = 0 ∨ p.2 = p.1.length) (hget : ps[op]? = some (line, sent))
    (hfits : sent + memory.length ≤ line.length)
    (hmemory : memory = (line.drop sent).take memory.length)
    (horder : memory = [] ∨ ∀ p ∈ ps.take op, p.2 = p.1.length) :
    ((ps.set op (line, sent + memory.length)).flatMap fun p => p.1.take p.2) =
        (ps.flatMap fun p => p.1.take p.2) ++ memory ∧
      (ps.set op (line, sent + memory.length)).Pairwise fun p q => q.2 = 0 ∨ p.2 = p.1.length := by
  obtain ⟨hlt, hop⟩ := List.getElem?_eq_some_iff.1 hget
  by_cases hnil : memory = []
  · have hset : ps.set op (line, sent + memory.length) = ps := by
      rw [hnil, List.length_nil, Nat.add_zero, ← hop, List.set_getElem_self]
    rw [hset, hnil, List.append_nil]
    exact ⟨rfl, h⟩
  · have hbefore := horder.resolve_left hnil
    have hsplit : ps = ps.take op ++ (line, sent) :: ps.drop (op + 1) := by
      rw [← hop, List.getElem_cons_drop, List.take_append_drop]
    rw [List.set_eq_take_append_cons_drop, if_pos hlt]
    rw [hsplit, List.pairwise_append, List.pairwise_cons] at h
    obtain ⟨hpre, ⟨hlast, hpost⟩, hcross⟩ := h
    -- the line has bytes left, so nothing of the lines after it has been sent
    have hafter : ∀ q ∈ ps.drop (op + 1), q.2 = 0 := fun q hq => by
      refine (hlast q hq).resolve_right fun hsent => hnil ?_
      apply List.eq_nil_of_length_eq_zero
      simp only at hsent
      omega
    have hnothing : ((ps.drop (op + 1)).flatMap fun q => q.1.take q.2) = [] := by
      rw [List.flatMap_eq_nil_iff]
      intro q hq
      rw [hafter q hq, List.take_zero]
    constructor
    · conv_rhs => rw [hsplit]
      simp only [List.flatMap_append, List.flatMap_cons, hnothing, List.append_nil,
        List.append_assoc, List.take_add, ← hmemory]
    · rw [List.pairwise_append, List.pairwise_cons]
      refine ⟨hpre, ⟨fun q hq => .inl (hafter q hq), hpost⟩, fun p hp q hq => ?_⟩
      exact .inr (hbefore p hp)

theorem Sequential.congr (h : Sequential encode s) (hwire : s'.wire = s.wire)
    (hprogress : progress encode s' = progress encode s) : Sequential encode s' := by
  constructor
  · rw [hwire, hprogress, h.wire]
  · rw [hprogress]
    exact h.ordered

/-- Replacing an element by one that looks the same. -/
theorem map_set_of_eq {α β : Type} {f : α → β} {xs : List α} {op : ℕ} {w w' : α}
    (hw : xs[op]? = some w) (hf : f w' = f w) : (xs.set op w').map f = xs.map f := by
  obtain ⟨hlt, rfl⟩ := List.getElem?_eq_some_iff.1 hw
  have hlt' : op < (xs.map f).length := by simpa using hlt
  have hkeep : (xs.map f)[op] = f w' := by rw [List.getElem_map, hf]
  rw [List.map_set, ← hkeep, List.set_getElem_self]

/-- An event in order keeps the lines one after another. -/
theorem Sequential.step (h : Sequential encode s) (horder : InOrder encode s e)
    (he : step encode s e = some s') : Sequential encode s' := by
  cases e with
  | start =>
      obtain ⟨-, rfl⟩ := step_start he
      exact h.congr rfl rfl
  | write message sent =>
      obtain ⟨-, rfl⟩ | ⟨halive, -, rfl⟩ := step_write he
      · exact h
      · have hprogress : progress encode { s with
            writes := s.writes ++ [{ message := message, sent := sent }]
            wire := s.wire ++ (TcpSession.line encode message).take sent } =
            progress encode s ++ [(TcpSession.line encode message, sent)] := List.map_append
        constructor
        · rw [hprogress, List.flatMap_append, ← h.wire, List.flatMap_singleton]
        · rw [hprogress, List.pairwise_append]
          refine ⟨h.ordered, List.pairwise_singleton _ _, ?_⟩
          rintro p hp q hq
          obtain rfl := List.mem_singleton.1 hq
          obtain ⟨w, hw, rfl⟩ := List.mem_map.1 hp
          exact (horder halive).imp id fun hsent => hsent w hw
  | send op memory =>
      obtain ⟨w, hw, -, -, hfits, rfl⟩ := step_send he
      have hget : (progress encode s)[op]? = some (line encode w, w.sent) := by
        rw [progress, List.getElem?_map, hw]
        rfl
      have hbefore : memory = [] ∨ ∀ p ∈ (progress encode s).take op, p.2 = p.1.length := by
        refine horder.2.imp id fun hsent p hp => ?_
        rw [progress, ← List.map_take] at hp
        obtain ⟨w', hw', rfl⟩ := List.mem_map.1 hp
        exact hsent w' hw'
      obtain ⟨hwire, hordered⟩ := sequential_set h.ordered hget hfits (horder.1 w hw) hbefore
      have hprogress : progress encode { s with
          writes := s.writes.set op { w with sent := w.sent + memory.length }
          wire := s.wire ++ memory } =
          (progress encode s).set op (line encode w, w.sent + memory.length) := List.map_set
      constructor
      · rw [hprogress, hwire, ← h.wire]
      · rw [hprogress]
        exact hordered
  | readHandler ok =>
      obtain ⟨-, -, hwrites, -, -, -, hwire⟩ := step_readHandler he
      exact h.congr hwire (by rw [progress, hwrites, progress])
  | writeHandler op ok =>
      obtain ⟨w, hw, -, -, -, hwrites, -, -, -, hwire⟩ := step_writeHandler he
      refine h.congr hwire ?_
      -- a handler changes neither a line nor what has been sent of it
      rw [progress, hwrites]
      exact map_set_of_eq hw rfl
  | disconnect =>
      obtain ⟨-, rfl⟩ := step_disconnect he
      exact h.congr rfl rfl

/-! ### Writes that do not overlap -/

/-- At most the last line has bytes left. -/
def OneOpen (encode : Bytes → Bytes) (s : AsyncSession) : Prop :=
  ∀ p ∈ (progress encode s).dropLast, p.2 = p.1.length

/-- What is sent is of the last line. -/
theorem OneOpen.last {op : ℕ} {w : WriteOperation} {memory : Bytes} (h : OneOpen encode s)
    (hw : s.writes[op]? = some w) (hfits : w.sent + memory.length ≤ (line encode w).length) :
    memory = [] ∨ op = s.writes.length - 1 := by
  obtain ⟨hlt, hop⟩ := List.getElem?_eq_some_iff.1 hw
  by_cases hlast : op = s.writes.length - 1
  · exact .inr hlast
  · have hmem : (line encode w, w.sent) ∈ (progress encode s).dropLast := by
      rw [progress, ← List.map_dropLast]
      refine List.mem_map.2 ⟨w, ?_, rfl⟩
      rw [List.dropLast_eq_take, List.mem_take_iff_getElem]
      exact ⟨op, by omega, hop⟩
    have hsent : w.sent = (line encode w).length := h _ hmem
    exact .inl (List.eq_nil_of_length_eq_zero (by omega))

theorem OneOpen.inOrder (h : OneOpen encode s) (hcalls : NotOverlapping encode s e)
    (he : step encode s e = some s') : InOrder encode s e := by
  cases e with
  | write message sent => exact fun halive => .inr (hcalls halive)
  | send op memory =>
      obtain ⟨w, hw, -, -, hfits, -⟩ := step_send he
      refine ⟨hcalls, (h.last hw hfits).imp id fun hlast w' hw' => ?_⟩
      rw [hlast, ← List.dropLast_eq_take] at hw'
      exact h (line encode w', w'.sent) (by
        rw [progress, ← List.map_dropLast]
        exact List.mem_map_of_mem hw')
  | _ => trivial

theorem OneOpen.congr (h : OneOpen encode s) (hprogress : progress encode s' = progress encode s) :
    OneOpen encode s' := by
  rwa [OneOpen, hprogress]

theorem OneOpen.step (h : OneOpen encode s) (hcalls : NotOverlapping encode s e)
    (he : step encode s e = some s') : OneOpen encode s' := by
  cases e with
  | start =>
      obtain ⟨-, rfl⟩ := step_start he
      exact h
  | write message sent =>
      obtain ⟨-, rfl⟩ | ⟨halive, -, rfl⟩ := step_write he
      · exact h
      · rw [OneOpen, progress, List.map_append, List.map_singleton, List.dropLast_concat]
        intro p hp
        obtain ⟨w, hw, rfl⟩ := List.mem_map.1 hp
        exact hcalls halive w hw
  | send op memory =>
      obtain ⟨w, hw, -, -, hfits, rfl⟩ := step_send he
      rcases h.last hw hfits with rfl | hlast
      · exact h.congr (map_set_of_eq hw rfl)
      · have hout : (progress encode s).length - 1 ≤ op := by simp [progress, hlast]
        rwa [OneOpen, progress, List.map_set, ← progress, List.dropLast_eq_take, List.length_set,
          List.take_set_of_le hout, ← List.dropLast_eq_take]
  | readHandler ok =>
      obtain ⟨-, -, hwrites, -⟩ := step_readHandler he
      exact h.congr (by rw [progress, hwrites, progress])
  | writeHandler op ok =>
      obtain ⟨w, hw, -, -, -, hwrites, -⟩ := step_writeHandler he
      refine h.congr ?_
      rw [progress, hwrites]
      exact map_set_of_eq hw rfl
  | disconnect =>
      obtain ⟨-, rfl⟩ := step_disconnect he
      exact h

/-! ### Runs -/

/-- The writes are those of the calls, up to the end of the session. -/
structure Called (es : List AsyncEvent) (s : AsyncSession) : Prop where
  prefix_calls : s.messages <+: calls es
  alive : s.self → s.messages = calls es
  unstarted : ¬ s.started → calls es = []

/-- An event that is no call changes neither the calls nor the messages. -/
theorem Called.congr {es : List AsyncEvent} (h : Called es s) (hcalls : calls [e] = [])
    (hmessages : s'.messages = s.messages) (hself : s'.self → s.self)
    (hstarted : ¬ s'.started → ¬ s.started) : Called (es ++ [e]) s' := by
  have hsame : calls (es ++ [e]) = calls es := by
    rw [calls, List.filterMap_append, ← calls, ← calls, hcalls, List.append_nil]
  constructor
  · rw [hmessages, hsame]
    exact h.prefix_calls
  · rw [hmessages, hsame]
    exact fun halive => h.alive (hself halive)
  · rw [hsame]
    exact fun hnot => h.unstarted (hstarted hnot)

theorem Called.step {es : List AsyncEvent} (h : Called es s) (he : step encode s e = some s') :
    Called (es ++ [e]) s' := by
  cases e with
  | start =>
      obtain ⟨hstarted, rfl⟩ := step_start he
      have hnone : calls (es ++ [.start]) = [] := by
        rw [calls, List.filterMap_append, ← calls, h.unstarted hstarted]
        rfl
      have hmessages : s.messages = [] := by
        simpa [h.unstarted hstarted] using h.prefix_calls
      rw [← hmessages] at hnone
      exact ⟨hnone ▸ List.prefix_rfl, fun _ => hnone.symm, fun hnot => absurd rfl hnot⟩
  | write message sent =>
      have hcalls : calls (es ++ [.write message sent]) = calls es ++ [message] := by simp [calls]
      have hstarted := started_of_write he
      obtain ⟨hdead, rfl⟩ | ⟨halive, -, rfl⟩ := step_write he
      · refine ⟨?_, fun halive => absurd halive hdead, fun hnot => absurd hstarted hnot⟩
        rw [hcalls]
        exact h.prefix_calls.trans (List.prefix_append _ _)
      · have hmessages : s.messages ++ [message] = calls (es ++ [.write message sent]) := by
          rw [hcalls, h.alive halive]
        have hwritten : AsyncSession.messages { s with
            writes := s.writes ++ [{ message := message, sent := sent }]
            wire := s.wire ++ (TcpSession.line encode message).take sent } =
            s.messages ++ [message] := List.map_append
        rw [← hwritten] at hmessages
        exact ⟨hmessages ▸ List.prefix_rfl, fun _ => hmessages, fun hnot => absurd hstarted hnot⟩
  | send op memory =>
      obtain ⟨w, hw, -, -, -, rfl⟩ := step_send he
      exact h.congr rfl (map_set_of_eq hw rfl) id id
  | readHandler ok =>
      obtain ⟨-, -, hwrites, hstarted, hself, -⟩ := step_readHandler he
      refine h.congr rfl ?_ (by rw [hself, Bool.and_eq_true]; exact And.left) (by simp [hstarted])
      rw [messages, hwrites, messages]
  | writeHandler op ok =>
      obtain ⟨w, hw, -, -, -, hwrites, hstarted, hself, -⟩ := step_writeHandler he
      refine h.congr rfl ?_ (by rw [hself, Bool.and_eq_true]; exact And.left) (by simp [hstarted])
      rw [messages, hwrites]
      exact map_set_of_eq hw rfl
  | disconnect =>
      obtain ⟨-, rfl⟩ := step_disconnect he
      exact h.congr rfl rfl nofun id

theorem sequential_after {es : List AsyncEvent} (h : after encode es = some s)
    (horder : Run.ExecAlways (step encode) {} (InOrder encode) es) : Sequential encode s :=
  Run.exec_guarded_invariant (step encode) {} (I := Sequential encode) ⟨rfl, List.Pairwise.nil⟩
    (fun _ _ _ h he hs => h.step he hs) es s h horder

theorem oneOpen_after {es : List AsyncEvent} (h : after encode es = some s)
    (hcalls : Run.ExecAlways (step encode) {} (NotOverlapping encode) es) : OneOpen encode s :=
  Run.exec_guarded_invariant (step encode) {} (I := OneOpen encode) nofun
    (fun _ _ _ h he hs => h.step he hs) es s h hcalls

theorem called_after {es : List AsyncEvent} (h : after encode es = some s) : Called es s :=
  Run.exec_invariant (step encode) {} (I := Called) ⟨List.prefix_rfl, nofun, fun _ => rfl⟩
    (fun _ _ _ _ h he => h.step he) es s h

/-- If no bytes of a line are sent before those of earlier lines, the wire holds whole lines in the
order of the calls, and the beginning of one more. -/
theorem whole_of_inOrder {es : List AsyncEvent} (h : after encode es = some s)
    (horder : Run.ExecAlways (step encode) {} (InOrder encode) es) :
    s.messages <+: calls es ∧ (s.self → s.messages = calls es) ∧ s.Whole encode :=
  ⟨(called_after h).prefix_calls, (called_after h).alive, (sequential_after h horder).whole⟩

/-- If messages are written only when the lines of earlier ones have been sent, the sends are in
order, however the lines are split. -/
theorem inOrder_of_notOverlapping {es : List AsyncEvent} (h : after encode es = some s)
    (hcalls : Run.ExecAlways (step encode) {} (NotOverlapping encode) es) :
    Run.ExecAlways (step encode) {} (InOrder encode) es := by
  rintro pre e post t rfl ht
  obtain ⟨t', u, ht', hu, -⟩ := (Run.exec_middle_eq_some (step encode) {}).1 h
  obtain rfl := Option.some_inj.1 (ht.symm.trans ht')
  exact (oneOpen_after ht (hcalls.of_append (step encode) {})).inOrder
    (hcalls pre e post t rfl ht) hu

/-- If messages are written only when the lines of earlier ones have been sent, and the lines are
left where they are until then, the wire holds whole lines in the order of the calls, however they
are split into partial sends, and while the last one is sent the beginning of it. -/
theorem whole_of_notOverlapping {es : List AsyncEvent} (h : after encode es = some s)
    (hcalls : Run.ExecAlways (step encode) {} (NotOverlapping encode) es) :
    s.messages <+: calls es ∧ (s.self → s.messages = calls es) ∧ s.Whole encode :=
  whole_of_inOrder h (inOrder_of_notOverlapping h hcalls)

/-- A message without bytes, of a type with a name of one letter. -/
def letterMessage (letter : UInt8) : Message := { fullName := [letter], serialized := [] }

/-- The line of `T` is sent in three parts, and then that of `U` at once. -/
theorem whole_of_two_writes :
    ∃ s, after id [.start, .write (letterMessage 84) 3, .send 0 [83, 73, 77, 124, 84],
        .send 0 [124, 10], .write (letterMessage 85) 10] = some s ∧ s.AllSent id ∧
      s.wire = [letterMessage 84, letterMessage 85].flatMap (TcpSession.line id) := by
  let es : List AsyncEvent := [.start, .write (letterMessage 84) 3,
    .send 0 [83, 73, 77, 124, 84], .send 0 [124, 10], .write (letterMessage 85) 10]
  have hsent : (after id es).any fun s => s.self && decide (s.AllSent id) := by decide +kernel
  obtain ⟨hrun, hsent⟩ := (Option.any_eq_true_iff_get _ _).1 hsent
  simp only [Bool.and_eq_true, decide_eq_true_eq] at hsent
  obtain ⟨-, hmessages, hwhole⟩ := whole_of_notOverlapping (Option.some_get hrun).symm
    (Run.execAlways_of_check (step id) {} (by decide +kernel))
  refine ⟨_, (Option.some_get hrun).symm, hsent.2, ?_⟩
  rw [hwhole.2 hsent.2, lines, hmessages hsent.1]
  rfl

/-- `U` is written while nine bytes of the line of `T` are left: its line falls into that of `T`.
And a line is sent from memory that holds other bytes. -/
theorem not_whole_of_overlap :
    (∃ s, after id [.start, .write (letterMessage 84) 1, .write (letterMessage 85) 10,
        .send 0 [69, 84, 83, 73, 77, 124, 84, 124, 10]] = some s ∧ s.AllSent id ∧
      ¬ s.Whole id) ∧
    ∃ s, after id [.start, .write (letterMessage 84) 0, .send 0 (List.replicate 10 0)] = some s ∧
      s.AllSent id ∧ ¬ s.Whole id := by
  have hoverlap : (after id [.start, .write (letterMessage 84) 1, .write (letterMessage 85) 10,
      .send 0 [69, 84, 83, 73, 77, 124, 84, 124, 10]]).any
        fun s => decide (s.AllSent id ∧ ¬ s.Whole id) := by
    decide +kernel
  have hmemory : (after id [.start, .write (letterMessage 84) 0,
      .send 0 (List.replicate 10 0)]).any fun s => decide (s.AllSent id ∧ ¬ s.Whole id) := by
    decide +kernel
  simp only [Option.any_eq_true, decide_eq_true_eq] at hoverlap hmemory
  exact ⟨hoverlap, hmemory⟩

end AsyncSession

end Netsim
