import Netsim.Tcp.Operations

/-!
# Lifetime of a session

As long as a session lives its read is pending. So whatever ends the session while it is not the
read that completes leaves a handler behind that will run after the session has been destroyed: the
handlers find the session alive iff it ends, if at all, by a read that fails while no write is
pending (`found_iff_endsAlone`).
-/

namespace Netsim

namespace AsyncSession

variable {encode : Bytes → Bytes} {s s' : AsyncSession} {e : AsyncEvent}

/-- No operation is pending. -/
def Idle (s : AsyncSession) : Prop := ¬ s.readPending ∧ ∀ w ∈ s.writes, ¬ w.pending

instance (s : AsyncSession) : Decidable s.Idle := inferInstanceAs (Decidable (_ ∧ _))

/-- An event that ends a session is the failure of its read while no write is pending. -/
def EndsAlone (s : AsyncSession) : AsyncEvent → Prop
  | .readHandler false => s.self → ∀ w ∈ s.writes, ¬ w.pending
  -- the read is pending
  | .writeHandler _ false => ¬ s.self
  | .disconnect => ¬ s.self
  | _ => True

instance (s : AsyncSession) : DecidablePred s.EndsAlone := fun e => by
  unfold EndsAlone
  split <;> infer_instance

/-- Every handler that has run found the session alive. -/
def Found (s : AsyncSession) : Prop := ∀ alive ∈ s.handlers, alive

/-! ### Sessions that end alone -/

/-- A session that lives has been started, and has a read pending. -/
structure Armed (s : AsyncSession) : Prop where
  started : s.self → s.started
  readPending : s.self → s.readPending

/-- A session is started once: it stays started, and does not come back to life. -/
theorem started_of_step (hstarted : s.started) (he : step encode s e = some s') :
    s'.started ∧ (s'.self → s.self) := by
  cases e with
  | start => exact absurd hstarted (step_start he).1
  | write message sent =>
      obtain ⟨-, rfl⟩ | ⟨-, -, rfl⟩ := step_write he
      · exact ⟨hstarted, id⟩
      · exact ⟨hstarted, id⟩
  | send op memory =>
      obtain ⟨w, -, -, -, -, rfl⟩ := step_send he
      exact ⟨hstarted, id⟩
  | readHandler ok =>
      obtain ⟨-, -, -, hstarted', hself', -⟩ := step_readHandler he
      rw [hstarted', hself', Bool.and_eq_true]
      exact ⟨hstarted, And.left⟩
  | writeHandler op ok =>
      obtain ⟨w, -, -, -, -, -, hstarted', hself', -⟩ := step_writeHandler he
      rw [hstarted', hself', Bool.and_eq_true]
      exact ⟨hstarted, And.left⟩
  | disconnect =>
      obtain ⟨halive, rfl⟩ := step_disconnect he
      exact ⟨hstarted, fun _ => halive⟩

theorem Armed.step (h : s.Armed) (he : step encode s e = some s') : s'.Armed := by
  cases e with
  | start =>
      obtain ⟨-, rfl⟩ := step_start he
      exact ⟨fun _ => rfl, fun _ => rfl⟩
  | write message sent =>
      obtain ⟨-, rfl⟩ | ⟨-, -, rfl⟩ := step_write he
      · exact h
      · exact ⟨h.started, h.readPending⟩
  | send op memory =>
      obtain ⟨w, -, -, -, -, rfl⟩ := step_send he
      exact ⟨h.started, h.readPending⟩
  | readHandler ok =>
      obtain ⟨-, -, -, hstarted, hself, hread, -⟩ := step_readHandler he
      constructor <;> rw [hself, Bool.and_eq_true]
      · rw [hstarted]
        exact fun h' => h.started h'.1
      · rw [hread]
        exact And.right
  | writeHandler op ok =>
      obtain ⟨w, -, -, -, -, -, hstarted, hself, hread, -⟩ := step_writeHandler he
      constructor <;> rw [hself, Bool.and_eq_true]
      · rw [hstarted]
        exact fun h' => h.started h'.1
      · rw [hread]
        exact fun h' => h.readPending h'.1
  | disconnect =>
      obtain ⟨-, rfl⟩ := step_disconnect he
      exact ⟨nofun, nofun⟩

/-- An event runs the handler of an operation that was pending, or it changes nothing of a session
that does not live, except that it starts it. -/
theorem step_handlers (he : step encode s e = some s') :
    (¬ s.Idle ∧ s'.handlers = s.handlers ++ [s.self]) ∨
      (s'.handlers = s.handlers ∧ (¬ s.self → s' = s ∨ ¬ s.started ∧ s'.self)) := by
  cases e with
  | start =>
      obtain ⟨hstarted, rfl⟩ := step_start he
      exact .inr ⟨rfl, fun _ => .inr ⟨hstarted, rfl⟩⟩
  | write message sent =>
      obtain ⟨-, rfl⟩ | ⟨halive, -, rfl⟩ := step_write he
      · exact .inr ⟨rfl, fun _ => .inl rfl⟩
      · exact .inr ⟨rfl, fun hdead => absurd halive hdead⟩
  | send op memory =>
      obtain ⟨w, -, halive, -, -, rfl⟩ := step_send he
      exact .inr ⟨rfl, fun hdead => absurd halive hdead⟩
  | readHandler ok =>
      obtain ⟨hpending, hhandlers, -⟩ := step_readHandler he
      exact .inl ⟨fun hidle => hidle.1 hpending, hhandlers⟩
  | writeHandler op ok =>
      obtain ⟨w, hw, hpending, -, hhandlers, -⟩ := step_writeHandler he
      exact .inl ⟨fun hidle => hidle.2 w (List.mem_of_getElem? hw) hpending, hhandlers⟩
  | disconnect =>
      obtain ⟨halive, rfl⟩ := step_disconnect he
      exact .inr ⟨rfl, fun hdead => absurd halive hdead⟩

/-- An event leaves a session that it ends idle iff the session ends alone. -/
theorem endsAlone_iff (h : s.Armed) (halive : s.self) (he : step encode s e = some s') :
    s.EndsAlone e ↔ (¬ s'.self → s'.Idle) := by
  cases e with
  | start =>
      obtain ⟨-, rfl⟩ := step_start he
      exact iff_of_true trivial fun hdead => absurd rfl hdead
  | write message sent =>
      obtain ⟨hnot, -⟩ | ⟨-, -, rfl⟩ := step_write he
      · exact absurd halive hnot
      · exact iff_of_true trivial fun hdead => absurd halive hdead
  | send op memory =>
      obtain ⟨w, -, -, -, -, rfl⟩ := step_send he
      exact iff_of_true trivial fun hdead => absurd halive hdead
  | readHandler ok =>
      obtain ⟨-, -, hwrites, -, hself, hread, -⟩ := step_readHandler he
      cases ok with
      | true => simp [EndsAlone, hself, halive]
      | false => simp [Idle, EndsAlone, hself, hread, hwrites, halive]
  -- whatever else ends the session, its read remains
  | writeHandler op ok =>
      obtain ⟨w, -, -, -, -, -, -, hself, hread, -⟩ := step_writeHandler he
      cases ok with
      | true => simp [EndsAlone, hself, halive]
      | false => simp [Idle, EndsAlone, hself, hread, halive, h.readPending halive]
  | disconnect =>
      obtain ⟨-, rfl⟩ := step_disconnect he
      simp [Idle, EndsAlone, disconnect, halive, h.readPending halive]

theorem endsAlone_of_dead (hdead : ¬ s.self) : s.EndsAlone e := by
  cases e with
  | readHandler ok =>
      cases ok with
      | true => trivial
      | false => exact fun halive => absurd halive hdead
  | writeHandler op ok =>
      cases ok with
      | true => trivial
      | false => exact hdead
  | disconnect => exact hdead
  | _ => trivial

/-- As long as a session has ended alone, if at all, nothing is pending while it does not live. -/
structure Alone (s : AsyncSession) : Prop where
  armed : s.Armed
  idle : ¬ s.self → s.Idle
  found : s.Found

theorem Alone.step (h : s.Alone) (hends : s.EndsAlone e) (he : step encode s e = some s') :
    s'.Alone := by
  refine ⟨h.armed.step he, fun hdead => ?_, ?_⟩
  · by_cases halive : s.self
    · exact (endsAlone_iff h.armed halive he).1 hends hdead
    · rcases step_handlers he with ⟨hbusy, -⟩ | ⟨-, hsame⟩
      · exact absurd (h.idle halive) hbusy
      · obtain rfl | ⟨-, hself⟩ := hsame halive
        · exact h.idle hdead
        · exact absurd hself hdead
  · rcases step_handlers he with ⟨hbusy, hhandlers⟩ | ⟨hhandlers, -⟩
    · have halive : s.self := by
        by_contra hdead
        exact hbusy (h.idle hdead)
      intro alive hmem
      rw [hhandlers, List.mem_append, List.mem_singleton] at hmem
      rcases hmem with hmem | rfl
      · exact h.found alive hmem
      · exact halive
    · rw [Found, hhandlers]
      exact h.found

/-! ### Sessions that do not -/

/-- The session has been destroyed, and a handler has run since, or will. -/
structure Doomed (s : AsyncSession) : Prop where
  started : s.started
  dead : ¬ s.self
  late : false ∈ s.handlers ∨ ¬ s.Idle

theorem Doomed.step (h : s.Doomed) (he : step encode s e = some s') : s'.Doomed := by
  obtain ⟨hstarted, hself⟩ := started_of_step h.started he
  rcases step_handlers he with ⟨-, hhandlers⟩ | ⟨-, hsame⟩
  · refine ⟨hstarted, fun halive => h.dead (hself halive), .inl ?_⟩
    have hself : s.self = false := by simpa using h.dead
    simp [hhandlers, hself]
  · obtain rfl | ⟨hstarted, -⟩ := hsame h.dead
    · exact h
    · exact absurd h.started hstarted

theorem Doomed.run {es : List AsyncEvent} (h : s.Doomed)
    (hrun : Run.exec (AsyncSession.step encode) s es = some s') : s'.Doomed :=
  Run.exec_invariant (AsyncSession.step encode) s (I := fun _ s => s.Doomed) h
    (fun _ _ _ _ h he => h.step he) es s' hrun

/-- Once all operations have completed, a handler has run too late. -/
theorem Doomed.not_found {es : List AsyncEvent} (h : s.Doomed)
    (hrun : Run.exec (AsyncSession.step encode) s es = some s') (hidle : s'.Idle) : ¬ s'.Found := by
  intro hfound
  rcases (h.run hrun).late with hlate | hbusy
  · exact absurd (hfound _ hlate) (by simp)
  · exact hbusy hidle

/-! ### Runs -/

theorem armed_after {es : List AsyncEvent} (h : after encode es = some s) : s.Armed :=
  Run.exec_invariant (step encode) {} (I := fun _ s => s.Armed) ⟨nofun, nofun⟩
    (fun _ _ _ _ h he => h.step he) es s h

/-- A session that has ended alone, if at all, has had no late handler. -/
theorem alone_after {es : List AsyncEvent} (h : after encode es = some s)
    (hends : Run.ExecAlways (step encode) {} EndsAlone es) : s.Alone :=
  Run.exec_guarded_invariant (step encode) {} (I := Alone)
    ⟨⟨nofun, nofun⟩, fun _ => ⟨nofun, nofun⟩, nofun⟩ (fun _ _ _ h he hs => h.step he hs) es s h
    hends

/-- In a run in which every operation that is pending when the session is destroyed completes, all
handlers find the session alive iff the session ends, if at all, by a read that fails while no write
is pending. -/
theorem found_iff_endsAlone {es : List AsyncEvent} (h : after encode es = some s)
    (hcompleted : s.self ∨ s.Idle) :
    s.Found ↔ Run.ExecAlways (step encode) {} EndsAlone es := by
  constructor
  · rintro hfound pre e post t rfl ht
    obtain ⟨t', u, ht', hu, hpost⟩ := (Run.exec_middle_eq_some (step encode) {}).1 h
    obtain rfl := Option.some_inj.1 (ht.symm.trans ht')
    have harmed := armed_after ht
    by_cases halive : t.self
    · refine (endsAlone_iff harmed halive hu).2 fun hdead => ?_
      by_contra hbusy
      -- the session is destroyed here, and never lives again
      have hdoomed : u.Doomed :=
        ⟨(started_of_step (harmed.started halive) hu).1, hdead, .inr hbusy⟩
      rcases hcompleted with hself | hidle
      · exact (hdoomed.run hpost).dead hself
      · exact hdoomed.not_found hpost hidle hfound
    · exact endsAlone_of_dead halive
  · intro hends
    exact (alone_after h hends).found

/-- A message of the type `T`, without bytes. -/
def emptyMessage : Message := { fullName := [84], serialized := [] }

/-- A write completes, a read completes, and the peer leaves. -/
theorem found_of_read_fails_alone :
    ∃ s, after id [.start, .write emptyMessage 10, .readHandler true, .writeHandler 0 true,
      .readHandler false] = some s ∧ s.Idle ∧ s.Found := by
  let es : List AsyncEvent := [.start, .write emptyMessage 10, .readHandler true,
    .writeHandler 0 true, .readHandler false]
  have hidle : (after id es).any (fun s => decide s.Idle) := by decide +kernel
  obtain ⟨hrun, hidle⟩ := (Option.any_eq_true_iff_get _ _).1 hidle
  have hs := (Option.some_get hrun).symm
  refine ⟨_, hs, by simpa using hidle, (found_iff_endsAlone hs (.inr (by simpa using hidle))).2 ?_⟩
  exact Run.execAlways_of_check (step id) {} (by decide +kernel)

/-- The peer leaves while a write is pending, or a write fails: the other handler finds no
session. -/
theorem not_found_of_two_pending :
    (∃ s, after id [.start, .write emptyMessage 0, .readHandler false, .writeHandler 0 false] =
        some s ∧ s.Idle ∧ ¬ s.Found) ∧
      ∃ s, after id [.start, .write emptyMessage 0, .writeHandler 0 false, .readHandler false] =
        some s ∧ s.Idle ∧ ¬ s.Found := by
  let s : AsyncSession :=
    { started := true, writes := [{ message := emptyMessage, sent := 0, pending := false }]
      handlers := [true, false] }
  have hfound : ¬ s.Found := fun h => absurd (h false (by decide)) (by decide)
  exact ⟨⟨s, by decide +kernel, by decide, hfound⟩, ⟨s, by decide +kernel, by decide, hfound⟩⟩

end AsyncSession

end Netsim
