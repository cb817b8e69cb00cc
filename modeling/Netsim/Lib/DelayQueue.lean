import Netsim.Lib.Multimap
import Netsim.Lib.Run

/-!
# Delay queues

Items wait until a clock reaches the time at which they are due. An item is released by the first
tick after it was delayed that is not before this time, and waits as long as there is none
(`perm_releases`, `perm_pending`). Items of a class whose times ascend are released in the order in
which they were delayed (`filter_released_append`).
-/

/-- A queue that releases its items at the times at which they are due. -/
structure DelayQueue (κ α : Type*) [LinearOrder κ] where
  /-- The items that wait, by the time at which they are due. -/
  waiting : Multimap κ α := ∅
  /-- The items that were released, each with the clock. -/
  released : List (κ × α) := []

namespace DelayQueue

variable {κ α : Type*} [LinearOrder κ]

/-- What can happen to a delay queue. -/
inductive Event (κ α : Type*)
  /-- Some items are delayed. -/
  | delay (items : List (κ × α))
  /-- Everything that is due is released. -/
  | tick (now : κ)

/-- Delay some items. -/
def delayAll (q : DelayQueue κ α) (items : List (κ × α)) : DelayQueue κ α :=
  { q with waiting := items.foldl (fun m e => m.insert e.1 e.2) q.waiting }

/-- A step. -/
def step (q : DelayQueue κ α) : Event κ α → DelayQueue κ α
  | .delay items => q.delayAll items
  | .tick now =>
      { waiting := q.waiting.above now
        released := q.released ++ (q.waiting.upTo now).entries.map fun e => (now, e.2) }

/-! ### What a run releases -/

/-- The first tick that is not before the given time. -/
def firstTick (due : κ) : List (Event κ α) → Option κ
  | [] => none
  | .delay _ :: es => firstTick due es
  | .tick now :: es => if due ≤ now then some now else firstTick due es

/-- An item and the tick of a run that releases it. -/
def release (es : List (Event κ α)) (e : κ × α) : Option (κ × α) :=
  (firstTick e.1 es).map fun now => (now, e.2)

/-- The items of a run, each with the first tick that finds it due. -/
def releases : List (Event κ α) → List (κ × α)
  | [] => []
  | .delay items :: es => items.filterMap (release es) ++ releases es
  | .tick _ :: es => releases es

/-- The items of a run that no tick finds due. -/
def pending : List (Event κ α) → List (κ × α)
  | [] => []
  | .delay items :: es => (items.filter fun e => (release es e).isNone) ++ pending es
  | .tick _ :: es => pending es

/-- The items that are delayed in a run. -/
def delayed (es : List (Event κ α)) : List (κ × α) :=
  es.flatMap fun
    | .delay items => items
    | .tick _ => []

omit [LinearOrder κ] in
theorem delayed_append (es fs : List (Event κ α)) :
    delayed (es ++ fs) = delayed es ++ delayed fs := List.flatMap_append

@[simp]
theorem release_nil : release ([] : List (Event κ α)) = fun _ => none := rfl

@[simp]
theorem release_delay (items : List (κ × α)) (es : List (Event κ α)) :
    release (.delay items :: es) = release es := rfl

theorem release_tick_of_le {now : κ} {e : κ × α} (h : e.1 ≤ now) (es : List (Event κ α)) :
    release (.tick now :: es) e = some (now, e.2) := by
  simp [release, firstTick, h]

theorem release_tick_of_lt {now : κ} {e : κ × α} (h : now < e.1) (es : List (Event κ α)) :
    release (.tick now :: es) e = release es e := by
  simp [release, firstTick, not_le.2 h]

/-- An item is released by the first tick that finds it due. -/
theorem exists_of_release {es : List (Event κ α)} {due now : κ} {a b : α}
    (h : release es (due, b) = some (now, a)) : ∃ mid post, es = mid ++ .tick now :: post ∧
      due ≤ now ∧ (∀ t, Event.tick t ∈ mid → t < due) ∧ b = a := by
  induction es with
  | nil => simp at h
  | cons e es ih =>
      cases e with
      | delay items =>
          obtain ⟨mid, post, rfl, hle, hmid, hb⟩ := ih h
          exact ⟨.delay items :: mid, post, rfl, hle, by simpa using hmid, hb⟩
      | tick t =>
          rcases le_or_gt due t with hdue | hdue
          · rw [release_tick_of_le hdue, Option.some_inj, Prod.mk.injEq] at h
            obtain ⟨rfl, rfl⟩ := h
            exact ⟨[], es, rfl, hdue, by simp, rfl⟩
          · rw [release_tick_of_lt hdue] at h
            obtain ⟨mid, post, rfl, hle, hmid, hb⟩ := ih h
            exact ⟨.tick t :: mid, post, rfl, hle, by simpa [hdue] using hmid, hb⟩

/-- An item that is not released is not found due. -/
theorem forall_tick_of_release {es : List (Event κ α)} {e : κ × α} (h : release es e = none) :
    ∀ t, Event.tick t ∈ es → t < e.1 := by
  induction es with
  | nil => simp
  | cons f es ih =>
      cases f with
      | delay items => simpa using ih h
      | tick now =>
          rcases le_or_gt e.1 now with hdue | hdue
          · rw [release_tick_of_le hdue] at h
            cases h
          · rw [release_tick_of_lt hdue] at h
            simpa [hdue] using ih h

section Runs

variable {q : DelayQueue κ α}

theorem le_of_mem_upTo {now : κ} {e : κ × α} (he : e ∈ (q.waiting.upTo now).entries) :
    e.1 ≤ now := by
  simpa using (List.mem_filter.1 he).2

theorem lt_of_mem_above {now : κ} {e : κ × α} (he : e ∈ (q.waiting.above now).entries) :
    now < e.1 := by
  simpa using (List.mem_filter.1 he).2

theorem perm_delayAll (items : List (κ × α)) :
    (q.delayAll items).waiting.entries.Perm (items ++ q.waiting.entries) := by
  induction items generalizing q with
  | nil => exact .refl _
  | cons e items ih =>
      refine (ih (q := { q with waiting := q.waiting.insert e.1 e.2 })).trans ?_
      refine (List.Perm.append_left items (?_ : List.Perm _ (e :: q.waiting.entries))).trans
        List.perm_middle
      calc (q.waiting.insert e.1 e.2).entries
          = (q.waiting.upTo e.1).entries ++ e :: (q.waiting.above e.1).entries := rfl
        List.Perm _ (e :: ((q.waiting.upTo e.1).entries ++ (q.waiting.above e.1).entries)) :=
          List.perm_middle
        _ = e :: q.waiting.entries := by rw [Multimap.upTo_append_above]

/-- What waits at first is released by the first tick that finds it due, like everything else. -/
theorem perm_released_run (es : List (Event κ α)) : (Run.run step q es).released.Perm
    (q.released ++ (q.waiting.entries.filterMap (release es) ++ releases es)) := by
  induction es generalizing q with
  | nil => simp [releases]
  | cons e es ih =>
      refine (ih (q := q.step e)).trans ?_
      cases e with
      | delay items =>
          refine List.Perm.append_left _ ?_
          have hitems := (perm_delayAll (q := q) items).filterMap (release es)
          rw [List.filterMap_append] at hitems
          refine (hitems.append_right _).trans ?_
          rw [releases, release_delay, List.append_assoc]
          exact List.perm_append_comm_assoc _ _ _
      | tick now =>
          have hupTo : (q.waiting.upTo now).entries.filterMap (release (.tick now :: es)) =
              (q.waiting.upTo now).entries.map fun e => (now, e.2) := by
            rw [← List.filterMap_eq_map]
            exact List.filterMap_congr fun e he => release_tick_of_le (le_of_mem_upTo he) es
          have habove : (q.waiting.above now).entries.filterMap (release (.tick now :: es)) =
              (q.waiting.above now).entries.filterMap (release es) :=
            List.filterMap_congr fun e he => release_tick_of_lt (lt_of_mem_above he) es
          rw [← Multimap.upTo_append_above now q.waiting, List.filterMap_append, hupTo, habove]
          simp [step, releases]

/-- An item is released by the first tick that finds it due. -/
theorem perm_releases (es : List (Event κ α)) :
    (Run.run step ({} : DelayQueue κ α) es).released.Perm (releases es) := by
  simpa using perm_released_run (q := {}) es

/-- What waits at first goes on waiting until a tick finds it due, like everything else. -/
theorem perm_waiting_run (es : List (Event κ α)) : (Run.run step q es).waiting.entries.Perm
    ((q.waiting.entries.filter fun e => (release es e).isNone) ++ pending es) := by
  induction es generalizing q with
  | nil => simp [pending]
  | cons e es ih =>
      refine (ih (q := q.step e)).trans ?_
      cases e with
      | delay items =>
          have hitems := (perm_delayAll (q := q) items).filter fun e => (release es e).isNone
          rw [List.filter_append] at hitems
          refine (hitems.append_right _).trans ?_
          rw [pending, release_delay, List.append_assoc]
          exact List.perm_append_comm_assoc _ _ _
      | tick now =>
          have hupTo : ((q.waiting.upTo now).entries.filter fun e =>
              (release (.tick now :: es) e).isNone) = [] := by
            rw [List.filter_eq_nil_iff]
            intro e he
            simp [release_tick_of_le (le_of_mem_upTo he) es]
          have habove : ((q.waiting.above now).entries.filter fun e =>
              (release (.tick now :: es) e).isNone) =
                (q.waiting.above now).entries.filter fun e => (release es e).isNone :=
            List.filter_congr fun e he => by rw [release_tick_of_lt (lt_of_mem_above he) es]
          rw [← Multimap.upTo_append_above now q.waiting, List.filter_append, hupTo, habove]
          simp [step, pending]

/-- An item waits as long as no tick finds it due. -/
theorem perm_pending (es : List (Event κ α)) :
    (Run.run step ({} : DelayQueue κ α) es).waiting.entries.Perm (pending es) := by
  simpa using perm_waiting_run (q := {}) es

/-- What is released was delayed before, and no tick in between found it due. -/
theorem exists_of_mem_releases {es : List (Event κ α)} {now : κ} {a : α}
    (h : (now, a) ∈ releases es) : ∃ pre items mid post due,
      es = pre ++ .delay items :: (mid ++ .tick now :: post) ∧ (due, a) ∈ items ∧ due ≤ now ∧
        ∀ t, Event.tick t ∈ mid → t < due := by
  induction es with
  | nil => simp [releases] at h
  | cons e es ih =>
      cases e with
      | tick t =>
          obtain ⟨pre, items, mid, post, due, rfl, hrest⟩ := ih h
          exact ⟨.tick t :: pre, items, mid, post, due, rfl, hrest⟩
      | delay items =>
          rcases List.mem_append.1 h with h | h
          · obtain ⟨⟨due, b⟩, hmem, hrelease⟩ := List.mem_filterMap.1 h
            obtain ⟨mid, post, rfl, hle, hmid, rfl⟩ := exists_of_release hrelease
            exact ⟨[], items, mid, post, due, rfl, hmem, hle, hmid⟩
          · obtain ⟨pre, items', mid, post, due, rfl, hrest⟩ := ih h
            exact ⟨.delay items :: pre, items', mid, post, due, rfl, hrest⟩

/-- What waits was delayed before, and no tick since found it due. -/
theorem exists_of_mem_pending {es : List (Event κ α)} {due : κ} {a : α}
    (h : (due, a) ∈ pending es) : ∃ pre items post,
      es = pre ++ .delay items :: post ∧ (due, a) ∈ items ∧ ∀ t, Event.tick t ∈ post → t < due := by
  induction es with
  | nil => simp [pending] at h
  | cons e es ih =>
      cases e with
      | tick t =>
          obtain ⟨pre, items, post, rfl, hrest⟩ := ih h
          exact ⟨.tick t :: pre, items, post, rfl, hrest⟩
      | delay items =>
          rcases List.mem_append.1 h with h | h
          · obtain ⟨hmem, hnone⟩ := List.mem_filter.1 h
            exact ⟨[], items, es, rfl, hmem, forall_tick_of_release (by simpa using hnone)⟩
          · obtain ⟨pre, items', post, rfl, hrest⟩ := ih h
            exact ⟨.delay items :: pre, items', post, rfl, hrest⟩

end Runs

/-! ### Order -/

section Order

variable {p : α → Bool} {q : DelayQueue κ α} {ds : List (κ × α)}

/-- The items of a class among some items. -/
def ofClass (p : α → Bool) (ds : List (κ × α)) : List (κ × α) := ds.filter fun e => p e.2

omit [LinearOrder κ] in
theorem ofClass_append (ds es : List (κ × α)) :
    ofClass p (ds ++ es) = ofClass p ds ++ ofClass p es := List.filter_append ..

omit [LinearOrder κ] in
theorem ofClass_cons_of_pos {e : κ × α} (hp : p e.2) (ds : List (κ × α)) :
    ofClass p (e :: ds) = e :: ofClass p ds := List.filter_cons_of_pos hp

omit [LinearOrder κ] in
theorem ofClass_cons_of_neg {e : κ × α} (hp : ¬ p e.2) (ds : List (κ × α)) :
    ofClass p (e :: ds) = ofClass p ds := List.filter_cons_of_neg hp

/-- Of the items `ds` that were delayed, those of a class were released in order, and those that are
left wait in order. -/
def InOrder (p : α → Bool) (ds : List (κ × α)) (q : DelayQueue κ α) : Prop :=
  ∃ pre, ofClass p ds = pre ++ ofClass p q.waiting.entries ∧
    (ofClass p q.released).map (·.2) = pre.map (·.2)

/-- An item that is not due before those of its class comes behind them. -/
theorem ofClass_insert_of_le {e : κ × α} (hp : p e.2)
    (hle : ∀ f ∈ ofClass p q.waiting.entries, f.1 ≤ e.1) :
    ofClass p (q.waiting.insert e.1 e.2).entries = ofClass p q.waiting.entries ++ [e] := by
  have habove : ofClass p (q.waiting.above e.1).entries = [] := by
    rw [ofClass, List.filter_eq_nil_iff]
    intro f hf hclass
    obtain ⟨hmem, hlt⟩ := List.mem_filter.1 hf
    exact absurd (hle f (List.mem_filter.2 ⟨hmem, hclass⟩)) (not_le.2 (of_decide_eq_true hlt))
  have hsplit : ofClass p (q.waiting.upTo e.1).entries ++ ofClass p (q.waiting.above e.1).entries =
      ofClass p q.waiting.entries := by
    rw [← ofClass_append, Multimap.upTo_append_above]
  rw [habove, List.append_nil] at hsplit
  rw [← hsplit, Multimap.insert, ofClass_append, ofClass_cons_of_pos hp, habove]

/-- An item of another class changes nothing. -/
theorem ofClass_insert_of_not {e : κ × α} (hp : ¬ p e.2) :
    ofClass p (q.waiting.insert e.1 e.2).entries = ofClass p q.waiting.entries := by
  conv_rhs => rw [← Multimap.upTo_append_above e.1 q.waiting]
  rw [Multimap.insert, ofClass_append, ofClass_append, ofClass_cons_of_neg hp]

/-- Items whose times ascend in their class are put behind those of their class. -/
theorem InOrder.delayAll (h : InOrder p ds q) {items : List (κ × α)}
    (hascend : (ofClass p (ds ++ items)).Pairwise (·.1 ≤ ·.1)) :
    InOrder p (ds ++ items) (q.delayAll items) := by
  induction items generalizing q ds with
  | nil => simpa [DelayQueue.delayAll] using h
  | cons e items ih =>
      have hone : InOrder p (ds ++ [e]) { q with waiting := q.waiting.insert e.1 e.2 } := by
        obtain ⟨pre, hds, hreleased⟩ := h
        by_cases hp : p e.2
        · have hle : ∀ f ∈ ofClass p q.waiting.entries, f.1 ≤ e.1 := by
            intro f hf
            rw [ofClass_append, ofClass_cons_of_pos hp, List.pairwise_append] at hascend
            refine hascend.2.2 f ?_ e List.mem_cons_self
            rw [hds]
            exact List.mem_append_right _ hf
          refine ⟨pre, ?_, hreleased⟩
          rw [ofClass_insert_of_le hp hle, ← List.append_assoc, ← hds]
          simp [ofClass, hp]
        · refine ⟨pre, ?_, hreleased⟩
          rw [ofClass_insert_of_not hp, ← hds]
          simp [ofClass, hp]
      rw [← List.singleton_append, ← List.append_assoc] at hascend ⊢
      exact ih hone hascend

/-- A tick releases the first of those that wait. -/
theorem InOrder.tick (h : InOrder p ds q) (now : κ) : InOrder p ds (q.step (.tick now)) := by
  obtain ⟨pre, hds, hreleased⟩ := h
  refine ⟨pre ++ ofClass p (q.waiting.upTo now).entries, ?_, ?_⟩
  · rw [hds, List.append_assoc, ofClass, ofClass, ofClass, step, ← List.filter_append,
      Multimap.upTo_append_above]
  · simp only [step, ofClass, List.filter_append, List.map_append, List.filter_map,
      List.map_map] at hreleased ⊢
    rw [hreleased]
    rfl

/-- If the times of a class ascend, its items are released in the order in which they were
delayed. -/
theorem filter_released_append (es : List (Event κ α))
    (hascend : (ofClass p (delayed es)).Pairwise (·.1 ≤ ·.1)) :
    (ofClass p (Run.run step ({} : DelayQueue κ α) es).released).map (·.2) ++
        (ofClass p (Run.run step ({} : DelayQueue κ α) es).waiting.entries).map (·.2) =
      (ofClass p (delayed es)).map (·.2) := by
  have hinOrder : InOrder p (delayed es) (Run.run step ({} : DelayQueue κ α) es) := by
    induction es using List.reverseRecOn with
    | nil => exact ⟨[], rfl, rfl⟩
    | append_singleton es e ih =>
        have hpre : (ofClass p (delayed es)).Pairwise (·.1 ≤ ·.1) := by
          rw [delayed, List.flatMap_append, ofClass, List.filter_append] at hascend
          exact (List.pairwise_append.1 hascend).1
        rw [Run.run_concat]
        cases e with
        | delay items =>
            have hdelayed : delayed (es ++ [.delay items]) = delayed es ++ items := by
              simp [delayed]
            rw [hdelayed] at hascend ⊢
            exact (ih hpre).delayAll hascend
        | tick now =>
            have hdelayed : delayed (es ++ [.tick now]) = delayed es := by simp [delayed]
            rw [hdelayed]
            exact (ih hpre).tick now
  obtain ⟨pre, hds, hreleased⟩ := hinOrder
  rw [hds, List.map_append, hreleased]

end Order

end DelayQueue
