import Mathlib.Data.List.Basic
import Mathlib.Data.List.Count
import Mathlib.Data.List.Dedup
import Mathlib.Data.List.Induction
import Mathlib.Order.Lattice

/-!
# Ordered multimaps

A multimap is a list of entries in ascending order of their keys. A new entry is inserted behind
those with the same key; an equal range lists the values of one key in the order in which they were
inserted.
-/

/-- Entries sorted by key. -/
structure Multimap (κ β : Type*) [LinearOrder κ] where
  /-- The entries, in order. -/
  entries : List (κ × β) := []
  /-- The keys ascend. -/
  sorted : entries.Pairwise (·.1 ≤ ·.1) := by simp

namespace Multimap

variable {κ β : Type*} [LinearOrder κ]

instance : EmptyCollection (Multimap κ β) := ⟨{}⟩

/-! ### Operations -/

/-- The entries with keys up to `k`. -/
def upTo (k : κ) (m : Multimap κ β) : Multimap κ β where
  entries := m.entries.filter (·.1 ≤ k)
  sorted := m.sorted.filter _

/-- The entries with keys beyond `k`. -/
def above (k : κ) (m : Multimap κ β) : Multimap κ β where
  entries := m.entries.filter (k < ·.1)
  sorted := m.sorted.filter _

/-- Insert an entry behind those with the same key. -/
def insert (k : κ) (v : β) (m : Multimap κ β) : Multimap κ β where
  entries := (m.upTo k).entries ++ (k, v) :: (m.above k).entries
  sorted := by
    rw [List.pairwise_append]
    refine ⟨(m.upTo k).sorted, List.pairwise_cons.2 ⟨fun e he => ?_, (m.above k).sorted⟩, ?_⟩
    · exact le_of_lt (by simpa using (List.mem_filter.1 he).2)
    · intro e he e' he'
      have hle : e.1 ≤ k := by simpa using (List.mem_filter.1 he).2
      rcases List.mem_cons.1 he' with rfl | he'
      · exact hle
      · exact hle.trans (le_of_lt (by simpa using (List.mem_filter.1 he').2))

/-- The values of one key. -/
def equalRange (k : κ) (m : Multimap κ β) : List β :=
  (m.entries.filter (·.1 = k)).map (·.2)

/-- Erase all entries of one key. -/
def erase (k : κ) (m : Multimap κ β) : Multimap κ β where
  entries := m.entries.filter (·.1 ≠ k)
  sorted := m.sorted.filter _

/-- Insert an entry unless there is one with the same key. -/
def insertNew (k : κ) (v : β) (m : Multimap κ β) : Multimap κ β :=
  if m.equalRange k = [] then m.insert k v else m

/-- Assign a value to a key, which then has no other. -/
def assign (k : κ) (v : β) (m : Multimap κ β) : Multimap κ β := (m.erase k).insert k v

/-- The map after some assignments. -/
def assignAll (l : List (κ × β)) : Multimap κ β := l.foldl (fun m e => m.assign e.1 e.2) ∅

/-- The value that is assigned to a key last. -/
def lastValue (l : List (κ × β)) (k : κ) : Option β := (l.filter (·.1 = k)).getLast?.map (·.2)

/-- The entries of a list, the first one for each key. -/
def ofList (l : List (κ × β)) : Multimap κ β := l.foldl (fun m e => m.insertNew e.1 e.2) ∅

/-! ### Splitting at a key -/

/-- The entries up to a key come before those beyond it. -/
theorem upTo_append_above (k : κ) (m : Multimap κ β) :
    (m.upTo k).entries ++ (m.above k).entries = m.entries := by
  obtain ⟨entries, sorted⟩ := m
  simp only [upTo, above]
  induction entries with
  | nil => rfl
  | cons e entries ih =>
      obtain ⟨hfirst, hrest⟩ := List.pairwise_cons.1 sorted
      by_cases he : e.1 ≤ k
      · -- an entry that stays below is followed by the entries of both parts
        simp [he, not_lt.2 he, ih hrest]
      · -- all entries behind one that is beyond the key are beyond it too
        have hnone : (entries.filter fun e => decide (e.1 ≤ k)) = [] := by
          rw [List.filter_eq_nil_iff]
          intro e' he'
          simp [(lt_of_not_ge he).trans_le (hfirst e' he')]
        have hall : (entries.filter fun e => decide (k < e.1)) = entries := by
          rw [List.filter_eq_self]
          intro e' he'
          simp [(lt_of_not_ge he).trans_le (hfirst e' he')]
        simp [he, lt_of_not_ge he, hnone, hall]

/-! ### Equal ranges -/

@[simp]
theorem entries_empty : (∅ : Multimap κ β).entries = [] := rfl

@[simp]
theorem equalRange_empty (k : κ) : (∅ : Multimap κ β).equalRange k = [] := rfl

theorem mem_equalRange {k : κ} {v : β} {m : Multimap κ β} :
    v ∈ m.equalRange k ↔ (k, v) ∈ m.entries := by
  simp [equalRange]

theorem equalRange_eq_nil_iff {k : κ} {m : Multimap κ β} :
    m.equalRange k = [] ↔ ∀ e ∈ m.entries, e.1 ≠ k := by
  simp [equalRange, List.filter_eq_nil_iff]

/-- The values of a key are found up to any other key, and then beyond it. -/
theorem equalRange_upTo_append_above (k k' : κ) (m : Multimap κ β) :
    (m.upTo k).equalRange k' ++ (m.above k).equalRange k' = m.equalRange k' := by
  simp only [equalRange, ← List.map_append, ← List.filter_append, upTo_append_above]

/-- A new value comes last of its key. -/
@[simp]
theorem equalRange_insert_self (k : κ) (v : β) (m : Multimap κ β) :
    (m.insert k v).equalRange k = m.equalRange k ++ [v] := by
  have habove : (m.above k).equalRange k = [] := by
    rw [equalRange_eq_nil_iff]
    intro e he
    have hlt : k < e.1 := by simpa using (List.mem_filter.1 he).2
    exact hlt.ne'
  have hsplit := equalRange_upTo_append_above k k m
  rw [habove, List.append_nil] at hsplit
  rw [← hsplit]
  simp only [equalRange] at habove
  simp [equalRange, insert, habove]

theorem equalRange_insert_of_ne {k k' : κ} (h : k' ≠ k) (v : β) (m : Multimap κ β) :
    (m.insert k v).equalRange k' = m.equalRange k' := by
  rw [← equalRange_upTo_append_above k k' m]
  simp [equalRange, insert, h.symm]

@[simp]
theorem equalRange_erase_self (k : κ) (m : Multimap κ β) : (m.erase k).equalRange k = [] := by
  simp [equalRange, erase, List.filter_filter]

theorem equalRange_erase_of_ne {k k' : κ} (h : k' ≠ k) (m : Multimap κ β) :
    (m.erase k).equalRange k' = m.equalRange k' := by
  rw [equalRange, erase, List.filter_filter]
  congr 1
  refine List.filter_congr fun e _ => ?_
  by_cases he : e.1 = k' <;> simp [he, h]

/-! ### All entries -/

theorem mem_entries_insert {k : κ} {v : β} {m : Multimap κ β} {e : κ × β} :
    e ∈ (m.insert k v).entries ↔ e = (k, v) ∨ e ∈ m.entries := by
  simp only [insert, upTo, above, List.mem_append, List.mem_filter, List.mem_cons,
    decide_eq_true_eq]
  have := le_or_gt e.1 k
  tauto

theorem countP_upTo_add_above (p : κ × β → Bool) (k : κ) (m : Multimap κ β) :
    (m.upTo k).entries.countP p + (m.above k).entries.countP p = m.entries.countP p := by
  rw [← List.countP_append, upTo_append_above]

theorem countP_insert (p : κ × β → Bool) (k : κ) (v : β) (m : Multimap κ β) :
    (m.insert k v).entries.countP p = m.entries.countP p + if p (k, v) then 1 else 0 := by
  have hsplit := countP_upTo_add_above p k m
  simp only [insert, List.countP_append, List.countP_cons]
  omega

/-! ### First entries -/

theorem ofList_concat (l : List (κ × β)) (e : κ × β) :
    ofList (l ++ [e]) = (ofList l).insertNew e.1 e.2 := by
  simp [ofList]

theorem mem_of_mem_ofList {l : List (κ × β)} {e : κ × β} (h : e ∈ (ofList l).entries) : e ∈ l := by
  induction l using List.reverseRecOn with
  | nil => exact h
  | append_singleton l e' ih =>
      rw [ofList_concat, insertNew] at h
      split_ifs at h
      · rcases mem_entries_insert.1 h with rfl | h
        · simp
        · exact List.mem_append_left _ (ih h)
      · exact List.mem_append_left _ (ih h)

/-- Every key of the list is found. -/
theorem equalRange_ofList_ne_nil {l : List (κ × β)} {k : κ} {v : β} (h : (k, v) ∈ l) :
    (ofList l).equalRange k ≠ [] := by
  induction l using List.reverseRecOn with
  | nil => simp at h
  | append_singleton l e ih =>
      rw [ofList_concat, insertNew]
      rcases List.mem_append.1 h with h | h
      · split_ifs with hnone
        · have hne : k ≠ e.1 := fun heq => ih h (heq ▸ hnone)
          rw [equalRange_insert_of_ne hne]
          exact ih h
        · exact ih h
      · obtain rfl := List.mem_singleton.1 h
        split_ifs with hnone
        · simp
        · exact hnone

/-- Every key occurs once. -/
theorem nodup_keys_ofList (l : List (κ × β)) : ((ofList l).entries.map (·.1)).Nodup := by
  induction l using List.reverseRecOn with
  | nil => simp [ofList]
  | append_singleton l e ih =>
      rw [ofList_concat, insertNew]
      split_ifs with hnone
      · rw [List.nodup_iff_count] at ih ⊢
        intro k
        have hk := ih k
        rw [List.count_eq_countP, List.countP_map] at hk ⊢
        rw [countP_insert]
        by_cases hek : e.1 = k
        · have hzero : (ofList l).entries.countP ((· == k) ∘ (·.1)) = 0 := by
            rw [List.countP_eq_zero]
            intro e' he'
            have hne := equalRange_eq_nil_iff.1 hnone e' he'
            simpa [← hek] using hne
          simp [hzero, hek]
        · simpa [hek] using hk
      · exact ih

/-! ### Assignments -/

section Assignments

variable {l l' : List (κ × β)} {k k' : κ} {v : β} {m : Multimap κ β}

theorem equalRange_assign (k k' : κ) (v : β) (m : Multimap κ β) :
    (m.assign k v).equalRange k' = if k = k' then [v] else m.equalRange k' := by
  rw [assign]
  split_ifs with h
  · rw [h, equalRange_insert_self, equalRange_erase_self, List.nil_append]
  · rw [equalRange_insert_of_ne (Ne.symm h), equalRange_erase_of_ne (Ne.symm h)]

/-- Keys that occur once still do after an assignment. -/
theorem pairwise_assign (h : m.entries.Pairwise (·.1 < ·.1)) (k : κ) (v : β) :
    (m.assign k v).entries.Pairwise (·.1 < ·.1) := by
  have herased : (m.erase k).entries.Pairwise (·.1 < ·.1) := h.filter _
  have hne : ∀ e ∈ (m.erase k).entries, e.1 ≠ k := fun e he => by
    simpa using (List.mem_filter.1 he).2
  rw [assign, insert, List.pairwise_append, List.pairwise_cons]
  refine ⟨herased.filter _, ⟨fun e he => by simpa using (List.mem_filter.1 he).2,
    herased.filter _⟩, fun e he e' he' => ?_⟩
  obtain ⟨hmem, hle⟩ := List.mem_filter.1 he
  have hlt : e.1 < k := lt_of_le_of_ne (by simpa using hle) (hne e hmem)
  rcases List.mem_cons.1 he' with rfl | he'
  · exact hlt
  · exact hlt.trans (by simpa using (List.mem_filter.1 he').2)

theorem assignAll_concat (l : List (κ × β)) (e : κ × β) :
    assignAll (l ++ [e]) = (assignAll l).assign e.1 e.2 := by
  simp [assignAll]

/-- Every key occurs once. -/
theorem pairwise_assignAll (l : List (κ × β)) : (assignAll l).entries.Pairwise (·.1 < ·.1) := by
  induction l using List.reverseRecOn with
  | nil => simp [assignAll]
  | append_singleton l e ih =>
      rw [assignAll_concat]
      exact pairwise_assign ih _ _

@[simp]
theorem lastValue_nil : lastValue ([] : List (κ × β)) k = none := rfl

theorem lastValue_concat (e : κ × β) :
    lastValue (l ++ [e]) k = if e.1 = k then some e.2 else lastValue l k := by
  rw [lastValue, List.filter_append]
  by_cases h : e.1 = k <;> simp [h, lastValue]

theorem lastValue_eq_none_iff : lastValue l k = none ↔ k ∉ l.map (·.1) := by
  simp only [lastValue, Option.map_eq_none_iff, List.getLast?_eq_none_iff, List.filter_eq_nil_iff,
    decide_eq_true_eq, List.mem_map, not_exists, not_and]

/-- Where keys are distinct, the last value is the only one. -/
theorem lastValue_eq_some_iff (hdistinct : (l.map (·.1)).Nodup) :
    lastValue l k = some v ↔ (k, v) ∈ l := by
  induction l using List.reverseRecOn with
  | nil => simp
  | append_singleton l e ih =>
      rw [List.map_append, List.nodup_append] at hdistinct
      obtain ⟨hl, -, hnew⟩ := hdistinct
      rw [lastValue_concat, List.mem_append, List.mem_singleton]
      split_ifs with hk
      · have hnot : (k, v) ∉ l := fun hmem =>
          hnew k (List.mem_map_of_mem hmem) e.1 (by simp) hk.symm
        rw [or_iff_right hnot, Option.some_inj, Prod.ext_iff, and_iff_right hk.symm, eq_comm]
      · have hne : (k, v) ≠ e := fun heq => hk (congrArg Prod.fst heq).symm
        rw [ih hl, or_iff_left hne]

/-- Each key has the value that is assigned to it last. -/
theorem mem_assignAll_iff : (k, v) ∈ (assignAll l).entries ↔ lastValue l k = some v := by
  rw [← mem_equalRange]
  induction l using List.reverseRecOn with
  | nil => simp [assignAll]
  | append_singleton l e ih =>
      rw [assignAll_concat, equalRange_assign, lastValue_concat]
      split_ifs
      · simp [eq_comm]
      · exact ih

theorem mem_keys_assignAll_iff : k ∈ (assignAll l).entries.map (·.1) ↔ k ∈ l.map (·.1) := by
  have hmem : k ∈ (assignAll l).entries.map (·.1) ↔ ∃ v, lastValue l k = some v := by
    simp only [List.mem_map, Prod.exists, exists_and_right, exists_eq_right, mem_assignAll_iff]
  rw [hmem, ← Option.isSome_iff_exists, ← Option.ne_none_iff_isSome, ne_eq, lastValue_eq_none_iff,
    not_not]

theorem length_assignAll (l : List (κ × β)) :
    (assignAll l).entries.length = (l.map (·.1)).dedup.length := by
  have hnodup : ((assignAll l).entries.map (·.1)).Nodup := by
    rw [List.Nodup, List.pairwise_map]
    exact (pairwise_assignAll l).imp ne_of_lt
  have hperm : ((assignAll l).entries.map (·.1)).Perm (l.map (·.1)).dedup := by
    rw [List.perm_ext_iff_of_nodup hnodup (List.nodup_dedup _)]
    intro k
    rw [List.mem_dedup, mem_keys_assignAll_iff]
  rw [← hperm.length_eq, List.length_map]

theorem length_assignAll_le (l : List (κ × β)) : (assignAll l).entries.length ≤ l.length := by
  have hle := (List.dedup_sublist (l.map (·.1))).length_le
  rwa [← length_assignAll, List.length_map] at hle

/-- There are as many entries as assignments iff all keys are different. -/
theorem length_assignAll_iff : (assignAll l).entries.length = l.length ↔ (l.map (·.1)).Nodup := by
  rw [length_assignAll]
  constructor
  · intro h
    have hsame := (List.dedup_sublist (l.map (·.1))).eq_of_length (by rw [h, List.length_map])
    exact hsame ▸ List.nodup_dedup _
  · intro h
    rw [h.dedup, List.length_map]

end Assignments

end Multimap
