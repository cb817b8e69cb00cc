import Mathlib.Data.List.AList

/-!
# Maps filled from a list

A map is filled with the values of a list, each under its own key. A value is refused if its key
is already there or if it fails a test, and then there is no map at all.

The map that results holds exactly the values of the list (`lookup_registerAll`), and there is one
iff the keys are distinct and the tests pass (`isSome_registerAll`).
-/

namespace Registry

variable {α β : Type*} [DecidableEq α] (key : β → α) (accept : β → Bool)

/-- Add a value under its key, unless it is refused. -/
def register (m : AList fun _ : α => β) (b : β) : Option (AList fun _ : α => β) :=
  if key b ∈ m then none
  else if accept b then some (m.insert (key b) b)
  else none

/-- Add the values of a list. -/
def registerAll (m : AList fun _ : α => β) (bs : List β) : Option (AList fun _ : α => β) :=
  bs.foldlM (register key accept) m

variable {key accept} {m m' : AList fun _ : α => β} {b : β}

/-- What it takes for a value to be added, and where it is then. -/
theorem register_eq_some :
    register key accept m b = some m' ↔ key b ∉ m ∧ accept b ∧ m.insert (key b) b = m' := by
  unfold register
  split_ifs with hmem haccept
  · simp [hmem]
  · simp [hmem, haccept]
  · simp [hmem, haccept]

/-- Lookups after a value was added. -/
theorem lookup_register (h : register key accept m b = some m') (k : α) (c : β) :
    m'.lookup k = some c ↔ m.lookup k = some c ∨ c = b ∧ key c = k := by
  obtain ⟨hnew, -, rfl⟩ := register_eq_some.1 h
  -- the key that is added was not there before
  by_cases hk : k = key b
  · subst hk
    rw [AList.lookup_insert, AList.lookup_eq_none.2 hnew]
    simp only [Option.some_inj, reduceCtorEq, false_or]
    constructor
    · rintro rfl
      exact ⟨rfl, rfl⟩
    · exact fun hc => hc.1.symm
  · rw [AList.lookup_insert_ne hk]
    constructor
    · exact Or.inl
    · rintro (hc | ⟨rfl, rfl⟩)
      · exact hc
      · exact absurd rfl hk

/-- The values of the list are found under their keys, beside those that were there. -/
theorem lookup_registerAll {bs : List β} (h : registerAll key accept m bs = some m') (k : α)
    (c : β) : m'.lookup k = some c ↔ m.lookup k = some c ∨ c ∈ bs ∧ key c = k := by
  induction bs generalizing m with
  | nil =>
      cases h
      simp
  | cons b bs ih =>
      rw [registerAll, List.foldlM_cons] at h
      obtain ⟨m₁, hb, hbs⟩ := Option.bind_eq_some_iff.1 h
      rw [ih hbs, lookup_register hb, List.mem_cons, or_assoc, or_and_right]

/-- The keys of a map that was filled from the empty map. -/
theorem mem_registerAll {bs : List β} (h : registerAll key accept ∅ bs = some m') (k : α) :
    k ∈ m' ↔ ∃ b ∈ bs, key b = k := by
  rw [← AList.lookup_isSome, Option.isSome_iff_exists]
  simp [lookup_registerAll h]

/-- Every value that was added passed the test. -/
theorem accept_of_registerAll {bs : List β} (h : registerAll key accept m bs = some m') :
    ∀ b ∈ bs, accept b := by
  induction bs generalizing m with
  | nil => simp
  | cons b bs ih =>
      rw [registerAll, List.foldlM_cons] at h
      obtain ⟨m₁, hb, hbs⟩ := Option.bind_eq_some_iff.1 h
      exact List.forall_mem_cons.2 ⟨(register_eq_some.1 hb).2.1, ih hbs⟩

variable (key accept m) in
/-- The map is filled iff the keys are new and distinct and every value passes the test. -/
theorem isSome_registerAll (bs : List β) : (registerAll key accept m bs).isSome ↔
    (bs.map key).Nodup ∧ (∀ b ∈ bs, key b ∉ m) ∧ ∀ b ∈ bs, accept b := by
  induction bs generalizing m with
  | nil => simp [registerAll]
  | cons b bs ih =>
      rw [registerAll, List.foldlM_cons]
      cases hb : register key accept m b with
      -- the first value is refused, for its key or by the test
      | none =>
          simp only [register] at hb
          split_ifs at hb with hmem haccept
          · simp [hmem]
          · simp [haccept]
      | some m₁ =>
          obtain ⟨hnew, haccept, rfl⟩ := register_eq_some.1 hb
          have hrest := ih (m.insert (key b) b)
          simp only [registerAll] at hrest
          simp only [Option.bind_eq_bind, Option.bind_some, hrest, List.map_cons, List.nodup_cons,
            List.forall_mem_cons, AList.mem_insert, not_or, List.mem_map, not_exists, not_and,
            hnew, haccept, not_false_eq_true, true_and]
          -- the keys of the others are new with respect to the first one as well
          constructor
          · rintro ⟨hnodup, hkeys, hall⟩
            exact ⟨⟨fun c hc => (hkeys c hc).1, hnodup⟩, fun c hc => (hkeys c hc).2, hall⟩
          · rintro ⟨⟨hne, hnodup⟩, hkeys, hall⟩
            exact ⟨hnodup, fun c hc => ⟨hne c hc, hkeys c hc⟩, hall⟩

end Registry
