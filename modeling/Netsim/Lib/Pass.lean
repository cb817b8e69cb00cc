import Mathlib.Data.List.Nodup

/-!
# Passes over the components of a state

A pass visits some components of a state one after the other. If a visit does to its component what
`act` says, depending on nothing but that component, and leaves the other components alone
(`Pass.Local`), then the pass does to every component what `act` does to it in the state before the
pass.
-/

namespace Pass

variable {σ ι α : Type*}

/-- In the states of `I`, a visit to `i` acts on component `i` alone. -/
structure Local (I : σ → Prop) (view : σ → ι → α) (act : ι → α → Option α)
    (visit : σ → ι → Option σ) : Prop where
  /-- A visit goes on if the action does. -/
  goesOn : ∀ s i, I s → (act i (view s i)).isSome → (visit s i).isSome
  /-- What a visit does. -/
  acts : ∀ s i s', I s → visit s i = some s' →
    I s' ∧ act i (view s i) = some (view s' i) ∧ ∀ j, j ≠ i → view s' j = view s j

section Local

variable {I : σ → Prop} {view : σ → ι → α} {act : ι → α → Option α} {visit : σ → ι → Option σ}
  {s s' : σ} {is : List ι}

/-- A pass that went on acted on each of its components, and on no other. -/
theorem Local.foldlM_eq_some (h : Local I view act visit) (hnodup : is.Nodup) (hs : I s)
    (hs' : is.foldlM visit s = some s') :
    I s' ∧ (∀ i ∈ is, act i (view s i) = some (view s' i)) ∧ ∀ j ∉ is, view s' j = view s j := by
  induction is generalizing s with
  | nil =>
      cases hs'
      exact ⟨hs, by simp, fun _ _ => rfl⟩
  | cons i is ih =>
      obtain ⟨hi, hnodup⟩ := List.nodup_cons.1 hnodup
      rw [List.foldlM_cons, Option.bind_eq_bind, Option.bind_eq_some_iff] at hs'
      obtain ⟨t, ht, hs'⟩ := hs'
      obtain ⟨hI, hact, hother⟩ := h.acts s i t hs ht
      obtain ⟨hI', hact', hother'⟩ := ih hnodup hI hs'
      refine ⟨hI', fun j hj => ?_, fun j hj => ?_⟩
      -- component `j` is visited in its own turn, and no other turn touches it
      · rcases List.mem_cons.1 hj with rfl | hj
        · rw [hact, hother' j hi]
        · have hne : j ≠ i := fun h => hi (h ▸ hj)
          rw [← hother j hne, hact' j hj]
      · rw [List.mem_cons, not_or] at hj
        rw [hother' j hj.2, hother j hj.1]

/-- A pass goes on if all of its actions do. -/
theorem Local.exists_foldlM (h : Local I view act visit) (hnodup : is.Nodup) (hs : I s)
    (hact : ∀ i ∈ is, (act i (view s i)).isSome) : ∃ s', is.foldlM visit s = some s' := by
  induction is generalizing s with
  | nil => exact ⟨s, rfl⟩
  | cons i is ih =>
      obtain ⟨hi, hnodup⟩ := List.nodup_cons.1 hnodup
      obtain ⟨t, ht⟩ := Option.isSome_iff_exists.1 (h.goesOn s i hs (hact i (by simp)))
      obtain ⟨hI, -, hother⟩ := h.acts s i t hs ht
      obtain ⟨s', hs'⟩ := ih hnodup hI fun j hj => by
        have hne : j ≠ i := fun h => hi (h ▸ hj)
        rw [hother j hne]
        exact hact j (List.mem_cons_of_mem _ hj)
      exact ⟨s', by rw [List.foldlM_cons, ht]; exact hs'⟩

end Local

end Pass
