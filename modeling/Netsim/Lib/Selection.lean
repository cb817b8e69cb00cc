import Mathlib.Data.List.Basic
import Mathlib.Data.List.NodupEquivFin
import Mathlib.Data.List.Range

/-!
# Selections

A selection of a list is given by increasing positions, and so has some entries of the list, in
order and each of them once. Lists may have equal entries, and the positions tell them apart.
-/

namespace Selection

variable {α : Type*}

/-- `ys` are the entries of `xs` at the positions `ps`. -/
structure Selects (xs : List α) (ps : List ℕ) (ys : List α) : Prop where
  /-- The positions are increasing. -/
  sorted : ps.Pairwise (· < ·)
  /-- The entries. -/
  entries : ps.map (xs[·]?) = ys.map some

variable {xs ys : List α} {ps : List ℕ} {d : ℕ}

theorem selects_nil (xs : List α) : Selects xs [] [] := ⟨.nil, rfl⟩

/-- Only positions of the list are selected. -/
theorem Selects.lt_length (h : Selects xs ps ys) {p : ℕ} (hp : p ∈ ps) : p < xs.length := by
  have hmem : xs[p]? ∈ ys.map some := h.entries ▸ List.mem_map_of_mem hp
  obtain ⟨y, -, hy⟩ := List.mem_map.1 hmem
  exact (List.getElem?_eq_some_iff.1 hy.symm).1

/-- What is selected is in order, and each entry is selected once. -/
theorem Selects.sublist (h : Selects xs ps ys) : ys.Sublist xs := by
  have hlength : ys.length = ps.length := by simpa using congrArg List.length h.entries.symm
  let position (i : Fin ys.length) : Fin xs.length :=
    ⟨ps.get (i.cast hlength), h.lt_length (List.get_mem _ _)⟩
  have hmono : StrictMono position := fun i j hij =>
    (List.pairwise_iff_get.1 h.sorted) (i.cast hlength) (j.cast hlength) hij
  refine List.sublist_iff_exists_fin_orderEmbedding_get_eq.2
    ⟨OrderEmbedding.ofStrictMono position hmono, fun i => ?_⟩
  have hi : ps[i.1]? = some (ps.get (i.cast hlength)) := List.getElem?_eq_getElem _
  have hentry : (ps.map (xs[·]?))[i.1]? = (ys.map some)[i.1]? := by rw [h.entries]
  rw [List.getElem?_map, List.getElem?_map, hi, List.getElem?_eq_getElem i.2] at hentry
  have hget : some (ys.get i) = xs[ps.get (i.cast hlength)]? := by simpa using hentry.symm
  rw [List.getElem?_eq_getElem (h.lt_length (List.get_mem _ _))] at hget
  exact Option.some_inj.1 hget

/-- A selection stays one when the list gets longer. -/
theorem Selects.append_list (h : Selects xs ps ys) (zs : List α) : Selects (xs ++ zs) ps ys := by
  refine ⟨h.sorted, h.entries ▸ List.map_congr_left fun p hp => ?_⟩
  exact List.getElem?_append_left (h.lt_length hp)

/-- Select one more entry. -/
theorem Selects.concat (h : Selects xs ps ys) (hlt : ∀ p ∈ ps, p < d) {y : α}
    (hy : xs[d]? = some y) : Selects xs (ps ++ [d]) (ys ++ [y]) := by
  refine ⟨List.pairwise_append.2 ⟨h.sorted, List.pairwise_singleton _ _, ?_⟩, ?_⟩
  · simpa using hlt
  · rw [List.map_append, List.map_append, h.entries]
    simp [hy]

/-- Select all entries from a position on. -/
theorem Selects.append_drop (h : Selects xs ps ys) (hlt : ∀ p ∈ ps, p < d) :
    Selects xs (ps ++ List.range' d (xs.length - d)) (ys ++ xs.drop d) := by
  refine ⟨List.pairwise_append.2 ⟨h.sorted, List.pairwise_lt_range', fun p hp q hq => ?_⟩, ?_⟩
  · exact (hlt p hp).trans_le (List.mem_range'_1.1 hq).1
  · rw [List.map_append, List.map_append, h.entries]
    congr 1
    apply List.ext_getElem?
    intro i
    by_cases hi : i < xs.length - d
    · have hi' : d + i < xs.length := by omega
      simp [hi, hi']
    · simp [hi]

/-! ### Lists that are related entry by entry -/

/-- An entry on the left is related to one on the right. -/
theorem exists_right_of_mem {β : Type*} {R : α → β → Prop} {as : List α} {bs : List β}
    (h : List.Forall₂ R as bs) {a : α} (ha : a ∈ as) : ∃ b ∈ bs, R a b := by
  induction h with
  | nil => simp at ha
  | cons hab _ ih =>
      rcases List.mem_cons.1 ha with rfl | ha
      · exact ⟨_, List.mem_cons_self, hab⟩
      · obtain ⟨b, hb, hrel⟩ := ih ha
        exact ⟨b, List.mem_cons_of_mem _ hb, hrel⟩

/-- An entry on the right is related to one on the left. -/
theorem exists_left_of_mem {β : Type*} {R : α → β → Prop} {as : List α} {bs : List β}
    (h : List.Forall₂ R as bs) {b : β} (hb : b ∈ bs) : ∃ a ∈ as, R a b :=
  exists_right_of_mem h.flip hb

end Selection
