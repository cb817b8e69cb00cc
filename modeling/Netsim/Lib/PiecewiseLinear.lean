import Mathlib.Algebra.Order.Field.Basic
import Mathlib.Data.List.Basic
import Mathlib.Tactic.Linarith
import Mathlib.Tactic.Ring

/-!
# Piecewise linear interpolation

Between two neighbours of a list of points in ascending order, the interpolant is the line through
them. It is computed from the first segment that contains the argument; the choice does not matter,
since two segments that do meet in a point.
-/

namespace PiecewiseLinear

variable {K : Type*} [Field K] [LinearOrder K] [IsStrictOrderedRing K]

/-- The line through two points. -/
def line (p q : K × K) (x : K) : K := p.2 + (x - p.1) * (q.2 - p.2) / (q.1 - p.1)

/-- The value of the interpolant, if there is one. -/
def value (x : K) : List (K × K) → Option K
  | p :: q :: points => if p.1 ≤ x ∧ x ≤ q.1 then some (line p q x) else value x (q :: points)
  | _ => none

/-! ### Lines -/

section Line

variable {p q : K × K} {x : K}

omit [LinearOrder K] [IsStrictOrderedRing K] in
@[simp]
theorem line_left : line p q p.1 = p.2 := by simp [line]

omit [IsStrictOrderedRing K] in
theorem line_right (h : p.1 < q.1) : line p q q.1 = q.2 := by
  have hne : q.1 - p.1 ≠ 0 := sub_ne_zero.2 h.ne'
  rw [line, mul_div_cancel_left₀ _ hne, add_sub_cancel]

/-- A line stays between its end points. -/
theorem line_mem (h : p.1 < q.1) (hp : p.1 ≤ x) (hq : x ≤ q.1) :
    min p.2 q.2 ≤ line p q x ∧ line p q x ≤ max p.2 q.2 := by
  have hpos : 0 < q.1 - p.1 := sub_pos.2 h
  -- the line is a weighted mean
  let t : K := (x - p.1) / (q.1 - p.1)
  have ht : 0 ≤ t := div_nonneg (sub_nonneg.2 hp) hpos.le
  have ht' : 0 ≤ 1 - t := by
    rw [sub_nonneg, div_le_one hpos]
    linarith
  have hline : line p q x = (1 - t) * p.2 + t * q.2 := by
    simp only [line, t]
    ring
  rw [hline]
  constructor
  · calc min p.2 q.2 = (1 - t) * min p.2 q.2 + t * min p.2 q.2 := by ring
      _ ≤ (1 - t) * p.2 + t * q.2 := add_le_add
          (mul_le_mul_of_nonneg_left (min_le_left _ _) ht')
          (mul_le_mul_of_nonneg_left (min_le_right _ _) ht)
  · calc (1 - t) * p.2 + t * q.2 ≤ (1 - t) * max p.2 q.2 + t * max p.2 q.2 := add_le_add
          (mul_le_mul_of_nonneg_left (le_max_left _ _) ht')
          (mul_le_mul_of_nonneg_left (le_max_right _ _) ht)
      _ = max p.2 q.2 := by ring

end Line

/-! ### Segments -/

section Segments

variable {points before after : List (K × K)} {p q : K × K} {x : K}

omit [IsStrictOrderedRing K] in
/-- The value is that of any segment that contains the argument. -/
theorem value_eq_line (hsorted : points.Pairwise (·.1 < ·.1))
    (heq : points = before ++ p :: q :: after) (hp : p.1 ≤ x) (hq : x ≤ q.1) :
    value x points = some (line p q x) := by
  subst heq
  -- on the points before the segment
  induction before with
  | nil => rw [List.nil_append, value, if_pos ⟨hp, hq⟩]
  | cons first before ih =>
      obtain ⟨hfirst, hrest⟩ := List.pairwise_cons.1 hsorted
      have hvalue := ih hrest
      cases before with
      | nil =>
          rw [List.nil_append] at hvalue
          rw [List.singleton_append, value]
          split_ifs with hin
          -- the segment before ends where this one begins
          · obtain rfl : x = p.1 := le_antisymm hin.2 hp
            rw [line_right (hfirst p (by simp)), line_left]
          · exact hvalue
      | cons second before =>
          have hlt : second.1 < p.1 := (List.pairwise_cons.1 hrest).1 p (by simp)
          rw [List.cons_append, List.cons_append, value,
            if_neg fun hin => absurd (hp.trans hin.2) (not_le_of_gt hlt)]
          exact hvalue

omit [IsStrictOrderedRing K] in
/-- The value at a point is its own. -/
theorem value_of_mem (hsorted : points.Pairwise (·.1 < ·.1)) (htwo : 2 ≤ points.length)
    (hmem : p ∈ points) : value p.1 points = some p.2 := by
  obtain ⟨before, after, heq⟩ := List.append_of_mem hmem
  cases after with
  | cons q after =>
      have hlt : p.1 < q.1 := by
        rw [heq, List.pairwise_append, List.pairwise_cons] at hsorted
        exact hsorted.2.1.1 q (by simp)
      rw [value_eq_line hsorted heq le_rfl hlt.le, line_left]
  | nil =>
      -- the last point ends the last segment
      rcases List.eq_nil_or_concat before with rfl | ⟨before, o, rfl⟩
      · simp [heq] at htwo
      · rw [List.concat_eq_append, List.append_assoc, List.singleton_append] at heq
        have hlt : o.1 < p.1 := by
          rw [heq, List.pairwise_append, List.pairwise_cons] at hsorted
          exact hsorted.2.1.1 p (by simp)
        rw [value_eq_line hsorted heq hlt.le le_rfl, line_right hlt]

omit [Field K] [IsStrictOrderedRing K] in
/-- An argument between the first and the last point is in a segment. -/
theorem exists_segment {first last : K × K} (htwo : 2 ≤ points.length)
    (hfirst : points.head? = some first) (hlast : points.getLast? = some last)
    (hx : first.1 ≤ x) (hx' : x ≤ last.1) :
    ∃ before p q after, points = before ++ p :: q :: after ∧ p.1 ≤ x ∧ x ≤ q.1 := by
  -- on the points; the argument is in the first segment or beyond it
  induction points generalizing first with
  | nil => simp at hfirst
  | cons p points ih =>
      obtain rfl : p = first := Option.some_inj.1 hfirst
      cases points with
      | nil => simp at htwo
      | cons q points =>
          rw [List.getLast?_cons_cons] at hlast
          rcases le_or_gt x q.1 with hq | hq
          · exact ⟨[], p, q, points, rfl, hx, hq⟩
          · cases points with
            | nil =>
                obtain rfl : q = last := by simpa using hlast
                exact absurd hx' (not_le_of_gt hq)
            | cons r points =>
                obtain ⟨before, o, r', after, heq, ho, hr⟩ := ih (by simp) rfl hlast hq.le
                exact ⟨p :: before, o, r', after, by rw [heq]; rfl, ho, hr⟩

omit [IsStrictOrderedRing K] in
/-- Outside the points there is no value. -/
theorem value_eq_none {first last : K × K} (hsorted : points.Pairwise (·.1 < ·.1))
    (hfirst : points.head? = some first) (hlast : points.getLast? = some last)
    (hx : x < first.1 ∨ last.1 < x) : value x points = none := by
  have hbeyond : (∀ p ∈ points, x < p.1) ∨ ∀ p ∈ points, p.1 < x := by
    rcases hx with hx | hx
    · obtain ⟨rest, rfl⟩ := List.head?_eq_some_iff.1 hfirst
      exact .inl (List.forall_mem_cons.2
        ⟨hx, fun p hp => hx.trans ((List.pairwise_cons.1 hsorted).1 p hp)⟩)
    · obtain ⟨rest, rfl⟩ := List.getLast?_eq_some_iff.1 hlast
      refine .inr (List.forall_mem_append.2 ⟨fun p hp => ?_, List.forall_mem_singleton.2 hx⟩)
      exact ((List.pairwise_append.1 hsorted).2.2 p hp last (by simp)).trans hx
  clear hfirst hlast hsorted
  induction points with
  | nil => rfl
  | cons p points ih =>
      cases points with
      | nil => rfl
      | cons q points =>
          have hnot : ¬ (p.1 ≤ x ∧ x ≤ q.1) := by
            rintro ⟨hp, hq⟩
            rcases hbeyond with hbelow | habove
            · exact absurd hp (not_le_of_gt (hbelow p (by simp)))
            · exact absurd hq (not_le_of_gt (habove q (by simp)))
          rw [value, if_neg hnot]
          exact ih (hbeyond.imp (fun h r hr => h r (List.mem_cons_of_mem _ hr))
            fun h r hr => h r (List.mem_cons_of_mem _ hr))

end Segments

end PiecewiseLinear
