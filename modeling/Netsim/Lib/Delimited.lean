import Mathlib.Data.List.Basic
import Mathlib.Data.List.Count

/-!
# Delimited records

A stream of symbols is cut by a delimiter `d` into complete records, each ended by a delimiter,
and an incomplete rest. `InputStream.getline` reads up to the first delimiter from a stream that
may run out, and that remembers having run out.
-/

namespace Delimited

variable {α : Type*} [DecidableEq α] (d : α)

/-! ### The first delimiter -/

/-- What stands before and after the first delimiter, if there is one. -/
def splitFirst : List α → Option (List α × List α)
  | [] => none
  | x :: xs => if x = d then some ([], xs) else (splitFirst xs).map fun p => (x :: p.1, p.2)

theorem splitFirst_eq_none_iff {xs : List α} : splitFirst d xs = none ↔ d ∉ xs := by
  induction xs with
  | nil => simp [splitFirst]
  | cons x xs ih =>
      by_cases hx : x = d
      · simp [splitFirst, hx]
      · simp [splitFirst, hx, ih, Ne.symm hx]

/-- The record in front of a delimiter is split off. -/
theorem splitFirst_record {a b : List α} (ha : d ∉ a) :
    splitFirst d (a ++ d :: b) = some (a, b) := by
  induction a with
  | nil => simp [splitFirst]
  | cons x a ih =>
      obtain ⟨hx, ha⟩ := not_or.1 (fun h => ha (List.mem_cons.2 h))
      simp [splitFirst, Ne.symm hx, ih ha]

/-- The first delimiters of two equal streams are at the same place. -/
theorem record_inj {a a' b b' : List α} (ha : d ∉ a) (ha' : d ∉ a')
    (h : a ++ d :: b = a' ++ d :: b') : a = a' ∧ b = b' := by
  have hsplit := congrArg (splitFirst d) h
  rw [splitFirst_record d ha, splitFirst_record d ha', Option.some_inj, Prod.mk.injEq] at hsplit
  exact hsplit

/-! ### Records -/

/-- The complete records of a stream. -/
def records (xs : List α) : List (List α) := (xs.splitOn d).dropLast

/-- What follows the last delimiter. -/
def rest (xs : List α) : List α := (xs.splitOn d).getLast (List.splitOn_ne_nil d xs)

variable {d}

theorem records_of_not_mem {xs : List α} (h : d ∉ xs) : records d xs = [] := by
  simp [records, List.splitOn_eq_singleton h]

theorem rest_of_not_mem {xs : List α} (h : d ∉ xs) : rest d xs = xs := by
  simp [rest, List.splitOn_eq_singleton h]

theorem records_record {a b : List α} (ha : d ∉ a) :
    records d (a ++ d :: b) = a :: records d b := by
  rw [records, List.splitOn_append_cons_self_of_not_mem ha,
    List.dropLast_cons_of_ne_nil (List.splitOn_ne_nil d b), records]

theorem rest_record {a b : List α} (ha : d ∉ a) : rest d (a ++ d :: b) = rest d b := by
  simp only [rest, List.splitOn_append_cons_self_of_not_mem ha,
    List.getLast_cons (List.splitOn_ne_nil d b)]

@[simp]
theorem records_nil : records d [] = [] := records_of_not_mem (by simp)

@[simp]
theorem rest_nil : rest d [] = [] := rest_of_not_mem (by simp)

/-- A stream has no delimiter, or is a record, its delimiter, and a stream. -/
theorem record_induction {motive : List α → Prop} (hrest : ∀ xs, d ∉ xs → motive xs)
    (hrecord : ∀ a b, d ∉ a → motive b → motive (a ++ d :: b)) (xs : List α) : motive xs := by
  -- the part behind the first delimiter is shorter
  induction hlen : xs.length using Nat.strongRecOn generalizing xs with
  | _ n ih =>
      by_cases hmem : d ∈ xs
      · obtain ⟨a, b, rfl, ha⟩ := List.eq_append_cons_of_mem hmem
        exact hrecord a b ha (ih b.length (by simp at hlen; omega) b rfl)
      · exact hrest xs hmem

/-- A record has no delimiter in it. -/
theorem not_mem_of_mem_records {xs a : List α} (h : a ∈ records d xs) : d ∉ a := by
  induction xs using record_induction (d := d) with
  | hrest xs hxs => simp [records_of_not_mem hxs] at h
  | hrecord b c hb ih =>
      rw [records_record hb] at h
      rcases List.mem_cons.1 h with rfl | h
      · exact hb
      · exact ih h

theorem not_mem_rest (xs : List α) : d ∉ rest d xs := by
  induction xs using record_induction (d := d) with
  | hrest xs h => rwa [rest_of_not_mem h]
  | hrecord a b ha ih => rwa [rest_record ha]

/-- Every delimiter ends a record. -/
theorem length_records (xs : List α) : (records d xs).length = xs.count d := by
  induction xs using record_induction (d := d) with
  | hrest xs h => simp [records_of_not_mem h, List.count_eq_zero_of_not_mem h]
  | hrecord a b ha ih =>
      simp [records_record ha, ih, List.count_eq_zero_of_not_mem ha]

/-- More input completes records that continue the rest. -/
theorem records_append (xs ys : List α) :
    records d (xs ++ ys) = records d xs ++ records d (rest d xs ++ ys) := by
  induction xs using record_induction (d := d) with
  | hrest xs h => simp [records_of_not_mem h, rest_of_not_mem h]
  | hrecord a b ha ih => simp [records_record ha, rest_record ha, ih]

theorem rest_append (xs ys : List α) : rest d (xs ++ ys) = rest d (rest d xs ++ ys) := by
  induction xs using record_induction (d := d) with
  | hrest xs h => simp [rest_of_not_mem h]
  | hrecord a b ha ih => simp [rest_record ha, ih]

/-- What holds of every element and those after it holds of the first one, and of the others. -/
theorem forall_append_cons_cons {β : Type*} {R : β → List β → Prop} {x : β} {xs : List β} :
    (∀ before y later, x :: xs = before ++ y :: later → R y later) ↔
      R x xs ∧ ∀ before y later, xs = before ++ y :: later → R y later := by
  constructor
  · intro h
    exact ⟨h [] x xs rfl, fun before y later heq => h (x :: before) y later (by rw [heq]; rfl)⟩
  · rintro ⟨hfirst, hothers⟩ before y later heq
    cases before with
    | nil =>
        obtain ⟨rfl, rfl⟩ := List.cons_eq_cons.1 heq
        exact hfirst
    | cons z before => exact hothers before y later (List.cons_eq_cons.1 heq).2

/-! ### Input streams -/

/-- A stream to read from: what is left, and whether the end has not been reached. -/
structure InputStream (α : Type*) where
  /-- What has not been extracted. -/
  left : List α
  /-- No extraction has run into the end. -/
  good : Bool := true

/-- Extract up to the first delimiter, which is removed as well; without a delimiter, extract
everything. Nothing is extracted once the end has been reached. -/
def InputStream.getline (d : α) (is : InputStream α) : List α × InputStream α :=
  if is.good then
    match splitFirst d is.left with
    | some (a, b) => (a, { left := b })
    | none => (is.left, { left := [], good := false })
  else ([], is)

theorem InputStream.getline_record {a b : List α} (ha : d ∉ a) :
    getline d { left := a ++ d :: b } = (a, { left := b }) := by
  simp [getline, splitFirst_record d ha]

theorem InputStream.getline_of_not_mem {xs : List α} (h : d ∉ xs) :
    getline d { left := xs } = (xs, { left := [], good := false }) := by
  simp [getline, (splitFirst_eq_none_iff d).2 h]

theorem InputStream.getline_of_not_good (xs : List α) :
    getline d { left := xs, good := false } = ([], { left := xs, good := false }) := rfl

end Delimited
