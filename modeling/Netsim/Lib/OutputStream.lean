import Mathlib.Data.Rat.Defs

/-!
# Output file streams

A file stream (`std::ofstream`) that is opened, written to and closed many times. It has an error
state and a number format, both of which outlive the file that is open: an open that fails sets the
error state, in which nothing is written, and only an open that succeeds clears it; the number
format stays as it was set last. Numbers are written as tokens, a value together with the format in
force.
-/

namespace OutputStream

/-- How floating-point numbers are written. -/
structure NumberFormat where
  /-- `std::fixed` has been set. -/
  fixed : Bool := false
  /-- The precision. -/
  precision : ℕ := 6
deriving DecidableEq

/-- What a file holds. -/
inductive Token
  /-- Characters. -/
  | text (s : String)
  /-- A floating-point number. -/
  | number (format : NumberFormat) (x : ℚ)
deriving DecidableEq

/-- What is inserted into a stream. -/
inductive Insertion
  /-- Characters, or an integer. -/
  | text (s : String)
  /-- A floating-point number. -/
  | number (x : ℚ)
  /-- `std::fixed`. -/
  | fixed
  /-- `std::setprecision`. -/
  | setprecision (n : ℕ)

/-- A file stream. -/
structure OFStream where
  /-- The name of the file that is open. -/
  file : Option String := none
  /-- The error state. -/
  failed : Bool := false
  /-- The number format. -/
  format : NumberFormat := {}
  /-- What has been written to the file that is open. -/
  written : List Token := []
deriving DecidableEq

/-- The number format after an insertion. -/
def NumberFormat.after (format : NumberFormat) : Insertion → NumberFormat
  | .fixed => { format with fixed := true }
  | .setprecision n => { format with precision := n }
  | _ => format

/-- What an insertion writes. -/
def Insertion.tokens (format : NumberFormat) : Insertion → List Token
  | .text s => [.text s]
  | .number x => [.number format x]
  | _ => []

/-! ### Number formats -/

/-- Not a manipulator. -/
def Insertion.Plain (x : Insertion) : Prop := ∀ format, NumberFormat.after format x = format

@[simp]
theorem plain_text (s : String) : (Insertion.text s).Plain := fun _ => rfl

@[simp]
theorem plain_number (x : ℚ) : (Insertion.number x).Plain := fun _ => rfl

/-- Insertions that keep a number format keep it together. -/
theorem NumberFormat.foldl_after_eq {format : NumberFormat} {xs : List Insertion}
    (h : ∀ x ∈ xs, format.after x = format) : xs.foldl NumberFormat.after format = format := by
  induction xs with
  | nil => rfl
  | cons x xs ih =>
      rw [List.foldl_cons, h x List.mem_cons_self]
      exact ih fun y hy => h y (List.mem_cons_of_mem _ hy)

namespace OFStream

/-- `open`, where the file may be inaccessible. -/
def openFile (f : OFStream) (name : String) (accessible : Bool) : OFStream :=
  match f.file with
  -- the old file stays open
  | some _ => { f with failed := true }
  | none =>
      if accessible then { f with file := some name, failed := false, written := [] }
      else { f with failed := true }

/-- `close`. -/
def close (f : OFStream) : OFStream :=
  match f.file with
  | some _ => { f with file := none }
  | none => { f with failed := true }

/-- `operator<<`. A manipulator takes effect in the error state, too. -/
def insert (f : OFStream) (x : Insertion) : OFStream :=
  let f' : OFStream := { f with format := f.format.after x }
  if f.failed then f'
  else if f.file.isNone && !(x.tokens f.format).isEmpty then { f' with failed := true }
  else { f' with written := f.written ++ x.tokens f.format }

/-- Several insertions. -/
def insertAll (f : OFStream) (xs : List Insertion) : OFStream := xs.foldl insert f

/-! ### What insertions do -/

variable {f : OFStream}

theorem insertAll_cons (f : OFStream) (x : Insertion) (xs : List Insertion) :
    f.insertAll (x :: xs) = (f.insert x).insertAll xs := rfl

theorem insert_format (f : OFStream) (x : Insertion) :
    (f.insert x).format = f.format.after x := by
  rw [insert]
  dsimp only
  split_ifs <;> rfl

theorem insert_file (f : OFStream) (x : Insertion) : (f.insert x).file = f.file := by
  rw [insert]
  dsimp only
  split_ifs <;> rfl

/-- The number format after some insertions depends on nothing but the one before. -/
theorem insertAll_format (f : OFStream) (xs : List Insertion) :
    (f.insertAll xs).format = xs.foldl NumberFormat.after f.format := by
  induction xs generalizing f with
  | nil => rfl
  | cons x xs ih => rw [insertAll_cons, ih, insert_format, List.foldl_cons]

/-- Insertions neither open nor close a file. -/
theorem insertAll_file (f : OFStream) (xs : List Insertion) : (f.insertAll xs).file = f.file := by
  induction xs generalizing f with
  | nil => rfl
  | cons x xs ih => rw [insertAll_cons, ih, insert_file]

/-- An open of a stream that is closed makes it the same whatever error state it was in. -/
theorem openFile_of_closed (h : f.file = none) (name : String) :
    f.openFile name true =
      { file := some name, failed := false, format := f.format, written := [] } := by
  rw [openFile, h]
  rfl

/-- Where files can be created, one is open after an open, the new one or an old one. -/
theorem openFile_file_isSome (f : OFStream) (name : String) :
    (f.openFile name true).file.isSome := by
  rw [openFile]
  cases f.file with
  | none => rfl
  | some old => rfl

theorem openFile_format (f : OFStream) (name : String) (accessible : Bool) :
    (f.openFile name accessible).format = f.format := by
  rw [openFile]
  split
  · rfl
  · split <;> rfl

theorem close_format (f : OFStream) : f.close.format = f.format := by
  rw [close]
  split <;> rfl

theorem close_file (f : OFStream) : f.close.file = none := by
  rw [close]
  split
  · rfl
  · next h => exact h

end OFStream

end OutputStream
