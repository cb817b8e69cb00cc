import Netsim.Lib.Delimited
import Netsim.Lib.OutputStream

/-!
# Text files

What a program inserts into a stream, as the reader of the file finds it: as symbols, cut into
lines, and a line into words. A number is a symbol of its own; however it is formatted, it contains
neither a blank nor the end of a line.
-/

namespace OutputStream

/-- A character, or a number. -/
inductive Symbol
  | char (c : Char)
  | number (x : ℚ)
deriving DecidableEq

/-- The characters of a string. -/
def chars (s : String) : List Symbol := s.toList.map .char

/-- The symbols of a token. -/
def Token.symbols : Token → List Symbol
  | .text s => chars s
  | .number _ x => [.number x]

/-- The symbols that an insertion writes. -/
def Insertion.symbols : Insertion → List Symbol
  | .text s => chars s
  | .number x => [.number x]
  | _ => []

/-- The symbols that some insertions write. -/
def symbols (xs : List Insertion) : List Symbol := xs.flatMap Insertion.symbols

/-- The lines of a file. -/
def lines (xs : List Symbol) : List (List Symbol) := Delimited.records (.char '\n') xs

/-- The words of a line. -/
def words (line : List Symbol) : List (List Symbol) :=
  (line.splitOn (.char ' ')).filter (!·.isEmpty)

/-- Insertions with the end of a line after each group. -/
def unlines (ls : List (List Insertion)) : List Insertion := ls.flatMap (· ++ [.text "\n"])

/-! ### Symbols -/

@[simp]
theorem char_mem_chars {c : Char} {s : String} : .char c ∈ chars s ↔ c ∈ s.toList := by
  simp [chars]

@[simp]
theorem symbols_nil : symbols [] = [] := rfl

@[simp]
theorem symbols_cons (x : Insertion) (xs : List Insertion) :
    symbols (x :: xs) = x.symbols ++ symbols xs := rfl

@[simp]
theorem symbols_append (xs ys : List Insertion) :
    symbols (xs ++ ys) = symbols xs ++ symbols ys := List.flatMap_append

theorem symbols_flatMap {α : Type*} (xs : List α) (f : α → List Insertion) :
    symbols (xs.flatMap f) = xs.flatMap fun x => symbols (f x) := List.flatMap_assoc

@[simp]
theorem symbols_text (s : String) : (Insertion.text s).symbols = chars s := rfl

@[simp]
theorem symbols_number (x : ℚ) : (Insertion.number x).symbols = [.number x] := rfl

@[simp]
theorem symbols_fixed : Insertion.fixed.symbols = [] := rfl

@[simp]
theorem symbols_setprecision (n : ℕ) : (Insertion.setprecision n).symbols = [] := rfl

/-- An insertion writes its symbols, in whatever format. -/
theorem Insertion.flatMap_tokens (format : NumberFormat) (x : Insertion) :
    (x.tokens format).flatMap Token.symbols = x.symbols := by
  cases x <;> simp [tokens, Token.symbols, Insertion.symbols]

/-- A file has the symbols of what has been inserted since it was opened. -/
theorem OFStream.flatMap_written {f : OFStream} (hfile : f.file.isSome) (hfailed : f.failed = false)
    (xs : List Insertion) : (f.insertAll xs).written.flatMap Token.symbols =
      f.written.flatMap Token.symbols ++ symbols xs := by
  induction xs generalizing f with
  | nil => simp [insertAll]
  | cons x xs ih =>
      have hnone : f.file.isNone = false := by rwa [← Option.not_isSome, Bool.not_eq_false']
      have hinsert : f.insert x = { f with
          format := f.format.after x, written := f.written ++ x.tokens f.format } := by
        simp [insert, hfailed, hnone]
      have hfailed' : (f.insert x).failed = false := by rw [hinsert, hfailed]
      rw [insertAll_cons, ih (by rwa [insert_file]) hfailed', hinsert, List.flatMap_append,
        Insertion.flatMap_tokens, symbols_cons, List.append_assoc]

/-! ### Lines -/

section Lines

variable {line : List Symbol}

/-- What ends its lines is read line by line. -/
theorem lines_unlines_append (ls : List (List Insertion)) (rest : List Symbol)
    (h : ∀ l ∈ ls, .char '\n' ∉ symbols l) :
    lines (symbols (unlines ls) ++ rest) = ls.map symbols ++ lines rest := by
  induction ls with
  | nil => rfl
  | cons l ls ih =>
      obtain ⟨hl, hls⟩ := List.forall_mem_cons.1 h
      have hcons : symbols (unlines (l :: ls)) ++ rest =
          symbols l ++ .char '\n' :: (symbols (unlines ls) ++ rest) := by
        simp [unlines, chars]
      rw [hcons, lines, Delimited.records_record hl, ← lines, ih hls]
      rfl

theorem lines_unlines (ls : List (List Insertion)) (h : ∀ l ∈ ls, .char '\n' ∉ symbols l) :
    lines (symbols (unlines ls)) = ls.map symbols := by
  simpa [lines] using lines_unlines_append ls [] h

@[simp]
theorem newline_not_mem_toDigits (n : ℕ) : '\n' ∉ Nat.toDigits 10 n := fun h => by
  simpa using Nat.isDigit_of_mem_toDigits (by decide) (by decide) h

/-- No line has the end of a line in it. -/
theorem newline_not_mem_of_mem_lines {xs : List Symbol} (h : line ∈ lines xs) :
    .char '\n' ∉ line := Delimited.not_mem_of_mem_records h

end Lines

/-! ### Words -/

section Words

variable {word : List Symbol}

/-- A word ends at a blank. -/
theorem words_append_blank (hne : word ≠ []) (hword : .char ' ' ∉ word) (line : List Symbol) :
    words (word ++ .char ' ' :: line) = word :: words line := by
  rw [words, List.splitOn_append_cons_self_of_not_mem hword, List.filter_cons_of_pos (by simpa),
    words]

/-- The last word needs no blank. -/
theorem words_of_not_mem (hne : word ≠ []) (hword : .char ' ' ∉ word) : words word = [word] := by
  rw [words, List.splitOn_eq_singleton hword, List.filter_cons_of_pos (by simpa),
    List.filter_nil]

theorem words_number (x : ℚ) (line : List Symbol) :
    words (.number x :: .char ' ' :: line) = [.number x] :: words line := by
  have hword : .char ' ' ∉ [Symbol.number x] := by simp
  exact words_append_blank (List.cons_ne_nil _ _) hword line

theorem newline_not_mem_numbers {α : Type*} (xs : List α) (f : α → ℚ) :
    .char '\n' ∉ symbols (xs.flatMap fun x => [.number (f x), .text " "]) := by
  simp [symbols_flatMap]

/-- The words of a line of numbers. -/
theorem words_numbers {α : Type*} (xs : List α) (f : α → ℚ) :
    words (symbols (xs.flatMap fun x => [.number (f x), .text " "])) =
      xs.map fun x => [.number (f x)] := by
  induction xs with
  | nil => rfl
  | cons x xs ih =>
      have hcons : symbols ((x :: xs).flatMap fun x => [.number (f x), .text " "]) =
          .number (f x) :: .char ' ' :: symbols (xs.flatMap fun x =>
            [.number (f x), .text " "]) := by
        simp [chars]
      rw [hcons, words_number, ih, List.map_cons]

end Words

end OutputStream
