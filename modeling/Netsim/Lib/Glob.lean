import Mathlib.Data.List.TakeWhile

/-!
# Patterns of paths

What is documented of the patterns that `glob` takes: a pattern without wildcards is a path, and an
asterisk stands for any characters without a slash. It does not stand for a period that a name
begins with, and so a name is to begin before it.
-/

namespace Netsim

/-- A pattern with one asterisk. -/
structure Glob where
  /-- What comes before the asterisk. -/
  before : List Char
  /-- What comes after it. -/
  after : List Char

namespace Glob

/-- The characters that do not stand for themselves; a tilde stands for a home directory. -/
def wildcards : List Char := ['*', '?', '[', '\\', '~']

/-- All characters stand for themselves. -/
def Literal (text : List Char) : Prop := ∀ c ∈ text, c ∉ wildcards

instance : DecidablePred Literal := fun text => List.decidableBAll (· ∉ wildcards) text

theorem literal_append {text text' : List Char} :
    Literal (text ++ text') ↔ Literal text ∧ Literal text' :=
  List.forall_mem_append

theorem literal_cons {c : Char} {text : List Char} :
    Literal (c :: text) ↔ c ∉ wildcards ∧ Literal text :=
  List.forall_mem_cons

theorem not_mem_of_literal {text : List Char} (h : Literal text) : '*' ∉ text :=
  fun hmem => h _ hmem (by decide)

/-- Both sides of the asterisk stand for themselves, and a name begins before it. -/
structure Plain (glob : Glob) : Prop where
  before : Literal glob.before
  after : Literal glob.after
  begun : ∃ c ∈ glob.before.getLast?, c ≠ '/'

/-- The pattern. -/
def pattern (glob : Glob) : List Char := glob.before ++ '*' :: glob.after

/-- The asterisk stands for any characters without a slash. -/
def Matches (glob : Glob) (path : List Char) : Prop :=
  let rest := path.drop glob.before.length
  glob.before <+: path ∧ glob.after <:+ rest ∧
    '/' ∉ rest.take (rest.length - glob.after.length)

instance (glob : Glob) (path : List Char) : Decidable (glob.Matches path) :=
  inferInstanceAs (Decidable (_ ∧ _ ∧ _))

theorem matches_iff {glob : Glob} {path : List Char} :
    glob.Matches path ↔ ∃ any, path = glob.before ++ any ++ glob.after ∧ '/' ∉ any := by
  constructor
  · rintro ⟨⟨rest, rfl⟩, ⟨any, hany⟩, hslash⟩
    rw [List.drop_left] at hany hslash
    subst hany
    exact ⟨any, (List.append_assoc ..).symm, by simpa using hslash⟩
  · rintro ⟨any, rfl, hslash⟩
    rw [Glob.Matches, List.append_assoc, List.drop_left]
    exact ⟨List.prefix_append _ _, List.suffix_append _ _, by simpa using hslash⟩

end Glob

/-- `glob`, with what is documented of it. -/
structure GlobLibrary where
  /-- Whether a pattern finds the file with a path. -/
  Finds : List Char → List Char → Prop
  /-- A pattern without wildcards is a path. -/
  finds_literal {pattern path : List Char} (h : Glob.Literal pattern) :
    Finds pattern path ↔ path = pattern
  /-- An asterisk stands for any characters without a slash. -/
  finds_pattern {glob : Glob} {path : List Char} (h : glob.Plain) :
    Finds glob.pattern path ↔ glob.Matches path

namespace GlobLibrary

/-- Reads the first asterisk, and takes all other characters as they are. -/
def firstAsterisk : GlobLibrary where
  Finds pattern path :=
    match pattern.dropWhile (· ≠ '*') with
    | [] => path = pattern
    | _ :: after => Glob.Matches ⟨pattern.takeWhile (· ≠ '*'), after⟩ path
  finds_literal {pattern path} h := by
    have hdrop : pattern.dropWhile (· ≠ '*') = [] := by
      rw [List.dropWhile_eq_nil_iff]
      intro c hc
      exact decide_eq_true fun heq => Glob.not_mem_of_literal h (heq ▸ hc)
    rw [hdrop]
  finds_pattern {glob path} h := by
    have hbefore : ∀ c ∈ glob.before, decide (c ≠ '*') = true := fun c hc =>
      decide_eq_true fun heq => Glob.not_mem_of_literal h.before (heq ▸ hc)
    have hdrop : glob.pattern.dropWhile (· ≠ '*') = '*' :: glob.after := by
      rw [Glob.pattern, List.dropWhile_append_of_pos hbefore]
      rfl
    have htake : glob.pattern.takeWhile (· ≠ '*') = glob.before := by
      rw [Glob.pattern, List.takeWhile_append_of_pos hbefore, List.takeWhile_cons_of_neg (by simp),
        List.append_nil]
    rw [hdrop, htake]

end GlobLibrary

end Netsim
