/-!
# Lines of a document

A document is cut at every line feed, and a carriage return right before the cut belongs to the
terminator. A text that ends in a line feed therefore has a last, empty line, as editors show it.
-/

namespace PineAssist.Text

/-- The characters of one line, without its terminator. -/
abbrev Line := List Char

/-- Removes the carriage return of a two-character terminator. -/
def dropCarriageReturn (line : Line) : Line :=
  if line.getLast? = some '\r' then line.dropLast else line

/-- The lines of a text, of which there is always at least one. -/
def lines (text : String) : List Line :=
  (text.toList.splitOn '\n').map dropCarriageReturn

/-- Whether the phrase stands somewhere in the line. -/
def occursIn (phrase : Line) : Line → Bool
  | [] => phrase.isEmpty
  | char :: rest => phrase.isPrefixOf (char :: rest) || occursIn phrase rest

theorem occursIn_iff {phrase line : Line} : occursIn phrase line ↔ phrase <:+: line := by
  induction line with
  | nil => simp [occursIn]
  | cons char rest ih =>
      rw [occursIn, Bool.or_eq_true, List.isPrefixOf_iff_prefix, ih]
      exact List.infix_cons_iff.symm

/-- A run of characters with a property is read off as a whole if it is not cut short. -/
theorem takeWhile_run {property : Char → Bool} {run rest : Line}
    (inside : ∀ char ∈ run, property char)
    (ends : ∀ next, rest.head? = some next → property next = false) :
    (run ++ rest).takeWhile property = run := by
  rw [List.takeWhile_append_of_pos inside]
  cases rest with
  | nil => simp
  | cons next rest => simp [ends next rfl]

/-- Even the empty text has a line. -/
theorem lines_ne_nil (text : String) : lines text ≠ [] := by
  simp [lines]

end PineAssist.Text
