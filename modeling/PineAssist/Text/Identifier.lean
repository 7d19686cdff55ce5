import PineAssist.Text.Line

/-!
# Identifiers and dotted names

Completion and hover work on identifiers, which are made of ASCII letters, digits and underscores,
and on names that join identifiers with dots.
-/

namespace PineAssist.Text

/-- Holds of ASCII letters, ASCII digits and the underscore. -/
def isIdentifierChar (char : Char) : Bool :=
  char.isAlphanum || char == '_'

/-- The longest run of characters with the property that ends the line. -/
def trailing (property : Char → Bool) (line : Line) : Line :=
  (line.reverse.takeWhile property).reverse

theorem trailing_run {property : Char → Bool} {front run : Line}
    (inside : ∀ char ∈ run, property char)
    (begins : ∀ char, front.getLast? = some char → property char = false) :
    trailing property (front ++ run) = run := by
  have isRun : (run.reverse ++ front.reverse).takeWhile property = run.reverse := by
    apply takeWhile_run
    · intro char listed
      exact inside char (List.mem_reverse.mp listed)
    · intro char isFirst
      apply begins
      rwa [List.head?_reverse] at isFirst
  rw [trailing, List.reverse_append, isRun, List.reverse_reverse]

theorem of_mem_trailing {property : Char → Bool} {line : Line} {char : Char}
    (listed : char ∈ trailing property line) : property char := by
  have inRun := List.mem_reverse.mp listed
  exact List.all_eq_true.mp List.all_takeWhile char inRun

theorem exists_eq_append_trailing (property : Char → Bool) (line : Line) :
    ∃ front, line = front ++ trailing property line ∧
      ∀ char, front.getLast? = some char → property char = false := by
  refine ⟨(line.reverse.dropWhile property).reverse, ?_, ?_⟩
  · rw [trailing, ← List.reverse_append, List.takeWhile_append_dropWhile, List.reverse_reverse]
  · intro char isLast
    rw [List.getLast?_reverse] at isLast
    have stopped := List.head?_dropWhile_not property line.reverse
    rw [isLast] at stopped
    simpa using stopped

/-- The part of a dotted name behind its last dot; the whole name if it has none. -/
def lastSegment (name : String) : String :=
  String.ofList (trailing (· != '.') name.toList)

/-- The line without the dots around it. -/
def trimDots (line : Line) : Line :=
  ((line.dropWhile (· == '.')).reverse.dropWhile (· == '.')).reverse

variable {line dots text : Line}

theorem takeWhile_dots_eq_nil (begins : line.head? ≠ some '.') :
    line.takeWhile (· == '.') = [] := by
  cases line with
  | nil => rfl
  | cons first rest =>
      have notDot : first ≠ '.' := by simpa using begins
      simp [notDot]

theorem dropWhile_dots_eq_self (begins : line.head? ≠ some '.') :
    line.dropWhile (· == '.') = line := by
  have whole := List.takeWhile_append_dropWhile (p := (· == '.')) (l := line)
  rwa [takeWhile_dots_eq_nil begins, List.nil_append] at whole

theorem takeWhile_dots_append (isDots : ∀ char ∈ dots, char = '.')
    (begins : text.head? ≠ some '.') : (dots ++ text).takeWhile (· == '.') = dots := by
  apply takeWhile_run
  · intro char listed
    simpa using isDots char listed
  · intro next isNext
    have notDot : next ≠ '.' := by
      rintro rfl
      exact begins isNext
    simpa using notDot

theorem trimDots_append (isDots : ∀ char ∈ dots, char = '.')
    (begins : text.head? ≠ some '.') (ends : text.getLast? ≠ some '.') :
    trimDots (dots ++ text) = text := by
  have whole := List.takeWhile_append_dropWhile (p := (· == '.')) (l := dots ++ text)
  rw [takeWhile_dots_append isDots begins] at whole
  have isText := List.append_cancel_left whole
  rw [trimDots, isText, dropWhile_dots_eq_self, List.reverse_reverse]
  rwa [List.head?_reverse]

theorem head?_dropWhile_dots_ne (line : Line) : (line.dropWhile (· == '.')).head? ≠ some '.' := by
  intro isFirst
  have stopped := List.head?_dropWhile_not (· == '.') line
  rw [isFirst] at stopped
  simp at stopped

theorem trimDots_append_trailing (line : Line) :
    trimDots line ++ trailing (· == '.') (line.dropWhile (· == '.')) =
      line.dropWhile (· == '.') := by
  rw [trimDots, trailing, ← List.reverse_append, List.takeWhile_append_dropWhile,
    List.reverse_reverse]

theorem head?_trimDots_ne (line : Line) : (trimDots line).head? ≠ some '.' := by
  intro isFirst
  apply head?_dropWhile_dots_ne line
  rw [← trimDots_append_trailing, List.head?_append, isFirst, Option.some_or]

theorem getLast?_trimDots_ne (line : Line) : (trimDots line).getLast? ≠ some '.' := by
  rw [trimDots, List.getLast?_reverse]
  apply head?_dropWhile_dots_ne

end PineAssist.Text
