import PineAssist.Editor.Completion
import PineAssist.Editor.Hover
import PineAssist.Editor.Outline
import PineAssist.Lint.Linter

/-!
# Line endings

Lines may be ended by a line feed or by a carriage return with a line feed, and both may occur in
one document. Reading the lines of such a document gives back the lines that it was put together
from, whichever terminators stand between them. Linting, outlines, completion and hover see nothing
of a document but its lines, so none of them can tell the terminators apart.
-/

namespace PineAssist

open Editor (completions hover? outline locatedOutline)
open Lint (Linter)

namespace Text

/-- What stands between two lines. -/
inductive Terminator where
  | lineFeed
  | carriageReturnLineFeed
  deriving DecidableEq

/-- The carriage return that a terminator may put in front of its line feed. -/
def Terminator.carriageReturn : Terminator → List Char
  | lineFeed => []
  | carriageReturnLineFeed => ['\r']

def Terminator.chars (terminator : Terminator) : List Char :=
  terminator.carriageReturn ++ ['\n']

/-- A line of which no part can be taken for a terminator or for the beginning of one. -/
def Unbroken (line : Line) : Prop :=
  '\n' ∉ line ∧ line.getLast? ≠ some '\r'

instance (line : Line) : Decidable (Unbroken line) :=
  inferInstanceAs (Decidable ('\n' ∉ line ∧ line.getLast? ≠ some '\r'))

/-- One line or more, with a terminator between each two of them. -/
structure Layout where
  first : Line
  /-- The other lines, each behind the terminator that separates it from the line before. -/
  rest : List (Terminator × Line)
  unbroken : ∀ line ∈ first :: rest.map (·.2), Unbroken line

/-- The characters of lines with the terminators between them. -/
def assemble (first : Line) : List (Terminator × Line) → List Char
  | [] => first
  | (terminator, next) :: rest => first ++ terminator.chars ++ assemble next rest

namespace Layout

def lines (layout : Layout) : List Line :=
  layout.first :: layout.rest.map (·.2)

def text (layout : Layout) : String :=
  String.ofList (assemble layout.first layout.rest)

/-- The same lines with line feeds only. -/
def plainText (layout : Layout) : String :=
  String.ofList (['\n'].intercalate layout.lines)

end Layout

variable {line : Line} {terminator : Terminator}

namespace Unbroken

theorem dropCarriageReturn (unbroken : Unbroken line) : dropCarriageReturn line = line := by
  rw [Text.dropCarriageReturn, if_neg unbroken.2]

theorem dropCarriageReturn_append (unbroken : Unbroken line) :
    Text.dropCarriageReturn (line ++ terminator.carriageReturn) = line := by
  cases terminator with
  | lineFeed =>
      rw [Terminator.carriageReturn, List.append_nil]
      exact unbroken.dropCarriageReturn
  | carriageReturnLineFeed => simp [Text.dropCarriageReturn, Terminator.carriageReturn]

/-- A terminator ends the line in front of it and leaves no trace of itself. -/
theorem lines_append_terminator (unbroken : Unbroken line) (following : List Char) :
    Text.lines (String.ofList (line ++ terminator.chars ++ following)) =
      line :: Text.lines (String.ofList following) := by
  have noLineFeed : '\n' ∉ line ++ terminator.carriageReturn := by
    have inLine := unbroken.1
    cases terminator <;> simp [Terminator.carriageReturn, inLine]
  have cut := List.splitOn_append_cons_self_of_not_mem noLineFeed following
  have isText : line ++ terminator.chars ++ following =
      line ++ terminator.carriageReturn ++ '\n' :: following := by
    simp [Terminator.chars]
  simp only [Text.lines, String.toList_ofList]
  rw [isText, cut, List.map_cons, unbroken.dropCarriageReturn_append]

theorem lines_eq (unbroken : Unbroken line) : Text.lines (String.ofList line) = [line] := by
  simp only [Text.lines, String.toList_ofList]
  rw [List.splitOn_eq_singleton unbroken.1, List.map_singleton, unbroken.dropCarriageReturn]

end Unbroken

theorem lines_assemble (first : Line) (rest : List (Terminator × Line))
    (unbroken : ∀ line ∈ first :: rest.map (·.2), Unbroken line) :
    lines (String.ofList (assemble first rest)) = first :: rest.map (·.2) := by
  induction rest generalizing first with
  | nil =>
      have firstUnbroken : Unbroken first := unbroken first (by simp)
      exact firstUnbroken.lines_eq
  | cons next rest ih =>
      rcases next with ⟨terminator, next⟩
      have firstUnbroken : Unbroken first := unbroken first (by simp)
      have restUnbroken : ∀ line ∈ next :: rest.map (·.2), Unbroken line := by
        intro line listed
        apply unbroken
        exact List.mem_cons_of_mem first listed
      rw [assemble, firstUnbroken.lines_append_terminator, ih next restUnbroken]
      rfl

namespace Layout

theorem lines_text (layout : Layout) : Text.lines layout.text = layout.lines :=
  lines_assemble layout.first layout.rest layout.unbroken

theorem lines_plainText (layout : Layout) : Text.lines layout.plainText = layout.lines := by
  have noLineFeed : ∀ line ∈ layout.lines, '\n' ∉ line := by
    intro line listed
    exact (layout.unbroken line listed).1
  have unchanged : ∀ line ∈ layout.lines, dropCarriageReturn line = line := by
    intro line listed
    exact (layout.unbroken line listed).dropCarriageReturn
  rw [Text.lines, plainText, String.toList_ofList]
  rw [List.splitOn_intercalate '\n' noLineFeed (List.cons_ne_nil _ _)]
  exact (List.map_congr_left unchanged).trans (List.map_id _)

end Layout

end Text

section Readers

open Text (lines)

variable {content other : String} (sameLines : lines content = lines other)

include sameLines

theorem Lint.Linter.run_eq_of_lines_eq (linter : Linter) :
    linter.run content = linter.run other := by
  rw [Linter.run, Linter.run, sameLines]

namespace Editor

theorem outline_eq_of_lines_eq : outline content = outline other := by
  rw [outline, outline, sameLines]

theorem locatedOutline_eq_of_lines_eq (uri : Uri) :
    locatedOutline uri content = locatedOutline uri other := by
  rw [locatedOutline, locatedOutline, outline_eq_of_lines_eq sameLines, sameLines]

theorem Cursor.at?_eq_of_lines_eq (position : Position) :
    Cursor.at? content position = Cursor.at? other position := by
  rw [Cursor.at?, Cursor.at?, sameLines]

theorem completions_eq_of_lines_eq (catalog : Catalog) (position : Position) :
    completions catalog content position = completions catalog other position := by
  rw [completions, completions, Cursor.at?_eq_of_lines_eq sameLines]

theorem hover?_eq_of_lines_eq (catalog : Catalog) (position : Position) :
    hover? catalog content position = hover? catalog other position := by
  simp only [hover?, tokenAt?, Cursor.at?_eq_of_lines_eq sameLines]

end Editor

end Readers

/--
Whatever terminators stand between the lines of a document, exactly these lines are read from it,
and all that is shown about it is what is shown about the document with line feeds only.
-/
theorem Text.Layout.terminators_unnoticed (layout : Text.Layout) :
    Text.lines layout.text = layout.lines ∧
      (∀ config catalog, (Linter.standard config catalog).run layout.text =
        (Linter.standard config catalog).run layout.plainText) ∧
      outline layout.text = outline layout.plainText ∧
      (∀ uri, locatedOutline uri layout.text = locatedOutline uri layout.plainText) ∧
      (∀ catalog position, completions catalog layout.text position =
        completions catalog layout.plainText position) ∧
      ∀ catalog position, hover? catalog layout.text position =
        hover? catalog layout.plainText position := by
  have sameLines : Text.lines layout.text = Text.lines layout.plainText := by
    rw [layout.lines_text, layout.lines_plainText]
  refine ⟨layout.lines_text, ?_, ?_, ?_, ?_, ?_⟩
  · intro config catalog
    exact Linter.run_eq_of_lines_eq sameLines (Linter.standard config catalog)
  · exact Editor.outline_eq_of_lines_eq sameLines
  · exact Editor.locatedOutline_eq_of_lines_eq sameLines
  · exact Editor.completions_eq_of_lines_eq sameLines
  · exact Editor.hover?_eq_of_lines_eq sameLines

/-- Lines with both terminators, the first of them with a carriage return that ends no line. -/
def Text.Layout.mixed : Text.Layout where
  first := "plot(a\rb".toList
  rest := [(.carriageReturnLineFeed, []), (.lineFeed, "if x".toList)]
  unbroken := by decide

theorem Text.Layout.terminators_unnoticed_mixed :
    mixed.text = "plot(a\rb\r\n\nif x" ∧ mixed.plainText = "plot(a\rb\n\nif x" ∧
      Text.lines "plot(a\rb\r\n\nif x" = ["plot(a\rb".toList, [], "if x".toList] ∧
      ∀ config catalog, (Linter.standard config catalog).run "plot(a\rb\r\n\nif x" =
        (Linter.standard config catalog).run "plot(a\rb\n\nif x" := by
  have isText : mixed.text = "plot(a\rb\r\n\nif x" := by decide +kernel
  have isPlain : mixed.plainText = "plot(a\rb\n\nif x" := by decide +kernel
  rcases mixed.terminators_unnoticed with ⟨isLines, sameFindings, _⟩
  rw [isText] at isLines sameFindings
  rw [isPlain] at sameFindings
  exact ⟨isText, isPlain, isLines, sameFindings⟩

end PineAssist
