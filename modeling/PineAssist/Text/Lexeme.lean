import PineAssist.Text.Line
import PineAssist.Unicode.WordCharacter

/-!
# Lexemes of a line

Rules and outlines look at a line as a sequence of words, blanks and single marks. Words and blanks
are maximal runs, so a keyword is met only as a whole word and no pattern over lexemes has to try
shorter runs. Putting the lexemes back together gives the line.
-/

namespace PineAssist.Text

open Unicode (isWord isWhiteSpace)

/-- A maximal run of word characters or of white space, or any other single character. -/
inductive Lexeme where
  | word (text : List Char)
  | blank (text : List Char)
  | mark (char : Char)
  deriving DecidableEq

namespace Lexeme

/-- The characters that a lexeme stands for. -/
def chars : Lexeme → List Char
  | word text => text
  | blank text => text
  | mark char => [char]

/-- Puts one character in front of lexemes, extending the first one where it is of the same kind. -/
def attach (char : Char) (following : List Lexeme) : List Lexeme :=
  if isWord char then
    match following with
    | word text :: rest => word (char :: text) :: rest
    | _ => word [char] :: following
  else if isWhiteSpace char then
    match following with
    | blank text :: rest => blank (char :: text) :: rest
    | _ => blank [char] :: following
  else mark char :: following

/-- Attaching a character adds it in front of the text. -/
theorem flatMap_chars_attach (char : Char) (following : List Lexeme) :
    (attach char following).flatMap chars = char :: following.flatMap chars := by
  unfold attach
  split
  · split <;> simp [chars]
  · split
    · split <;> simp [chars]
    · simp [chars]

end Lexeme

/-- The words, blanks and marks of a line, in order. -/
def lexemes (line : Line) : List Lexeme :=
  line.foldr Lexeme.attach []

/-- Nothing is lost between a line and its lexemes. -/
@[simp] theorem flatMap_chars_lexemes (line : Line) :
    (lexemes line).flatMap Lexeme.chars = line := by
  induction line with
  | nil => rfl
  | cons char rest ih => simpa [lexemes, Lexeme.flatMap_chars_attach] using ih

/-- The lexemes that follow an optional blank. -/
def skipBlank : List Lexeme → List Lexeme
  | .blank _ :: rest => rest
  | lexemes => lexemes

end PineAssist.Text
