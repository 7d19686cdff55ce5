import PineAssist.Text.Identifier
import PineAssist.Text.Measure

/-!
# Positions and cursors

An editor addresses a document by line and UTF-16 column, both counted from zero in 32 bits. A
cursor is a line of the document together with a byte offset in it. A position past the end of its
line is moved to the end, and one inside a character to where the character begins.
-/

namespace PineAssist.Editor

open Text (Line isIdentifierChar offsetOfColumn? splitAtOffset? trailing trimDots utf16Length
  utf8Length)

/-- A place between two characters of a document. -/
structure Position where
  line : UInt32
  character : UInt32
  deriving DecidableEq

/-- The text between two positions. -/
structure Range where
  start : Position
  stop : Position
  deriving DecidableEq

/-- Range of columns on one line. -/
def Range.onLine (line start stop : UInt32) : Range :=
  ⟨⟨line, start⟩, ⟨line, stop⟩⟩

/-- Range of a whole line. -/
def Range.ofLine (line : UInt32) (text : Line) : Range :=
  .onLine line 0 (utf16Length text)

/-- A line with a place in it. -/
structure Cursor where
  line : Line
  /-- Offset of the place in bytes. -/
  offset : Nat
  deriving DecidableEq

namespace Cursor

/-- The cursor at a position of a document, provided that the line exists. -/
def at? (content : String) (position : Position) : Option Cursor :=
  (Text.lines content)[position.line.toNat]?.map fun line =>
    ⟨line, (offsetOfColumn? line position.character).getD (utf8Length line)⟩

/-- The line cut at the cursor; a cursor inside a character cuts nothing. -/
def split? (cursor : Cursor) : Option (Line × Line) :=
  splitAtOffset? cursor.line cursor.offset

end Cursor

/-- Why nothing can be said about a cursor. -/
inductive CursorError where
  /-- The offset lies behind the line or inside a character. -/
  | misplaced
  deriving DecidableEq

/-- A dotted name in a line, with the offsets between which it stands. -/
structure Token where
  text : Line
  start : Nat
  stop : Nat
  deriving DecidableEq

/-- The token around the place between two parts of a line: identifiers and dots in front of it, the
identifier behind it, and no dots at either end. -/
def Token.between? (before after : Line) : Option Token :=
  let back := trailing (fun char => isIdentifierChar char || char == '.') before
  let raw := back ++ after.takeWhile isIdentifierChar
  let text := trimDots raw
  if text.isEmpty then none
  else
    let start := utf8Length before - utf8Length back + utf8Length (raw.takeWhile (· == '.'))
    some ⟨text, start, start + utf8Length text⟩

/-- The token under the cursor, if there is one; an offset that cuts a character or lies behind the
line is refused. -/
def Cursor.token? (cursor : Cursor) : Except CursorError (Option Token) :=
  match cursor.split? with
  | none => .error .misplaced
  | some (before, after) => .ok (Token.between? before after)

end PineAssist.Editor
