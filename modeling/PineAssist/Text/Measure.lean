import PineAssist.Text.Line

/-!
# Columns and offsets

Editors count columns in UTF-16 code units and documents are stored in UTF-8, so every position
exists twice: as a column of 32 bits and as a byte offset. The conversions never leave the line and
never split a character: a position inside a character is moved back to where it begins.
-/

namespace PineAssist.Text

/-- Number of UTF-16 code units of a character. -/
def utf16Units (char : Char) : UInt32 :=
  if char.toNat < 0x10000 then 1 else 2

/-- Length of a line in UTF-16 code units, counted in 32 bits. -/
def utf16Length (line : Line) : UInt32 :=
  line.foldr (fun char total => utf16Units char + total) 0

/-- Length of a line in UTF-8 bytes. -/
def utf8Length (line : Line) : Nat :=
  line.foldr (fun char total => char.utf8Size + total) 0

@[simp] theorem utf16Length_nil : utf16Length [] = 0 := rfl

@[simp] theorem utf16Length_cons (char : Char) (line : Line) :
    utf16Length (char :: line) = utf16Units char + utf16Length line := rfl

@[simp] theorem utf8Length_nil : utf8Length [] = 0 := rfl

@[simp] theorem utf8Length_cons (char : Char) (line : Line) :
    utf8Length (char :: line) = char.utf8Size + utf8Length line := rfl

/-- Adds to `counted` the number of leading characters that fit into `budget` bytes. -/
def countFitting (counted budget : Nat) : Line → Nat
  | [] => counted
  | char :: rest =>
    if char.utf8Size ≤ budget then countFitting (counted + 1) (budget - char.utf8Size) rest
    else counted

/-- The longest beginning of the line that fits into the given number of bytes. -/
def upToOffset (line : Line) (offset : Nat) : Line :=
  line.take (countFitting 0 offset line)

/-- The two parts of a line around an offset, provided that a character begins or the line ends
there. -/
def splitAtOffset? (line : Line) (offset : Nat) : Option (Line × Line) :=
  let before := upToOffset line offset
  if utf8Length before = offset then some (before, line.drop before.length) else none

/-- Column of the character that covers an offset; past the end, the column of the end. -/
def columnOfOffset (line : Line) (offset : Nat) : UInt32 :=
  utf16Length (upToOffset line offset)

/-- Looks for a column in the rest of a line that starts at the given place. -/
def seekColumn (column : UInt32) : (units : UInt32) → (offset : Nat) → Line → Option Nat
  | units, offset, [] => if column ≤ units then some offset else none
  | units, offset, char :: rest =>
    if column ≤ units then some offset
    else if column < units + utf16Units char then some offset
    else seekColumn column (units + utf16Units char) (offset + char.utf8Size) rest

/-- Offset of the character that covers a column; there is none past the end of the line. -/
def offsetOfColumn? (line : Line) (column : UInt32) : Option Nat :=
  seekColumn column 0 0 line

end PineAssist.Text
