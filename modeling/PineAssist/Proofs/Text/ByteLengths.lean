import PineAssist.Proofs.Text.Conversions

/-!
# Counting in texts of limited size

The size of a document is limited in bytes, while columns are counted in code units and lines by
their line feeds. A character has at least as many bytes as code units, and a line feed has one, so
a limit on the bytes limits everything else that is counted. On a line with a limited number of code
units it makes no difference that columns have 32 bits: the search for a column agrees with
`seekUnits`, which counts in natural numbers.
-/

namespace PineAssist.Text

variable {line start : Line} {offset : Nat} {column : UInt32}

section Sizes

theorem toNat_utf16Units_le_utf8Size (char : Char) :
    (utf16Units char).toNat ≤ char.utf8Size := by
  have positive := char.utf8Size_pos
  by_cases narrow : char.toNat < 0x10000
  · rw [utf16Units, if_pos narrow]
    exact positive
  · have fourBytes : char.utf8Size = 4 := by
      apply Char.utf8Size_eq_four_iff.mpr
      apply UInt32.lt_iff_toNat_lt.mpr
      change 0xFFFF < char.toNat
      omega
    have few := toNat_utf16Units_le char
    omega

theorem codeUnits_le_utf8Length (line : Line) : codeUnits line ≤ utf8Length line := by
  induction line with
  | nil => exact Nat.le_refl 0
  | cons char rest ih =>
      have few := toNat_utf16Units_le_utf8Size char
      rw [codeUnits_cons, utf8Length_cons]
      omega

theorem length_le_utf8Length (line : Line) : line.length ≤ utf8Length line := by
  induction line with
  | nil => exact Nat.le_refl 0
  | cons char rest ih =>
      have positive := char.utf8Size_pos
      rw [List.length_cons, utf8Length_cons]
      omega

theorem utf8Length_toList (text : String) : utf8Length text.toList = text.utf8ByteSize := by
  have ofList : ∀ chars : Line, utf8Length chars = (String.ofList chars).utf8ByteSize := by
    intro chars
    induction chars with
    | nil => simp
    | cons char rest ih =>
        rw [utf8Length_cons, ih, String.ofList_cons, String.utf8ByteSize_append,
          String.utf8ByteSize_singleton]
  rw [ofList, String.ofList_toList]

/-- Every line but the first one begins behind a character. -/
theorem length_splitOn_le (chars : Line) : (chars.splitOn '\n').length ≤ chars.length + 1 := by
  induction chars with
  | nil => exact Nat.le_refl 1
  | cons char rest ih =>
      rw [List.splitOn_cons_eq_if_modifyHead, List.length_cons]
      split
      · rw [List.length_cons]
        omega
      · rw [List.length_modifyHead]
        omega

theorem length_lines_le (text : String) : (lines text).length ≤ text.utf8ByteSize + 1 := by
  have split := length_splitOn_le text.toList
  have bytes := length_le_utf8Length text.toList
  rw [utf8Length_toList] at bytes
  rw [lines, List.length_map]
  omega

theorem codeUnits_le_utf8ByteSize {text : String} (listed : line ∈ lines text) :
    codeUnits line ≤ text.utf8ByteSize := by
  have inText := codeUnits_le_of_mem_lines listed
  have bytes := codeUnits_le_utf8Length text.toList
  rw [utf8Length_toList] at bytes
  omega

end Sizes

section Search

/-- Looks for a column in the rest of a line, counting code units without a bound. -/
def seekUnits (column : Nat) : (units : Nat) → (offset : Nat) → Line → Option Nat
  | units, offset, [] => if column ≤ units then some offset else none
  | units, offset, char :: rest =>
    if column ≤ units then some offset
    else if column < units + (utf16Units char).toNat then some offset
    else seekUnits column (units + (utf16Units char).toNat) (offset + char.utf8Size) rest

theorem seekColumn_eq_seekUnits {units : UInt32}
    (bounded : units.toNat + codeUnits line < UInt32.size) :
    seekColumn column units offset line = seekUnits column.toNat units.toNat offset line := by
  induction line generalizing units offset with
  | nil => simp only [seekColumn, seekUnits, UInt32.le_iff_toNat_le]
  | cons char rest ih =>
      rw [codeUnits_cons] at bounded
      have fits : units.toNat + (utf16Units char).toNat < UInt32.size := by omega
      have isSum : (units + utf16Units char).toNat = units.toNat + (utf16Units char).toNat := by
        rw [UInt32.toNat_add]
        exact Nat.mod_eq_of_lt fits
      simp only [seekColumn, seekUnits, UInt32.le_iff_toNat_le, UInt32.lt_iff_toNat_lt, isSum]
      rw [ih (by omega), isSum]

/-- The sum of the code units of a beginning of the line, added up from the left in 32 bits. -/
def unitsPassed (start : Line) : UInt32 :=
  start.foldl (fun units char => units + utf16Units char) 0

theorem unitsPassed_eq (start : Line) : unitsPassed start = utf16Length start := by
  have continued : ∀ units, start.foldl (fun units char => units + utf16Units char) units =
      units + utf16Length start := by
    induction start with
    | nil => simp
    | cons char rest ih =>
        intro units
        rw [List.foldl_cons, ih, utf16Length_cons, UInt32.add_assoc]
  rw [unitsPassed, continued, UInt32.zero_add]

/-- The search for a column behind a beginning of the line comes to its end with this sum. -/
theorem offsetOfColumn?_eq_seekColumn {rest : Line}
    (bounded : codeUnits (start ++ rest) < UInt32.size) (inFront : codeUnits start ≤ column.toNat) :
    offsetOfColumn? (start ++ rest) column =
      seekColumn column (unitsPassed start) (utf8Length start) rest := by
  have suffice : ColumnsSuffice (start ++ rest) column.toNat := .of_codeUnits_lt bounded
  rw [unitsPassed_eq, seekColumn_eq inFront suffice, offsetOfColumn?_eq suffice]

end Search

/-- What is counted on a line in 32 bits is what would be counted without a bound. -/
structure CountsExactly (line : Line) : Prop where
  length : (utf16Length line).toNat = codeUnits line
  /-- The search for a column passes every beginning of the line with its number of code units. -/
  sums : ∀ start rest, line = start ++ rest → (unitsPassed start).toNat = codeUnits start ∧
    ∀ column : UInt32, codeUnits start ≤ column.toNat →
      offsetOfColumn? line column = seekColumn column (unitsPassed start) (utf8Length start) rest
  offsets : ∀ column : UInt32, offsetOfColumn? line column = seekUnits column.toNat 0 0 line
  columns : ∀ offset, (columnOfOffset line offset).toNat = codeUnits (upToOffset line offset)

theorem countsExactly_of_lt (bounded : codeUnits line < UInt32.size) : CountsExactly line where
  length := toNat_utf16Length bounded
  sums := by
    rintro start rest rfl
    constructor
    · rw [codeUnits_append] at bounded
      rw [unitsPassed_eq]
      exact toNat_utf16Length (by omega)
    · intro column inFront
      exact offsetOfColumn?_eq_seekColumn bounded inFront
  offsets column := by
    apply seekColumn_eq_seekUnits
    simpa using bounded
  columns offset := toNat_columnOfOffset bounded

end PineAssist.Text
