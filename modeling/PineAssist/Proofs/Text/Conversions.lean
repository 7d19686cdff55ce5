import Mathlib.Order.Bounds.Defs
import PineAssist.Proofs.Text.Offsets

/-!
# From offsets to columns and back

Both conversions look for the longest beginning of the line that is not too long, measured in bytes
or in code units. A beginning found in one measure is found again in the other one, because every
character has a positive length in both. Going there and back therefore gives the length of the
beginning that was found first: the offset of a boundary that is not behind the given offset, or a
column that is not behind the given column and misses it only inside a surrogate pair.
-/

namespace PineAssist.Text

/-- A character begins or the line ends at this offset. -/
def IsBoundary (line : Line) (offset : Nat) : Prop :=
  ∃ start, start <+: line ∧ utf8Length start = offset

/-- The column stands between the two code units of a character. -/
def InsidePair (line : Line) (column : Nat) : Prop :=
  ∃ before char after, line = before ++ char :: after ∧ 0x10000 ≤ char.toNat ∧
    column = codeUnits before + 1

variable {line : Line} {offset : Nat}

/-- An offset is cut down to the last boundary that is not behind it. -/
theorem isGreatest_utf8Length_upToOffset :
    IsGreatest {boundary | IsBoundary line boundary ∧ boundary ≤ min offset (utf8Length line)}
      (utf8Length (upToOffset line offset)) := by
  constructor
  · refine ⟨⟨_, upToOffset_prefix, rfl⟩, Nat.le_min.mpr ⟨?_, ?_⟩⟩
    · rw [upToOffset_eq_fitting]
      exact weigh_fitting_le
    · exact utf8Length_le_of_prefix upToOffset_prefix
  · rintro boundary ⟨⟨start, begins, rfl⟩, inFront⟩
    apply utf8Length_le_of_prefix
    rw [upToOffset_eq_fitting]
    apply prefix_fitting begins
    exact Nat.le_trans inFront (Nat.min_le_left _ _)

section Columns

variable {column : Nat}

theorem codeUnits_upToColumn_of_insidePair (inside : InsidePair line column) :
    codeUnits (upToColumn line column) + 1 = column := by
  rcases inside with ⟨before, char, after, rfl, wide, rfl⟩
  have isWide : (utf16Units char).toNat = 2 := by
    rw [utf16Units, if_neg (by omega)]
    rfl
  rw [upToColumn_append]
  · omega
  · intro next isNext
    cases isNext
    omega

/-- The only columns of a line that belong to no boundary are those inside surrogate pairs. -/
theorem codeUnits_upToColumn_or_insidePair (onLine : column ≤ codeUnits line) :
    codeUnits (upToColumn line column) = column ∨ InsidePair line column := by
  have inFront : codeUnits (upToColumn line column) ≤ column := codeUnits_upToColumn_le
  rcases Nat.eq_or_lt_of_le inFront with exactly | short
  · exact .inl exactly
  right
  have begins : upToColumn line column <+: line := upToColumn_prefix
  rcases begins with ⟨after, isLine⟩
  cases after with
  | nil =>
      rw [List.append_nil] at isLine
      rw [isLine] at short
      omega
  | cons char after =>
      have tooMuch : column < codeUnits (upToColumn line column) + (utf16Units char).toNat := by
        apply Nat.lt_of_not_le
        intro fits
        have longer : upToColumn line column ++ [char] <+: upToColumn line column := by
          apply prefix_upToColumn
          · exact ⟨after, by rw [List.append_assoc]; exact isLine⟩
          · simpa using fits
        have length := longer.length_le
        rw [List.length_append, List.length_singleton] at length
        omega
      have wide : 0x10000 ≤ char.toNat := by
        apply Nat.le_of_not_lt
        intro narrow
        rw [utf16Units, if_pos narrow] at tooMuch
        change column < codeUnits (upToColumn line column) + 1 at tooMuch
        omega
      have few := toNat_utf16Units_le char
      exact ⟨_, char, after, isLine.symm, wide, by omega⟩

end Columns

section Conversions

variable {column : UInt32} (bounded : codeUnits line < UInt32.size)

include bounded

theorem toNat_columnOfOffset :
    (columnOfOffset line offset).toNat = codeUnits (upToOffset line offset) := by
  apply toNat_utf16Length
  exact Nat.lt_of_le_of_lt (codeUnits_le_of_sublist upToOffset_prefix.sublist) bounded

theorem offsetOfColumn?_eq_some_iff :
    offsetOfColumn? line column = some offset ↔
      column.toNat ≤ codeUnits line ∧ utf8Length (upToColumn line column.toNat) = offset := by
  rw [offsetOfColumn?_eq (.of_codeUnits_lt bounded)]
  split
  · next onLine => simp [onLine]
  · next past => simp [past]

theorem offsetOfColumn?_eq_none_iff :
    offsetOfColumn? line column = none ↔ utf16Length line < column := by
  rw [offsetOfColumn?_eq (.of_codeUnits_lt bounded), UInt32.lt_iff_toNat_lt,
    toNat_utf16Length bounded]
  split
  · next onLine => simpa using onLine
  · next past => simpa using past

theorem offsetOfColumn?_columnOfOffset :
    offsetOfColumn? line (columnOfOffset line offset) =
      some (utf8Length (upToOffset line offset)) := by
  rw [offsetOfColumn?_eq_some_iff bounded, toNat_columnOfOffset bounded,
    upToColumn_of_prefix upToOffset_prefix]
  exact ⟨codeUnits_le_of_sublist upToOffset_prefix.sublist, rfl⟩

theorem toNat_columnOfOffset_of_offsetOfColumn?
    (isFound : offsetOfColumn? line column = some offset) :
    (columnOfOffset line offset).toNat = codeUnits (upToColumn line column.toNat) := by
  rcases (offsetOfColumn?_eq_some_iff bounded).mp isFound with ⟨_, rfl⟩
  rw [toNat_columnOfOffset bounded, upToOffset_of_prefix upToColumn_prefix]

theorem columnOfOffset_mono {later : Nat} (le : offset ≤ later) :
    columnOfOffset line offset ≤ columnOfOffset line later := by
  apply UInt32.le_iff_toNat_le.mpr
  rw [toNat_columnOfOffset bounded, toNat_columnOfOffset bounded]
  exact codeUnits_le_of_sublist (upToOffset_mono le).sublist

theorem offsetOfColumn?_mono {later : UInt32} (le : column ≤ later)
    (isFound : offsetOfColumn? line later = some offset) :
    ∃ earlier, offsetOfColumn? line column = some earlier ∧ earlier ≤ offset := by
  rcases (offsetOfColumn?_eq_some_iff bounded).mp isFound with ⟨onLine, rfl⟩
  have inFront := UInt32.le_iff_toNat_le.mp le
  refine ⟨_, (offsetOfColumn?_eq_some_iff bounded).mpr ⟨Nat.le_trans inFront onLine, rfl⟩, ?_⟩
  exact utf8Length_le_of_prefix (fitting_mono inFront)

end Conversions

/--
On a line whose code units can be counted in 32 bits, a column has an offset unless it is past the
end, and this offset is a boundary. An offset that is converted to a column and back is cut down to
the last boundary that is neither behind it nor behind the line. A column that is converted to an
offset and back stays the same, except that a column inside a surrogate pair becomes the one before.
Neither conversion ever goes back when its argument goes on.
-/
theorem conversions_round_down {line : Line} (bounded : codeUnits line < UInt32.size) :
    (∀ column, offsetOfColumn? line column = none ↔ utf16Length line < column) ∧
    (∀ column offset, offsetOfColumn? line column = some offset → IsBoundary line offset) ∧
    (∀ offset, ∃ found, offsetOfColumn? line (columnOfOffset line offset) = some found ∧
      IsGreatest {boundary | IsBoundary line boundary ∧ boundary ≤ min offset (utf8Length line)}
        found) ∧
    (∀ column offset, offsetOfColumn? line column = some offset →
      (InsidePair line column.toNat →
        (columnOfOffset line offset).toNat + 1 = column.toNat) ∧
      (¬InsidePair line column.toNat → columnOfOffset line offset = column)) ∧
    (∀ offset later, offset ≤ later →
      columnOfOffset line offset ≤ columnOfOffset line later) ∧
    (∀ column later found, column ≤ later → offsetOfColumn? line later = some found →
      ∃ earlier, offsetOfColumn? line column = some earlier ∧ earlier ≤ found) := by
  refine ⟨?_, ?_, ?_, ?_, ?_, ?_⟩
  · intro column
    exact offsetOfColumn?_eq_none_iff bounded
  · intro column offset isFound
    rcases exists_prefix_of_offsetOfColumn? isFound with ⟨start, begins, rfl⟩
    exact ⟨start, begins, rfl⟩
  · intro offset
    exact ⟨_, offsetOfColumn?_columnOfOffset bounded, isGreatest_utf8Length_upToOffset⟩
  · intro column offset isFound
    have back := toNat_columnOfOffset_of_offsetOfColumn? bounded isFound
    have onLine := ((offsetOfColumn?_eq_some_iff bounded).mp isFound).1
    constructor
    · intro inside
      rw [back]
      exact codeUnits_upToColumn_of_insidePair inside
    · intro outside
      apply UInt32.toNat_inj.mp
      rw [back]
      exact (codeUnits_upToColumn_or_insidePair onLine).resolve_right outside
  · intro offset later le
    exact columnOfOffset_mono bounded le
  · intro column later found le isFound
    exact offsetOfColumn?_mono bounded le isFound

/-- The second column of this line is inside its second character, which ends at the sixth byte. -/
theorem conversions_round_down_emoji :
    InsidePair "é😀x".toList 2 ∧ offsetOfColumn? "é😀x".toList 2 = some 2 ∧
      (columnOfOffset "é😀x".toList 2).toNat + 1 = 2 ∧
      (∃ found, offsetOfColumn? "é😀x".toList (columnOfOffset "é😀x".toList 5) = some found ∧
        IsGreatest {boundary | IsBoundary "é😀x".toList boundary ∧ boundary ≤ 5} found) := by
  have bounded : codeUnits "é😀x".toList < UInt32.size := by decide +kernel
  have inside : InsidePair "é😀x".toList 2 := ⟨['é'], '😀', ['x'], by decide +kernel⟩
  have isFound : offsetOfColumn? "é😀x".toList 2 = some 2 := by decide +kernel
  rcases conversions_round_down bounded with ⟨_, _, thereAndBack, backAndThere, _⟩
  exact ⟨inside, isFound, (backAndThere 2 2 isFound).1 inside, thereAndBack 5⟩

end PineAssist.Text
