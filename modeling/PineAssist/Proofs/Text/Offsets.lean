import PineAssist.Proofs.Text.CodeUnits

/-!
# Offsets and columns that fall between characters

A line can be cut at an offset only where a character begins or the line ends. What the conversions
between offsets and columns have in common is that they look for the longest beginning of the line
that is not too long, in bytes or in code units. `fitting` is this beginning for any way of
measuring characters, and the conversions are described by it.

Columns are counted in 32 bits while they are looked for. The search can therefore go wrong for one
column only: for the last one, if the character in front of it needs two code units and 32 bits do
not suffice to count both of them.
-/

namespace PineAssist.Text

variable {line before after start part : Line} {weight : Char → Nat} {budget offset : Nat}
  {char : Char} {column : UInt32}

section Fitting

/-- Length of a line if characters are measured in this way. -/
def weigh (weight : Char → Nat) (line : Line) : Nat :=
  line.foldr (fun char total => weight char + total) 0

/-- The longest beginning of a line that is within a budget. -/
def fitting (weight : Char → Nat) (budget : Nat) : Line → Line
  | [] => []
  | char :: rest =>
    if weight char ≤ budget then char :: fitting weight (budget - weight char) rest else []

theorem weigh_append : weigh weight (line ++ part) = weigh weight line + weigh weight part := by
  induction line with
  | nil => simp [weigh]
  | cons char rest ih =>
      simp only [weigh, List.cons_append, List.foldr_cons] at ih ⊢
      omega

theorem fitting_prefix : fitting weight budget line <+: line := by
  induction line generalizing budget with
  | nil => exact List.prefix_refl []
  | cons char rest ih =>
      simp only [fitting]
      split
      · exact (List.prefix_cons_inj char).mpr ih
      · exact List.nil_prefix

theorem weigh_fitting_le : weigh weight (fitting weight budget line) ≤ budget := by
  induction line generalizing budget with
  | nil => exact Nat.zero_le budget
  | cons char rest ih =>
      simp only [fitting]
      split
      · next fits =>
        have restFits : weigh weight (fitting weight (budget - weight char) rest) ≤
            budget - weight char := ih
        simp only [weigh, List.foldr_cons] at restFits ⊢
        omega
      · exact Nat.zero_le budget

theorem prefix_fitting (begins : start <+: line) (fits : weigh weight start ≤ budget) :
    start <+: fitting weight budget line := by
  induction line generalizing start budget with
  | nil => exact begins
  | cons char rest ih =>
      cases start with
      | nil => exact List.nil_prefix
      | cons first start =>
          rcases List.cons_prefix_cons.mp begins with ⟨rfl, restBegins⟩
          simp only [weigh, List.foldr_cons] at fits
          rw [fitting, if_pos (by omega)]
          apply (List.prefix_cons_inj first).mpr
          apply ih restBegins
          simp only [weigh]
          omega

theorem fitting_mono {more : Nat} (le : budget ≤ more) :
    fitting weight budget line <+: fitting weight more line :=
  prefix_fitting fitting_prefix (Nat.le_trans weigh_fitting_le le)

theorem fitting_eq_self (fits : weigh weight line ≤ budget) : fitting weight budget line = line :=
  fitting_prefix.eq_of_length_le (prefix_fitting (List.prefix_refl line) fits).length_le

/-- A beginning that is within the budget, while one character more is not, is the longest one. -/
theorem fitting_append (fits : weigh weight before ≤ budget)
    (full : ∀ char, after.head? = some char → budget < weigh weight before + weight char) :
    fitting weight budget (before ++ after) = before := by
  induction before generalizing budget with
  | nil =>
      cases after with
      | nil => rfl
      | cons char rest =>
          have tooMuch := full char rfl
          simp only [weigh, List.foldr_nil] at tooMuch
          rw [List.nil_append, fitting, if_neg (by omega)]
  | cons first before ih =>
      simp only [weigh, List.foldr_cons] at fits full
      rw [List.cons_append, fitting, if_pos (by omega), ih]
      · simp only [weigh]
        omega
      · intro char isNext
        have tooMuch := full char isNext
        simp only [weigh]
        omega

end Fitting

section Offsets

@[simp] theorem utf8Length_append (line part : Line) :
    utf8Length (line ++ part) = utf8Length line + utf8Length part :=
  weigh_append

theorem utf8Length_le_of_prefix (begins : start <+: line) : utf8Length start ≤ utf8Length line := by
  rcases begins with ⟨rest, rfl⟩
  rw [utf8Length_append]
  omega

theorem countFitting_eq_length_fitting (counted : Nat) :
    countFitting counted budget line = counted + (fitting Char.utf8Size budget line).length := by
  induction line generalizing counted budget with
  | nil => rfl
  | cons char rest ih =>
      rw [countFitting, fitting]
      split
      · rw [ih, List.length_cons]
        omega
      · rfl

theorem upToOffset_eq_fitting : upToOffset line offset = fitting Char.utf8Size offset line := by
  rw [upToOffset, countFitting_eq_length_fitting, Nat.zero_add]
  exact (List.prefix_iff_eq_take.mp fitting_prefix).symm

theorem upToOffset_prefix : upToOffset line offset <+: line := by
  rw [upToOffset_eq_fitting]
  exact fitting_prefix

theorem upToOffset_mono {later : Nat} (le : offset ≤ later) :
    upToOffset line offset <+: upToOffset line later := by
  simp only [upToOffset_eq_fitting]
  exact fitting_mono le

/-- Every character takes some bytes, so no longer beginning has the same length. -/
theorem upToOffset_append (before after : Line) :
    upToOffset (before ++ after) (utf8Length before) = before := by
  rw [upToOffset_eq_fitting]
  apply fitting_append (Nat.le_refl _)
  intro char _
  have positive := char.utf8Size_pos
  simp only [weigh]
  omega

theorem upToOffset_of_prefix (begins : start <+: line) :
    upToOffset line (utf8Length start) = start := by
  rcases begins with ⟨rest, rfl⟩
  exact upToOffset_append start rest

theorem eq_of_prefix_of_utf8Length_eq {other : Line} (begins : start <+: line)
    (otherBegins : other <+: line) (same : utf8Length start = utf8Length other) :
    start = other := by
  rw [← upToOffset_of_prefix begins, ← upToOffset_of_prefix otherBegins, same]

theorem splitAtOffset?_eq_some_iff :
    splitAtOffset? line offset = some (before, after) ↔
      before ++ after = line ∧ utf8Length before = offset := by
  constructor
  · intro isSplit
    simp only [splitAtOffset?] at isSplit
    split at isSplit
    · next atOffset =>
      cases isSplit
      exact ⟨List.prefix_iff_eq_append.mp upToOffset_prefix, atOffset⟩
    · cases isSplit
  · rintro ⟨rfl, rfl⟩
    simp only [splitAtOffset?, upToOffset_append, if_true, List.drop_left]

/-- The text between two offsets, provided that the line can be cut at both. -/
def slice? (line : Line) (start stop : Nat) : Option Line := do
  let (upTo, _) ← splitAtOffset? line stop
  let (_, part) ← splitAtOffset? upTo start
  some part

theorem slice?_eq_some_iff {stop : Nat} :
    slice? line offset stop = some part ↔
      ∃ before after, line = before ++ part ++ after ∧ offset = utf8Length before ∧
        stop = utf8Length before + utf8Length part := by
  constructor
  · intro isSlice
    simp only [slice?, Option.bind_eq_bind, Option.bind_eq_some_iff, Prod.exists] at isSlice
    rcases isSlice with ⟨upTo, after, atStop, before, rest, atStart, isPart⟩
    cases isPart
    rcases splitAtOffset?_eq_some_iff.mp atStop with ⟨isLine, isStop⟩
    rcases splitAtOffset?_eq_some_iff.mp atStart with ⟨rfl, isStart⟩
    rw [utf8Length_append] at isStop
    exact ⟨before, after, isLine.symm, isStart.symm, isStop.symm⟩
  · rintro ⟨before, after, rfl, rfl, rfl⟩
    have atStop : splitAtOffset? (before ++ part ++ after) (utf8Length before + utf8Length part) =
        some (before ++ part, after) :=
      splitAtOffset?_eq_some_iff.mpr ⟨rfl, utf8Length_append before part⟩
    have atStart : splitAtOffset? (before ++ part) (utf8Length before) = some (before, part) :=
      splitAtOffset?_eq_some_iff.mpr ⟨rfl, rfl⟩
    simp only [slice?, atStop, atStart, Option.bind_eq_bind, Option.bind_some]

end Offsets

section Columns

/-- The longest beginning of the line that has at most so many code units. -/
def upToColumn (line : Line) (column : Nat) : Line :=
  fitting (fun char => (utf16Units char).toNat) column line

/-- Whether 32 bits suffice to count the code units of every character in front of the column. -/
def ColumnsSuffice (line : Line) (column : Nat) : Prop :=
  ∀ before char after, line = before ++ char :: after → codeUnits before < column →
    codeUnits before + (utf16Units char).toNat < UInt32.size

theorem toNat_utf16Units_le (char : Char) : (utf16Units char).toNat ≤ 2 := by
  unfold utf16Units
  split <;> decide

/-- Every column but the last one of 32 bits can be found on every line. -/
theorem ColumnsSuffice.of_lt {column : Nat} (below : column + 1 < UInt32.size) :
    ColumnsSuffice line column := by
  intro before char after _ inFront
  have few := toNat_utf16Units_le char
  omega

/-- Every column can be found on a line of fewer code units than 32 bits can count. -/
theorem ColumnsSuffice.of_codeUnits_lt {column : Nat} (bounded : codeUnits line < UInt32.size) :
    ColumnsSuffice line column := by
  rintro before char after rfl _
  rw [codeUnits_append, codeUnits_cons] at bounded
  omega

/-- The column of a boundary can be found on every line: nothing behind it is counted. -/
theorem ColumnsSuffice.of_prefix (begins : start <+: line)
    (bounded : codeUnits start < UInt32.size) : ColumnsSuffice line (codeUnits start) := by
  rintro before char after rfl inFront
  have next : before ++ [char] <+: before ++ char :: after := ⟨after, by simp⟩
  have counted : codeUnits (before ++ [char]) ≤ codeUnits start := by
    apply codeUnits_le_of_sublist
    rcases List.prefix_or_prefix_of_prefix next begins with inside | outside
    · exact inside.sublist
    · rcases List.prefix_concat_iff.mp outside with rfl | shorter
      · exact List.Sublist.refl _
      · have less := codeUnits_le_of_sublist shorter.sublist
        omega
  rw [codeUnits_append, codeUnits_cons, codeUnits_nil] at counted
  omega

/-- Wherever the search stops, a character begins or the line ends. -/
theorem exists_prefix_of_seekColumn {units : UInt32} {found : Nat}
    (isFound : seekColumn column units offset line = some found) :
    ∃ start, start <+: line ∧ found = offset + utf8Length start := by
  fun_induction seekColumn column units offset line with
  | case1 => exact ⟨[], List.nil_prefix, by simpa using isFound.symm⟩
  | case2 => cases isFound
  | case3 => exact ⟨[], List.nil_prefix, by simpa using isFound.symm⟩
  | case4 => exact ⟨[], List.nil_prefix, by simpa using isFound.symm⟩
  | case5 units offset char rest _ _ ih =>
      rcases ih isFound with ⟨start, begins, rfl⟩
      refine ⟨char :: start, (List.prefix_cons_inj char).mpr begins, ?_⟩
      rw [utf8Length_cons]
      omega

theorem exists_prefix_of_offsetOfColumn? (isFound : offsetOfColumn? line column = some offset) :
    ∃ start, start <+: line ∧ offset = utf8Length start := by
  simpa using exists_prefix_of_seekColumn isFound

theorem upToColumn_append {column : Nat} (inFront : codeUnits before ≤ column)
    (full : ∀ char, after.head? = some char →
      column < codeUnits before + (utf16Units char).toNat) :
    upToColumn (before ++ after) column = before :=
  fitting_append inFront full

theorem upToColumn_of_prefix (begins : start <+: line) :
    upToColumn line (codeUnits start) = start := by
  rcases begins with ⟨rest, rfl⟩
  apply upToColumn_append (Nat.le_refl _)
  intro char _
  have positive := toNat_utf16Units_pos char
  omega

theorem upToColumn_prefix {column : Nat} : upToColumn line column <+: line :=
  fitting_prefix

theorem codeUnits_upToColumn_le {column : Nat} : codeUnits (upToColumn line column) ≤ column :=
  weigh_fitting_le

theorem prefix_upToColumn {column : Nat} (begins : start <+: line)
    (inFront : codeUnits start ≤ column) : start <+: upToColumn line column :=
  prefix_fitting begins inFront

theorem upToColumn_eq_self {column : Nat} (inFront : codeUnits line ≤ column) :
    upToColumn line column = line :=
  fitting_eq_self inFront

/-- The search has passed `before` without reaching the column and is about to look at `after`. -/
theorem seekColumn_eq (inFront : codeUnits before ≤ column.toNat)
    (suffice : ColumnsSuffice (before ++ after) column.toNat) :
    seekColumn column (utf16Length before) (utf8Length before) after =
      if column.toNat ≤ codeUnits (before ++ after) then
        some (utf8Length (upToColumn (before ++ after) column.toNat))
      else none := by
  induction after generalizing before with
  | nil =>
      have passed : (utf16Length before).toNat = codeUnits before :=
        toNat_utf16Length (Nat.lt_of_le_of_lt inFront column.toNat_lt)
      simp only [seekColumn, UInt32.le_iff_toNat_le, passed]
      rw [upToColumn_append inFront (by simp), List.append_nil]
  | cons char rest ih =>
      have passed : (utf16Length before).toNat = codeUnits before :=
        toNat_utf16Length (Nat.lt_of_le_of_lt inFront column.toNat_lt)
      have positive := toNat_utf16Units_pos char
      simp only [seekColumn, UInt32.le_iff_toNat_le, UInt32.lt_iff_toNat_lt, passed]
      by_cases reached : column.toNat ≤ codeUnits before
      · have full : column.toNat < codeUnits before + (utf16Units char).toNat := by omega
        rw [if_pos reached, upToColumn_append inFront (by simpa using full), codeUnits_append,
          if_pos (by omega)]
      · have unwrapped := suffice before char rest rfl (by omega)
        have next : (utf16Length before + utf16Units char).toNat =
            codeUnits before + (utf16Units char).toNat := by
          rw [UInt32.toNat_add, passed]
          exact Nat.mod_eq_of_lt unwrapped
        rw [if_neg reached, next]
        by_cases inside : column.toNat < codeUnits before + (utf16Units char).toNat
        · rw [if_pos inside, upToColumn_append inFront (by simpa using inside), codeUnits_append,
            codeUnits_cons, if_pos (by omega)]
        · have further : codeUnits (before ++ [char]) ≤ column.toNat := by
            rw [codeUnits_append, codeUnits_cons, codeUnits_nil]
            omega
          have continued := ih further (by simpa using suffice)
          rw [if_neg inside]
          simpa [utf16Length_append] using continued

/-- The search finds the longest beginning that ends at the column or in front of it. -/
theorem offsetOfColumn?_eq (suffice : ColumnsSuffice line column.toNat) :
    offsetOfColumn? line column =
      if column.toNat ≤ codeUnits line then some (utf8Length (upToColumn line column.toNat))
      else none := by
  have sought : seekColumn column (utf16Length []) (utf8Length []) line = _ :=
    seekColumn_eq (Nat.zero_le _) suffice
  exact sought

end Columns

end PineAssist.Text
