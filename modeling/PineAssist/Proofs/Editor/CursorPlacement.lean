import PineAssist.Editor.Completion
import PineAssist.Editor.Hover
import PineAssist.Proofs.Text.Offsets

/-!
# Where a cursor stands

A position may name any line and any column, also one inside a character or past the end of the
line. The cursor for it always stands between two characters: at the last place that is not behind
the column. Completion and hover cut the line there and at other offsets that they compute from
there, and each of these cuts is between characters too. A cursor that is refused because it is
misplaced therefore never comes from a position.
-/

namespace PineAssist.Text

variable {property : Char → Bool} {line : Line}

theorem trailing_suffix : trailing property line <:+ line := by
  have begins := List.takeWhile_prefix property (l := line.reverse)
  have ends := List.reverse_suffix.mpr begins
  rwa [List.reverse_reverse] at ends

theorem exists_eq_trimDots_append (line : Line) :
    ∃ dots, (∀ char ∈ dots, char = '.') ∧
      line = line.takeWhile (· == '.') ++ trimDots line ++ dots := by
  refine ⟨trailing (· == '.') (line.dropWhile (· == '.')), ?_, ?_⟩
  · intro char listed
    simpa using of_mem_trailing listed
  · rw [List.append_assoc, trimDots_append_trailing, List.takeWhile_append_dropWhile]

end PineAssist.Text

namespace PineAssist.Editor

open Text (ColumnsSuffice Line codeUnits isIdentifierChar offsetOfColumn? slice? trailing trimDots
  upToColumn upToOffset utf8Length)

variable {before after line : Line}

/-- The identifiers and dots in front of a place. -/
def dottedEnd (before : Line) : Line :=
  trailing (fun char => isIdentifierChar char || char == '.') before

/-- The identifiers and dots around a place, as far as a token may reach. -/
def dottedName (before after : Line) : Line :=
  dottedEnd before ++ after.takeWhile isIdentifierChar

/-- Every piece that completion and hover take out of the line of a cursor lies between two places
at which the line can be cut. -/
structure Cursor.Cuts (cursor : Cursor) (before after : Line) : Prop where
  /-- The line is cut in two at the cursor. -/
  halves : cursor.split? = some (before, after)
  /-- Nothing is lost between the two parts. -/
  whole : before ++ after = cursor.line
  /-- The identifier that has been begun in front of the cursor. -/
  word : slice? before (utf8Length before - utf8Length (trailing isIdentifierChar before))
    (utf8Length before) = some (trailing isIdentifierChar before)
  /-- The dotted name around the cursor, with any dots at its ends. -/
  name : slice? cursor.line (cursor.offset - utf8Length (dottedEnd before))
    (cursor.offset + utf8Length (after.takeWhile isIdentifierChar)) = some (dottedName before after)
  /-- The token without these dots, and what stands in front of its two ends. -/
  token : ∀ token, Token.between? before after = some token →
    slice? cursor.line token.start token.stop = some token.text ∧
      slice? cursor.line 0 token.start = some (upToOffset cursor.line token.start) ∧
      slice? cursor.line 0 token.stop = some (upToOffset cursor.line token.stop)

section Pieces

variable {token : Token}

theorem isIdentifierChar_or_eq_dot_of_mem_dottedName (before after : Line) {char : Char}
    (listed : char ∈ dottedName before after) : isIdentifierChar char ∨ char = '.' := by
  rcases List.mem_append.mp listed with inFront | behind
  · simpa using Text.of_mem_trailing inFront
  · left
    exact List.all_eq_true.mp List.all_takeWhile char behind

theorem exists_eq_dottedName_append (before after : Line) :
    ∃ front back, before = front ++ dottedEnd before ∧
      before ++ after = front ++ dottedName before after ++ back ∧
      (∀ char, front.getLast? = some char → isIdentifierChar char = false ∧ char ≠ '.') ∧
      ∀ char, back.head? = some char → isIdentifierChar char = false := by
  rcases Text.exists_eq_append_trailing (fun char => isIdentifierChar char || char == '.') before
    with ⟨front, isBefore, begins⟩
  refine ⟨front, after.dropWhile isIdentifierChar, isBefore, ?_, ?_, ?_⟩
  · calc
      before ++ after =
          front ++ dottedEnd before ++
            (after.takeWhile isIdentifierChar ++ after.dropWhile isIdentifierChar) := by
        rw [List.takeWhile_append_dropWhile]
        exact congrArg (· ++ after) isBefore
      _ = front ++ dottedName before after ++ after.dropWhile isIdentifierChar := by
        simp only [dottedName, List.append_assoc]
  · intro char isLast
    simpa using begins char isLast
  · intro char isFirst
    have stopped := List.head?_dropWhile_not isIdentifierChar after
    rw [isFirst] at stopped
    simpa using stopped

theorem Token.of_between? (isToken : Token.between? before after = some token) :
    token.text = trimDots (dottedName before after) ∧ token.text ≠ [] ∧
      token.start = utf8Length before - utf8Length (dottedEnd before) +
        utf8Length ((dottedName before after).takeWhile (· == '.')) ∧
      token.stop = token.start + utf8Length token.text := by
  simp only [between?] at isToken
  split at isToken
  · cases isToken
  · next nonempty =>
    cases isToken
    exact ⟨rfl, by simpa using nonempty, rfl, rfl⟩

/-- A token in its place on a line: no more than dots stand between it and what it cannot contain,
and the identifier at its end is complete. -/
structure Token.Stands (token : Token) (front dots behind : Line) : Prop where
  begins : ∀ char, front.getLast? = some char → isIdentifierChar char = false ∧ char ≠ '.'
  isDots : ∀ char ∈ dots, char = '.'
  inside : ∀ char ∈ token.text, isIdentifierChar char ∨ char = '.'
  nonempty : token.text ≠ []
  noDotFirst : token.text.head? ≠ some '.'
  noDotLast : token.text.getLast? ≠ some '.'
  ends : ∀ char, behind.head? = some char → isIdentifierChar char = false
  isStart : token.start = utf8Length (front ++ dots)
  isStop : token.stop = utf8Length (front ++ dots ++ token.text)

theorem Token.exists_stands (isToken : Token.between? before after = some token) :
    ∃ front dots behind, before ++ after = front ++ dots ++ token.text ++ behind ∧
      token.Stands front dots behind := by
  rcases Token.of_between? isToken with ⟨isText, nonempty, isStart, isStop⟩
  rcases exists_eq_dottedName_append before after with ⟨front, back, isBefore, isLine, begins, ends⟩
  rcases Text.exists_eq_trimDots_append (dottedName before after) with ⟨trimmed, isDots, isName⟩
  have start : token.start =
      utf8Length (front ++ (dottedName before after).takeWhile (· == '.')) := by
    have isLength : utf8Length before = utf8Length front + utf8Length (dottedEnd before) := by
      rw [← Text.utf8Length_append, ← isBefore]
    rw [isStart, Text.utf8Length_append]
    omega
  refine ⟨front, (dottedName before after).takeWhile (· == '.'), trimmed ++ back, ?_, ?_⟩
  · calc
      before ++ after = front ++ dottedName before after ++ back := isLine
      _ = front ++ ((dottedName before after).takeWhile (· == '.') ++
            trimDots (dottedName before after) ++ trimmed) ++ back := by rw [← isName]
      _ = _ := by simp only [isText, List.append_assoc]
  · constructor
    · exact begins
    · intro char listed
      simpa using List.all_eq_true.mp List.all_takeWhile char listed
    · intro char listed
      apply isIdentifierChar_or_eq_dot_of_mem_dottedName before after
      rw [isName, List.append_assoc]
      apply List.mem_append_right
      apply List.mem_append_left
      rwa [← isText]
    · exact nonempty
    · rw [isText]
      apply Text.head?_trimDots_ne
    · rw [isText]
      apply Text.getLast?_trimDots_ne
    · intro char isFirst
      cases trimmed with
      | nil => exact ends char isFirst
      | cons first others =>
          have isDot : char = '.' := by
            apply isDots
            cases isFirst
            exact List.mem_cons_self
          rw [isDot]
          decide
    · exact start
    · rw [isStop, start, Text.utf8Length_append _ token.text]

theorem Cursor.cuts_append (before after : Line) :
    Cursor.Cuts ⟨before ++ after, utf8Length before⟩ before after where
  halves := Text.splitAtOffset?_eq_some_iff.mpr ⟨rfl, rfl⟩
  whole := rfl
  word := by
    have ends : trailing isIdentifierChar before <:+ before := Text.trailing_suffix
    rcases ends with ⟨front, isBefore⟩
    have isLength : utf8Length before =
        utf8Length front + utf8Length (trailing isIdentifierChar before) := by
      rw [← Text.utf8Length_append, isBefore]
    apply Text.slice?_eq_some_iff.mpr
    refine ⟨front, [], by rw [isBefore, List.append_nil], ?_, isLength⟩
    omega
  name := by
    rcases exists_eq_dottedName_append before after with ⟨front, back, isBefore, isLine, _⟩
    have isLength : utf8Length before = utf8Length front + utf8Length (dottedEnd before) := by
      rw [← Text.utf8Length_append, ← isBefore]
    apply Text.slice?_eq_some_iff.mpr
    refine ⟨front, back, isLine, ?_, ?_⟩
    · show utf8Length before - utf8Length (dottedEnd before) = utf8Length front
      omega
    · show utf8Length before + utf8Length (after.takeWhile isIdentifierChar) = _
      rw [dottedName, Text.utf8Length_append]
      omega
  token := by
    intro token isToken
    rcases Token.exists_stands isToken with ⟨front, dots, behind, isLine, stands⟩
    simp only [isLine, stands.isStart, stands.isStop, Text.slice?_eq_some_iff]
    refine ⟨⟨front ++ dots, behind, rfl, rfl, Text.utf8Length_append _ _⟩,
      ⟨[], token.text ++ behind, ?_⟩, ⟨[], behind, ?_⟩⟩
    · have upTo := Text.upToOffset_append (front ++ dots) (token.text ++ behind)
      rw [List.append_assoc, upTo]
      simp
    · rw [Text.upToOffset_append]
      simp

end Pieces

section Positions

variable {content : String} {position : Position}

/-- A position on a line that exists is between two characters of the line, or at its end. -/
theorem Cursor.exists_at? (isLine : (Text.lines content)[position.line.toNat]? = some line) :
    ∃ before after, line = before ++ after ∧
      Cursor.at? content position = some ⟨line, utf8Length before⟩ := by
  rw [Cursor.at?, isLine, Option.map_some]
  cases isFound : offsetOfColumn? line position.character with
  | none => exact ⟨line, [], by simp, rfl⟩
  | some offset =>
      rcases Text.exists_prefix_of_offsetOfColumn? isFound with ⟨before, ⟨after, rfl⟩, rfl⟩
      exact ⟨before, after, rfl, rfl⟩

theorem Cursor.at?_eq_upToColumn
    (isLine : (Text.lines content)[position.line.toNat]? = some line)
    (suffice : ColumnsSuffice line position.character.toNat) :
    Cursor.at? content position =
      some ⟨line, utf8Length (upToColumn line position.character.toNat)⟩ := by
  rw [Cursor.at?, isLine, Option.map_some, Text.offsetOfColumn?_eq suffice]
  by_cases onLine : position.character.toNat ≤ codeUnits line
  · rw [if_pos onLine, Option.getD_some]
  · rw [if_neg onLine, Option.getD_none, Text.upToColumn_eq_self (by omega)]

/--
On a line that exists, a position leads to the last place between two characters whose column is not
behind the position, and so to the end of the line if the position is past it. Only where 32 bits do
not suffice to find this place may it be another one. The line can be cut there and wherever
completion and hover cut it, so that the token there is never refused.
-/
theorem Cursor.stands_between_characters (content : String) (position : Position) {line : Line}
    (isLine : (Text.lines content)[position.line.toNat]? = some line) :
    ∃ before after,
      Cursor.at? content position = some ⟨line, utf8Length before⟩ ∧
      Cursor.Cuts ⟨line, utf8Length before⟩ before after ∧
      (ColumnsSuffice line position.character.toNat →
        codeUnits before ≤ position.character.toNat ∧
          ∀ start, start <+: line → codeUnits start ≤ position.character.toNat →
            utf8Length start ≤ utf8Length before) ∧
      (codeUnits line ≤ position.character.toNat → before = line) ∧
      Cursor.token? ⟨line, utf8Length before⟩ = .ok (Token.between? before after) ∧
      (∀ catalog, completions catalog content position =
        ((Context.of before).entries catalog).map .ofEntry) ∧
      tokenAt? content position = (Token.between? before after).map (line, ·) := by
  rcases Cursor.exists_at? isLine with ⟨before, after, rfl, isCursor⟩
  have cuts := Cursor.cuts_append before after
  have isToken : Cursor.token? ⟨before ++ after, utf8Length before⟩ =
      .ok (Token.between? before after) := by
    rw [Cursor.token?, cuts.halves]
  have isUpTo (suffice : ColumnsSuffice (before ++ after) position.character.toNat) :
      upToColumn (before ++ after) position.character.toNat = before := by
    have placed := Cursor.at?_eq_upToColumn isLine suffice
    rw [isCursor, Option.some.injEq, Cursor.mk.injEq] at placed
    exact Text.eq_of_prefix_of_utf8Length_eq Text.upToColumn_prefix
      (List.prefix_append before after) placed.2.symm
  refine ⟨before, after, isCursor, cuts, ?_, ?_, isToken, ?_, ?_⟩
  · intro suffice
    constructor
    · rw [← isUpTo suffice]
      exact Text.codeUnits_upToColumn_le
    · intro start begins inFront
      have isPart := Text.prefix_upToColumn begins inFront
      rw [isUpTo suffice] at isPart
      exact Text.utf8Length_le_of_prefix isPart
  · intro past
    have suffice : ColumnsSuffice (before ++ after) position.character.toNat :=
      .of_codeUnits_lt (Nat.lt_of_le_of_lt past position.character.toNat_lt)
    exact (isUpTo suffice).symm.trans (Text.upToColumn_eq_self past)
  · intro catalog
    rw [completions, isCursor, Option.bind_some, cuts.halves]
  · rw [tokenAt?, isCursor]
    simp only [isToken]
    cases Token.between? before after <;> rfl

/-- A position inside a character that takes two code units, and one far past the end. -/
theorem Cursor.stands_between_characters_surrogates :
    (Text.lines "x\na😀b")[1]? = some ['a', '😀', 'b'] ∧
      (∃ before, Cursor.at? "x\na😀b" ⟨1, 2⟩ = some ⟨['a', '😀', 'b'], utf8Length before⟩ ∧
        codeUnits before ≤ 2 ∧ ∀ start, start <+: ['a', '😀', 'b'] → codeUnits start ≤ 2 →
          utf8Length start ≤ utf8Length before) ∧
      Cursor.at? "x\na😀b" ⟨1, 4294967295⟩ =
        some ⟨['a', '😀', 'b'], utf8Length ['a', '😀', 'b']⟩ := by
  have isLine : (Text.lines "x\na😀b")[1]? = some ['a', '😀', 'b'] := by decide +kernel
  have inside := Cursor.stands_between_characters "x\na😀b" ⟨1, 2⟩ isLine
  have past := Cursor.stands_between_characters "x\na😀b" ⟨1, 4294967295⟩ isLine
  rcases inside with ⟨before, _, isCursor, _, largest, _⟩
  rcases past with ⟨upTo, _, isPast, _, _, atEnd, _⟩
  refine ⟨isLine, ⟨before, isCursor, largest (.of_lt (by decide))⟩, ?_⟩
  rw [isPast, atEnd (by decide)]

/-- The character that covers the column begins behind the first byte. -/
example : Cursor.at? "x\na😀b" ⟨1, 2⟩ = some ⟨['a', '😀', 'b'], 1⟩ := by decide +kernel

end Positions

end PineAssist.Editor
