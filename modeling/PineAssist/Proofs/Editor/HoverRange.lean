import PineAssist.Proofs.Editor.HoveredName

/-!
# The range of a hover

A hover marks the token that was looked up. Its range is made of columns, while the token was found
by offsets. Since both ends of a token are between characters, the columns lead back to the same
offsets. Resting on the end of the range shows the same hover: the dots and the identifiers in front
of this place are those that were found before, and no identifier goes on behind it, whether dots
were trimmed there or not.

Columns have 32 bits. A range can say where a token ends only if they suffice to count the code
units up to there.
-/

namespace PineAssist.Editor

open Text (Line codeUnits columnOfOffset isIdentifierChar slice? upToOffset utf16Length utf8Length)

variable {content : String} {position : Position} {line : Line} {token : Token}

theorem exists_of_tokenAt? (isToken : tokenAt? content position = some (line, token)) :
    ∃ before after, line = before ++ after ∧
      (Text.lines content)[position.line.toNat]? = some line ∧
      Token.between? before after = some token := by
  cases isLine : (Text.lines content)[position.line.toNat]? with
  | none => simp [tokenAt?, Cursor.at?, isLine] at isToken
  | some found =>
      rcases Cursor.exists_at? isLine with ⟨before, after, rfl, isCursor⟩
      rw [tokenAt?_of_at? isCursor] at isToken
      rcases Option.map_eq_some_iff.mp isToken with ⟨_, between, isPair⟩
      cases isPair
      exact ⟨before, after, rfl, rfl, between⟩

/-- A column that can be counted leads back to the boundary that it belongs to. -/
theorem Cursor.at?_utf16Length {number : UInt32} {start : Line}
    (isLine : (Text.lines content)[number.toNat]? = some line) (begins : start <+: line)
    (bounded : codeUnits start < UInt32.size) :
    Cursor.at? content ⟨number, utf16Length start⟩ = some ⟨line, utf8Length start⟩ := by
  have isColumn := Text.toNat_utf16Length bounded
  have suffice := Text.ColumnsSuffice.of_prefix begins bounded
  rw [← isColumn] at suffice
  have placed : Cursor.at? content ⟨number, utf16Length start⟩ = _ :=
    Cursor.at?_eq_upToColumn isLine suffice
  rw [placed, isColumn, Text.upToColumn_of_prefix begins]

namespace Token.Stands

variable {front dots behind : Line} (stands : token.Stands front dots behind)

include stands

/-- The end of a token is a place at which the same token is found. -/
theorem between?_at_stop : Token.between? (front ++ dots ++ token.text) behind = some token := by
  have completed : behind.takeWhile isIdentifierChar = [] := by
    have isRun : ([] ++ behind).takeWhile isIdentifierChar = [] :=
      Text.takeWhile_run (by simp) stands.ends
    exact isRun
  have isText : token.text ++ behind.takeWhile isIdentifierChar = token.text := by
    rw [completed, List.append_nil]
  have found := Token.between?_eq_some_behind_dots stands.begins stands.isDots stands.inside isText
    stands.nonempty stands.noDotFirst stands.noDotLast
  rw [← Text.utf8Length_append, ← stands.isStart, ← stands.isStop] at found
  rw [List.append_assoc]
  exact found

theorem columns_eq :
    columnOfOffset (front ++ dots ++ token.text ++ behind) token.start =
        utf16Length (front ++ dots) ∧
      columnOfOffset (front ++ dots ++ token.text ++ behind) token.stop =
        utf16Length (front ++ dots ++ token.text) := by
  constructor
  · rw [stands.isStart, columnOfOffset, List.append_assoc, Text.upToOffset_append]
  · rw [stands.isStop, columnOfOffset, Text.upToOffset_append]

theorem slice?_eq :
    slice? (front ++ dots ++ token.text ++ behind) token.start token.stop = some token.text := by
  apply Text.slice?_eq_some_iff.mpr
  refine ⟨front ++ dots, behind, rfl, stands.isStart, ?_⟩
  rw [stands.isStop, Text.utf8Length_append]

section Document

variable {number : UInt32}
  (isLine : (Text.lines content)[number.toNat]? = some (front ++ dots ++ token.text ++ behind))
  (bounded : codeUnits (front ++ dots ++ token.text) < UInt32.size)

include isLine bounded

theorem cursor_at_start : Cursor.at? content ⟨number, utf16Length (front ++ dots)⟩ =
    some ⟨front ++ dots ++ token.text ++ behind, token.start⟩ := by
  rw [stands.isStart]
  apply Cursor.at?_utf16Length isLine
  · rw [List.append_assoc]
    exact List.prefix_append _ _
  · rw [Text.codeUnits_append] at bounded
    omega

theorem cursor_at_stop : Cursor.at? content ⟨number, utf16Length (front ++ dots ++ token.text)⟩ =
    some ⟨front ++ dots ++ token.text ++ behind, token.stop⟩ := by
  rw [stands.isStop]
  apply Cursor.at?_utf16Length isLine
  · exact List.prefix_append _ behind
  · exact bounded

theorem token_at_stop : tokenAt? content ⟨number, utf16Length (front ++ dots ++ token.text)⟩ =
    some (front ++ dots ++ token.text ++ behind, token) := by
  have isCursor := stands.cursor_at_stop isLine bounded
  rw [stands.isStop] at isCursor
  rw [tokenAt?_of_at? isCursor, stands.between?_at_stop, Option.map_some]

end Document

end Token.Stands

/--
A hover is on the line of its position and about a token there, which consists of identifiers and
dots and has no dot at either end. If 32 bits suffice to count the code units up to the end of the
token, the range of the hover is not empty, the cursors at its ends enclose exactly the token, and
at the end of the range the same hover is shown again.
-/
theorem Hover.marks_token {catalog : Catalog} {hover : Hover}
    (shown : hover? catalog content position = some hover) :
    ∃ line token entry,
      (Text.lines content)[position.line.toNat]? = some line ∧
      tokenAt? content position = some (line, token) ∧
      catalog.find? (String.ofList token.text) = some entry ∧
      hover.contents = Hover.contentsOf entry ∧
      (∀ char ∈ token.text, isIdentifierChar char ∨ char = '.') ∧
      token.text.head? ≠ some '.' ∧ token.text.getLast? ≠ some '.' ∧
      hover.range.start.line = position.line ∧ hover.range.stop.line = position.line ∧
      (codeUnits (upToOffset line token.stop) < UInt32.size →
        hover.range.start.character < hover.range.stop.character ∧
        (∃ start stop, Cursor.at? content hover.range.start = some ⟨line, start⟩ ∧
          Cursor.at? content hover.range.stop = some ⟨line, stop⟩ ∧
          slice? line start stop = some token.text) ∧
        hover? catalog content hover.range.stop = some hover) := by
  rcases hover?_eq_some_iff.mp shown with ⟨line, token, entry, isToken, found, documented, rfl⟩
  rcases exists_of_tokenAt? isToken with ⟨before, after, isWhole, isLine, between⟩
  rcases Token.exists_stands between with ⟨front, dots, behind, isParts, stands⟩
  rw [isParts] at isWhole
  subst isWhole
  rcases stands.columns_eq with ⟨isStart, isStop⟩
  refine ⟨_, token, entry, isLine, isToken, found, rfl, stands.inside, stands.noDotFirst,
    stands.noDotLast, rfl, rfl, ?_⟩
  intro bounded
  rw [stands.isStop, Text.upToOffset_append] at bounded
  simp only [Range.onLine, isStart, isStop]
  refine ⟨?_, ⟨token.start, token.stop, ?_, ?_, ?_⟩, ?_⟩
  · exact Text.utf16Length_lt_append bounded stands.nonempty
  · exact stands.cursor_at_start isLine bounded
  · exact stands.cursor_at_stop isLine bounded
  · exact stands.slice?_eq
  · apply hover?_eq_some_iff.mpr
    refine ⟨_, token, entry, stands.token_at_stop isLine bounded, found, documented, ?_⟩
    rw [isStart, isStop]
    rfl

/-- A catalogue that documents one name. -/
def averageOnly : Catalog :=
  ⟨[⟨"ta.sma", .function, "ta.sma(source, length)", "Simple moving average.", none⟩]⟩

/--
Behind a name that dots surround, the name is marked without them, and its end shows it again.
-/
theorem Hover.marks_token_betweenDots :
    hover? averageOnly "x\n😀 ..ta.sma..(close)" ⟨1, 13⟩ =
        some ⟨"**ta.sma**\n\nta.sma(source, length)\n\nSimple moving average.",
          ⟨⟨1, 5⟩, ⟨1, 11⟩⟩⟩ ∧
      hover? averageOnly "x\n😀 ..ta.sma..(close)" ⟨1, 11⟩ =
        some ⟨"**ta.sma**\n\nta.sma(source, length)\n\nSimple moving average.",
          ⟨⟨1, 5⟩, ⟨1, 11⟩⟩⟩ ∧
      ∃ line start stop, Cursor.at? "x\n😀 ..ta.sma..(close)" ⟨1, 5⟩ = some ⟨line, start⟩ ∧
        Cursor.at? "x\n😀 ..ta.sma..(close)" ⟨1, 11⟩ = some ⟨line, stop⟩ ∧
        slice? line start stop = some "ta.sma".toList := by
  have shown : hover? averageOnly "x\n😀 ..ta.sma..(close)" ⟨1, 13⟩ =
      some ⟨"**ta.sma**\n\nta.sma(source, length)\n\nSimple moving average.",
        ⟨⟨1, 5⟩, ⟨1, 11⟩⟩⟩ := by decide +kernel
  have found : tokenAt? "x\n😀 ..ta.sma..(close)" ⟨1, 13⟩ =
      some ("😀 ..ta.sma..(close)".toList, ⟨"ta.sma".toList, 7, 13⟩) := by decide +kernel
  rcases Hover.marks_token shown with
    ⟨line, token, _, _, isToken, _, _, _, _, _, _, _, marked⟩
  rw [found] at isToken
  cases isToken
  rcases marked (by decide +kernel) with ⟨_, ⟨start, stop, atStart, atStop, between⟩, again⟩
  exact ⟨shown, again, _, start, stop, atStart, atStop, between⟩

end PineAssist.Editor
