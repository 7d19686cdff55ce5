import PineAssist.Proofs.Editor.CursorPlacement
import PineAssist.Unicode.WordCharacter

/-!
# Hovering over dotted names

A cursor that stands in a dotted name, or at one of its ends, selects the part of the name up to the
end of the segment at the cursor: the characters in front of the cursor are taken across dots, those
behind it only up to the next dot. This part is a dotted name again, so nothing is trimmed from it.
It is looked up in the catalogue, and the columns that are shown are its own, whatever stands around
the name on the line.
-/

namespace PineAssist.Text

theorem toNat_lt_of_isIdentifierChar {char : Char} (inName : isIdentifierChar char) :
    char.toNat < 0x80 := by
  rw [isIdentifierChar, Bool.or_eq_true, beq_iff_eq] at inName
  rcases inName with alphanumeric | rfl
  · exact Unicode.toNat_lt_of_isAlphanum alphanumeric
  · decide

end PineAssist.Text

namespace PineAssist.Editor

open Text (Line codeUnits isIdentifierChar trimDots utf16Length utf8Length)

/-- One identifier character or more. -/
def IsIdentifier (text : Line) : Prop :=
  text ≠ [] ∧ ∀ char ∈ text, isIdentifierChar char

instance (text : Line) : Decidable (IsIdentifier text) :=
  decidable_of_iff (text ≠ [] ∧ text.all isIdentifierChar)
    (and_congr_right fun _ => List.all_eq_true)

/-- Identifiers that are joined by dots. -/
inductive DottedName : Line → Prop where
  | identifier {text : Line} (isIdentifier : IsIdentifier text) : DottedName text
  | member {text name : Line} (isIdentifier : IsIdentifier text) (isName : DottedName name) :
      DottedName (text ++ '.' :: name)

/-- The name up to the first dot that is not in front of the place, or the whole name. -/
def upToSegmentEnd (name : Line) (place : Nat) : Line :=
  name.take place ++ (name.drop place).takeWhile (· != '.')

variable {text name : Line} {place : Nat}

theorem upToSegmentEnd_prefix : upToSegmentEnd name place <+: name := by
  refine ⟨(name.drop place).dropWhile (· != '.'), ?_⟩
  rw [upToSegmentEnd, List.append_assoc, List.takeWhile_append_dropWhile, List.take_append_drop]

theorem upToSegmentEnd_eq_self (lastSegment : '.' ∉ name.drop place) :
    upToSegmentEnd name place = name := by
  have noDot : ∀ char ∈ name.drop place, (char != '.') = true := by
    intro char listed
    rw [bne_iff_ne]
    rintro rfl
    exact lastSegment listed
  have behind : (name.drop place ++ []).takeWhile (· != '.') = name.drop place :=
    Text.takeWhile_run noDot (by simp)
  rw [List.append_nil] at behind
  rw [upToSegmentEnd, behind, List.take_append_drop]

theorem IsIdentifier.ne_dot {char : Char} (isIdentifier : IsIdentifier text)
    (listed : char ∈ text) : char ≠ '.' := by
  rintro rfl
  exact absurd (isIdentifier.2 '.' listed) (by decide)

theorem IsIdentifier.head?_append_ne (isIdentifier : IsIdentifier text) (rest : Line) :
    (text ++ rest).head? ≠ some '.' := by
  cases text with
  | nil => exact absurd rfl isIdentifier.1
  | cons first others =>
      have notDot := isIdentifier.ne_dot List.mem_cons_self
      simpa using notDot

/-- The segment at a place in an identifier is the identifier. -/
theorem IsIdentifier.upToSegmentEnd_append (isIdentifier : IsIdentifier text)
    (inText : place ≤ text.length) {rest : Line}
    (ends : ∀ next, rest.head? = some next → next = '.') :
    upToSegmentEnd (text ++ rest) place = text := by
  have behind : ((text.drop place) ++ rest).takeWhile (· != '.') = text.drop place := by
    apply Text.takeWhile_run
    · intro char listed
      simpa using isIdentifier.ne_dot (List.mem_of_mem_drop listed)
    · intro next isNext
      simpa using ends next isNext
  rw [upToSegmentEnd, List.take_append_of_le_length inText, List.drop_append_of_le_length inText,
    behind, List.take_append_drop]

namespace DottedName

theorem ne_nil (isName : DottedName name) : name ≠ [] := by
  cases isName with
  | identifier isIdentifier => exact isIdentifier.1
  | member isIdentifier isName => simp

theorem head?_ne (isName : DottedName name) : name.head? ≠ some '.' := by
  cases isName with
  | identifier isIdentifier => simpa using isIdentifier.head?_append_ne []
  | member isIdentifier isName => exact isIdentifier.head?_append_ne _

theorem getLast?_ne (isName : DottedName name) : name.getLast? ≠ some '.' := by
  induction isName with
  | identifier isIdentifier =>
      intro isLast
      exact isIdentifier.ne_dot (List.mem_of_getLast? isLast) rfl
  | @member text name isIdentifier isName ih =>
      have isLast := List.getLast?_eq_some_getLast isName.ne_nil
      rw [isLast] at ih
      simpa [List.getLast?_cons, isLast] using ih

theorem isIdentifierChar_or_eq_dot (isName : DottedName name) :
    ∀ char ∈ name, isIdentifierChar char ∨ char = '.' := by
  induction isName with
  | identifier isIdentifier =>
      intro char listed
      exact .inl (isIdentifier.2 char listed)
  | member isIdentifier isName ih =>
      intro char listed
      rcases List.mem_append.mp listed with inText | behind
      · exact .inl (isIdentifier.2 char inText)
      · rcases List.mem_cons.mp behind with isDot | inName
        · exact .inr isDot
        · exact ih char inName

theorem toNat_lt (isName : DottedName name) : ∀ char ∈ name, char.toNat < 0x80 := by
  intro char listed
  rcases isName.isIdentifierChar_or_eq_dot char listed with inName | rfl
  · exact Text.toNat_lt_of_isIdentifierChar inName
  · decide

/-- A dotted name that is cut at the end of a segment is a dotted name. -/
theorem upToSegmentEnd (isName : DottedName name) (inName : place ≤ name.length) :
    DottedName (upToSegmentEnd name place) := by
  induction isName generalizing place with
  | @identifier text isIdentifier =>
      have whole : Editor.upToSegmentEnd (text ++ []) place = text :=
        isIdentifier.upToSegmentEnd_append inName (by simp)
      rw [List.append_nil] at whole
      rw [whole]
      exact .identifier isIdentifier
  | @member text name isIdentifier isName ih =>
      by_cases inText : place ≤ text.length
      · rw [isIdentifier.upToSegmentEnd_append inText (by simp)]
        exact .identifier isIdentifier
      · obtain ⟨further, rfl⟩ : ∃ further, place = text.length + (further + 1) :=
          ⟨place - text.length - 1, by omega⟩
        have cut : Editor.upToSegmentEnd (text ++ '.' :: name) (text.length + (further + 1)) =
            text ++ '.' :: Editor.upToSegmentEnd name further := by
          simp [Editor.upToSegmentEnd, List.take_length_add_append, List.drop_length_add_append]
        rw [cut]
        apply member isIdentifier
        apply ih
        rw [List.length_append, List.length_cons] at inName
        omega

end DottedName

section Tokens

variable {before after left dots : Line}

/-- Between a part that cannot belong to it and a part that cannot continue it, a token that has no
dots at its ends is read as a whole, and dots in front of it are passed over. -/
theorem Token.between?_eq_some_behind_dots
    (begins : ∀ char, before.getLast? = some char → isIdentifierChar char = false ∧ char ≠ '.')
    (isDots : ∀ char ∈ dots, char = '.')
    (inside : ∀ char ∈ left, isIdentifierChar char ∨ char = '.')
    (isText : left ++ after.takeWhile isIdentifierChar = text) (nonempty : text ≠ [])
    (noDotFirst : text.head? ≠ some '.') (noDotLast : text.getLast? ≠ some '.') :
    Token.between? (before ++ (dots ++ left)) after =
      some ⟨text, utf8Length (before ++ dots), utf8Length (before ++ dots) + utf8Length text⟩ := by
  have isBack : Text.trailing (fun char => isIdentifierChar char || char == '.')
      (before ++ (dots ++ left)) = dots ++ left := by
    apply Text.trailing_run
    · intro char listed
      rcases List.mem_append.mp listed with inDots | inLeft
      · simp [isDots char inDots]
      · simpa using inside char inLeft
    · intro char isLast
      simpa using begins char isLast
  have isStart : utf8Length (before ++ (dots ++ left)) - utf8Length (dots ++ left) +
      utf8Length dots = utf8Length (before ++ dots) := by
    simp only [Text.utf8Length_append]
    omega
  simp only [Token.between?, isBack, List.append_assoc dots, isText,
    Text.trimDots_append isDots noDotFirst noDotLast, Text.takeWhile_dots_append isDots noDotFirst,
    isStart]
  simp [nonempty]

theorem Token.between?_eq_some
    (begins : ∀ char, before.getLast? = some char → isIdentifierChar char = false ∧ char ≠ '.')
    (inside : ∀ char ∈ left, isIdentifierChar char ∨ char = '.')
    (isText : left ++ after.takeWhile isIdentifierChar = text) (nonempty : text ≠ [])
    (noDotFirst : text.head? ≠ some '.') (noDotLast : text.getLast? ≠ some '.') :
    Token.between? (before ++ left) after =
      some ⟨text, utf8Length before, utf8Length before + utf8Length text⟩ := by
  have noDots : ∀ char ∈ ([] : Line), char = '.' := by simp
  simpa using between?_eq_some_behind_dots begins noDots inside isText nonempty noDotFirst noDotLast

/-- The token at a cursor between two parts of its line. -/
theorem tokenAt?_of_at? {content : String} {position : Position}
    (isCursor : Cursor.at? content position = some ⟨before ++ after, utf8Length before⟩) :
    tokenAt? content position = (Token.between? before after).map (before ++ after, ·) := by
  have isToken : Cursor.token? ⟨before ++ after, utf8Length before⟩ =
      .ok (Token.between? before after) := by
    rw [Cursor.token?, (Cursor.cuts_append before after).halves]
  rw [tokenAt?, isCursor]
  simp only [isToken]
  cases Token.between? before after <;> rfl

/-- What is shown comes from the entry that the token at the position refers to. -/
theorem hover?_eq_some_iff {catalog : Catalog} {content : String} {position : Position}
    {hover : Hover} :
    hover? catalog content position = some hover ↔
      ∃ line token entry, tokenAt? content position = some (line, token) ∧
        catalog.find? (String.ofList token.text) = some entry ∧ entry.documentation ≠ "" ∧
        hover = ⟨Hover.contentsOf entry, .onLine position.line
          (Text.columnOfOffset line token.start) (Text.columnOfOffset line token.stop)⟩ := by
  simp only [hover?, Option.bind_eq_bind, Option.bind_eq_some_iff, Prod.exists,
    Option.ite_none_left_eq_some, String.isEmpty_iff, Option.some.injEq]
  constructor
  · rintro ⟨line, token, isToken, entry, found, documented, rfl⟩
    exact ⟨line, token, entry, isToken, found, documented, rfl⟩
  · rintro ⟨line, token, entry, isToken, found, documented, rfl⟩
    exact ⟨line, token, isToken, entry, found, documented, rfl⟩

end Tokens

/-- A position in a dotted name on a line of a document, or at one of the ends of the name. -/
structure NameAt (content : String) (position : Position) where
  before : Line
  name : Line
  after : Line
  /-- Number of characters of the name in front of the position. -/
  place : Nat
  isName : DottedName name
  isLine : (Text.lines content)[position.line.toNat]? = some (before ++ name ++ after)
  begins : ∀ char, before.getLast? = some char → isIdentifierChar char = false ∧ char ≠ '.'
  ends : ∀ char, after.head? = some char → isIdentifierChar char = false
  inName : place ≤ name.length
  isColumn : position.character.toNat = codeUnits before + place

namespace NameAt

variable {content : String} {position : Position} (named : NameAt content position)

/-- What is looked up at the position. -/
def selected : Line :=
  upToSegmentEnd named.name named.place

/-- The columns of what is looked up. -/
def range : Range :=
  .onLine position.line (utf16Length named.before)
    (utf16Length named.before + UInt32.ofNat named.selected.length)

theorem selected_isName : DottedName named.selected :=
  named.isName.upToSegmentEnd named.inName

theorem selected_prefix : named.selected <+: named.name :=
  upToSegmentEnd_prefix

theorem codeUnits_beforePlace :
    codeUnits (named.before ++ named.name.take named.place) = position.character.toNat := by
  have ascii : ∀ char ∈ named.name.take named.place, char.toNat < 0x80 := by
    intro char listed
    exact named.isName.toNat_lt char (List.mem_of_mem_take listed)
  rw [Text.codeUnits_append, Text.codeUnits_eq_length ascii, List.length_take_of_le named.inName,
    named.isColumn]

theorem append_prefix {start : Line} (begins : start <+: named.name) :
    named.before ++ start <+: named.before ++ named.name ++ named.after := by
  rw [List.append_assoc]
  apply (List.prefix_append_right_inj named.before).mpr
  exact begins.trans (List.prefix_append _ _)

/-- The position leads to its place in the name, however long the line is. -/
theorem cursor_at : Cursor.at? content position =
    some ⟨named.before ++ named.name ++ named.after,
      utf8Length (named.before ++ named.name.take named.place)⟩ := by
  have begins := named.append_prefix (List.take_prefix named.place named.name)
  have isColumn := named.codeUnits_beforePlace
  have suffice := Text.ColumnsSuffice.of_prefix begins (isColumn ▸ position.character.toNat_lt)
  rw [isColumn] at suffice
  rw [Cursor.at?_eq_upToColumn named.isLine suffice, ← isColumn, Text.upToColumn_of_prefix begins]

theorem takeWhile_behindPlace :
    (named.name.drop named.place ++ named.after).takeWhile isIdentifierChar =
      (named.name.drop named.place).takeWhile (· != '.') := by
  generalize isBehind : named.name.drop named.place = behind
  have inName : ∀ char ∈ behind, isIdentifierChar char ∨ char = '.' := by
    intro char listed
    rw [← isBehind] at listed
    exact named.isName.isIdentifierChar_or_eq_dot char (List.mem_of_mem_drop listed)
  have isRun : (behind.takeWhile (· != '.') ++
      (behind.dropWhile (· != '.') ++ named.after)).takeWhile isIdentifierChar =
        behind.takeWhile (· != '.') := by
    apply Text.takeWhile_run
    · intro char listed
      have notDot := List.all_eq_true.mp List.all_takeWhile char listed
      rw [bne_iff_ne] at notDot
      exact (inName char ((List.takeWhile_prefix _).subset listed)).resolve_right notDot
    · intro next isNext
      cases others : behind.dropWhile (· != '.') with
      | nil =>
          rw [others] at isNext
          exact named.ends next isNext
      | cons first rest =>
          have stopped := List.head?_dropWhile_not (· != '.') behind
          rw [others] at isNext stopped
          cases isNext
          have isDot : next = '.' := by simpa using stopped
          rw [isDot]
          decide
  rwa [← List.append_assoc, List.takeWhile_append_dropWhile] at isRun

theorem token_at : tokenAt? content position =
    some (named.before ++ named.name ++ named.after,
      ⟨named.selected, utf8Length named.before,
        utf8Length named.before + utf8Length named.selected⟩) := by
  have isLine : named.before ++ named.name ++ named.after =
      (named.before ++ named.name.take named.place) ++
        (named.name.drop named.place ++ named.after) := by
    rw [List.append_assoc named.before (named.name.take named.place),
      ← List.append_assoc (named.name.take named.place), List.take_append_drop, List.append_assoc]
  have isCursor := named.cursor_at
  rw [isLine] at isCursor ⊢
  have isName := named.selected_isName
  rw [tokenAt?_of_at? isCursor, Token.between?_eq_some named.begins]
  · rfl
  · intro char listed
    exact named.isName.isIdentifierChar_or_eq_dot char (List.mem_of_mem_take listed)
  · rw [takeWhile_behindPlace]
    rfl
  · exact isName.ne_nil
  · exact isName.head?_ne
  · exact isName.getLast?_ne

theorem columns_eq :
    Text.columnOfOffset (named.before ++ named.name ++ named.after) (utf8Length named.before) =
        utf16Length named.before ∧
      Text.columnOfOffset (named.before ++ named.name ++ named.after)
          (utf8Length named.before + utf8Length named.selected) =
        utf16Length named.before + UInt32.ofNat named.selected.length := by
  have begins := named.append_prefix named.selected_prefix
  constructor
  · rw [Text.columnOfOffset, Text.upToOffset_of_prefix ((List.prefix_append _ _).trans begins)]
  · rw [← Text.utf8Length_append, Text.columnOfOffset, Text.upToOffset_of_prefix begins,
      Text.utf16Length_append, Text.utf16Length_eq_ofNat named.selected,
      Text.codeUnits_eq_length named.selected_isName.toNat_lt]

/-- What is shown is what the catalogue says about the selected part of the name. -/
theorem hover?_eq_some_iff {catalog : Catalog} {hover : Hover} :
    hover? catalog content position = some hover ↔
      ∃ entry, catalog.find? (String.ofList named.selected) = some entry ∧
        entry.documentation ≠ "" ∧ hover = ⟨Hover.contentsOf entry, named.range⟩ := by
  rcases named.columns_eq with ⟨isStart, isStop⟩
  rw [Editor.hover?_eq_some_iff]
  constructor
  · rintro ⟨line, token, entry, isToken, found, documented, rfl⟩
    rw [named.token_at] at isToken
    cases isToken
    refine ⟨entry, found, documented, ?_⟩
    rw [isStart, isStop]
    rfl
  · rintro ⟨entry, found, documented, rfl⟩
    refine ⟨_, _, entry, named.token_at, found, documented, ?_⟩
    rw [isStart, isStop]
    rfl

/--
At any place of a dotted name, the part of the name up to the end of the segment at that place is
looked up, and what is shown is the documentation of the entry that is found, on the columns of this
part. In the last segment, the first entry of that very name is shown if it is documented.
-/
theorem shows_selected (catalog : Catalog) :
    (∀ hover, hover? catalog content position = some hover ↔
      ∃ entry, catalog.find? (String.ofList named.selected) = some entry ∧
        entry.documentation ≠ "" ∧ hover = ⟨Hover.contentsOf entry, named.range⟩) ∧
    ∀ earlier entry later, '.' ∉ named.name.drop named.place →
      catalog.entries = earlier ++ entry :: later → entry.name = String.ofList named.name →
      (∀ other ∈ earlier, other.name ≠ String.ofList named.name) → entry.documentation ≠ "" →
      hover? catalog content position =
        some ⟨Hover.contentsOf entry, .onLine position.line (utf16Length named.before)
          (utf16Length named.before + UInt32.ofNat named.name.length)⟩ := by
  constructor
  · intro hover
    exact named.hover?_eq_some_iff
  · intro earlier entry later lastSegment isCatalog isNamed isFirst documented
    have whole : named.selected = named.name := upToSegmentEnd_eq_self lastSegment
    apply named.hover?_eq_some_iff.mpr
    refine ⟨entry, ?_, documented, ?_⟩
    · rw [whole]
      exact catalog.find?_of_named isCatalog isNamed isFirst (by simpa using named.isName.ne_nil)
    · rw [range, whole]

end NameAt

/-- A position in the second segment of a name, behind characters of several units and bytes. -/
def inSecondSegment : NameAt "x\n😀é ta.sma(close)" ⟨1, 8⟩ where
  before := "😀é ".toList
  name := "ta".toList ++ '.' :: "sma".toList
  after := "(close)".toList
  place := 4
  isName := .member (by decide) (.identifier (by decide))
  isLine := by decide +kernel
  begins := by
    intro char isLast
    cases isLast
    decide
  ends := by
    intro char isFirst
    cases isFirst
    decide
  inName := by decide
  isColumn := by decide +kernel

/-- The entry of the whole name is shown, not an earlier one that ends in the same segment. -/
theorem NameAt.shows_selected_inSecondSegment :
    hover? ⟨[⟨"sma", .function, "sma()", "Another average.", none⟩,
        ⟨"ta.sma", .function, "ta.sma(source, length)", "Simple moving average.", none⟩]⟩
      "x\n😀é ta.sma(close)" ⟨1, 8⟩ =
      some ⟨"**ta.sma**\n\nta.sma(source, length)\n\nSimple moving average.",
        ⟨⟨1, 4⟩, ⟨1, 10⟩⟩⟩ := by
  apply (inSecondSegment.shows_selected _).2 [⟨"sma", .function, "sma()", "Another average.", none⟩]
    ⟨"ta.sma", .function, "ta.sma(source, length)", "Simple moving average.", none⟩ []
  · decide
  · rfl
  · rfl
  · decide
  · decide

/-- In front of the dot, only the first segment is looked up. -/
example : upToSegmentEnd "ta.sma".toList 2 = "ta".toList ∧
    upToSegmentEnd "ta.sma".toList 3 = "ta.sma".toList := by
  decide

end PineAssist.Editor
