import PineAssist.Proofs.Lint.StandardRules
import PineAssist.Proofs.Text.Lexemes

/-!
# Which declarations are reported

The rule on declared types reads a line from left to right: a keyword, white space and a word are
taken together, and reading goes on behind the word. What it finds can be said without reading. An
`Occurrence` is any place on the line where these three stand; it is scanned unless its keyword is
the word of an occurrence that has been scanned already. Every scanned occurrence with a word that
is no type and an equals sign further on is reported, and nothing else is.

The proof follows the scan over the lexemes. It keeps the part of the line that has been read and
the fact that nothing scanned in there can claim a keyword that is still to come.
-/

namespace PineAssist.Lint

open Script (isDeclarationKeyword)
open Text (IsBlankRun IsWordRun Lexeme Line codeUnits lexemes utf16Length)
open Unicode (isWhiteSpace isWord)

/-- A place on a line where a keyword, white space and a word stand one behind the other. -/
@[ext] structure Occurrence (line : Line) where
  before : Line
  keyword : Line
  gap : Line
  /-- The word in the place of the type. -/
  token : Line
  behind : Line
  line_eq : line = before ++ (keyword ++ (gap ++ (token ++ behind)))
  isKeyword : isDeclarationKeyword keyword
  /-- The keyword begins a word. -/
  begins : ∀ char, before.getLast? = some char → isWord char = false
  gap_blank : IsBlankRun gap
  token_word : IsWordRun token
  /-- The token is not cut short. -/
  ends : ∀ char, behind.head? = some char → isWord char = false

theorem isWordRun_of_isDeclarationKeyword {word : Line} (isKeyword : isDeclarationKeyword word) :
    IsWordRun word := by
  have listed : word = "var".toList ∨ word = "varip".toList := by
    simpa [isDeclarationKeyword, Script.declarationKeywords, ← String.toList_inj] using isKeyword
  rcases listed with rfl | rfl
  · decide +kernel
  · decide +kernel

namespace Occurrence

variable {line : Line}

/-- The line up to the end of the token. -/
def upToToken (occurrence : Occurrence line) : Line :=
  occurrence.before ++ occurrence.keyword ++ occurrence.gap ++ occurrence.token

/-- The token of the first occurrence is the keyword of the second one. -/
def LeadsTo (first second : Occurrence line) : Prop :=
  second.before = first.before ++ first.keyword ++ first.gap ∧ second.keyword = first.token

theorem LeadsTo.length_lt {first second : Occurrence line} (leads : first.LeadsTo second) :
    first.before.length < second.before.length := by
  have nonempty := List.length_pos_iff.mpr first.gap_blank.1
  simp only [leads.1, List.length_append]
  omega

/-- Whether the keyword begins a declaration instead of being the token of one. -/
def Scanned (occurrence : Occurrence line) : Prop :=
  ∀ earlier : Occurrence line, earlier.LeadsTo occurrence → ¬earlier.Scanned
termination_by occurrence.before.length
decreasing_by
  rename_i leads
  exact leads.length_lt

/-- Whether the token is no type of the catalogue and an equals sign follows it somewhere. -/
def IsUnknown (catalog : Catalog) (occurrence : Occurrence line) : Prop :=
  '=' ∈ occurrence.behind ∧
    ∀ entry ∈ catalog.entries, entry.category = .typeName →
      entry.name ≠ String.ofList occurrence.token

/-- The report that the token is no type, on the part of the line from the keyword to the token. -/
def finding (number : UInt32) (occurrence : Occurrence line) : Finding :=
  ⟨.warning, .unknownType, "Unknown type: " ++ String.ofList occurrence.token,
    ⟨number, utf16Length occurrence.before, utf16Length occurrence.upToToken⟩, "declaration-type"⟩

/-- The occurrence as the scan sees it. -/
def declaration (occurrence : Occurrence line) : Declaration :=
  ⟨utf16Length occurrence.before, utf16Length occurrence.upToToken, occurrence.token,
    lexemes occurrence.behind⟩

section Places

variable {occurrence first second : Occurrence line} {before rest : Line} {lexeme : Lexeme}

theorem line_eq_upToToken : line = occurrence.upToToken ++ occurrence.behind := by
  simpa only [upToToken, List.append_assoc] using occurrence.line_eq

theorem keyword_word : IsWordRun occurrence.keyword :=
  isWordRun_of_isDeclarationKeyword occurrence.isKeyword

theorem keyword_ends : (Lexeme.word occurrence.keyword).EndsBefore
    (occurrence.gap ++ (occurrence.token ++ occurrence.behind)) :=
  ⟨occurrence.keyword_word, occurrence.gap_blank.boundary _⟩

theorem gap_ends :
    (Lexeme.blank occurrence.gap).EndsBefore (occurrence.token ++ occurrence.behind) :=
  ⟨occurrence.gap_blank, occurrence.token_word.boundary _⟩

theorem token_ends : (Lexeme.word occurrence.token).EndsBefore occurrence.behind :=
  ⟨occurrence.token_word, occurrence.ends⟩

/-- What is left of the line where an occurrence begins starts with its three parts. -/
theorem lexemes_at (isLine : line = occurrence.before ++ rest) :
    lexemes rest = .word occurrence.keyword :: .blank occurrence.gap :: .word occurrence.token ::
      lexemes occurrence.behind := by
  have isRest : rest = occurrence.keyword ++ (occurrence.gap ++ (occurrence.token ++
      occurrence.behind)) :=
    List.append_cancel_left (isLine.symm.trans occurrence.line_eq)
  rw [isRest]
  exact occurrence.keyword_ends.lexemes_append.trans (congrArg _
    (occurrence.gap_ends.lexemes_append.trans (congrArg _ occurrence.token_ends.lexemes_append)))

theorem eq_of_before_eq (same : first.before = second.before) : first = second := by
  have isLine := second.line_eq
  have lexemesFirst := first.lexemes_at (same ▸ isLine)
  rw [second.lexemes_at isLine] at lexemesFirst
  simp only [List.cons.injEq, Lexeme.word.injEq, Lexeme.blank.injEq] at lexemesFirst
  rcases lexemesFirst with ⟨sameKeyword, sameGap, sameToken, _⟩
  have both := first.line_eq.symm.trans isLine
  rw [same, sameKeyword, sameGap, sameToken] at both
  simp only [List.append_cancel_left_eq] at both
  exact Occurrence.ext same sameKeyword.symm sameGap.symm sameToken.symm both

/-- An occurrence that begins in a lexeme begins together with it. -/
theorem behind_or_at_lexeme (isLine : line = before ++ (lexeme.chars ++ rest))
    (ends : lexeme.EndsBefore rest) (ahead : before <+: occurrence.before) :
    before ++ lexeme.chars <+: occurrence.before ∨ occurrence.before = before := by
  rcases ahead with ⟨skipped, isBefore⟩
  have same : lexeme.chars ++ rest = skipped ++ (occurrence.keyword ++ (occurrence.gap ++
      (occurrence.token ++ occurrence.behind))) := by
    have both := isLine.symm.trans occurrence.line_eq
    rwa [← isBefore, List.append_assoc, List.append_cancel_left_eq] at both
  have begins : ∀ char, skipped.getLast? = some char → isWord char = false := by
    intro char isLast
    apply occurrence.begins char
    rw [← isBefore, List.getLast?_append, isLast, Option.some_or]
  rcases ends.prefix_or_eq_nil same occurrence.keyword_word begins with passed | rfl
  · left
    rw [← isBefore]
    exact (List.prefix_append_right_inj before).mpr passed
  · right
    rw [← isBefore, List.append_nil]

/-- An occurrence does not begin inside another one, except at its token. -/
theorem cases_of_ahead (ahead : first.before <+: second.before) :
    second = first ∨ first.LeadsTo second ∨ first.upToToken <+: second.before := by
  have behindGap : line = (first.before ++ first.keyword ++ first.gap) ++
      (first.token ++ first.behind) := by
    simpa only [List.append_assoc] using first.line_eq
  have behindKeyword : line = (first.before ++ first.keyword) ++
      (first.gap ++ (first.token ++ first.behind)) := by
    simpa only [List.append_assoc] using first.line_eq
  rcases behind_or_at_lexeme first.line_eq first.keyword_ends ahead with ahead | isBefore
  · rcases behind_or_at_lexeme behindKeyword first.gap_ends ahead with ahead | isBefore
    · rcases behind_or_at_lexeme behindGap first.token_ends ahead with ahead | isBefore
      · exact .inr (.inr ahead)
      · have isToken := first.token_ends.lexemes_append.symm.trans
          (second.lexemes_at (by rw [isBefore]; exact behindGap))
        exact .inr (.inl ⟨isBefore, (Lexeme.word.inj (List.cons.inj isToken).1).symm⟩)
    · have isGap := first.gap_ends.lexemes_append.symm.trans
        (second.lexemes_at (by rw [isBefore]; exact behindKeyword))
      cases (List.cons.inj isGap).1
  · exact .inl (eq_of_before_eq isBefore)

end Places

/-- How far a line has been read. -/
structure Reached (line before rest : Line) : Prop where
  line_eq : line = before ++ rest
  /-- Reading has not stopped inside a word. -/
  seam : ∀ char next, before.getLast? = some char → rest.head? = some next → isWord next →
    isWord char = false
  /-- No keyword in the rest is the token of a scanned occurrence that has begun before. -/
  settled : ∀ earlier later : Occurrence line, ¬before <+: earlier.before →
    before <+: later.before → earlier.LeadsTo later → ¬earlier.Scanned

namespace Reached

variable {before rest : Line} {lexeme : Lexeme}

theorem beginning (line : Line) : Reached line [] line where
  line_eq := rfl
  seam := by
    intro char next isLast
    cases isLast
  settled := by
    intro earlier later notAhead
    exact absurd (List.nil_prefix) notAhead

/-- A lexeme that no occurrence begins with is passed over. -/
theorem pass (reached : Reached line before (lexeme.chars ++ rest)) (ends : lexeme.EndsBefore rest)
    (none : ∀ occurrence : Occurrence line, occurrence.before ≠ before) :
    Reached line (before ++ lexeme.chars) rest ∧
      ∀ occurrence : Occurrence line,
        before <+: occurrence.before ↔ before ++ lexeme.chars <+: occurrence.before := by
  have further : ∀ occurrence : Occurrence line,
      before <+: occurrence.before ↔ before ++ lexeme.chars <+: occurrence.before := by
    intro occurrence
    constructor
    · intro ahead
      exact (behind_or_at_lexeme reached.line_eq ends ahead).resolve_right (none occurrence)
    · exact (List.prefix_append before lexeme.chars).trans
  refine ⟨⟨?_, ends.seam before, ?_⟩, further⟩
  · rw [List.append_assoc]
    exact reached.line_eq
  · intro earlier later
    rw [← further earlier, ← further later]
    exact reached.settled earlier later

theorem lexemes_at (reached : Reached line before rest) {occurrence : Occurrence line}
    (isBefore : occurrence.before = before) :
    lexemes rest = .word occurrence.keyword :: .blank occurrence.gap :: .word occurrence.token ::
      lexemes occurrence.behind := by
  apply occurrence.lexemes_at
  rw [isBefore]
  exact reached.line_eq

/-- Conversely, an occurrence begins wherever the rest starts with its three parts. -/
theorem exists_occurrence {keyword gap token : Line} {following : List Lexeme}
    (reached : Reached line before rest)
    (isRest : lexemes rest = .word keyword :: .blank gap :: .word token :: following)
    (isKeyword : isDeclarationKeyword keyword) :
    ∃ occurrence : Occurrence line, occurrence.before = before ∧
      occurrence.declaration =
        ⟨utf16Length before,
          utf16Length before + utf16Length keyword + utf16Length gap + utf16Length token,
          token, following⟩ := by
  rcases Text.lexemes_eq_cons_iff.mp isRest with ⟨_, rfl, keywordEnds, behindKeyword⟩
  rcases Text.lexemes_eq_cons_iff.mp behindKeyword.symm with ⟨_, rfl, gapEnds, behindGap⟩
  rcases Text.lexemes_eq_cons_iff.mp behindGap.symm with ⟨behind, rfl, tokenEnds, rfl⟩
  have begins : ∀ char, before.getLast? = some char → isWord char = false := by
    intro char isLast
    cases keyword with
    | nil => exact absurd rfl keywordEnds.1.1
    | cons letter letters =>
        exact reached.seam char letter isLast rfl (keywordEnds.1.2 letter List.mem_cons_self)
  refine ⟨⟨before, keyword, gap, token, behind, reached.line_eq, isKeyword, begins, gapEnds.1,
    tokenEnds.1, tokenEnds.2⟩, rfl, ?_⟩
  simp only [declaration, upToToken, Text.utf16Length_append]

variable {first : Occurrence line}

theorem scanned (reached : Reached line first.before rest) : first.Scanned := by
  rw [Scanned]
  intro earlier leads
  apply reached.settled earlier first ?_ (List.prefix_refl _) leads
  intro ahead
  have longer := leads.length_lt
  have shorter := ahead.length_le
  omega

/-- An occurrence is taken whole: reading goes on behind its token, and of all occurrences that
begin up to there only the first one is scanned. -/
theorem take (reached : Reached line first.before rest) :
    Reached line first.upToToken first.behind ∧
      ∀ occurrence : Occurrence line, first.before <+: occurrence.before ∧ occurrence.Scanned ↔
        occurrence = first ∨ first.upToToken <+: occurrence.before ∧ occurrence.Scanned := by
  have isScanned := reached.scanned
  have notScanned {occurrence : Occurrence line} (leads : first.LeadsTo occurrence) :
      ¬occurrence.Scanned := by
    intro scanned
    rw [Scanned] at scanned
    exact scanned first leads isScanned
  have isPrefix : first.before <+: first.upToToken :=
    ⟨first.keyword ++ first.gap ++ first.token, by simp [upToToken]⟩
  constructor
  · refine ⟨line_eq_upToToken, first.token_ends.seam _, ?_⟩
    intro earlier later notBehind behind leads
    by_cases ahead : first.before <+: earlier.before
    · rcases cases_of_ahead ahead with rfl | taken | past
      · have nonempty := List.length_pos_iff.mpr earlier.token_word.1
        have shorter := behind.length_le
        simp only [upToToken, leads.1, List.length_append] at shorter
        omega
      · exact notScanned taken
      · exact absurd past notBehind
    · exact reached.settled earlier later ahead (isPrefix.trans behind) leads
  · intro occurrence
    constructor
    · rintro ⟨ahead, scanned⟩
      rcases cases_of_ahead ahead with isFirst | taken | past
      · exact .inl isFirst
      · exact absurd scanned (notScanned taken)
      · exact .inr ⟨past, scanned⟩
    · rintro (rfl | ⟨past, scanned⟩)
      · exact ⟨List.prefix_refl _, isScanned⟩
      · exact ⟨isPrefix.trans past, scanned⟩

end Reached

/--
The scan of the rest of a line finds the scanned occurrences that begin there, in order. The
induction follows the scan, and what it has left behind is moved over to `before`.
-/
theorem exists_scanned {before rest : Line} (reached : Reached line before rest) :
    ∃ found : List (Occurrence line),
      declarations (utf16Length before) (lexemes rest) = found.map declaration ∧
      found.Pairwise (·.upToToken <+: ·.before) ∧
      ∀ occurrence, occurrence ∈ found ↔
        before <+: occurrence.before ∧ occurrence.Scanned := by
  generalize isColumn : utf16Length before = column
  generalize isRest : lexemes rest = following
  fun_induction declarations column following generalizing before rest with
  | case1 =>
      have isEnd : rest = [] := Text.lexemes_eq_nil_iff.mp isRest
      refine ⟨[], rfl, .nil, ?_⟩
      intro occurrence
      have isLength := congrArg List.length (reached.line_eq.symm.trans occurrence.line_eq)
      have nonempty := List.length_pos_iff.mpr occurrence.keyword_word.1
      simp only [isEnd, List.length_append, List.length_nil] at isLength
      simp only [List.not_mem_nil, false_iff, not_and]
      intro ahead
      have shorter := ahead.length_le
      omega
  | case2 column keyword gap token following isKeyword stop =>
      rename_i ih
      rcases reached.exists_occurrence isRest isKeyword with ⟨first, rfl, isDeclaration⟩
      rw [isColumn] at isDeclaration
      rcases reached.take with ⟨further, firstOrFurther⟩
      rcases ih further (congrArg Declaration.stop isDeclaration)
        (congrArg Declaration.rest isDeclaration) with ⟨found, isFound, ordered, complete⟩
      refine ⟨first :: found, ?_, ?_, ?_⟩
      · rw [List.map_cons, isDeclaration, isFound]
      · apply List.pairwise_cons.mpr
        refine ⟨?_, ordered⟩
        intro occurrence listed
        exact ((complete occurrence).mp listed).1
      · intro occurrence
        rw [List.mem_cons, complete]
        exact (firstOrFurther occurrence).symm
  | case3 column keyword gap token following notKeyword ih =>
      rcases Text.lexemes_eq_cons_iff.mp isRest with ⟨_, rfl, wordEnds, behindWord⟩
      rcases Text.lexemes_eq_cons_iff.mp behindWord.symm with ⟨rest, rfl, gapEnds, behindGap⟩
      have noneAtWord : ∀ occurrence : Occurrence line, occurrence.before ≠ before := by
        intro occurrence isBefore
        have isWord := isRest.symm.trans (reached.lexemes_at isBefore)
        rw [Lexeme.word.inj (List.cons.inj isWord).1] at notKeyword
        exact notKeyword occurrence.isKeyword
      rcases reached.pass wordEnds noneAtWord with ⟨atGap, sameAtGap⟩
      have noneAtGap : ∀ occurrence : Occurrence line, occurrence.before ≠ before ++ keyword := by
        intro occurrence isBefore
        have isBlank := behindWord.trans (atGap.lexemes_at isBefore)
        cases (List.cons.inj isBlank).1
      rcases atGap.pass gapEnds noneAtGap with ⟨atToken, sameAtToken⟩
      have isNext : utf16Length (before ++ keyword ++ gap) =
          column + utf16Length keyword + utf16Length gap := by
        simp only [Text.utf16Length_append, isColumn]
      rcases ih atToken isNext behindGap.symm with ⟨found, isFound, ordered, complete⟩
      refine ⟨found, isFound, ordered, ?_⟩
      intro occurrence
      rw [complete, sameAtGap, sameAtToken]
  | case4 column lexeme following otherwise ih =>
      rcases Text.lexemes_eq_cons_iff.mp isRest with ⟨rest, rfl, ends, isFollowing⟩
      have none : ∀ occurrence : Occurrence line, occurrence.before ≠ before := by
        intro occurrence isBefore
        have parts := isRest.symm.trans (reached.lexemes_at isBefore)
        rcases List.cons.inj parts with ⟨isKeyword, isBehind⟩
        exact otherwise _ _ _ _ isKeyword isBehind
      rcases reached.pass ends none with ⟨further, same⟩
      have isNext : utf16Length (before ++ lexeme.chars) = column + utf16Length lexeme.chars := by
        rw [Text.utf16Length_append, isColumn]
      rcases ih further isNext isFollowing.symm with ⟨found, isFound, ordered, complete⟩
      refine ⟨found, isFound, ordered, ?_⟩
      intro occurrence
      rw [complete, same]

theorem isFlawed_declaration (catalog : Catalog) (occurrence : Occurrence line) :
    occurrence.declaration.isFlawed catalog ↔ occurrence.IsUnknown catalog := by
  have isMark : isWord '=' = false ∧ isWhiteSpace '=' = false := by decide +kernel
  have hasEquals : Lexeme.mark '=' ∈ lexemes occurrence.behind ↔ '=' ∈ occurrence.behind := by
    rw [Text.mark_mem_lexemes_iff]
    exact and_iff_left isMark
  simp only [declaration, Declaration.isFlawed, IsUnknown, Bool.and_eq_true, List.contains_iff_mem,
    hasEquals, Bool.not_eq_true', ← Bool.not_eq_true, Catalog.isTypeName_iff, not_exists, not_and]

section Columns

variable (bounded : codeUnits line < UInt32.size)

include bounded

theorem column_lt (occurrence : Occurrence line) :
    utf16Length occurrence.before < utf16Length occurrence.upToToken := by
  have isUpToToken : occurrence.upToToken =
      occurrence.before ++ (occurrence.keyword ++ occurrence.gap ++ occurrence.token) := by
    simp only [upToToken, List.append_assoc]
  rw [occurrence.line_eq_upToToken, isUpToToken, Text.codeUnits_append] at bounded
  rw [isUpToToken]
  apply Text.utf16Length_lt_append (by omega)
  simp [occurrence.keyword_word.1]

theorem column_le {first second : Occurrence line} (past : first.upToToken <+: second.before) :
    utf16Length first.upToToken ≤ utf16Length second.before := by
  rcases past with ⟨between, isBefore⟩
  rw [second.line_eq, ← isBefore, Text.codeUnits_append] at bounded
  rw [← isBefore]
  exact Text.utf16Length_le_append (by omega)

end Columns

end Occurrence

/--
The rule on declared types reports the occurrences whose word is no type and has an equals sign
further on, except those whose keyword is the word of a scanned occurrence before it. They come from
left to right without overlapping, and so do their columns as long as 32 bits suffice for them.
-/
theorem reports_scanned_unknown_types (catalog : Catalog) (subject : Subject) :
    ∃ reported : List (Occurrence subject.text),
      (declarationRule catalog).check subject = reported.map (Occurrence.finding subject.number) ∧
      (∀ occurrence, occurrence ∈ reported ↔ occurrence.IsUnknown catalog ∧
        ¬∃ earlier : Occurrence subject.text, earlier.Scanned ∧ earlier.LeadsTo occurrence) ∧
      reported.Pairwise (·.upToToken <+: ·.before) ∧
      (codeUnits subject.text < UInt32.size →
        (∀ finding ∈ (declarationRule catalog).check subject,
          finding.span.start < finding.span.stop) ∧
        ((declarationRule catalog).check subject).Pairwise (·.span.stop ≤ ·.span.start)) := by
  rcases Occurrence.exists_scanned (.beginning subject.text) with
    ⟨scanned, isScan, ordered, complete⟩
  have isCheck : (declarationRule catalog).check subject =
      (scanned.filter (·.declaration.isFlawed catalog)).map
        (Occurrence.finding subject.number) := by
    change checkDeclarations catalog subject = _
    rw [checkDeclarations, ← Text.utf16Length_nil, isScan, List.filter_map, List.map_map]
    rfl
  have stillOrdered := ordered.filter (·.declaration.isFlawed catalog)
  refine ⟨_, isCheck, ?_, stillOrdered, ?_⟩
  · intro occurrence
    rw [List.mem_filter, complete, Occurrence.isFlawed_declaration, Occurrence.Scanned]
    simp [and_comm]
  · intro bounded
    rw [isCheck]
    constructor
    · intro finding listed
      rcases List.mem_map.mp listed with ⟨occurrence, _, rfl⟩
      exact occurrence.column_lt bounded
    · apply List.pairwise_map.mpr
      exact stillOrdered.imp fun past => Occurrence.column_le bounded past

/-- A line on which keywords are words of other keywords. -/
def keywordsInARow : Subject := ⟨0, "é var var var x = varip foo = 1".toList, none⟩

theorem reports_scanned_unknown_types_keywordsInARow :
    ((declarationRule ⟨[]⟩).check keywordsInARow).map (fun finding =>
        (finding.message, finding.span)) =
      [("Unknown type: var", ⟨0, 2, 9⟩), ("Unknown type: x", ⟨0, 10, 15⟩),
        ("Unknown type: foo", ⟨0, 18, 27⟩)] ∧
      ((declarationRule ⟨[]⟩).check keywordsInARow).Pairwise (·.span.stop ≤ ·.span.start) := by
  rcases reports_scanned_unknown_types ⟨[]⟩ keywordsInARow with ⟨_, _, _, _, inOrder⟩
  exact ⟨by decide +kernel, (inOrder (by decide +kernel)).2⟩

end PineAssist.Lint
