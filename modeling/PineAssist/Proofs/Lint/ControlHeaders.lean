import PineAssist.Proofs.Lint.StandardRules
import PineAssist.Proofs.Text.Lexemes

/-!
# Which control headers are reported

The rule on control statements looks for its keywords among the lexemes of a line. A `Header` says
without lexemes what it looks for: a keyword at the beginning of a word, behind it a white-space
character, and behind that at least one character more. How many white-space characters there are,
and whether anything else follows them, makes no difference.

The proof takes the line apart lexeme by lexeme. A header of the line begins either with its first
lexeme, which is then the keyword, or behind it.
-/

namespace PineAssist.Lint

open Script (isControlKeyword)
open Text (IsWordRun Lexeme Line lexemes utf16Length)
open Unicode (isWhiteSpace isWord isWord_eq_false_of_isWhiteSpace)

/-- A place on a line where a control keyword has its statement behind it. -/
structure Header (line : Line) where
  before : Line
  keyword : Line
  space : Char
  behind : Line
  line_eq : line = before ++ (keyword ++ space :: behind)
  isKeyword : String.ofList keyword ∈ ["if", "for", "while", "function"]
  /-- The keyword begins a word. -/
  begins : ∀ char, before.getLast? = some char → isWord char = false
  space_white : isWhiteSpace space
  /-- The white space does not end the line. -/
  behind_ne_nil : behind ≠ []

/-- A line that begins a statement with neither a colon nor an arrow. -/
def LacksColon (line : Line) : Prop :=
  Nonempty (Header line) ∧ ':' ∉ line ∧ ¬['=', '>'] <:+: line

variable {line rest keyword : Line} {lexeme : Lexeme}

theorem isControlKeyword_iff :
    isControlKeyword keyword ↔ String.ofList keyword ∈ ["if", "for", "while", "function"] :=
  List.contains_iff_mem

theorem isWordRun_of_isControlKeyword (isKeyword : isControlKeyword keyword) :
    IsWordRun keyword := by
  have listed : keyword = "if".toList ∨ keyword = "for".toList ∨ keyword = "while".toList ∨
      keyword = "function".toList := by
    simpa [isControlKeyword_iff, ← String.toList_inj] using isKeyword
  rcases listed with rfl | rfl | rfl | rfl <;> decide +kernel

/-- White space behind a keyword is read as far as it goes, but its first character decides. -/
theorem continues_lexemes_cons_iff {space : Char} {behind : Line} :
    continues (lexemes (space :: behind)) ↔ isWhiteSpace space ∧ behind ≠ [] := by
  by_cases white : isWhiteSpace space
  · rcases Text.exists_run_append white behind with
      ⟨gap, following, isRest, nonempty, inside, ends⟩
    have goesOn : behind ≠ [] ↔ 1 < gap.length ∨ following ≠ [] := by
      have isLength := congrArg List.length isRest
      have positive := List.length_pos_iff.mpr nonempty
      simp only [List.length_cons, List.length_append] at isLength
      rw [← List.length_pos_iff, ← List.length_pos_iff]
      omega
    rw [isRest, Text.lexemes_blank ⟨nonempty, inside⟩ ends, goesOn]
    simp [continues, white, Text.lexemes_eq_nil_iff]
  · have boundary : ∀ next, (space :: behind).head? = some next → isWhiteSpace next = false := by
      intro next isNext
      cases isNext
      simpa using white
    have stops : continues (lexemes (space :: behind)) = false := by
      unfold continues
      split
      · next gap others isBlank => exact absurd isBlank (Text.lexemes_ne_blank boundary gap others)
      · rfl
    simp [stops, white]

namespace Header

theorem keyword_word (header : Header line) : IsWordRun header.keyword :=
  isWordRun_of_isControlKeyword (isControlKeyword_iff.mpr header.isKeyword)

theorem keyword_ends (header : Header line) :
    (Lexeme.word header.keyword).EndsBefore (header.space :: header.behind) := by
  refine ⟨header.keyword_word, ?_⟩
  intro next isNext
  cases isNext
  exact isWord_eq_false_of_isWhiteSpace header.space_white

theorem not_nonempty_nil : ¬Nonempty (Header []) := by
  rintro ⟨header⟩
  have isEmpty := header.line_eq
  simp at isEmpty

/-- A header whose keyword is the first lexeme of the line. -/
theorem nonempty_of_keyword (isKeyword : isControlKeyword keyword)
    (isContinued : continues (lexemes rest)) : Nonempty (Header (keyword ++ rest)) := by
  cases rest with
  | nil => cases isContinued
  | cons space behind =>
      rcases continues_lexemes_cons_iff.mp isContinued with ⟨white, nonempty⟩
      exact ⟨⟨[], keyword, space, behind, rfl, isControlKeyword_iff.mp isKeyword, by simp, white,
        nonempty⟩⟩

/-- A header of the rest is a header of the line, because no word reaches into the rest. -/
theorem nonempty_append (header : Header rest) (ends : lexeme.EndsBefore rest) :
    Nonempty (Header (lexeme.chars ++ rest)) := by
  have isRun := header.keyword_word
  rcases header with ⟨before, keyword, space, behind, rfl, isKeyword, begins, white, nonempty⟩
  refine ⟨⟨lexeme.chars ++ before, keyword, space, behind, (List.append_assoc _ _ _).symm,
    isKeyword, ?_, white, nonempty⟩⟩
  intro char isLast
  rcases List.eq_nil_or_concat before with rfl | ⟨others, last, rfl⟩
  · cases keyword with
    | nil => exact absurd rfl isRun.1
    | cons letter letters =>
        apply ends.seam [] char letter
        · simpa using isLast
        · rfl
        · exact isRun.2 letter List.mem_cons_self
  · apply begins char
    simpa using isLast

/-- Conversely, a header of the line begins with the first lexeme or stands in the rest. -/
theorem first_or_behind (header : Header (lexeme.chars ++ rest)) (ends : lexeme.EndsBefore rest) :
    (∃ keyword, lexeme = .word keyword ∧ isControlKeyword keyword ∧ continues (lexemes rest)) ∨
      Nonempty (Header rest) := by
  rcases ends.prefix_or_eq_nil header.line_eq header.keyword_word header.begins with
    ⟨passed, isBefore⟩ | isBefore
  · right
    have isRest := header.line_eq
    rw [← isBefore, List.append_assoc, List.append_cancel_left_eq] at isRest
    refine ⟨⟨passed, header.keyword, header.space, header.behind, isRest, header.isKeyword, ?_,
      header.space_white, header.behind_ne_nil⟩⟩
    intro char isLast
    apply header.begins char
    rw [← isBefore, List.getLast?_append, isLast, Option.some_or]
  · left
    have isLine := header.line_eq
    rw [isBefore, List.nil_append] at isLine
    have sameLexemes : lexeme :: lexemes rest =
        .word header.keyword :: lexemes (header.space :: header.behind) := by
      rw [← ends.lexemes_append, ← header.keyword_ends.lexemes_append]
      exact congrArg lexemes isLine
    rcases List.cons.inj sameLexemes with ⟨isFirst, isFollowing⟩
    refine ⟨header.keyword, isFirst, isControlKeyword_iff.mpr header.isKeyword, ?_⟩
    rw [isFollowing]
    exact continues_lexemes_cons_iff.mpr ⟨header.space_white, header.behind_ne_nil⟩

end Header

theorem hasControlHeader_lexemes_iff :
    hasControlHeader (lexemes line) ↔ Nonempty (Header line) := by
  generalize isLine : lexemes line = following
  fun_induction hasControlHeader following generalizing line with
  | case1 =>
      rw [Text.lexemes_eq_nil_iff.mp isLine]
      simp [Header.not_nonempty_nil]
  | case2 keyword following ih =>
      rcases Text.lexemes_eq_cons_iff.mp isLine with ⟨rest, rfl, ends, rfl⟩
      rw [Bool.or_eq_true, Bool.and_eq_true, ih rfl]
      constructor
      · rintro (⟨isKeyword, isContinued⟩ | ⟨⟨header⟩⟩)
        · exact Header.nonempty_of_keyword isKeyword isContinued
        · exact header.nonempty_append ends
      · rintro ⟨header⟩
        rcases header.first_or_behind ends with ⟨_, isFirst, isKeyword, isContinued⟩ | inRest
        · cases isFirst
          exact .inl ⟨isKeyword, isContinued⟩
        · exact .inr inRest
  | case3 lexeme following notWord ih =>
      rcases Text.lexemes_eq_cons_iff.mp isLine with ⟨rest, rfl, ends, rfl⟩
      rw [ih rfl]
      constructor
      · rintro ⟨header⟩
        exact header.nonempty_append ends
      · rintro ⟨header⟩
        rcases header.first_or_behind ends with ⟨keyword, isFirst, _⟩ | inRest
        · exact absurd isFirst (notWord keyword)
        · exact inRest

/--
The rule on control statements reports a line exactly if it has a header and neither a colon nor an
arrow. There is one report then, an error on the whole line.
-/
theorem reports_header_without_colon (subject : Subject) :
    (controlRule.check subject =
        [⟨.error, .missingColon, "Missing colon (:) after control statement.",
          ⟨subject.number, 0, utf16Length subject.text⟩, "missing-colon"⟩] ↔
      LacksColon subject.text) ∧
    (controlRule.check subject = [] ↔ ¬LacksColon subject.text) := by
  have isLacking : (hasControlHeader (lexemes subject.text) && !subject.text.contains ':' &&
      !Text.occursIn ['=', '>'] subject.text) = true ↔ LacksColon subject.text := by
    simp only [LacksColon, Bool.and_eq_true, Bool.not_eq_true', ← Bool.not_eq_true,
      hasControlHeader_lexemes_iff, List.contains_iff_mem, Text.occursIn_iff, and_assoc]
  change (checkControl subject = _ ↔ _) ∧ (checkControl subject = _ ↔ _)
  by_cases lacking : LacksColon subject.text
  · rw [checkControl, if_pos (isLacking.mpr lacking)]
    simp [lacking, controlRuleId, Subject.fullSpan]
  · rw [checkControl, if_neg (mt isLacking.mp lacking)]
    simp [lacking]

/-- One white-space character at the end of the line is not enough, two are. -/
example : (controlRule.check ⟨0, "x if ".toList, none⟩).length = 0 ∧
    (controlRule.check ⟨0, "x if  ".toList, none⟩).length = 1 := by
  decide +kernel

end PineAssist.Lint
