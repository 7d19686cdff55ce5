import PineAssist.Editor.Outline
import PineAssist.Proofs.Lint.DeclaredTypes
import PineAssist.Proofs.Lint.Locality

/-!
# Lines that declare a variable

The outline and the rule on declared types look for declarations in different ways: the outline
wants a name with an equals sign behind it, while the rule takes the word after the keyword for the
type, whatever follows. On a line that is a declaration from its beginning both start at the same
keyword. The outline lists the declared name and nothing else of its kind, and the rule reports the
word after the keyword exactly if it is not a known type.

Columns and line numbers have 32 bits. What is said by means of them therefore needs a line that is
short enough and a document that has few enough lines; what is said about the line itself does not.
-/

namespace PineAssist

namespace Editor

open Lint (linesNumbered subjects)
open Text (Line lexemes)

theorem kind_eq_function {lexemes : List Text.Lexeme} {detector : Detector} {name : String}
    {kind : SymbolKind} (listed : detector ∈ [detectIndicator, detectStrategy, detectFunction])
    (found : detector lexemes = some (name, kind)) : kind = .function := by
  simp only [List.mem_cons, List.not_mem_nil, or_false] at listed
  rcases listed with rfl | rfl | rfl
  · simp only [detectIndicator, Option.ite_none_right_eq_some, Option.some.injEq,
      Prod.mk.injEq] at found
    exact found.2.2.symm
  · simp only [detectStrategy, Option.ite_none_right_eq_some, Option.some.injEq,
      Prod.mk.injEq] at found
    exact found.2.2.symm
  · simp only [detectFunction, Option.map_eq_some_iff, Prod.mk.injEq] at found
    rcases found with ⟨_, _, _, isKind⟩
    exact isKind.symm

theorem declaredNames_filter_keptVariable (line : Line) :
    (declaredNames line).filter (·.2 = .keptVariable) =
      ((keptVariable? (lexemes line)).map fun name =>
        (String.ofList name, SymbolKind.keptVariable)).toList := by
  have functions : ([detectIndicator, detectStrategy, detectFunction].filterMap
      fun detector => detector (lexemes line)).filter (·.2 = .keptVariable) = [] := by
    apply List.filter_eq_nil_iff.mpr
    rintro ⟨name, kind⟩ listed
    rcases List.mem_filterMap.mp listed with ⟨detector, isListed, found⟩
    simp [kind_eq_function isListed found]
  have order : detectors =
      [detectIndicator, detectStrategy, detectFunction] ++ [detectVariable] := rfl
  rw [declaredNames, order, List.filterMap_append, List.filter_append, functions]
  cases isKept : keptVariable? (lexemes line) <;> simp [detectVariable, isKept]

/-- Of the symbols of a line, one at most is a variable: the first that the line declares. -/
theorem lineSymbols_filter_keptVariable (number : UInt32) (line : Line) :
    (lineSymbols number line).filter (·.kind = .keptVariable) =
      ((keptVariable? (lexemes line)).map fun name =>
        (⟨String.ofList name, .keptVariable, number⟩ : Symbol)).toList := by
  have names := declaredNames_filter_keptVariable line
  rw [lineSymbols, List.filter_map]
  change ((declaredNames line).filter (·.2 = .keptVariable)).map _ = _
  rw [names]
  cases keptVariable? (lexemes line) <;> rfl

theorem outline_eq_flatMap_subjects (content : String) :
    outline content =
      (subjects (Text.lines content)).flatMap fun subject =>
        lineSymbols subject.number subject.text := by
  have sameLines : ((Text.lines content).mapIdx fun index line =>
      lineSymbols (.ofNat index) line) =
        (subjects (Text.lines content)).map fun subject =>
          lineSymbols subject.number subject.text := by
    apply List.ext_getElem?
    intro index
    simp only [subjects, List.getElem?_map, List.getElem?_mapIdx, Option.map_map]
    rfl
  rw [outline, sameLines, List.flatMap]

/-- The symbols with a number are those of the lines that have it. -/
theorem outline_filter_line (content : String) (number : UInt32) :
    (outline content).filter (·.line = number) =
      (linesNumbered content number).flatMap fun (line, _) => lineSymbols number line := by
  rw [outline_eq_flatMap_subjects]
  apply Lint.filter_numberOf_subjects
  intro subject symbol listed
  rcases List.mem_map.mp listed with ⟨_, _, rfl⟩
  rfl

end Editor

namespace Script

open Editor (Symbol lineSymbols outline keptVariable? assignedVariable? startsWithEquals)
open Lint (Declaration Finding checkDeclarations declarationRule declarations)
open Text (IsBlankRun IsSpacing IsWordRun Lexeme Line codeUnits lexemes skipBlank utf16Length)
open Unicode (isWhiteSpace isWord)

/-- A line that consists of a declaration: a keyword, perhaps a type, a name and a value. -/
structure DeclarationLine where
  indent : Line
  keyword : Line
  gap : Line
  /-- The type with the white space behind it. -/
  type? : Option (Line × Line)
  name : Line
  spacing : Line
  /-- Whatever follows the equals sign. -/
  value : Line
  indent_white : IsSpacing indent
  isKeyword : isDeclarationKeyword keyword
  gap_blank : IsBlankRun gap
  type_word : ∀ part ∈ type?, IsWordRun part.1 ∧ IsBlankRun part.2
  name_word : IsWordRun name
  spacing_white : IsSpacing spacing

namespace DeclarationLine

/-- The equals sign with what stands around it. -/
def assignment (declaration : DeclarationLine) : Line :=
  declaration.spacing ++ '=' :: declaration.value

/-- The word right after the keyword: the type, or the name if there is none. -/
def token (declaration : DeclarationLine) : Line :=
  match declaration.type? with
  | some (type, _) => type
  | none => declaration.name

def behindToken (declaration : DeclarationLine) : Line :=
  match declaration.type? with
  | some (_, gap) => gap ++ (declaration.name ++ declaration.assignment)
  | none => declaration.assignment

def text (declaration : DeclarationLine) : Line :=
  declaration.indent ++ declaration.keyword ++ declaration.gap ++
    (match declaration.type? with
      | some (type, gap) => type ++ gap
      | none => []) ++
    declaration.name ++ declaration.spacing ++ '=' :: declaration.value

/-- The line up to the end of the word after the keyword. -/
def upToToken (declaration : DeclarationLine) : Line :=
  declaration.indent ++ declaration.keyword ++ declaration.gap ++ declaration.token

/-- The declared variable as the outline lists it. -/
def symbol (declaration : DeclarationLine) (number : UInt32) : Symbol :=
  ⟨String.ofList declaration.name, .keptVariable, number⟩

/-- The report that the word after the keyword is no type. -/
def unknownType (declaration : DeclarationLine) (number : UInt32) : Finding :=
  ⟨.warning, .unknownType, "Unknown type: " ++ String.ofList declaration.token,
    ⟨number, utf16Length declaration.indent, utf16Length declaration.upToToken⟩, "declaration-type"⟩

/-- The lexemes behind the indentation. -/
def opening (declaration : DeclarationLine) : List Lexeme :=
  .word declaration.keyword :: .blank declaration.gap :: .word declaration.token ::
    lexemes declaration.behindToken

/-- The declaration that the line consists of, as the rule on declared types sees it. -/
def whole (declaration : DeclarationLine) : Declaration :=
  ⟨utf16Length declaration.indent, utf16Length declaration.upToToken, declaration.token,
    lexemes declaration.behindToken⟩

variable (declaration : DeclarationLine)

section Lexemes

theorem text_eq : declaration.text = declaration.upToToken ++ declaration.behindToken := by
  rcases declaration with ⟨_, _, _, type?, _, _, _, _, _, _, _, _, _⟩
  cases type? <;> simp [text, upToToken, token, behindToken, assignment]

theorem keyword_isWordRun : IsWordRun declaration.keyword :=
  Lint.isWordRun_of_isDeclarationKeyword declaration.isKeyword

theorem token_isWordRun : IsWordRun declaration.token := by
  unfold token
  split
  · next type gap isType => exact (declaration.type_word (type, gap) isType).1
  · exact declaration.name_word

theorem eq_mem_behindToken : '=' ∈ declaration.behindToken := by
  unfold behindToken
  split <;> simp [assignment]

theorem isWord_equals : isWord '=' = false := by
  decide +kernel

theorem isWhiteSpace_equals : isWhiteSpace '=' = false := by
  decide +kernel

theorem assignment_boundary :
    ∀ next, declaration.assignment.head? = some next → isWord next = false := by
  by_cases empty : declaration.spacing = []
  · intro next isNext
    rw [assignment, empty] at isNext
    cases isNext
    exact isWord_equals
  · exact IsBlankRun.boundary ⟨empty, declaration.spacing_white⟩ _

theorem behindToken_boundary :
    ∀ next, declaration.behindToken.head? = some next → isWord next = false := by
  unfold behindToken
  split
  · next type gap isType =>
    exact (declaration.type_word (type, gap) isType).2.boundary _
  · exact declaration.assignment_boundary

theorem lexemes_assignment :
    lexemes declaration.assignment = .mark '=' :: lexemes declaration.value ∨
      lexemes declaration.assignment =
        .blank declaration.spacing :: .mark '=' :: lexemes declaration.value := by
  have marked : lexemes ('=' :: declaration.value) = .mark '=' :: lexemes declaration.value :=
    Text.lexemes_mark isWord_equals isWhiteSpace_equals
  have boundary : ∀ next, ('=' :: declaration.value).head? = some next →
      isWhiteSpace next = false := by
    intro next isNext
    cases isNext
    exact isWhiteSpace_equals
  rw [← marked]
  rcases Text.lexemes_spacing declaration.spacing_white boundary with ⟨_, unspaced⟩ | spaced
  · exact .inl unspaced
  · exact .inr spaced

theorem lexemes_text :
    (declaration.indent = [] ∧ lexemes declaration.text = declaration.opening) ∨
      lexemes declaration.text = .blank declaration.indent :: declaration.opening := by
  have opened : lexemes (declaration.keyword ++ (declaration.gap ++
      (declaration.token ++ declaration.behindToken))) = declaration.opening := by
    rw [Text.lexemes_word declaration.keyword_isWordRun (declaration.gap_blank.boundary _),
      Text.lexemes_blank declaration.gap_blank (declaration.token_isWordRun.boundary _),
      Text.lexemes_word declaration.token_isWordRun declaration.behindToken_boundary, opening]
  have isText : declaration.text = declaration.indent ++ (declaration.keyword ++
      (declaration.gap ++ (declaration.token ++ declaration.behindToken))) := by
    simp only [text_eq, upToToken, List.append_assoc]
  rw [isText, ← opened]
  exact Text.lexemes_spacing declaration.indent_white (declaration.keyword_isWordRun.boundary _)

end Lexemes

section Outline

theorem startsWithEquals_assignment : startsWithEquals (lexemes declaration.assignment) := by
  rcases declaration.lexemes_assignment with unspaced | spaced
  · rw [unspaced]
    simp [startsWithEquals, skipBlank]
  · rw [spaced]
    simp [startsWithEquals, skipBlank]

theorem assignedVariable?_token :
    assignedVariable? (.word declaration.token :: lexemes declaration.behindToken) =
      some declaration.name := by
  have assigned := declaration.startsWithEquals_assignment
  unfold token behindToken
  split
  · next type gap isType =>
    have gapBlank := (declaration.type_word (type, gap) isType).2
    rw [Text.lexemes_blank gapBlank (declaration.name_word.boundary _),
      Text.lexemes_word declaration.name_word declaration.assignment_boundary]
    simp [assignedVariable?, assigned]
  · rcases declaration.lexemes_assignment with unspaced | spaced
    · rw [unspaced] at assigned ⊢
      simp [assignedVariable?, assigned]
    · rw [spaced] at assigned ⊢
      simp [assignedVariable?, assigned]

theorem keptVariable?_text : keptVariable? (lexemes declaration.text) = some declaration.name := by
  have opened : keptVariable? declaration.opening = some declaration.name := by
    simp [opening, keptVariable?, declaration.isKeyword, declaration.assignedVariable?_token]
  rcases declaration.lexemes_text with ⟨_, unindented⟩ | indented
  · rw [unindented]
    exact opened
  · rw [indented, keptVariable?]
    · exact opened
    · simp

theorem lineSymbols_text (number : UInt32) :
    (lineSymbols number declaration.text).filter (·.kind = .keptVariable) =
      [declaration.symbol number] := by
  rw [Editor.lineSymbols_filter_keptVariable, declaration.keptVariable?_text]
  rfl

theorem outline_filter_text {content : String} {index : Nat}
    (few : (Text.lines content).length ≤ UInt32.size)
    (isLine : (Text.lines content)[index]? = some declaration.text) :
    (outline content).filter (fun symbol =>
        symbol.kind = .keptVariable ∧ symbol.line = .ofNat index) =
      [declaration.symbol (.ofNat index)] := by
  have onLine : (outline content).filter (·.line = .ofNat index) =
      lineSymbols (.ofNat index) declaration.text := by
    rw [Editor.outline_filter_line, Lint.linesNumbered_ofNat few isLine, List.flatMap_singleton]
  simp only [Bool.decide_and]
  rw [← List.filter_filter, onLine, declaration.lineSymbols_text]

end Outline

section Rule

variable (catalog : Catalog) (number : UInt32) (next : Option Line)

theorem declarations_text :
    declarations 0 (lexemes declaration.text) =
      declaration.whole ::
        declarations (utf16Length declaration.upToToken) (lexemes declaration.behindToken) := by
  have opened : declarations (utf16Length declaration.indent) declaration.opening =
      declaration.whole ::
        declarations (utf16Length declaration.upToToken) (lexemes declaration.behindToken) := by
    simp only [opening, declarations, declaration.isKeyword, if_true, whole, upToToken,
      Text.utf16Length_append]
  rcases declaration.lexemes_text with ⟨unindented, isText⟩ | indented
  · rw [isText, ← opened, unindented]
    rfl
  · rw [indented, declarations]
    · simpa [Lexeme.chars] using opened
    · simp

theorem isFlawed_whole :
    declaration.whole.isFlawed catalog =
      !catalog.isTypeName (String.ofList declaration.token) := by
  have listed : Lexeme.mark '=' ∈ lexemes declaration.behindToken := by
    apply Text.mark_mem_lexemes_iff.mpr
    exact ⟨declaration.eq_mem_behindToken, isWord_equals, isWhiteSpace_equals⟩
  simp [whole, Declaration.isFlawed, listed]

/-- The findings are the one on the word after the keyword, if it is no type, and then those on
keywords further to the right. -/
theorem check_text :
    ∃ later, (declarationRule catalog).check ⟨number, declaration.text, next⟩ =
        (if catalog.isTypeName (String.ofList declaration.token) then []
        else [declaration.unknownType number]) ++ later ∧
      ∀ finding ∈ later, ∃ passed keyword rest, isDeclarationKeyword keyword ∧
        declaration.behindToken = passed ++ keyword ++ rest ∧
        finding.span.start = utf16Length (declaration.upToToken ++ passed) := by
  refine ⟨((declarations (utf16Length declaration.upToToken)
    (lexemes declaration.behindToken)).filter (·.isFlawed catalog)).map fun found =>
      ⟨.warning, .unknownType, "Unknown type: " ++ String.ofList found.type,
        ⟨number, found.start, found.stop⟩, Lint.declarationRuleId⟩, ?_, ?_⟩
  · change checkDeclarations catalog ⟨number, declaration.text, next⟩ = _
    rw [checkDeclarations, declaration.declarations_text, List.filter_cons,
      declaration.isFlawed_whole]
    cases catalog.isTypeName (String.ofList declaration.token) <;> rfl
  · intro finding listed
    rcases List.mem_map.mp listed with ⟨found, isFlawed, rfl⟩
    have stands := Lint.standsIn_of_mem_declarations (List.mem_filter.mp isFlawed).1
    rcases stands with ⟨passed, keyword, gap, isKeyword, isRest, isStart, _⟩
    rw [Text.flatMap_chars_lexemes] at isRest
    refine ⟨passed, keyword, gap ++ found.type ++ found.rest.flatMap Lexeme.chars, isKeyword, ?_,
      isStart⟩
    simpa using isRest

theorem check_text_filter_start (bounded : codeUnits declaration.text < UInt32.size) :
    ((declarationRule catalog).check ⟨number, declaration.text, next⟩).filter
        (·.span.start = utf16Length declaration.indent) =
      if catalog.isTypeName (String.ofList declaration.token) then []
      else [declaration.unknownType number] := by
  rcases declaration.check_text catalog number next with ⟨later, isCheck, further⟩
  have noneLater : later.filter (·.span.start = utf16Length declaration.indent) = [] := by
    apply List.filter_eq_nil_iff.mpr
    intro finding listed
    rcases further finding listed with ⟨passed, keyword, rest, _, isBehind, isStart⟩
    have nonempty : declaration.keyword ++ declaration.gap ++ declaration.token ++ passed ≠ [] := by
      simp [declaration.keyword_isWordRun.1]
    have fits : codeUnits (declaration.indent ++
        (declaration.keyword ++ declaration.gap ++ declaration.token ++ passed)) <
          UInt32.size := by
      rw [declaration.text_eq, isBehind] at bounded
      simp only [upToToken, Text.codeUnits_append] at bounded ⊢
      omega
    have ahead := Text.utf16Length_lt_append fits nonempty
    have isEnd : declaration.upToToken ++ passed = declaration.indent ++
        (declaration.keyword ++ declaration.gap ++ declaration.token ++ passed) := by
      simp only [upToToken, List.append_assoc]
    rw [isStart, isEnd]
    simpa using Ne.symm (UInt32.ne_of_lt ahead)
  rw [isCheck, List.filter_append, noneLater, List.append_nil]
  split
  · rfl
  · simp [unknownType]

end Rule

/--
A line that is a declaration adds one variable to the outline, under the declared name. The rule on
declared types reports it, from the keyword to the end of the word after it, exactly if this word is
not a known type; whatever else the rule reports on the line is on keywords further to the right.
-/
theorem listed_and_judged_alike {content : String} {index : Nat}
    (isLine : (Text.lines content)[index]? = some declaration.text) :
    (lineSymbols (.ofNat index) declaration.text).filter (·.kind = .keptVariable) =
        [declaration.symbol (.ofNat index)] ∧
      ((Text.lines content).length ≤ UInt32.size →
        (outline content).filter (fun symbol =>
            symbol.kind = .keptVariable ∧ symbol.line = .ofNat index) =
          [declaration.symbol (.ofNat index)]) ∧
      ∀ catalog number next,
        (∃ later, (declarationRule catalog).check ⟨number, declaration.text, next⟩ =
            (if catalog.isTypeName (String.ofList declaration.token) then []
            else [declaration.unknownType number]) ++ later ∧
          ∀ finding ∈ later, ∃ passed keyword rest, isDeclarationKeyword keyword ∧
            declaration.behindToken = passed ++ keyword ++ rest ∧
            finding.span.start = utf16Length (declaration.upToToken ++ passed)) ∧
        (codeUnits declaration.text < UInt32.size →
          ((declarationRule catalog).check ⟨number, declaration.text, next⟩).filter
              (·.span.start = utf16Length declaration.indent) =
            if catalog.isTypeName (String.ofList declaration.token) then []
            else [declaration.unknownType number]) := by
  refine ⟨declaration.lineSymbols_text _, ?_, ?_⟩
  · intro few
    exact declaration.outline_filter_text few isLine
  · intro catalog number next
    refine ⟨declaration.check_text catalog number next, ?_⟩
    intro bounded
    exact declaration.check_text_filter_start catalog number next bounded

/-- A declaration with a type, in the value of which the same keyword turns up again. -/
def typedTwice : DeclarationLine where
  indent := ['\t']
  keyword := "varip".toList
  gap := "  ".toList
  type? := some ("séries".toList, " ".toList)
  name := "x".toList
  spacing := []
  value := " varip y = 1".toList
  indent_white := by decide +kernel
  isKeyword := by decide +kernel
  gap_blank := by decide +kernel
  type_word := by decide +kernel
  name_word := by decide +kernel
  spacing_white := by decide +kernel

theorem listed_and_judged_alike_typedTwice :
    (Text.lines "//@version=5\n\tvarip  séries x= varip y = 1")[1]? = some typedTwice.text ∧
      (outline "//@version=5\n\tvarip  séries x= varip y = 1").filter (fun symbol =>
        symbol.kind = .keptVariable ∧ symbol.line = 1) = [⟨"x", .keptVariable, 1⟩] ∧
      (((declarationRule ⟨[]⟩).check ⟨1, typedTwice.text, none⟩).filter (·.span.start = 1)).map
        (fun finding => (finding.message, finding.span)) =
          [("Unknown type: séries", ⟨1, 1, 14⟩)] := by
  have isLine : (Text.lines "//@version=5\n\tvarip  séries x= varip y = 1")[1]? =
      some typedTwice.text := by decide +kernel
  rcases typedTwice.listed_and_judged_alike isLine with ⟨_, listed, judged⟩
  refine ⟨isLine, listed (by decide +kernel), ?_⟩
  have atKeyword : ((declarationRule ⟨[]⟩).check ⟨1, typedTwice.text, none⟩).filter
      (·.span.start = 1) = _ := (judged ⟨[]⟩ 1 none).2 (by decide +kernel)
  rw [atKeyword]
  decide +kernel

end DeclarationLine

end Script

end PineAssist
