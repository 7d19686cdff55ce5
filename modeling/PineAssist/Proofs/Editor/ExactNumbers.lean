import PineAssist.Proofs.Editor.HoverRange
import PineAssist.Proofs.Editor.OutlineLines
import PineAssist.Proofs.Text.ByteLengths

/-!
# Documents for which 32 bits suffice

Lines and columns are counted in 32 bits everywhere: by the linter, by the outline, and where a
position is looked up. On a text of at most 2³² - 2 bytes none of these numbers ever starts again
from zero, and the numbers from one that a finding is displayed with do not either. Every number
that is computed is therefore the one that natural numbers would give. The limit on the size of
documents is far below this.
-/

namespace PineAssist

open Text (CountsExactly Line codeUnits lexemes lines seekUnits upToOffset utf16Length utf8Length)

/-- What is made of the lines and their numbers may be made of them in another way as long as it is
the same for numbers that 32 bits hold. -/
theorem Text.map_mapIdx_of_lt {Item Result : Type} {lines : List Line}
    {make : Nat → Line → Item} {view : Item → Result} {direct : Nat → Line → Result}
    (few : lines.length ≤ UInt32.size)
    (same : ∀ index line, index < UInt32.size → view (make index line) = direct index line) :
    (lines.mapIdx make).map view = lines.mapIdx direct := by
  apply List.ext_getElem
  · simp
  · intro index inside _
    simp only [List.length_map, List.length_mapIdx] at inside
    simp only [List.getElem_map, List.getElem_mapIdx]
    exact same index _ (by omega)

namespace Lint

variable {subject : Subject} {finding : Finding}

/-- A line that is reported is not empty, so there is a column to be taken away from its length. -/
theorem toNat_of_mem_checkParentheses (bounded : codeUnits subject.text < UInt32.size)
    (reported : finding ∈ checkParentheses subject) :
    finding.span.start.toNat + 1 = codeUnits subject.text ∧
      finding.span.stop.toNat = codeUnits subject.text := by
  rcases of_mem_checkParentheses reported with ⟨_, outOfBalance, isStart, isStop⟩
  have nonempty : subject.text ≠ [] := by
    intro empty
    simp [empty] at outOfBalance
  have positive := Text.utf16Length_pos bounded nonempty
  have atLeastOne : 1 ≤ utf16Length subject.text :=
    UInt32.le_iff_toNat_le.mpr (UInt32.lt_iff_toNat_lt.mp positive)
  rw [if_neg (UInt32.pos_iff_ne_zero.mp positive)] at isStart
  rw [isStart, isStop, UInt32.toNat_sub_of_le _ _ atLeastOne, Text.toNat_utf16Length bounded]
  exact ⟨Nat.sub_add_cancel (Text.codeUnits_pos nonempty), rfl⟩

theorem Declaration.StandsIn.toNat_columns {declaration : Declaration} {line : Line}
    (stands : declaration.StandsIn [] line) (bounded : codeUnits line < UInt32.size) :
    ∃ before upToType, before <+: upToType ∧ upToType <+: line ∧
      declaration.start.toNat = codeUnits before ∧
      declaration.stop.toNat = codeUnits upToType := by
  rcases stands with ⟨before, keyword, gap, _, rfl, isStart, isStop⟩
  have few : codeUnits (before ++ (keyword ++ gap ++ declaration.type)) < UInt32.size := by
    simp only [Text.codeUnits_append] at bounded ⊢
    omega
  refine ⟨before, before ++ (keyword ++ gap ++ declaration.type), List.prefix_append _ _,
    ⟨declaration.rest.flatMap Text.Lexeme.chars, by simp⟩, ?_, ?_⟩
  · rw [Text.codeUnits_append] at few
    rw [isStart, List.nil_append]
    exact Text.toNat_utf16Length (by omega)
  · rw [isStop]
    simpa using Text.toNat_utf16Length few

theorem map_toNat_subjects {lines : List Line} (few : lines.length ≤ UInt32.size) :
    (subjects lines).map (fun subject => (subject.number.toNat, subject.text, subject.next)) =
      lines.mapIdx fun index line => (index, line, lines[index + 1]?) := by
  apply Text.map_mapIdx_of_lt few
  intro index line inside
  rw [UInt32.toNat_ofNat_of_lt' inside]

/-- Proved by congruence, since rewriting with the two sums would compare them with each other. -/
theorem Finding.display_eq (lineFits : finding.span.line.toNat + 1 < UInt32.size)
    (startFits : finding.span.start.toNat + 1 < UInt32.size) :
    finding.display =
      "line " ++ (finding.span.line.toNat + 1).repr ++ ":" ++ (finding.span.start.toNat + 1).repr ++
        ": [" ++ finding.rule ++ "] " ++ finding.severity.label ++ ": " ++ finding.message := by
  have isLine : (finding.span.line + 1).toNat = finding.span.line.toNat + 1 :=
    Nat.mod_eq_of_lt lineFits
  have isStart : (finding.span.start + 1).toNat = finding.span.start.toNat + 1 :=
    Nat.mod_eq_of_lt startFits
  exact congrArg₂ (fun line start : Nat => "line " ++ line.repr ++ ":" ++ start.repr ++ ": [" ++
    finding.rule ++ "] " ++ finding.severity.label ++ ": " ++ finding.message) isLine isStart

end Lint

namespace Editor

theorem map_toNat_outline {content : String} (few : (lines content).length ≤ UInt32.size) :
    (outline content).map (fun symbol => (symbol.line.toNat, symbol.name, symbol.kind)) =
      ((lines content).mapIdx fun index line =>
        (declaredNames line).map fun (name, kind) => (index, name, kind)).flatten := by
  rw [outline, List.map_flatten]
  apply congrArg List.flatten
  apply Text.map_mapIdx_of_lt few
  intro index line inside
  simp only [lineSymbols, List.map_map]
  apply List.map_congr_left
  intro declared _
  simp only [Function.comp_apply, UInt32.toNat_ofNat_of_lt' inside]

end Editor

section Small

open Editor (Cursor Position hover? tokenAt?)
open Lint (Finding)

variable {text : String} {line : Line} {config : Lint.Config} {catalog : Catalog}
  {finding : Finding} (small : text.utf8ByteSize ≤ UInt32.size - 2)

include small

theorem length_lines_lt_of_small : (lines text).length < UInt32.size := by
  have fewLines := Text.length_lines_le text
  have isSize : UInt32.size = 4294967296 := rfl
  omega

theorem codeUnits_lt_of_small (listed : line ∈ lines text) : codeUnits line < UInt32.size := by
  have fewUnits := Text.codeUnits_le_utf8ByteSize listed
  have isSize : UInt32.size = 4294967296 := rfl
  omega

/-- A position leads to the same place if columns are counted without a bound. -/
theorem Editor.Cursor.at?_eq_seekUnits (position : Position) :
    Cursor.at? text position = (lines text)[position.line.toNat]?.map fun line =>
      ⟨line, (seekUnits position.character.toNat 0 0 line).getD (utf8Length line)⟩ := by
  cases isLine : (lines text)[position.line.toNat]? with
  | none => simp [Cursor.at?, isLine]
  | some line =>
      have bounded := codeUnits_lt_of_small small (List.mem_of_getElem? isLine)
      simp [Cursor.at?, isLine, (Text.countsExactly_of_lt bounded).offsets]

theorem Editor.toNat_columns_of_hover? {position : Position} {hover : Editor.Hover}
    (shown : hover? catalog text position = some hover) :
    ∃ line token, tokenAt? text position = some (line, token) ∧
      hover.range.start.character.toNat = codeUnits (upToOffset line token.start) ∧
      hover.range.stop.character.toNat = codeUnits (upToOffset line token.stop) := by
  rcases Editor.hover?_eq_some_iff.mp shown with ⟨line, token, _, isToken, _, _, rfl⟩
  rcases Editor.exists_of_tokenAt? isToken with ⟨_, _, _, isLine, _⟩
  have exactly := Text.countsExactly_of_lt
    (codeUnits_lt_of_small small (List.mem_of_getElem? isLine))
  exact ⟨line, token, isToken, exactly.columns token.start, exactly.columns token.stop⟩

/-- What the rules of the language find is judged on the line whose number it carries. -/
theorem Lint.Linter.exists_line_of_mem_run (listed : finding ∈ (standard config catalog).run text) :
    finding = (standard config catalog).limitWarning ∨
      ∃ index line, (lines text)[index]? = some line ∧ finding.span.line.toNat = index ∧
        finding ∈ (standard config catalog).judge
          ⟨finding.span.line, line, (lines text)[index + 1]?⟩ := by
  rcases mem_findings_or_eq_limitWarning listed with found | isWarning
  · right
    rcases of_mem_findings found with ⟨⟨number, line, next⟩, isSubject, judged⟩
    rcases of_mem_subjects isSubject with ⟨index, isLine, rfl, rfl⟩
    have inside : index < (lines text).length := (List.getElem?_eq_some_iff.mp isLine).1
    have fewLines := length_lines_lt_of_small small
    have isNumber := line_of_mem_judge (standard_lineBound config catalog) judged
    refine ⟨index, line, isLine, ?_, ?_⟩
    · rw [isNumber]
      exact UInt32.toNat_ofNat_of_lt' (by omega)
    · rw [isNumber]
      exact judged
  · exact .inl isWarning

/-- There is room to count the lines and columns of findings from one. -/
theorem Lint.Linter.add_one_lt_of_mem_run (listed : finding ∈ (standard config catalog).run text) :
    finding.span.line.toNat + 1 < UInt32.size ∧ finding.span.start.toNat + 1 < UInt32.size := by
  rcases exists_line_of_mem_run small listed with rfl | ⟨index, line, isLine, isIndex, judged⟩
  · change (0 : UInt32).toNat + 1 < UInt32.size ∧ (0 : UInt32).toNat + 1 < UInt32.size
    decide
  · have inside : index < (lines text).length := (List.getElem?_eq_some_iff.mp isLine).1
    have fewLines := length_lines_lt_of_small small
    have bounded := codeUnits_lt_of_small small (List.mem_of_getElem? isLine)
    rcases within_of_mem_judge (standard_lineBound config catalog) bounded judged with
      ⟨beforeStop, onLine⟩
    rw [UInt32.lt_iff_toNat_lt] at beforeStop
    rw [UInt32.le_iff_toNat_le, Text.toNat_utf16Length bounded] at onLine
    constructor
    · omega
    · change finding.span.stop.toNat ≤ codeUnits line at onLine
      omega

end Small

open Editor (Cursor declaredNames hover? outline tokenAt?)
open Lint (Finding Linter checkParentheses declarations subjects)

/--
On a text of at most 2³² - 2 bytes everything that is computed in 32 bits is what natural numbers
would give: the length of every line, which is at most its number of bytes, and the conversions
between its columns and offsets; the place of every position and the range that is marked there; the
numbers of the lines for the linter and for the outline; and the columns and the displayed text of
everything that the rules of the language report. A column is taken away from the length of a line
only where the line is not empty.
-/
theorem numbers_exact_of_small {text : String} (small : text.utf8ByteSize ≤ UInt32.size - 2) :
    (∀ line ∈ lines text, codeUnits line ≤ utf8Length line ∧ CountsExactly line) ∧
    (∀ position, Cursor.at? text position = (lines text)[position.line.toNat]?.map fun line =>
      ⟨line, (seekUnits position.character.toNat 0 0 line).getD (utf8Length line)⟩) ∧
    (∀ catalog position hover, hover? catalog text position = some hover →
      ∃ line token, tokenAt? text position = some (line, token) ∧
        hover.range.start.character.toNat = codeUnits (upToOffset line token.start) ∧
        hover.range.stop.character.toNat = codeUnits (upToOffset line token.stop)) ∧
    ((subjects (lines text)).map
        (fun subject => (subject.number.toNat, subject.text, subject.next)) =
      (lines text).mapIdx fun index line => (index, line, (lines text)[index + 1]?)) ∧
    ((outline text).map (fun symbol => (symbol.line.toNat, symbol.name, symbol.kind)) =
      ((lines text).mapIdx fun index line =>
        (declaredNames line).map fun (name, kind) => (index, name, kind)).flatten) ∧
    (∀ line ∈ lines text,
      (∀ number next, ∀ finding ∈ checkParentheses ⟨number, line, next⟩,
        finding.span.start.toNat + 1 = codeUnits line ∧
          finding.span.stop.toNat = codeUnits line) ∧
      ∀ declaration ∈ declarations 0 (lexemes line), ∃ before upToType,
        before <+: upToType ∧ upToType <+: line ∧
          declaration.start.toNat = codeUnits before ∧
          declaration.stop.toNat = codeUnits upToType) ∧
    ∀ config catalog, ∀ finding ∈ (Linter.standard config catalog).run text,
      (finding = (Linter.standard config catalog).limitWarning ∨
        ∃ index line, (lines text)[index]? = some line ∧ finding.span.line.toNat = index ∧
          finding ∈ (Linter.standard config catalog).judge
            ⟨finding.span.line, line, (lines text)[index + 1]?⟩) ∧
      finding.display =
        "line " ++ (finding.span.line.toNat + 1).repr ++ ":" ++
          (finding.span.start.toNat + 1).repr ++ ": [" ++ finding.rule ++ "] " ++
          finding.severity.label ++ ": " ++ finding.message := by
  have fewLines := length_lines_lt_of_small small
  refine ⟨?_, ?_, ?_, ?_, ?_, ?_, ?_⟩
  · intro line listed
    exact ⟨Text.codeUnits_le_utf8Length line,
      Text.countsExactly_of_lt (codeUnits_lt_of_small small listed)⟩
  · exact Editor.Cursor.at?_eq_seekUnits small
  · intro catalog position hover shown
    exact Editor.toNat_columns_of_hover? small shown
  · exact Lint.map_toNat_subjects (Nat.le_of_lt fewLines)
  · exact Editor.map_toNat_outline (Nat.le_of_lt fewLines)
  · intro line listed
    have bounded := codeUnits_lt_of_small small listed
    constructor
    · intro number next finding reported
      exact Lint.toNat_of_mem_checkParentheses bounded reported
    · intro declaration found
      have stands : declaration.StandsIn [] ((lexemes line).flatMap Text.Lexeme.chars) :=
        Lint.standsIn_of_mem_declarations found
      rw [Text.flatMap_chars_lexemes] at stands
      exact stands.toNat_columns bounded
  · intro config catalog finding listed
    rcases Linter.add_one_lt_of_mem_run small listed with ⟨lineFits, startFits⟩
    exact ⟨Linter.exists_line_of_mem_run small listed, Finding.display_eq lineFits startFits⟩

/-- A declaration behind a character of two code units. -/
def declarationBehindEmoji : String := "//@version=5\r\n😀 var foo x = 1"

/-- What is reported about its type. -/
def fooFinding : Finding :=
  ⟨.warning, .unknownType, "Unknown type: foo", ⟨1, 3, 10⟩, Lint.declarationRuleId⟩

theorem numbers_exact_of_small_declarationBehindEmoji :
    declarationBehindEmoji.utf8ByteSize = 32 ∧ CountsExactly "😀 var foo x = 1".toList ∧
      fooFinding ∈ (Linter.standard {} ⟨[]⟩).run declarationBehindEmoji ∧
      fooFinding.display = "line 2:4: [declaration-type] warning: Unknown type: foo" := by
  have size : declarationBehindEmoji.utf8ByteSize = 32 := by decide +kernel
  have small : declarationBehindEmoji.utf8ByteSize ≤ UInt32.size - 2 :=
    Nat.le_trans (Nat.le_of_eq size) (by decide)
  have listed : "😀 var foo x = 1".toList ∈ lines declarationBehindEmoji := by decide +kernel
  have reported : fooFinding ∈ (Linter.standard {} ⟨[]⟩).run declarationBehindEmoji := by
    decide +kernel
  rcases numbers_exact_of_small small with ⟨counted, _, _, _, _, _, displayed⟩
  refine ⟨size, (counted _ listed).2, reported, ?_⟩
  exact (displayed {} ⟨[]⟩ fooFinding reported).2.trans (by decide +kernel)

end PineAssist
