import PineAssist.Lint.Linter
import PineAssist.Proofs.Text.CodeUnits

/-!
# What the rules of the language have in common

Every rule of the language signs what it reports with its own identifier, points to a part of the
line that is not empty, and takes no notice of the number of the line except for the first one. That
is all that the theorems about whole texts need to know of the rules, so a change to one of them
concerns only its section here.
-/

namespace PineAssist.Lint

open Text (Line Lexeme lexemes utf16Length codeUnits)

/-- A part of the line that is not empty. -/
def Span.Within (span : Span) (line : Line) : Prop :=
  span.start < span.stop ∧ span.stop ≤ utf16Length line

/-- The finding as it would stand on the line with another number. -/
def Finding.moveTo (number : UInt32) (finding : Finding) : Finding :=
  { finding with span := { finding.span with line := number } }

/-- A rule that keeps to the line that it is shown and signs for what it reports. -/
structure Rule.LineBound (rule : Rule) : Prop where
  /-- Findings carry the identifier of the rule. -/
  signed {subject : Subject} {finding : Finding} (reported : finding ∈ rule.check subject) :
    finding.rule = rule.id
  /-- Findings point to a part of the line, provided that 32 bits suffice for its columns. -/
  within {subject : Subject} {finding : Finding} (bounded : codeUnits subject.text < UInt32.size)
    (reported : finding ∈ rule.check subject) : finding.span.Within subject.text
  /-- The number of the line is handed on to the findings and matters only for the first line. -/
  moved (subject : Subject) {number : UInt32} (bothFirst : subject.number = 0 ↔ number = 0) :
    rule.check { subject with number } = (rule.check subject).map (·.moveTo number)

variable {subject : Subject} {finding : Finding} {number : UInt32}

/-- A rule that does not mind where a line stands reports the number that it is given. -/
theorem Rule.LineBound.line_eq {rule : Rule} (bound : rule.LineBound)
    (reported : finding ∈ rule.check subject) : finding.span.line = subject.number := by
  have unmoved : rule.check subject = (rule.check subject).map (·.moveTo subject.number) :=
    bound.moved subject Iff.rfl
  rw [unmoved] at reported
  rcases List.mem_map.mp reported with ⟨original, _, rfl⟩
  rfl

theorem Subject.fullSpan_within (bounded : codeUnits subject.text < UInt32.size)
    (nonempty : subject.text ≠ []) : subject.fullSpan.Within subject.text :=
  ⟨Text.utf16Length_pos bounded nonempty, UInt32.le_refl _⟩

section Version

theorem ne_nil_of_directiveDigits? {line digits : Line}
    (found : directiveDigits? line = some digits) : line ≠ [] := by
  rintro rfl
  cases found

theorem of_mem_checkVersion (reported : finding ∈ checkVersion subject) :
    finding.rule = versionRuleId ∧ finding.span = subject.fullSpan ∧ subject.text ≠ [] := by
  unfold checkVersion at reported
  split at reported
  · cases reported
  · split at reported
    · split at reported
      · cases reported
      · next notBlank =>
        rw [List.mem_singleton] at reported
        subst reported
        refine ⟨rfl, rfl, ?_⟩
        intro empty
        simp [empty] at notBlank
    · next digits isDirective =>
      split at reported
      · cases reported
      · rw [List.mem_singleton] at reported
        subst reported
        exact ⟨rfl, rfl, ne_nil_of_directiveDigits? isDirective⟩

theorem checkVersion_moved (bothFirst : subject.number = 0 ↔ number = 0) :
    checkVersion { subject with number } = (checkVersion subject).map (·.moveTo number) := by
  unfold checkVersion
  by_cases first : subject.number = 0
  · have alsoFirst := bothFirst.mp first
    simp only [first, alsoFirst, ne_eq, not_true_eq_false, if_false]
    split <;> split <;> rfl
  · have alsoNotFirst : number ≠ 0 := fun isZero => first (bothFirst.mpr isZero)
    simp [first, alsoNotFirst]

theorem versionRule_lineBound : versionRule.LineBound where
  signed reported := (of_mem_checkVersion reported).1
  within bounded reported := by
    rcases of_mem_checkVersion reported with ⟨_, isFull, nonempty⟩
    rw [isFull]
    exact Subject.fullSpan_within bounded nonempty
  moved _ := checkVersion_moved

end Version

section Parentheses

theorem mem_checkParentheses_iff :
    finding ∈ checkParentheses subject ↔
      ∃ next, subject.next = some next ∧
        ¬(balance subject.text = 0 ∨ balance subject.text + balance next = 0) ∧
        finding = ⟨.error, .mismatchedParentheses, "Mismatched parentheses.",
          ⟨subject.number,
            if utf16Length subject.text = 0 then 0 else utf16Length subject.text - 1,
            utf16Length subject.text⟩, parenthesesRuleId⟩ := by
  cases isNext : subject.next with
  | none => simp [checkParentheses, isNext]
  | some next =>
      simp only [checkParentheses, isNext, Option.some.injEq, exists_eq_left']
      split
      · next accepted => simp [accepted]
      · next outOfBalance => simp [outOfBalance]

theorem of_mem_checkParentheses (reported : finding ∈ checkParentheses subject) :
    finding.rule = parenthesesRuleId ∧ balance subject.text ≠ 0 ∧
      finding.span.start =
        (if utf16Length subject.text = 0 then 0 else utf16Length subject.text - 1) ∧
      finding.span.stop = utf16Length subject.text := by
  rcases mem_checkParentheses_iff.mp reported with ⟨next, _, outOfBalance, rfl⟩
  exact ⟨rfl, fun balanced => outOfBalance (.inl balanced), rfl, rfl⟩

theorem checkParentheses_moved :
    checkParentheses { subject with number } =
      (checkParentheses subject).map (·.moveTo number) := by
  cases isNext : subject.next with
  | none => simp [checkParentheses, isNext]
  | some next =>
      simp only [checkParentheses, isNext]
      split <;> rfl

theorem parenthesesRule_lineBound : parenthesesRule.LineBound where
  signed reported := (of_mem_checkParentheses reported).1
  within {subject _} bounded reported := by
    rcases of_mem_checkParentheses reported with ⟨_, outOfBalance, isStart, isStop⟩
    have nonempty : subject.text ≠ [] := by
      intro empty
      simp [empty] at outOfBalance
    have positive := Text.utf16Length_pos bounded nonempty
    rw [if_neg (UInt32.pos_iff_ne_zero.mp positive)] at isStart
    rw [Span.Within, isStart, isStop]
    exact ⟨UInt32.sub_lt (by decide) positive, UInt32.le_refl _⟩
  moved _ _ _ := checkParentheses_moved

end Parentheses

section Control

theorem of_mem_checkControl (reported : finding ∈ checkControl subject) :
    finding.rule = controlRuleId ∧ finding.span = subject.fullSpan ∧ subject.text ≠ [] := by
  unfold checkControl at reported
  split at reported
  · next isHeader =>
    rw [List.mem_singleton] at reported
    subst reported
    refine ⟨rfl, rfl, ?_⟩
    intro empty
    simp [empty, lexemes, hasControlHeader] at isHeader
  · cases reported

theorem checkControl_moved :
    checkControl { subject with number } = (checkControl subject).map (·.moveTo number) := by
  unfold checkControl
  split <;> rfl

theorem controlRule_lineBound : controlRule.LineBound where
  signed reported := (of_mem_checkControl reported).1
  within bounded reported := by
    rcases of_mem_checkControl reported with ⟨_, isFull, nonempty⟩
    rw [isFull]
    exact Subject.fullSpan_within bounded nonempty
  moved _ _ _ := checkControl_moved

end Control

section Declaration

variable {before passed line : Line} {following : List Lexeme} {declaration : Declaration}
  {catalog : Catalog}

theorem ne_nil_of_isDeclarationKeyword {word : Line} (keyword : Script.isDeclarationKeyword word) :
    word ≠ [] := by
  rintro rfl
  revert keyword
  decide

/-- When `before` has been read and `line` is left, the columns of the declaration are those where a
keyword of the rest begins and where the word behind it ends. -/
def Declaration.StandsIn (declaration : Declaration) (before line : Line) : Prop :=
  ∃ passed keyword gap, Script.isDeclarationKeyword keyword ∧
    line = passed ++ keyword ++ gap ++ declaration.type ++ declaration.rest.flatMap Lexeme.chars ∧
    declaration.start = utf16Length (before ++ passed) ∧
    declaration.stop = utf16Length (before ++ passed ++ keyword ++ gap ++ declaration.type)

theorem Declaration.StandsIn.of_passed (stands : declaration.StandsIn (before ++ passed) line) :
    declaration.StandsIn before (passed ++ line) := by
  rcases stands with ⟨skipped, keyword, gap, isKeyword, rfl, isStart, isStop⟩
  refine ⟨passed ++ skipped, keyword, gap, isKeyword, by simp, ?_, ?_⟩
  · simpa using isStart
  · simpa using isStop

/-- The induction follows the scan, and what it has left behind is moved over to `before`. -/
theorem standsIn_of_mem_declarations
    (found : declaration ∈ declarations (utf16Length before) following) :
    declaration.StandsIn before (following.flatMap Lexeme.chars) := by
  generalize isColumn : utf16Length before = column at found
  fun_induction declarations column following generalizing before with
  | case1 => cases found
  | case2 column keyword gap type rest isKeyword stop =>
      rename_i ih
      have isStop : utf16Length (before ++ (keyword ++ gap ++ type)) = stop := by
        simp only [Text.utf16Length_append, isColumn, stop, UInt32.add_assoc]
      rcases List.mem_cons.mp found with rfl | later
      · refine ⟨[], keyword, gap, isKeyword, by simp [Lexeme.chars], by simp [isColumn], ?_⟩
        simpa using isStop.symm
      · have stands := (ih isStop later).of_passed
        simpa [Lexeme.chars] using stands
  | case3 column keyword gap type rest notKeyword ih =>
      have isNext : utf16Length (before ++ (keyword ++ gap)) =
          column + utf16Length keyword + utf16Length gap := by
        simp only [Text.utf16Length_append, isColumn, UInt32.add_assoc]
      have stands := (ih isNext found).of_passed
      simpa [Lexeme.chars] using stands
  | case4 column lexeme rest _ ih =>
      have isNext : utf16Length (before ++ lexeme.chars) = column + utf16Length lexeme.chars := by
        rw [Text.utf16Length_append, isColumn]
      exact (ih isNext found).of_passed

theorem Declaration.StandsIn.within (bounded : codeUnits line < UInt32.size)
    (stands : declaration.StandsIn [] line) (number : UInt32) :
    (⟨number, declaration.start, declaration.stop⟩ : Span).Within line := by
  rcases stands with ⟨passed, keyword, gap, isKeyword, rfl, isStart, isStop⟩
  have nonempty : keyword ++ gap ++ declaration.type ≠ [] := by
    simp [ne_nil_of_isDeclarationKeyword isKeyword]
  have fits : codeUnits (passed ++ (keyword ++ gap ++ declaration.type)) < UInt32.size := by
    simp only [Text.codeUnits_append] at bounded ⊢
    omega
  have ordered := Text.utf16Length_lt_append fits nonempty
  rw [Span.Within, isStart, isStop]
  constructor
  · simpa using ordered
  · exact Text.utf16Length_le_append bounded

theorem of_mem_checkDeclarations (reported : finding ∈ checkDeclarations catalog subject) :
    finding.rule = declarationRuleId ∧
      ∃ declaration : Declaration, declaration.StandsIn [] subject.text ∧
        finding.span = ⟨subject.number, declaration.start, declaration.stop⟩ := by
  rcases List.mem_map.mp reported with ⟨declaration, isFlawed, rfl⟩
  have found := (List.mem_filter.mp isFlawed).1
  have stands : declaration.StandsIn [] ((lexemes subject.text).flatMap Lexeme.chars) :=
    standsIn_of_mem_declarations found
  rw [Text.flatMap_chars_lexemes] at stands
  exact ⟨rfl, declaration, stands, rfl⟩

theorem declarationRule_lineBound (catalog : Catalog) : (declarationRule catalog).LineBound where
  signed reported := (of_mem_checkDeclarations reported).1
  within bounded reported := by
    rcases of_mem_checkDeclarations reported with ⟨_, declaration, stands, isSpan⟩
    rw [isSpan]
    exact stands.within bounded _
  moved subject number _ := by
    simp [declarationRule, checkDeclarations, Finding.moveTo]

end Declaration

theorem Linter.standard_lineBound (config : Config) (catalog : Catalog) :
    ∀ rule ∈ (Linter.standard config catalog).rules, rule.LineBound := by
  intro rule listed
  simp only [standard, defaultRules, List.mem_cons, List.not_mem_nil, or_false] at listed
  rcases listed with rfl | rfl | rfl | rfl
  · exact versionRule_lineBound
  · exact parenthesesRule_lineBound
  · exact declarationRule_lineBound catalog
  · exact controlRule_lineBound

end PineAssist.Lint
