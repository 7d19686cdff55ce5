import PineAssist.Proofs.Lint.Findings
import PineAssist.Proofs.Lint.StandardRules

/-!
# Where findings stand

The findings of the rules of the language come in the order of their lines, and each of them covers
a part of a line that exists. The warning about the limit is no finding about a line: it stands on
the first one, which every text has, and comes last nevertheless.
-/

namespace PineAssist.Lint

open Text (Line utf16Length codeUnits)

theorem subjects_pairwise_number_lt {lines : List Line} (few : lines.length ≤ UInt32.size) :
    (subjects lines).Pairwise (·.number < ·.number) := by
  apply List.pairwise_iff_getElem.mpr
  intro index later isIndex isLater before
  simp only [subjects, List.length_mapIdx] at isIndex isLater
  simp only [subjects, List.getElem_mapIdx]
  apply UInt32.lt_iff_toNat_lt.mpr
  rwa [UInt32.toNat_ofNat_of_lt' (by omega), UInt32.toNat_ofNat_of_lt' (by omega)]

/-- What is reported line by line comes in the order of the lines. -/
theorem pairwise_numberOf_subjects {Report : Type} {report : Subject → List Report}
    {numberOf : Report → UInt32} {lines : List Line} (few : lines.length ≤ UInt32.size)
    (numbered : ∀ subject, ∀ item ∈ report subject, numberOf item = subject.number) :
    ((subjects lines).flatMap report).Pairwise (numberOf · ≤ numberOf ·) := by
  apply List.pairwise_flatMap.mpr
  constructor
  · intro subject _
    apply List.pairwise_of_forall_mem_list
    intro item reported later reportedLater
    rw [numbered subject item reported, numbered subject later reportedLater]
    exact UInt32.le_refl _
  · apply (subjects_pairwise_number_lt few).imp
    intro subject next ordered item reported later reportedLater
    rw [numbered subject item reported, numbered next later reportedLater]
    exact UInt32.le_of_lt ordered

namespace Linter

variable {linter : Linter} {config : Config} {catalog : Catalog} {text : String}
  {subject : Subject} {finding : Finding}

section LineBound

variable (lineBound : ∀ rule ∈ linter.rules, rule.LineBound)

include lineBound

theorem line_of_mem_judge (judged : finding ∈ linter.judge subject) :
    finding.span.line = subject.number := by
  rcases of_mem_judge judged with ⟨rule, listed, original, reported, sameSpan, _⟩
  rw [sameSpan]
  exact (lineBound rule listed).line_eq reported

theorem within_of_mem_judge (bounded : codeUnits subject.text < UInt32.size)
    (judged : finding ∈ linter.judge subject) : finding.span.Within subject.text := by
  rcases of_mem_judge judged with ⟨rule, listed, original, reported, sameSpan, _⟩
  rw [sameSpan]
  exact (lineBound rule listed).within bounded reported

theorem findings_pairwise_line_le (few : (Text.lines text).length ≤ UInt32.size) :
    (linter.findings text).Pairwise (·.span.line ≤ ·.span.line) := by
  apply List.Pairwise.filter
  apply pairwise_numberOf_subjects few
  intro subject finding judged
  exact line_of_mem_judge lineBound judged

theorem placed_of_mem_findings (few : (Text.lines text).length ≤ UInt32.size)
    (bounded : codeUnits text.toList < UInt32.size) (found : finding ∈ linter.findings text) :
    ∃ line, (Text.lines text)[finding.span.line.toNat]? = some line ∧
      finding.span.Within line := by
  rcases of_mem_findings found with ⟨subject, isSubject, judged⟩
  rcases of_mem_subjects isSubject with ⟨index, isLine, isNumber, _⟩
  have inside : index < (Text.lines text).length := (List.getElem?_eq_some_iff.mp isLine).1
  have listed : subject.text ∈ Text.lines text := List.mem_of_getElem? isLine
  have shorter := Text.codeUnits_le_of_mem_lines listed
  refine ⟨subject.text, ?_, within_of_mem_judge lineBound (by omega) judged⟩
  rw [line_of_mem_judge lineBound judged, isNumber, UInt32.toNat_ofNat_of_lt' (by omega)]
  exact isLine

end LineBound

theorem rule_ne_limitRuleId (found : finding ∈ (standard config catalog).findings text) :
    finding.rule ≠ limitRuleId := by
  rcases of_mem_findings found with ⟨subject, _, judged⟩
  rcases of_mem_judge judged with ⟨rule, listed, original, reported, _, sameRule⟩
  rw [sameRule, (standard_lineBound config catalog rule listed).signed reported]
  simp only [standard, defaultRules, List.mem_cons, List.not_mem_nil, or_false] at listed
  rcases listed with rfl | rfl | rfl | rfl
  · exact (by decide : versionRuleId ≠ limitRuleId)
  · exact (by decide : parenthesesRuleId ≠ limitRuleId)
  · exact (by decide : declarationRuleId ≠ limitRuleId)
  · exact (by decide : controlRuleId ≠ limitRuleId)

/-- The rules of the language never report in the name of the linter itself, so a run consists of
their findings and of nothing but the warning about the limit behind them. -/
theorem run_standard_cases (config : Config) (catalog : Catalog) (text : String) :
    ∃ shown : List Finding, shown.Sublist ((standard config catalog).findings text) ∧
      ((standard config catalog).run text).filter (·.rule ≠ limitRuleId) = shown ∧
      ∀ before warning after,
        (standard config catalog).run text = before ++ warning :: after →
        warning.rule = limitRuleId →
        after = [] ∧ warning = (standard config catalog).limitWarning := by
  rcases run_cases (standard config catalog) text with ⟨shown, part, isRun⟩
  have unsigned : ∀ finding ∈ shown, finding.rule ≠ limitRuleId := by
    intro finding listed
    exact rule_ne_limitRuleId (part.subset listed)
  have kept : shown.filter (·.rule ≠ limitRuleId) = shown := by
    apply List.filter_eq_self.mpr
    intro finding listed
    exact decide_eq_true (unsigned finding listed)
  refine ⟨shown, part, ?_⟩
  rcases isRun with isRun | isRun
  · rw [isRun]
    refine ⟨kept, ?_⟩
    intro before warning after isSplit isSigned
    exact absurd isSigned (unsigned warning (by simp [isSplit]))
  · rw [isRun]
    constructor
    · rw [List.filter_append, kept]
      simp [limitWarning]
    · intro before warning after isSplit isSigned
      rcases List.eq_nil_or_concat after with rfl | ⟨inner, last, rfl⟩
      · have same := (List.append_inj' isSplit rfl).2
        simp only [List.cons.injEq, and_true] at same
        exact ⟨rfl, same.symm⟩
      · have again : shown ++ [(standard config catalog).limitWarning] =
            (before ++ warning :: inner) ++ [last] := by
          simpa using isSplit
        have isShown := (List.append_inj' again rfl).1
        exact absurd isSigned (unsigned warning (by simp [isShown]))

/--
Apart from the warning about the limit, the rules of the language report in the order of the lines,
and always on a part of an existing line. The warning comes last and stands at the beginning of the
first line.
-/
theorem run_placed (config : Config) (catalog : Catalog) {text : String}
    (fewLines : (Text.lines text).length < UInt32.size)
    (fewUnits : codeUnits text.toList < UInt32.size) :
    let findings := (standard config catalog).run text
    (findings.filter (·.rule ≠ limitRuleId)).Pairwise (·.span.line ≤ ·.span.line) ∧
      (∀ finding ∈ findings, finding.rule ≠ limitRuleId →
        ∃ line, (Text.lines text)[finding.span.line.toNat]? = some line ∧
          finding.span.start < finding.span.stop ∧ finding.span.stop ≤ utf16Length line) ∧
      (∀ before warning after, findings = before ++ warning :: after →
        warning.rule = limitRuleId → after = [] ∧ warning.span = ⟨0, 0, 0⟩) ∧
      (Text.lines text)[0]?.isSome := by
  intro findings
  have lineBound := standard_lineBound config catalog
  rcases run_standard_cases config catalog text with ⟨shown, part, isShown, last⟩
  refine ⟨?_, ?_, ?_, ?_⟩
  · rw [isShown]
    exact (findings_pairwise_line_le lineBound (by omega)).sublist part
  · intro finding listed unsigned
    have amongShown : finding ∈ shown := by
      rw [← isShown]
      exact List.mem_filter.mpr ⟨listed, decide_eq_true unsigned⟩
    exact placed_of_mem_findings lineBound (by omega) fewUnits (part.subset amongShown)
  · intro before warning after isSplit isSigned
    rcases last before warning after isSplit isSigned with ⟨isLast, rfl⟩
    exact ⟨isLast, rfl⟩
  · cases isLines : Text.lines text with
    | nil => exact absurd isLines (Text.lines_ne_nil text)
    | cons first rest => rfl

/-- Two headers without their colons. -/
def twoHeaders : String := "//@version=5\nif a\nif b"

/-- What is reported about the first of them. -/
def firstHeaderFinding : Finding :=
  ⟨.error, .missingColon, "Missing colon (:) after control statement.", ⟨1, 0, 4⟩, controlRuleId⟩

theorem run_placed_twoHeaders :
    firstHeaderFinding ∈ (standard { limit := 1 } ⟨[]⟩).run twoHeaders ∧
      ∃ line, (Text.lines twoHeaders)[firstHeaderFinding.span.line.toNat]? = some line ∧
        firstHeaderFinding.span.start < firstHeaderFinding.span.stop ∧
        firstHeaderFinding.span.stop ≤ utf16Length line := by
  have fewLines : (Text.lines twoHeaders).length < UInt32.size := by decide +kernel
  have fewUnits : codeUnits twoHeaders.toList < UInt32.size := by decide +kernel
  have reported : firstHeaderFinding ∈ (standard { limit := 1 } ⟨[]⟩).run twoHeaders := by
    decide +kernel
  have placed := run_placed { limit := 1 } ⟨[]⟩ fewLines fewUnits
  exact ⟨reported, placed.2.1 firstHeaderFinding reported (by decide)⟩

/-- The warning about the limit comes behind a finding on the second line. -/
theorem limitWarning_out_of_line_order :
    ¬((standard { limit := 1 } ⟨[]⟩).run twoHeaders).Pairwise (·.span.line ≤ ·.span.line) := by
  decide +kernel

end Linter

end PineAssist.Lint
