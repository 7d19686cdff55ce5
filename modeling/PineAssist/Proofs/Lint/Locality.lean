import Mathlib.Data.List.Basic
import PineAssist.Proofs.Lint.Placement

/-!
# Linting is local

What the rules of the language find on a line depends on this line, on the line after it and on
whether it is the first one. Nothing is carried over from other lines or from other rules, so two
texts that agree there get the same findings there, however different they are elsewhere.

Numbers of lines have 32 bits. In a text with more lines than that, several lines share a number;
then the findings with this number are those of all these lines, and they depend on all of them.
-/

namespace PineAssist.Lint

open Text (Line)

/-- The lines that have a number, each with the line after it. -/
def linesNumbered (text : String) (number : UInt32) : List (Line × Option Line) :=
  ((subjects (Text.lines text)).filter (·.number = number)).map fun subject =>
    (subject.text, subject.next)

/-- What a run shows on the lines that have a number. -/
def Linter.shownOn (linter : Linter) (text : String) (number : UInt32) : List Finding :=
  (linter.run text).filter (·.span.line = number)

section LineNumbers

variable {text : String} {line : Line} {index : Nat}

theorem filter_number_eq {subject : Subject} {items : List Subject}
    (increasing : items.Pairwise (·.number < ·.number)) (listed : subject ∈ items) :
    items.filter (·.number = subject.number) = [subject] := by
  induction items with
  | nil => cases listed
  | cons first rest ih =>
      rcases List.pairwise_cons.mp increasing with ⟨below, restIncreasing⟩
      rcases List.mem_cons.mp listed with rfl | later
      · have noOther : rest.filter (·.number = subject.number) = [] := by
          apply List.filter_eq_nil_iff.mpr
          intro other isOther
          have above := below other isOther
          simpa using Ne.symm (UInt32.ne_of_lt above)
        rw [List.filter_cons_of_pos (by simp), noOther]
      · have above := below subject later
        rw [List.filter_cons_of_neg (by simpa using UInt32.ne_of_lt above)]
        exact ih restIncreasing later

/-- As long as there are enough numbers, a number belongs to one line. -/
theorem linesNumbered_ofNat (few : (Text.lines text).length ≤ UInt32.size)
    (isLine : (Text.lines text)[index]? = some line) :
    linesNumbered text (.ofNat index) = [(line, (Text.lines text)[index + 1]?)] := by
  have listed : (⟨.ofNat index, line, (Text.lines text)[index + 1]?⟩ : Subject) ∈
      subjects (Text.lines text) := by
    apply List.mem_of_getElem?
    rw [subjects, List.getElem?_mapIdx, isLine, Option.map_some]
  rw [linesNumbered, filter_number_eq (subjects_pairwise_number_lt few) listed]
  rfl

section Reports

variable {Report : Type} {report : Subject → List Report} {numberOf : Report → UInt32}
  {number : UInt32}

theorem filter_numberOf_flatMap
    (numbered : ∀ subject, ∀ item ∈ report subject, numberOf item = subject.number)
    (items : List Subject) :
    (items.flatMap report).filter (numberOf · = number) =
      (items.filter (·.number = number)).flatMap report := by
  induction items with
  | nil => rfl
  | cons first rest ih =>
      rw [List.flatMap_cons, List.filter_append, ih]
      by_cases same : first.number = number
      · have kept : (report first).filter (numberOf · = number) = report first := by
          apply List.filter_eq_self.mpr
          intro item listed
          simpa [numbered first item listed] using same
        rw [kept, List.filter_cons_of_pos (by simpa using same), List.flatMap_cons]
      · have dropped : (report first).filter (numberOf · = number) = [] := by
          apply List.filter_eq_nil_iff.mpr
          intro item listed
          simpa [numbered first item listed] using same
        rw [dropped, List.filter_cons_of_neg (by simpa using same), List.nil_append]

/-- What is reported under a number is what is reported of the lines that have it. -/
theorem filter_numberOf_subjects
    (numbered : ∀ subject, ∀ item ∈ report subject, numberOf item = subject.number) :
    ((subjects (Text.lines text)).flatMap report).filter (numberOf · = number) =
      (linesNumbered text number).flatMap fun (line, next) => report ⟨number, line, next⟩ := by
  rw [filter_numberOf_flatMap numbered, linesNumbered, List.flatMap_map]
  apply List.flatMap_congr
  intro subject isNumbered
  have isNumber : subject.number = number := by simpa using (List.mem_filter.mp isNumbered).2
  simp [← isNumber]

end Reports

theorem ofNat_eq_zero_iff (few : (Text.lines text).length ≤ UInt32.size)
    (isLine : (Text.lines text)[index]? = some line) : UInt32.ofNat index = 0 ↔ index = 0 := by
  have inside := (List.getElem?_eq_some_iff.mp isLine).1
  constructor
  · intro isZero
    have isZeroNat := congrArg UInt32.toNat isZero
    rwa [UInt32.toNat_ofNat_of_lt' (by omega)] at isZeroNat
  · rintro rfl
    rfl

end LineNumbers

namespace Linter

variable {linter : Linter} {number other : UInt32} {text : String}

section LineBound

variable (lineBound : ∀ rule ∈ linter.rules, rule.LineBound)

include lineBound

theorem judge_moved (subject : Subject) (bothFirst : subject.number = 0 ↔ number = 0) :
    linter.judge { subject with number } = (linter.judge subject).map (·.moveTo number) := by
  rw [judge, judge, List.map_flatMap]
  apply List.flatMap_congr
  intro rule enabled
  have listed := (List.mem_filter.mp enabled).1
  rw [(lineBound rule listed).moved subject bothFirst, List.map_map, List.map_map]
  rfl

theorem findings_on_line :
    (linter.findings text).filter (·.span.line = number) =
      ((linesNumbered text number).flatMap fun (line, next) =>
        linter.judge ⟨number, line, next⟩).filter fun finding =>
          linter.config.minimum.rank ≤ finding.severity.rank := by
  have numbered : ((subjects (Text.lines text)).flatMap linter.judge).filter
      (·.span.line = number) = _ :=
    filter_numberOf_subjects fun _ _ judged => line_of_mem_judge lineBound judged
  rw [← numbered, findings, List.filter_filter, List.filter_filter]
  simp only [Bool.and_comm]

theorem findings_on_line_moved (bothFirst : number = 0 ↔ other = 0) {otherText : String}
    (same : linesNumbered text number = linesNumbered otherText other) :
    ((linter.findings text).filter (·.span.line = number)).map (·.moveTo other) =
      (linter.findings otherText).filter (·.span.line = other) := by
  rw [findings_on_line lineBound, findings_on_line lineBound, ← same]
  have moved (line : Line) (next : Option Line) :
      linter.judge ⟨other, line, next⟩ =
        (linter.judge ⟨number, line, next⟩).map (·.moveTo other) :=
    judge_moved lineBound ⟨number, line, next⟩ bothFirst
  simp only [moved, List.filter_flatMap, List.map_flatMap, List.filter_map]
  rfl

end LineBound

/--
Two texts that agree on a line and on what follows it get the same findings there, but for the
number of the line. This is said of indices first, as long as no two lines share a number, and then
of numbers, whatever the lines that have them.
-/
theorem run_local (config : Config) (catalog : Catalog) {text otherText : String}
    (within : ((standard config catalog).run text).length ≤ config.limit)
    (otherWithin : ((standard config catalog).run otherText).length ≤ config.limit) :
    (∀ index otherIndex line, (index = 0 ↔ otherIndex = 0) →
      (Text.lines text)[index]? = some line → (Text.lines otherText)[otherIndex]? = some line →
      (Text.lines text)[index + 1]? = (Text.lines otherText)[otherIndex + 1]? →
      (Text.lines text).length ≤ UInt32.size → (Text.lines otherText).length ≤ UInt32.size →
      ((standard config catalog).shownOn text (.ofNat index)).map (·.moveTo (.ofNat otherIndex)) =
        (standard config catalog).shownOn otherText (.ofNat otherIndex)) ∧
    ∀ number other, (number = 0 ↔ other = 0) →
      linesNumbered text number = linesNumbered otherText other →
      ((standard config catalog).shownOn text number).map (·.moveTo other) =
        (standard config catalog).shownOn otherText other := by
  have numbered : ∀ number other, (number = 0 ↔ other = 0) →
      linesNumbered text number = linesNumbered otherText other →
      ((standard config catalog).shownOn text number).map (·.moveTo other) =
        (standard config catalog).shownOn otherText other := by
    intro number other bothFirst same
    rw [shownOn, shownOn, run_eq_findings within, run_eq_findings otherWithin]
    exact findings_on_line_moved (standard_lineBound config catalog) bothFirst same
  refine ⟨?_, numbered⟩
  intro index otherIndex line bothFirst isLine isOtherLine sameNext few otherFew
  apply numbered
  · rw [ofNat_eq_zero_iff few isLine, ofNat_eq_zero_iff otherFew isOtherLine]
    exact bothFirst
  · rw [linesNumbered_ofNat few isLine, linesNumbered_ofNat otherFew isOtherLine, sameNext]

/-- The same two lines stand at the end of two scripts that begin differently. -/
theorem run_local_lastLines :
    ((standard {} ⟨[]⟩).shownOn "plot(x\nif a\nb" 1).map (·.moveTo 3) =
        (standard {} ⟨[]⟩).shownOn "//@version=5\n\n\nif a\nb" 3 ∧
      (standard {} ⟨[]⟩).shownOn "//@version=5\n\n\nif a\nb" 3 ≠ [] := by
  have within : ((standard {} ⟨[]⟩).run "plot(x\nif a\nb").length ≤ 10000 := by decide +kernel
  have otherWithin : ((standard {} ⟨[]⟩).run "//@version=5\n\n\nif a\nb").length ≤ 10000 := by
    decide +kernel
  have agree := run_local {} ⟨[]⟩ within otherWithin
  refine ⟨?_, by decide +kernel⟩
  exact agree.1 1 3 "if a".toList (by decide) (by decide +kernel) (by decide +kernel)
    (by decide +kernel) (by decide +kernel) (by decide +kernel)

end Linter

end PineAssist.Lint
