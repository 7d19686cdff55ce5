import PineAssist.Lint.Linter

/-!
# All findings on a text

The linter stops in the middle of a line once the limit is exceeded. What it would find without a
limit needs no loop: `Linter.findings` takes every line with every rule that is switched on, makes
errors of warnings where the rule is set so, and only then leaves out what is not severe enough. A
run shows these findings from the front, as many as the limit allows, and a warning if some are
missing.

The proof goes through the `Tally`. Adding findings in portions is the same as adding them at once,
so the loops over rules and over lines add what each of their turns reports, one portion after the
other, whether or not the limit has been exceeded on the way.
-/

namespace PineAssist.Lint

open Text (Line)

/-- The lines of a text, each with its number and the line after it. -/
def subjects (lines : List Line) : List Subject :=
  lines.mapIdx fun number line => ⟨.ofNat number, line, lines[number + 1]?⟩

/-- A finding as it counts under the setting of its rule: a warning may count as an error. -/
def RuleSetting.weigh (setting : RuleSetting) (finding : Finding) : Finding :=
  { finding with
    severity := if setting.raised ∧ finding.severity = .warning then .error else finding.severity }

namespace Linter

/-- What the rules that are switched on find on a line, as it counts under their settings. -/
def judge (linter : Linter) (subject : Subject) : List Finding :=
  (linter.rules.filter fun rule => (linter.config.setting rule.id).enabled).flatMap fun rule =>
    (rule.check subject).map (linter.config.setting rule.id).weigh

/-- Everything on a text that is severe enough to be reported, however much it is. -/
def findings (linter : Linter) (text : String) : List Finding :=
  ((subjects (Text.lines text)).flatMap linter.judge).filter fun finding =>
    linter.config.minimum.rank ≤ finding.severity.rank

end Linter

theorem of_mem_subjects {lines : List Line} {subject : Subject}
    (listed : subject ∈ subjects lines) :
    ∃ index, lines[index]? = some subject.text ∧ subject.number = .ofNat index ∧
      subject.next = lines[index + 1]? := by
  rcases List.getElem?_of_mem listed with ⟨index, isSubject⟩
  rw [subjects, List.getElem?_mapIdx] at isSubject
  rcases Option.map_eq_some_iff.mp isSubject with ⟨line, isLine, rfl⟩
  exact ⟨index, isLine, rfl, rfl⟩

/-- Raising makes an error of a warning and changes nothing else. -/
theorem RuleSetting.weigh_eq (setting : RuleSetting) (finding : Finding) :
    setting.weigh finding = if setting.raised then finding.raise else finding := by
  by_cases raised : setting.raised
  · by_cases warns : finding.severity = .warning <;> simp [weigh, Finding.raise, raised, warns]
  · simp [weigh, raised]

theorem RuleSetting.map_weigh (setting : RuleSetting) (findings : List Finding) :
    findings.map setting.weigh =
      if setting.raised then findings.map Finding.raise else findings := by
  have pointwise : setting.weigh =
      fun finding => if setting.raised then finding.raise else finding :=
    funext setting.weigh_eq
  rw [pointwise]
  split <;> simp

namespace Tally

variable {found findings : List Finding} {room : Nat}

theorem add_exceeded : (exceeded found).add findings = exceeded found := by
  cases findings <;> rfl

theorem add_nil (tally : Tally) : tally.add [] = tally := by
  cases tally <;> rfl

theorem add_append (tally : Tally) (first second : List Finding) :
    tally.add (first ++ second) = (tally.add first).add second := by
  cases tally with
  | exceeded found => simp only [add_exceeded]
  | collecting found room =>
      induction first generalizing found room with
      | nil => simp only [List.nil_append, add_nil]
      | cons finding rest ih =>
          cases room with
          | zero => simp only [List.cons_append, add, add_exceeded]
          | succ room => exact ih (finding :: found) room

theorem add_eq_collecting (fits : findings.length ≤ room) :
    (collecting found room).add findings =
      collecting (findings.reverse ++ found) (room - findings.length) := by
  induction findings generalizing found room with
  | nil => rfl
  | cons finding rest ih =>
      cases room with
      | zero => simp at fits
      | succ room =>
          have restFits : rest.length ≤ room := by simpa using fits
          simp [add, ih restFits]

theorem add_eq_exceeded (tooMany : room < findings.length) :
    (collecting found room).add findings =
      exceeded ((findings.take room).reverse ++ found) := by
  induction findings generalizing found room with
  | nil => simp at tooMany
  | cons finding rest ih =>
      cases room with
      | zero => rfl
      | succ room =>
          have restTooMany : room < rest.length := by simpa using tooMany
          simp [add, ih restTooMany]

end Tally

namespace Linter

variable {linter : Linter} {text : String} {subject : Subject} {finding : Finding}

theorem of_mem_judge (judged : finding ∈ linter.judge subject) :
    ∃ rule ∈ linter.rules, ∃ original ∈ rule.check subject,
      finding.span = original.span ∧ finding.rule = original.rule := by
  rcases List.mem_flatMap.mp judged with ⟨rule, enabled, weighed⟩
  rcases List.mem_map.mp weighed with ⟨original, reported, rfl⟩
  exact ⟨rule, (List.mem_filter.mp enabled).1, original, reported, rfl, rfl⟩

theorem of_mem_findings (found : finding ∈ linter.findings text) :
    ∃ subject ∈ subjects (Text.lines text), finding ∈ linter.judge subject :=
  List.mem_flatMap.mp (List.mem_filter.mp found).1

theorem inspect_eq_add (subject : Subject) (tally : Tally)
    (active : List (Rule × RuleSetting)) :
    linter.inspect subject tally active =
      tally.add (active.flatMap fun (rule, setting) => linter.report rule setting subject) := by
  induction active generalizing tally with
  | nil => cases tally <;> rfl
  | cons first rest ih =>
      rw [List.flatMap_cons, Tally.add_append, ← ih]
      cases tally with
      | exceeded found => rw [Tally.add_exceeded, inspect, inspect]
      | collecting found room => rfl

/-- The lines are those from `number` on, since the loop sees only the rest of the text. -/
theorem inspectLines_eq_add (active : List (Rule × RuleSetting)) (number : Nat) (tally : Tally)
    (lines : List Line) :
    linter.inspectLines active (.ofNat number) tally lines =
      tally.add ((lines.mapIdx fun index line =>
          (⟨.ofNat (number + index), line, lines[index + 1]?⟩ : Subject)).flatMap fun subject =>
        active.flatMap fun (rule, setting) => linter.report rule setting subject) := by
  induction lines generalizing number tally with
  | nil => cases tally <;> rfl
  | cons line rest ih =>
      cases tally with
      | exceeded found => rw [Tally.add_exceeded, inspectLines]
      | collecting found room =>
          have next : UInt32.ofNat number + 1 = .ofNat (number + 1) := by
            simp [UInt32.ofNat_add]
          have unfolded : linter.inspectLines active (.ofNat number) (.collecting found room)
              (line :: rest) =
                linter.inspectLines active (.ofNat number + 1)
                  (linter.inspect ⟨.ofNat number, line, rest.head?⟩ (.collecting found room)
                    active) rest := rfl
          rw [unfolded, next, ih, inspect_eq_add, ← Tally.add_append]
          simp [List.mapIdx_cons, List.head?_eq_getElem?, Nat.add_assoc, Nat.add_comm 1]

/-- What the active rules report on a line is what is severe enough of its findings. -/
theorem flatMap_report_active (subject : Subject) :
    (linter.active.flatMap fun (rule, setting) => linter.report rule setting subject) =
      (linter.judge subject).filter fun finding =>
        linter.config.minimum.rank ≤ finding.severity.rank := by
  simp only [active, judge, report, RuleSetting.map_weigh, List.filter_map, List.flatMap_map,
    List.filter_flatMap]
  rfl

/-- A run shows all findings if there is room for them, and else as many as there is room for. -/
theorem run_eq (linter : Linter) (text : String) :
    linter.run text =
      if (linter.findings text).length ≤ linter.config.limit then linter.findings text
      else (linter.findings text).take linter.config.limit ++ [linter.limitWarning] := by
  have tallied : linter.inspectLines linter.active 0 (.collecting [] linter.config.limit)
      (Text.lines text) =
        (Tally.collecting [] linter.config.limit).add (linter.findings text) := by
    have start := linter.inspectLines_eq_add linter.active 0
      (.collecting [] linter.config.limit) (Text.lines text)
    simpa [findings, subjects, flatMap_report_active, List.filter_flatMap] using start
  unfold run
  rw [tallied]
  by_cases fits : (linter.findings text).length ≤ linter.config.limit
  · rw [Tally.add_eq_collecting fits, if_pos fits]
    simp
  · rw [Tally.add_eq_exceeded (by omega), if_neg fits]
    simp

theorem run_eq_findings (within : (linter.run text).length ≤ linter.config.limit) :
    linter.run text = linter.findings text := by
  rw [run_eq] at within ⊢
  by_cases fits : (linter.findings text).length ≤ linter.config.limit
  · rw [if_pos fits]
  · rw [if_neg fits] at within
    simp at within
    omega

/-- A run shows findings in their order, and perhaps a warning behind them. -/
theorem run_cases (linter : Linter) (text : String) :
    ∃ shown : List Finding, shown.Sublist (linter.findings text) ∧
      (linter.run text = shown ∨ linter.run text = shown ++ [linter.limitWarning]) := by
  rw [run_eq]
  split
  · exact ⟨_, List.Sublist.refl _, .inl rfl⟩
  · exact ⟨_, List.take_sublist _ _, .inr rfl⟩

theorem mem_findings_or_eq_limitWarning (listed : finding ∈ linter.run text) :
    finding ∈ linter.findings text ∨ finding = linter.limitWarning := by
  rcases run_cases linter text with ⟨shown, part, isRun | isRun⟩
  · rw [isRun] at listed
    exact .inl (part.subset listed)
  · rw [isRun, List.mem_append, List.mem_singleton] at listed
    exact listed.imp_left fun reported => part.subset reported

/--
A run shows all findings of a text if they are within the limit. If there are more, it shows as many
from the front as the limit allows and then one warning about it, which no configuration keeps back.
-/
theorem run_eq_findings_up_to_limit (linter : Linter) (text : String) :
    linter.run text =
        (if (linter.findings text).length ≤ linter.config.limit then linter.findings text
        else (linter.findings text).take linter.config.limit ++ [linter.limitWarning]) ∧
      linter.limitWarning.rule = "lint-runner" ∧ linter.limitWarning.severity = .warning ∧
      linter.limitWarning.span = ⟨0, 0, 0⟩ :=
  ⟨linter.run_eq text, rfl, rfl, rfl⟩

end Linter

end PineAssist.Lint
