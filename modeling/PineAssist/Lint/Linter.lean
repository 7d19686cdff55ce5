import PineAssist.Lint.Config
import PineAssist.Lint.ControlStatement
import PineAssist.Lint.Declaration
import PineAssist.Lint.Parentheses
import PineAssist.Lint.Version

/-!
# Running the rules

The linter goes through a text line by line and applies every enabled rule in order. Findings are
tallied as they come; once one more than the limit turns up, the linter stops looking and says so.
-/

namespace PineAssist.Lint

open Text (Line)

/-- Findings so far, newest first. -/
inductive Tally where
  /-- There is room for some more findings. -/
  | collecting (findings : List Finding) (room : Nat)
  /-- A finding had to be left out. -/
  | exceeded (findings : List Finding)

namespace Tally

/-- Takes in findings until one does not fit any more. -/
def add : Tally → List Finding → Tally
  | exceeded findings, _ => exceeded findings
  | tally, [] => tally
  | collecting findings 0, _ :: _ => exceeded findings
  | collecting findings (room + 1), finding :: rest =>
    add (collecting (finding :: findings) room) rest

end Tally

/-- Rules with a configuration. -/
structure Linter where
  config : Config
  rules : List Rule

namespace Linter

/-- The rules of the language, in the order in which they report. -/
def defaultRules (catalog : Catalog) : List Rule :=
  [versionRule, parenthesesRule, declarationRule catalog, controlRule]

/-- The linter with the rules of the language. -/
def standard (config : Config) (catalog : Catalog) : Linter :=
  ⟨config, defaultRules catalog⟩

/-- The rules that are switched on, each with its setting. -/
def active (linter : Linter) : List (Rule × RuleSetting) :=
  (linter.rules.map fun rule => (rule, linter.config.setting rule.id)).filter (·.2.enabled)

/-- What is reported of one rule on one line: its findings, raised where it is set so, as far as
they reach the least severity. -/
def report (linter : Linter) (rule : Rule) (setting : RuleSetting) (subject : Subject) :
    List Finding :=
  let findings := rule.check subject
  let findings := if setting.raised then findings.map Finding.raise else findings
  findings.filter fun finding => linter.config.minimum.rank ≤ finding.severity.rank

/-- Applies rules to one line, unless the limit has been exceeded. -/
def inspect (linter : Linter) (subject : Subject) : Tally → List (Rule × RuleSetting) → Tally
  | .exceeded findings, _ => .exceeded findings
  | tally, [] => tally
  | tally, (rule, setting) :: rest =>
    linter.inspect subject (tally.add (linter.report rule setting subject)) rest

/-- Applies rules to all lines from the given number on, unless the limit has been exceeded. -/
def inspectLines (linter : Linter) (active : List (Rule × RuleSetting)) :
    UInt32 → Tally → List Line → Tally
  | _, .exceeded findings, _ => .exceeded findings
  | _, tally, [] => tally
  | number, tally, line :: rest =>
    linter.inspectLines active (number + 1)
      (linter.inspect ⟨number, line, rest.head?⟩ tally active) rest

/-- Identifier under which the linter itself reports. -/
def limitRuleId : String := "lint-runner"

/-- The warning that findings have been left out. -/
def limitWarning (linter : Linter) : Finding where
  severity := .warning
  flaw := .custom "diagnostic-limit-exceeded"
  message := "Diagnostic limit of " ++ linter.config.limit.repr ++
    " exceeded. Further diagnostics have been suppressed."
  span := ⟨0, 0, 0⟩
  rule := limitRuleId

/-- The findings on a text, line by line and in the order of the rules. -/
def run (linter : Linter) (text : String) : List Finding :=
  match linter.inspectLines linter.active 0 (.collecting [] linter.config.limit)
      (Text.lines text) with
  | .collecting findings _ => findings.reverse
  | .exceeded findings => findings.reverse ++ [linter.limitWarning]

end Linter

end PineAssist.Lint
