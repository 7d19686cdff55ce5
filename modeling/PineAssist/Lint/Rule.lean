import PineAssist.Text.Measure

/-!
# Rules and their findings

A rule looks at one line, knowing its number and the line after it, and reports findings: how severe
something is, what kind of flaw it is, where it stands and which rule saw it. Rules never see each
other's reports, so they can be switched off one by one.
-/

namespace PineAssist.Lint

open Text (Line utf16Length)

/-- How severe a finding is. -/
inductive Severity where
  | hint
  | warning
  | error
  deriving DecidableEq

namespace Severity

/-- Position of a severity in increasing order. -/
def rank : Severity → Nat
  | hint => 0
  | warning => 1
  | error => 2

/-- Word by which a severity is known outside. -/
def label : Severity → String
  | hint => "hint"
  | warning => "warning"
  | error => "error"

end Severity

/-- What is wrong with a line. -/
inductive Flaw where
  /-- The first line has no version directive. -/
  | missingVersion
  /-- The version directive names a version that is not supported. -/
  | unsupportedVersion
  /-- Parentheses stay open or close too often. -/
  | mismatchedParentheses
  /-- A declaration names a type that does not exist. -/
  | unknownType
  /-- The header of a control statement lacks its colon. -/
  | missingColon
  /-- Anything that a rule of its own kind reports. -/
  | custom (name : String)
  deriving DecidableEq

/-- Half-open range of UTF-16 columns on one line, lines being counted from zero. -/
structure Span where
  line : UInt32
  start : UInt32
  stop : UInt32
  deriving DecidableEq

/-- One report of a rule. -/
structure Finding where
  severity : Severity
  flaw : Flaw
  message : String
  span : Span
  /-- Identifier of the rule that reported it. -/
  rule : String
  deriving DecidableEq

namespace Finding

/-- The finding as one line of text, with lines and columns counted from one. -/
def display (finding : Finding) : String :=
  "line " ++ (finding.span.line + 1).toNat.repr ++ ":" ++ (finding.span.start + 1).toNat.repr ++
    ": [" ++ finding.rule ++ "] " ++ finding.severity.label ++ ": " ++ finding.message

/-- A warning becomes an error; hints and errors stay what they are. -/
def raise (finding : Finding) : Finding :=
  if finding.severity = .warning then { finding with severity := .error } else finding

end Finding

/-- Whether some finding is an error. -/
def hasErrors (findings : List Finding) : Bool :=
  findings.any (·.severity = .error)

/-- The line under inspection. -/
structure Subject where
  /-- Number of the line, counted from zero. -/
  number : UInt32
  text : Line
  /-- The line after it, if there is one. -/
  next : Option Line
  deriving DecidableEq

/-- Span of the whole line. -/
def Subject.fullSpan (subject : Subject) : Span :=
  ⟨subject.number, 0, utf16Length subject.text⟩

/-- A named check of single lines. -/
structure Rule where
  id : String
  description : String
  check : Subject → List Finding

end PineAssist.Lint
