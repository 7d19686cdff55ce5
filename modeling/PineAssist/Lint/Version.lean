import PineAssist.Script
import PineAssist.Lint.Rule
import PineAssist.Unicode.CharacterClass

/-!
# Version directives

The first line of a script declares the version of the language. The digits of a directive may come
from any script, but only ASCII digits that denote a supported version are accepted. The number is
read in 32 bits, and a run of digits that does not fit is refused.
-/

namespace PineAssist.Lint

open Text (Line)
open Unicode (isDecimalDigit isWhiteSpace)

/-- The digits of the version directive that the line begins with. -/
def directiveDigits? (line : Line) : Option Line :=
  let opening := Script.versionDirective.toList
  let digits := (line.drop opening.length).takeWhile isDecimalDigit
  if opening.isPrefixOf line && !digits.isEmpty then some digits else none

/-- The number with one more digit behind it, provided that the digit is an ASCII one and that 32
bits hold the result. -/
def appendDigit? (value : UInt32) (digit : Char) : Option UInt32 :=
  let extended := 10 * value.toNat + (digit.toNat - '0'.toNat)
  if digit.isDigit && extended < UInt32.size then some (.ofNat extended) else none

/-- The number that ASCII digits denote, provided that 32 bits hold it. -/
def versionNumber? (digits : Line) : Option UInt32 :=
  digits.foldlM appendDigit? 0

/-- Whether the digits are those of a supported version. -/
def isSupportedDirective (digits : Line) : Bool :=
  (versionNumber? digits).any fun version => Script.isSupportedVersion version.toNat

/-- Identifier of the rule on version directives. -/
def versionRuleId : String := "version-directive"

/-- Reports the first line unless it declares a supported version or is blank. -/
def checkVersion (subject : Subject) : List Finding :=
  if subject.number ≠ 0 then []
  else
    match directiveDigits? subject.text with
    | none =>
      if subject.text.all isWhiteSpace then []
      else
        let message := "Missing version directive. Add " ++ Script.versionDirective ++
          Script.recommendedVersion.repr ++ " at the top of the file."
        [⟨.warning, .missingVersion, message, subject.fullSpan, versionRuleId⟩]
    | some digits =>
      if isSupportedDirective digits then []
      else
        let message := "Pine Script version " ++ String.ofList digits ++
          " is not supported. Use version " ++ Script.recommendedVersion.repr ++ "."
        [⟨.warning, .unsupportedVersion, message, subject.fullSpan, versionRuleId⟩]

/-- The rule on version directives. -/
def versionRule : Rule where
  id := versionRuleId
  description := "First line must declare a supported //@version"
  check := checkVersion

end PineAssist.Lint
