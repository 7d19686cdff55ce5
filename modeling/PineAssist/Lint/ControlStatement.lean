import PineAssist.Script
import PineAssist.Lint.Rule
import PineAssist.Text.Lexeme

/-!
# Colons of control statements

A line on which a control keyword is followed by white space and something more is taken for the
header of a statement. It needs a colon, unless an arrow makes it a function definition.
-/

namespace PineAssist.Lint

open Script (isControlKeyword)
open Text (Lexeme lexemes occursIn)

/-- Whether lexemes begin with white space that does not end the line. -/
def continues : List Lexeme → Bool
  | .blank gap :: rest => 1 < gap.length || !rest.isEmpty
  | _ => false

/-- Whether some control keyword has its statement behind it. -/
def hasControlHeader : List Lexeme → Bool
  | [] => false
  | .word keyword :: rest => (isControlKeyword keyword && continues rest) || hasControlHeader rest
  | _ :: rest => hasControlHeader rest

/-- Identifier of the rule on control statements. -/
def controlRuleId : String := "missing-colon"

/-- Reports a control header with neither a colon nor an arrow on its line. -/
def checkControl (subject : Subject) : List Finding :=
  if hasControlHeader (lexemes subject.text) && !subject.text.contains ':' &&
      !occursIn ['=', '>'] subject.text then
    [⟨.error, .missingColon, "Missing colon (:) after control statement.", subject.fullSpan,
      controlRuleId⟩]
  else []

/-- The rule on control statements. -/
def controlRule : Rule where
  id := controlRuleId
  description := "Control statement headers must contain a colon"
  check := checkControl

end PineAssist.Lint
