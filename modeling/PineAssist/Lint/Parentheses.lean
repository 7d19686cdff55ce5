import PineAssist.Lint.Rule

/-!
# Balanced parentheses

A line may leave parentheses open only if the line after it closes exactly as many, and the other
way round. The last line of a script has nothing to be compared with and is never reported.
-/

namespace PineAssist.Lint

open Text (Line utf16Length)

/-- What a character adds to the number of open parentheses. -/
def parenthesisWeight (char : Char) : Int :=
  if char = '(' then 1 else if char = ')' then -1 else 0

/-- Number of opening minus number of closing parentheses of a line. -/
def balance (line : Line) : Int :=
  line.foldr (fun char total => parenthesisWeight char + total) 0

@[simp] theorem balance_nil : balance [] = 0 := rfl

/-- Identifier of the rule on parentheses. -/
def parenthesesRuleId : String := "paren-balance"

/-- Reports the end of a line that is out of balance also together with the next one. -/
def checkParentheses (subject : Subject) : List Finding :=
  let own := balance subject.text
  match subject.next with
  | none => []
  | some next =>
    if own = 0 ∨ own + balance next = 0 then []
    else
      let stop := utf16Length subject.text
      let start := if stop = 0 then 0 else stop - 1
      [⟨.error, .mismatchedParentheses, "Mismatched parentheses.", ⟨subject.number, start, stop⟩,
        parenthesesRuleId⟩]

/-- The rule on parentheses. -/
def parenthesesRule : Rule where
  id := parenthesesRuleId
  description := "Parentheses opened on a line must close on it or the next line"
  check := checkParentheses

end PineAssist.Lint
