/-!
# Pine Script

The few facts about the scripting language that the rules and the outline rely on.
-/

namespace PineAssist.Script

/-- What a version directive begins with. -/
def versionDirective : String := "//@version="

/-- Version that messages recommend. -/
def recommendedVersion : Nat := 5

/-- Whether scripts may declare this version. -/
def isSupportedVersion (version : Nat) : Bool :=
  1 ≤ version && version ≤ 5

/-- Keywords that introduce a variable which keeps its value from bar to bar. -/
def declarationKeywords : List String := ["var", "varip"]

/-- Keywords of statements whose header has to contain a colon. -/
def controlKeywords : List String := ["if", "for", "while", "function"]

/-- Whether a word introduces a declaration. -/
def isDeclarationKeyword (word : List Char) : Bool :=
  declarationKeywords.contains (String.ofList word)

/-- Whether a word begins a control statement. -/
def isControlKeyword (word : List Char) : Bool :=
  controlKeywords.contains (String.ofList word)

end PineAssist.Script
