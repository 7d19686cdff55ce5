import PineAssist.Catalog.Basic
import PineAssist.Script
import PineAssist.Lint.Rule
import PineAssist.Text.Lexeme

/-!
# Declared types

A declaration begins with a keyword, a blank and a word, which is taken for the type. Scanning goes
on behind that word, so a keyword that has just been read as a type starts no declaration itself.
Only declarations that an equals sign follows somewhere on the line are reported.
-/

namespace PineAssist.Lint

open Script (isDeclarationKeyword)
open Text (Line Lexeme lexemes utf16Length)

/-- A keyword with the word that follows it. -/
structure Declaration where
  /-- Column at which the keyword begins. -/
  start : UInt32
  /-- Column at which the word after it ends. -/
  stop : UInt32
  /-- The word in the place of the type. -/
  type : Line
  /-- What follows on the line. -/
  rest : List Lexeme

/-- The declarations among lexemes that begin at a column, from left to right. -/
def declarations (column : UInt32) : List Lexeme → List Declaration
  | [] => []
  | .word keyword :: .blank gap :: .word type :: rest =>
    if isDeclarationKeyword keyword then
      let stop := column + utf16Length keyword + utf16Length gap + utf16Length type
      ⟨column, stop, type, rest⟩ :: declarations stop rest
    else declarations (column + utf16Length keyword + utf16Length gap) (.word type :: rest)
  | lexeme :: rest => declarations (column + utf16Length lexeme.chars) rest

/-- Identifier of the rule on declared types. -/
def declarationRuleId : String := "declaration-type"

/-- Whether a declaration assigns a value and its type is not in the catalogue. -/
def Declaration.isFlawed (catalog : Catalog) (declaration : Declaration) : Bool :=
  declaration.rest.contains (.mark '=') && !catalog.isTypeName (String.ofList declaration.type)

/-- Reports the declarations of unknown types on the line. -/
def checkDeclarations (catalog : Catalog) (subject : Subject) : List Finding :=
  ((declarations 0 (lexemes subject.text)).filter (·.isFlawed catalog)).map fun declaration =>
    ⟨.warning, .unknownType, "Unknown type: " ++ String.ofList declaration.type,
      ⟨subject.number, declaration.start, declaration.stop⟩, declarationRuleId⟩

/-- The rule on declared types, for the types of a catalogue. -/
def declarationRule (catalog : Catalog) : Rule where
  id := declarationRuleId
  description := "Type in a var/varip declaration must be a known type"
  check := checkDeclarations catalog

end PineAssist.Lint
