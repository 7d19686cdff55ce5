import PineAssist.Document.Store
import PineAssist.Editor.Cursor
import PineAssist.Script
import PineAssist.Text.Lexeme

/-!
# Outline of a document

The outline lists what a script declares. It is read off single lines: whether the script is an
indicator or a strategy, the functions it defines with an arrow, and the variables it keeps.
-/

namespace PineAssist.Editor

open Script (isDeclarationKeyword)
open Text (Line Lexeme lexemes skipBlank)

/-- What a symbol stands for. -/
inductive SymbolKind where
  | function
  | keptVariable
  deriving DecidableEq

/-- A declared name and the line on which it was found. -/
structure Symbol where
  name : String
  kind : SymbolKind
  line : UInt32
  deriving DecidableEq

/-- Whether some word with the given ending is called, a blank before the parenthesis or not. -/
def callsWord (ending : Line) : List Lexeme → Bool
  | [] => false
  | .word text :: rest =>
    (ending.isSuffixOf text && (skipBlank rest).head? == some (.mark '(')) || callsWord ending rest
  | _ :: rest => callsWord ending rest

/-- What follows the first closing parenthesis. -/
def afterClosing : List Lexeme → List Lexeme
  | [] => []
  | .mark ')' :: rest => rest
  | _ :: rest => afterClosing rest

/-- Whether an arrow follows, with or without a blank before it. -/
def startsWithArrow (following : List Lexeme) : Bool :=
  [.mark '=', .mark '>'].isPrefixOf (skipBlank following)

/-- The name of the first function that the line defines: a word with arguments up to the first
closing parenthesis, and an arrow behind it. -/
def definedFunction? : List Lexeme → Option Line
  | [] => none
  | .word text :: rest =>
    match skipBlank rest with
    | .mark '(' :: arguments =>
      if startsWithArrow (afterClosing arguments) then some text else definedFunction? rest
    | _ => definedFunction? rest
  | _ :: rest => definedFunction? rest

/-- Whether an equals sign follows, with or without a blank before it. -/
def startsWithEquals (following : List Lexeme) : Bool :=
  (skipBlank following).head? == some (.mark '=')

/-- The variable that is assigned right behind a declaration keyword and its blank: a word with a
type in front of it, or a word alone. -/
def assignedVariable? : List Lexeme → Option Line
  | .word _ :: .blank _ :: .word name :: rest => if startsWithEquals rest then some name else none
  | .word name :: rest => if startsWithEquals rest then some name else none
  | _ => none

/-- The first variable that the line declares to keep its value. -/
def keptVariable? : List Lexeme → Option Line
  | [] => none
  | .word keyword :: rest =>
    match rest with
    | .blank _ :: declared =>
      if isDeclarationKeyword keyword then
        (assignedVariable? declared).or (keptVariable? rest)
      else keptVariable? rest
    | _ => keptVariable? rest
  | _ :: rest => keptVariable? rest

/-- A way to find a declared name among the lexemes of a line. -/
abbrev Detector := List Lexeme → Option (String × SymbolKind)

/-- Finds the declaration of the script as an indicator. -/
def detectIndicator : Detector := fun lexemes =>
  if callsWord "indicator".toList lexemes then some ("Indicator", .function) else none

/-- Finds the declaration of the script as a strategy. -/
def detectStrategy : Detector := fun lexemes =>
  if callsWord "strategy".toList lexemes then some ("Strategy", .function) else none

/-- Finds the definition of a function. -/
def detectFunction : Detector := fun lexemes =>
  (definedFunction? lexemes).map fun name => (String.ofList name, .function)

/-- Finds the declaration of a variable. -/
def detectVariable : Detector := fun lexemes =>
  (keptVariable? lexemes).map fun name => (String.ofList name, .keptVariable)

/-- All detectors, in the order in which their symbols are listed. -/
def detectors : List Detector :=
  [detectIndicator, detectStrategy, detectFunction, detectVariable]

/-- What one line declares, at most one name for each detector. -/
def declaredNames (line : Line) : List (String × SymbolKind) :=
  let lexemes := lexemes line
  detectors.filterMap fun detector => detector lexemes

/-- The symbols of one line. -/
def lineSymbols (number : UInt32) (line : Line) : List Symbol :=
  (declaredNames line).map fun (name, kind) => ⟨name, kind, number⟩

/-- The symbols of a document, line by line. -/
def outline (content : String) : List Symbol :=
  ((Text.lines content).mapIdx fun index line => lineSymbols (.ofNat index) line).flatten

/-- A symbol with the place where an editor finds it. -/
structure LocatedSymbol where
  name : String
  kind : SymbolKind
  uri : Uri
  range : Range
  deriving DecidableEq

/-- The symbols of a document, each located on the whole of its line. -/
def locatedOutline (uri : Uri) (content : String) : List LocatedSymbol :=
  let lines := (Text.lines content).toArray
  (outline content).map fun symbol =>
    ⟨symbol.name, symbol.kind, uri, .ofLine symbol.line (lines[symbol.line.toNat]?.getD [])⟩

end PineAssist.Editor
