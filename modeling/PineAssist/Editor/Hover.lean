import PineAssist.Catalog.Basic
import PineAssist.Editor.Cursor

/-!
# Hover

Resting on a name shows what the catalogue says about it, and marks the part of the line that was
looked up.
-/

namespace PineAssist.Editor

open Text (columnOfOffset)

/-- Documentation shown for a part of a line. -/
structure Hover where
  /-- The text to show, in Markdown. -/
  contents : String
  range : Range
  deriving DecidableEq

/-- The text shown for an entry. -/
def Hover.contentsOf (entry : Entry) : String :=
  "**" ++ entry.name ++ "**\n\n" ++ entry.signature ++ "\n\n" ++ entry.documentation

/-- The token at a position of a document, with its line. -/
def tokenAt? (content : String) (position : Position) : Option (Text.Line × Token) :=
  match Cursor.at? content position with
  | none => none
  | some cursor =>
    match cursor.token? with
    | .ok (some token) => some (cursor.line, token)
    | .ok none => none
    | .error _ => none

/-- What is shown at a position of a document: the documentation of the entry that the name there
refers to, if it has any. -/
def hover? (catalog : Catalog) (content : String) (position : Position) : Option Hover := do
  let (line, token) ← tokenAt? content position
  let entry ← catalog.find? (String.ofList token.text)
  if entry.documentation.isEmpty then none
  else
    some ⟨Hover.contentsOf entry, .onLine position.line (columnOfOffset line token.start)
      (columnOfOffset line token.stop)⟩

end PineAssist.Editor
