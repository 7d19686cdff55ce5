import PineAssist.Text.Identifier

/-!
# Catalogue entries

An entry documents one built-in identifier of the language. Names are dotted paths such as
`ta.sma`; the part before a dot is the namespace that the rest lives in.

What is inserted for an entry may be a snippet: a text with numbered places that an editor lets its
user fill in one after another. In the catalogue the places stand between single angle quotes and
are numbered from left to right.
-/

namespace PineAssist

/-- Writes the quoted places of a text as numbered placeholders. -/
def snippet (marked : String) : String :=
  let step : Nat × String → Char → Nat × String := fun (places, written) char =>
    if char = '‹' then (places + 1, written ++ "$\x7b" ++ (places + 1).repr ++ ":")
    else if char = '›' then (places, written.push '\x7d')
    else (places, written.push char)
  (marked.toList.foldl step (0, "")).2

/-- What kind of thing a built-in identifier is. -/
inductive Category where
  | function
  | value
  | keyword
  | typeName
  deriving DecidableEq

/-- Word by which a category is known outside. -/
def Category.label : Category → String
  | function => "function"
  | value => "variable"
  | keyword => "keyword"
  | typeName => "type"

/-- One documented built-in identifier. -/
structure Entry where
  /-- Dotted path by which scripts refer to it. -/
  name : String
  category : Category
  /-- Call shape or type, shown as a detail. -/
  signature : String
  documentation : String
  /-- Text with numbered places to fill in, inserted instead of the bare name. -/
  template : Option String := none
  deriving DecidableEq

namespace Entry

/-- The part of the name behind its last dot. -/
def lastSegment (entry : Entry) : String :=
  Text.lastSegment entry.name

/-- What an editor inserts for the entry: its template, or else its name. -/
def insertText (entry : Entry) : String :=
  entry.template.getD entry.name

/-- Whether the name continues with a dot right after the given scope. -/
def inScope (entry : Entry) (scope : String) : Bool :=
  (scope.toList ++ ['.']).isPrefixOf entry.name.toList

end Entry

end PineAssist
