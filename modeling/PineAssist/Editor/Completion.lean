import PineAssist.Catalog.Basic
import PineAssist.Editor.Cursor

/-!
# Completion

What stands in front of the cursor decides what is proposed: behind the dot of a known namespace its
members, behind the beginning of an identifier the entries that begin like it, and elsewhere the
whole catalogue.
-/

namespace PineAssist.Editor

open Text (Line isIdentifierChar trailing)

/-- Where the members of a namespace are found. -/
inductive MemberSource where
  /-- Entries of the catalogue. -/
  | catalog (category : Category)
  /-- The constructors of colours. -/
  | colorConstructors
  deriving DecidableEq

/-- A namespace whose members are proposed behind its dot. -/
structure Namespace where
  name : String
  source : MemberSource
  deriving DecidableEq

/-- The namespaces with members, in the order in which they are tried. -/
def namespaces : List Namespace :=
  [⟨"ta", .catalog .function⟩, ⟨"math", .catalog .function⟩, ⟨"str", .catalog .function⟩,
    ⟨"array", .catalog .function⟩, ⟨"input", .catalog .function⟩, ⟨"strategy", .catalog .function⟩,
    ⟨"syminfo", .catalog .value⟩, ⟨"color", .colorConstructors⟩]

/-- The two ways to make a colour. -/
def colorConstructors : List Entry :=
  [⟨"color.new", .function, "color.new(color, transparency) -> color",
      "Create a new color with transparency.", some (snippet "color.new(‹color.blue›, ‹0›)")⟩,
    ⟨"color.rgb", .function, "color.rgb(red, green, blue, transparency) -> color",
      "Create color from RGB values.", some (snippet "color.rgb(‹255›, ‹255›, ‹255›, ‹0›)")⟩]

/-- What is being typed in front of the cursor. -/
inductive Context where
  /-- The dot of a namespace has just been typed. -/
  | members (scope : Namespace)
  /-- An identifier has been begun. -/
  | word (text : Line)
  /-- Nothing has been begun. -/
  | everything
  deriving DecidableEq

/-- The namespace whose name and dot end the text. -/
def endingNamespace? (before : Line) : Option Namespace :=
  namespaces.find? fun scope => (scope.name.toList ++ ['.']).isSuffixOf before

/-- What the text in front of the cursor asks for. -/
def Context.of (before : Line) : Context :=
  match endingNamespace? before with
  | some scope => .members scope
  | none =>
    match trailing isIdentifierChar before with
    | [] => .everything
    | text => .word text

/-- The entries of a catalogue that fit a context. -/
def Context.entries (catalog : Catalog) : Context → List Entry
  | members ⟨name, .catalog category⟩ => catalog.members name category
  | members ⟨_, .colorConstructors⟩ => colorConstructors
  | word text => catalog.startingWith (String.ofList text)
  | everything => catalog.entries

/-- A proposal as an editor shows it. -/
structure CompletionItem where
  label : String
  category : Category
  detail : String
  documentation : String
  insertText : String
  /-- Whether the inserted text has places to fill in. -/
  isSnippet : Bool
  deriving DecidableEq

/-- The proposal for an entry. -/
def CompletionItem.ofEntry (entry : Entry) : CompletionItem :=
  ⟨entry.name, entry.category, entry.signature, entry.documentation, entry.insertText,
    entry.template.isSome⟩

/-- The proposals at a position of a document; there are none on a line that does not exist. -/
def completions (catalog : Catalog) (content : String) (position : Position) :
    List CompletionItem :=
  match (Cursor.at? content position).bind Cursor.split? with
  | none => []
  | some (before, _) => ((Context.of before).entries catalog).map .ofEntry

end PineAssist.Editor
