import PineAssist.Catalog.Entry

/-!
# Catalogues

A catalogue is a list of entries, and every look-up answers in the order of that list. Names may
repeat; where one entry is asked for, the first one counts.
-/

namespace PineAssist

/-- The built-in identifiers that an editor is told about, in the order in which it sees them. -/
structure Catalog where
  entries : List Entry

namespace Catalog

/-- The entries of one category. -/
def ofCategory (catalog : Catalog) (category : Category) : List Entry :=
  catalog.entries.filter (·.category = category)

/-- The entries of one category that live in a scope. -/
def members (catalog : Catalog) (scope : String) (category : Category) : List Entry :=
  (catalog.ofCategory category).filter (·.inScope scope)

/-- The functions that live in a scope. -/
def functionsIn (catalog : Catalog) (scope : String) : List Entry :=
  catalog.members scope .function

/-- Whether a name begins with a word, upper and lower case of ASCII letters being the same. -/
def beginsWith (name word : String) : Bool :=
  (word.toList.map Char.toLower).isPrefixOf (name.toList.map Char.toLower)

/-- The entries whose names begin with a word, whatever its case. -/
def startingWith (catalog : Catalog) (word : String) : List Entry :=
  catalog.entries.filter (beginsWith ·.name word)

/-- The first entry with this name. -/
def named? (catalog : Catalog) (name : String) : Option Entry :=
  catalog.entries.find? (·.name = name)

/-- The first entry whose last segment is the given one, which must not be empty. -/
def withLastSegment? (catalog : Catalog) (segment : String) : Option Entry :=
  if segment = "" then none else catalog.entries.find? (·.lastSegment = segment)

/-- The entry that a word in a script refers to: the one of that name, or else the first one that
ends in the word's last segment. -/
def find? (catalog : Catalog) (word : String) : Option Entry :=
  if word = "" then none
  else (catalog.named? word).or (catalog.withLastSegment? (Text.lastSegment word))

/-- The first entry of a name is found under it, whatever the last segments of others are. -/
theorem find?_of_named {catalog : Catalog} {earlier later : List Entry} {entry : Entry}
    {word : String} (isCatalog : catalog.entries = earlier ++ entry :: later)
    (isNamed : entry.name = word) (isFirst : ∀ other ∈ earlier, other.name ≠ word)
    (nonempty : word ≠ "") : catalog.find? word = some entry := by
  have found : catalog.named? word = some entry := by
    rw [named?, List.find?_eq_some_iff_append]
    refine ⟨by simpa using isNamed, earlier, later, isCatalog, ?_⟩
    intro other listed
    simpa using isFirst other listed
  rw [find?, if_neg nonempty, found, Option.some_or]

/-- Whether some type has this name. -/
def isTypeName (catalog : Catalog) (name : String) : Bool :=
  (catalog.ofCategory .typeName).any (·.name = name)

theorem isTypeName_iff {catalog : Catalog} {name : String} :
    catalog.isTypeName name ↔
      ∃ entry ∈ catalog.entries, entry.category = .typeName ∧ entry.name = name := by
  simp [isTypeName, ofCategory]

end Catalog

end PineAssist
