import Std.Data.ExtTreeMap

/-!
# Open documents

An editor names its documents by identifiers and numbers their versions. The store holds the latest
text of every open document together with its version. Texts above a size limit are refused and
change nothing; lowering the limit later drops no document.
-/

namespace PineAssist

/-- Identifier of a document. -/
abbrev Uri := String

/-- The text of a document and the version that the editor gave it. -/
structure Document where
  text : String
  version : Int32
  deriving DecidableEq

/-- Number of bytes in a megabyte. -/
def bytesPerMegabyte : Nat := 1024 * 1024

/-- The open documents. -/
structure Store where
  documents : Std.ExtTreeMap Uri Document := ∅
  /-- Number of bytes that a text may have. -/
  maxSize : Nat := 500 * bytesPerMegabyte

namespace Store

/-- Changes the size limit. -/
def setMaxSize (store : Store) (maxSize : Nat) : Store :=
  { store with maxSize }

/-- Whether a text is within the size limit. -/
def accepts (store : Store) (text : String) : Bool :=
  text.utf8ByteSize ≤ store.maxSize

/-- Opens a document or replaces its text and version, unless the text is too large. -/
def put? (store : Store) (uri : Uri) (document : Document) : Option Store :=
  if store.accepts document.text then
    some { store with documents := store.documents.insert uri document }
  else none

/-- Text and version of a document. -/
def snapshot? (store : Store) (uri : Uri) : Option Document :=
  store.documents[uri]?

/-- Text of a document. -/
def text? (store : Store) (uri : Uri) : Option String :=
  (store.snapshot? uri).map (·.text)

/-- Version of a document. -/
def version? (store : Store) (uri : Uri) : Option Int32 :=
  (store.snapshot? uri).map (·.version)

/-- Whether a document is open. -/
def contains (store : Store) (uri : Uri) : Bool :=
  store.documents.contains uri

/-- Closes a document. -/
def remove (store : Store) (uri : Uri) : Store :=
  { store with documents := store.documents.erase uri }

/-- The open documents in the order of their identifiers. -/
def uris (store : Store) : List Uri :=
  store.documents.keys

/-- Number of open documents. -/
def size (store : Store) : Nat :=
  store.documents.size

/-- Whether no document is open. -/
def isEmpty (store : Store) : Bool :=
  store.size == 0

theorem contains_eq_isSome_snapshot? (store : Store) (uri : Uri) :
    store.contains uri = (store.snapshot? uri).isSome :=
  Std.ExtTreeMap.contains_eq_isSome_getElem?

theorem mem_uris {store : Store} {uri : Uri} : uri ∈ store.uris ↔ store.contains uri := by
  simp [uris, contains]

theorem nodup_uris (store : Store) : store.uris.Nodup :=
  Std.ExtTreeMap.nodup_keys

theorem length_uris (store : Store) : store.uris.length = store.size :=
  Std.ExtTreeMap.length_keys

theorem isEmpty_iff {store : Store} : store.isEmpty ↔ ∀ uri, ¬store.contains uri := by
  simp only [isEmpty, ← length_uris, beq_iff_eq, List.length_eq_zero_iff, ← mem_uris]
  exact List.eq_nil_iff_forall_not_mem

theorem snapshot?_remove (store : Store) (uri other : Uri) :
    (store.remove uri).snapshot? other = if uri = other then none else store.snapshot? other := by
  simp [snapshot?, remove, Std.ExtTreeMap.getElem?_erase]

theorem put?_eq_none_iff {store : Store} {uri : Uri} {document : Document} :
    store.put? uri document = none ↔ store.maxSize < document.text.utf8ByteSize := by
  simp [put?, accepts]

theorem of_put?_eq_some {store changed : Store} {uri : Uri} {document : Document}
    (accepted : store.put? uri document = some changed) :
    document.text.utf8ByteSize ≤ store.maxSize ∧ changed.maxSize = store.maxSize := by
  simp only [put?] at accepted
  split at accepted
  · next small =>
    cases accepted
    exact ⟨by simpa [accepts] using small, rfl⟩
  · cases accepted

theorem snapshot?_of_put? {store changed : Store} {uri : Uri} {document : Document}
    (accepted : store.put? uri document = some changed) (other : Uri) :
    changed.snapshot? other = if uri = other then some document else store.snapshot? other := by
  simp only [put?] at accepted
  split at accepted <;> cases accepted
  simp [snapshot?, Std.ExtTreeMap.getElem?_insert]

end Store

end PineAssist
