import PineAssist.Document.Store
import PineAssist.Settings.Section
import Std.Data.ExtTreeMap

/-!
# Finding the settings of a document

An editor either tells its settings once for all documents, or is asked for each document and
answers later. Answers are kept until they may have become wrong. Every time answers are dropped a
generation ends, and an answer to a question of an ended generation is used once but not kept.
-/

namespace PineAssist

/-- Name of the section that holds the settings. -/
def settingsSection : String := "pinescript"

/-- Why an editor has no answer. -/
inductive FetchError where
  /-- The request failed. -/
  | failed
  /-- The answer was empty. -/
  | empty
  deriving DecidableEq

/-- A question for the settings of a document that has not been answered yet. -/
structure Fetch where
  uri : Uri
  /-- Generation in which the question was asked. -/
  generation : UInt64
  deriving DecidableEq

/-- What is known about the settings of a document. -/
inductive Resolution where
  | known (settings : Settings)
  /-- The editor has to be asked. -/
  | needed (fetch : Fetch)

/-- The settings of all documents, as far as they are known. -/
structure Resolver where
  /-- Answers for single documents. -/
  cache : Std.ExtTreeMap Uri Settings := ∅
  /-- Settings for all documents of an editor that is not asked. -/
  global : Settings := {}
  /-- Whether the editor is asked for each document. -/
  perDocument : Bool := false
  /-- Number of times that answers have been dropped, counted in 64 bits. -/
  generation : UInt64 := 0

namespace Resolver

/-- Sets whether the editor is asked for each document. -/
def setPerDocument (resolver : Resolver) (perDocument : Bool) : Resolver :=
  { resolver with perDocument }

/-- The settings of a document, or the question for them. -/
def resolve (resolver : Resolver) (uri : Uri) : Resolution :=
  if !resolver.perDocument then .known resolver.global
  else
    match resolver.cache[uri]? with
    | some settings => .known settings
    | none => .needed ⟨uri, resolver.generation⟩

/-- The settings that an answer stands for; everything is on if there is no usable answer. -/
def decode : Except FetchError Json → Settings
  | .ok payload => .ofSectionOrDefault payload
  | .error _ => {}

/-- Takes in an answer, which is kept unless a generation has ended since the question. -/
def complete (resolver : Resolver) (fetch : Fetch) (answer : Except FetchError Json) :
    Settings × Resolver :=
  let settings := decode answer
  (settings,
    if resolver.generation = fetch.generation then
      { resolver with cache := resolver.cache.insert fetch.uri settings }
    else resolver)

/-- Forgets the answer for one document. -/
def evict (resolver : Resolver) (uri : Uri) : Resolver :=
  { resolver with generation := resolver.generation + 1, cache := resolver.cache.erase uri }

/-- Forgets all answers. -/
def invalidateAll (resolver : Resolver) : Resolver :=
  { resolver with generation := resolver.generation + 1, cache := ∅ }

/-- The settings for all documents in a notification of an editor that is not asked. -/
def globalSettings (payload : Option Json) : Settings :=
  match payload.bind (·.field? settingsSection) with
  | some value => .ofSectionOrDefault value
  | none => {}

/-- Takes notice that the configuration of the editor has changed. -/
def configurationChanged (resolver : Resolver) (payload : Option Json) : Resolver :=
  if resolver.perDocument then resolver.invalidateAll
  else { resolver with global := globalSettings payload }

theorem resolve_eq_needed_iff {resolver : Resolver} {uri : Uri} {fetch : Fetch} :
    resolver.resolve uri = .needed fetch ↔
      resolver.perDocument ∧ resolver.cache[uri]? = none ∧ fetch = ⟨uri, resolver.generation⟩ := by
  cases perDocument : resolver.perDocument <;>
    cases cached : resolver.cache[uri]? <;> simp [resolve, perDocument, cached, eq_comm]

theorem resolve_eq_known_iff {resolver : Resolver} {uri : Uri} {settings : Settings} :
    resolver.resolve uri = .known settings ↔
      (if resolver.perDocument then resolver.cache[uri]? else some resolver.global) =
        some settings := by
  cases perDocument : resolver.perDocument <;>
    cases cached : resolver.cache[uri]? <;> simp [resolve, perDocument, cached]

end Resolver

end PineAssist
