import PineAssist.Decimal.Shortest
import PineAssist.Json.Basic
import PineAssist.Text.Quoted

/-!
# Settings and their section

Three switches decide which services a document gets. An editor sends only the switches that differ,
and everything is on unless it says otherwise. It keeps the switches in one section of its
configuration: an object with a field for each switch, a list of all three in a fixed order, or
nothing at all. Fields of other names are ignored, and a switch that is null counts as not set.
-/

namespace PineAssist

/-- The services that are switched on for a document. -/
structure Settings where
  diagnostics : Bool := true
  hover : Bool := true
  completion : Bool := true
  deriving DecidableEq

/-- The switches that an editor has set. -/
structure Overrides where
  diagnostics : Option Bool := none
  hover : Option Bool := none
  completion : Option Bool := none
  deriving DecidableEq

/-- The settings in which the given switches replace those of a base. -/
def Overrides.apply (overrides : Overrides) (base : Settings) : Settings where
  diagnostics := overrides.diagnostics.getD base.diagnostics
  hover := overrides.hover.getD base.hover
  completion := overrides.completion.getD base.completion

/-- Why a section cannot be understood. -/
inductive SectionError where
  /-- A switch is neither a truth value nor null. -/
  | notBoolean (found : Json)
  /-- The section is neither an object nor a list. -/
  | notSection (found : Json)
  /-- A list has fewer elements than there are switches. -/
  | tooFew (count : Nat)
  /-- A list has more elements than there are switches. -/
  | tooMany (count : Nat)

namespace SectionError

/-- What kind of value was found, with its text where it is short. -/
def describe : Json → String
  | .null => "null"
  | .bool value => "boolean `" ++ (if value then "true" else "false") ++ "`"
  | .integer value => "integer `" ++ value.repr ++ "`"
  | .float value => "floating point `" ++ Decimal.ofFloat value ++ "`"
  | .string text => "string " ++ Text.quoted text
  | .array _ => "sequence"
  | .object _ => "map"

/-- What is said about a section that cannot be understood. -/
def message (error : SectionError) : String :=
  "malformed settings payload: " ++
    match error with
    | notBoolean found => "invalid type: " ++ describe found ++ ", expected a boolean"
    | notSection found => "invalid type: " ++ describe found ++ ", expected struct SettingsOverride"
    | tooFew count =>
      "invalid length " ++ count.repr ++ ", expected struct SettingsOverride with 3 elements"
    | tooMany count => "invalid length " ++ count.repr ++ ", expected fewer elements in array"

end SectionError

namespace Overrides

/-- The value of a switch that is present. -/
def switch : Json → Except SectionError (Option Bool)
  | .null => .ok none
  | .bool value => .ok (some value)
  | other => .error (.notBoolean other)

/-- The value of a switch that may be absent. -/
def switchField (fields : List (String × Json)) (name : String) :
    Except SectionError (Option Bool) :=
  match fields.lookup name with
  | none => .ok none
  | some value => switch value

/-- Reads the fields of an object, in the order of their names. -/
def ofFields (fields : List (String × Json)) : Except SectionError Overrides := do
  let completion ← switchField fields "enableCompletion"
  let diagnostics ← switchField fields "enableDiagnostics"
  let hover ← switchField fields "enableHover"
  return ⟨diagnostics, hover, completion⟩

/-- Reads a list of switches, element by element. -/
def ofItems (items : List Json) : Except SectionError Overrides := do
  match ← (items.take 3).mapM switch with
  | [diagnostics, hover, completion] =>
    if 3 < items.length then throw (.tooMany items.length)
    return ⟨diagnostics, hover, completion⟩
  | _ => throw (.tooFew items.length)

/-- Reads a section. -/
def ofSection : Json → Except SectionError Overrides
  | .null => .ok {}
  | .object fields => ofFields fields
  | .array items => ofItems items
  | other => .error (.notSection other)

end Overrides

/-- The settings that a section describes. -/
def Settings.ofSection (payload : Json) : Except SectionError Settings :=
  (Overrides.ofSection payload).map (·.apply {})

/-- The settings that a section describes; everything is on if it cannot be understood. -/
def Settings.ofSectionOrDefault (payload : Json) : Settings :=
  match Settings.ofSection payload with
  | .ok settings => settings
  | .error _ => {}

end PineAssist
