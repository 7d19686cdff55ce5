import Mathlib.Data.List.Forall2
import PineAssist.Settings.Resolver

/-!
# Which sections are understood

A section is read field by field or element by element, and reading stops at the first thing that
cannot be understood. `Describes` says without reading which sections there are and what they set:
an object in which each switch is absent, null or a truth value, a list of three such values, or
nothing at all. Reading accepts these sections and no others. Whatever a resolver is told in place
of a section, by an answer or by a notification, leaves everything switched on.
-/

namespace PineAssist

/-- No two fields of an object have the same name. -/
def Json.HasDistinctFields : Json → Prop
  | object fields => (fields.map Prod.fst).Nodup
  | _ => True

namespace Overrides

/-- A value that stands for a switch, with what it sets it to. -/
inductive Sets : Json → Option Bool → Prop where
  | nothing : Sets .null none
  | value (value : Bool) : Sets (.bool value) (some value)

/-- What an object sets the switch of this name to. -/
inductive FieldSets (fields : List (String × Json)) (name : String) : Option Bool → Prop where
  | absent (unnamed : ∀ value, (name, value) ∉ fields) : FieldSets fields name none
  | present {value : Json} {choice : Option Bool} (named : (name, value) ∈ fields)
      (sets : Sets value choice) : FieldSets fields name choice

/-- The sections, each with the switches that it sets. -/
inductive Describes : Json → Overrides → Prop where
  | nothing : Describes .null {}
  | object {fields : List (String × Json)} {diagnostics hover completion : Option Bool}
      (setsDiagnostics : FieldSets fields "enableDiagnostics" diagnostics)
      (setsHover : FieldSets fields "enableHover" hover)
      (setsCompletion : FieldSets fields "enableCompletion" completion) :
      Describes (.object fields) ⟨diagnostics, hover, completion⟩
  | list {first second third : Json} {diagnostics hover completion : Option Bool}
      (setsDiagnostics : Sets first diagnostics) (setsHover : Sets second hover)
      (setsCompletion : Sets third completion) :
      Describes (.array [first, second, third]) ⟨diagnostics, hover, completion⟩

theorem bind_eq_ok_iff {Found Result : Type} {reading : Except SectionError Found}
    {goOn : Found → Except SectionError Result} {result : Result} :
    reading >>= goOn = .ok result ↔ ∃ found, reading = .ok found ∧ goOn found = .ok result := by
  cases reading with
  | error error => simp [bind, Except.bind]
  | ok found => simp [bind, Except.bind]

section Fields

variable {fields : List (String × Json)} {name : String} {value : Json} {choice : Option Bool}
  {overrides : Overrides}

theorem lookup_eq_some_iff_mem (distinct : (fields.map Prod.fst).Nodup) :
    fields.lookup name = some value ↔ (name, value) ∈ fields := by
  rw [List.lookup_eq_some_iff]
  constructor
  · rintro ⟨before, after, rfl, _⟩
    simp
  · intro named
    rcases List.append_of_mem named with ⟨before, after, rfl⟩
    refine ⟨before, after, rfl, ?_⟩
    intro field listed
    rw [List.map_append, List.map_cons, List.nodup_append] at distinct
    have different := distinct.2.2 field.1 (List.mem_map_of_mem listed) name List.mem_cons_self
    simpa using Ne.symm different

theorem switch_eq_ok_iff : switch value = .ok choice ↔ Sets value choice := by
  constructor
  · intro read
    cases value with
    | null =>
        cases read
        exact .nothing
    | bool value =>
        cases read
        exact .value value
    | integer | float | string | array | object => cases read
  · rintro (_ | _)
    · rfl
    · rfl

theorem switchField_eq_ok_iff (distinct : (fields.map Prod.fst).Nodup) :
    switchField fields name = .ok choice ↔ FieldSets fields name choice := by
  cases isField : fields.lookup name with
  | none =>
      have unnamed : ∀ value, (name, value) ∉ fields := by
        intro value named
        rw [← lookup_eq_some_iff_mem distinct, isField] at named
        cases named
      simp only [switchField, isField, Except.ok.injEq]
      constructor
      · rintro rfl
        exact .absent unnamed
      · rintro (_ | ⟨named, _⟩)
        · rfl
        · exact absurd named (unnamed _)
  | some value =>
      have named := (lookup_eq_some_iff_mem distinct).mp isField
      simp only [switchField, isField, switch_eq_ok_iff]
      constructor
      · exact .present named
      · rintro (unnamed | ⟨alsoNamed, sets⟩)
        · exact absurd named (unnamed value)
        · rw [← lookup_eq_some_iff_mem distinct, isField, Option.some.injEq] at alsoNamed
          exact alsoNamed ▸ sets

theorem ofFields_eq_ok_iff (distinct : (fields.map Prod.fst).Nodup) :
    ofFields fields = .ok overrides ↔ Describes (.object fields) overrides := by
  simp only [ofFields, bind_eq_ok_iff, switchField_eq_ok_iff distinct]
  constructor
  · rintro ⟨completion, setsCompletion, diagnostics, setsDiagnostics, hover, setsHover, isResult⟩
    cases isResult
    exact .object setsDiagnostics setsHover setsCompletion
  · rintro (_ | ⟨setsDiagnostics, setsHover, setsCompletion⟩)
    exact ⟨_, setsCompletion, _, setsDiagnostics, _, setsHover, rfl⟩

/-- A list is read as far as it consists of switches. -/
theorem mapM_switch_eq_ok_iff {items : List Json} {choices : List (Option Bool)} :
    items.mapM switch = .ok choices ↔ List.Forall₂ Sets items choices := by
  induction items generalizing choices with
  | nil =>
      rw [List.mapM_nil, List.forall₂_nil_left_iff]
      constructor
      · intro isResult
        cases isResult
        rfl
      · rintro rfl
        rfl
  | cons item items ih =>
      simp only [List.mapM_cons, bind_eq_ok_iff, switch_eq_ok_iff, ih,
        List.forall₂_cons_left_iff]
      constructor
      · rintro ⟨choice, sets, others, setsOthers, isResult⟩
        cases isResult
        exact ⟨choice, others, sets, setsOthers, rfl⟩
      · rintro ⟨choice, others, sets, setsOthers, rfl⟩
        exact ⟨choice, sets, others, setsOthers, rfl⟩

theorem ofItems_eq_ok_iff {items : List Json} :
    ofItems items = .ok overrides ↔ Describes (.array items) overrides := by
  rw [ofItems, bind_eq_ok_iff]
  constructor
  · rintro ⟨choices, isRead, isResult⟩
    rw [mapM_switch_eq_ok_iff] at isRead
    split at isResult
    · next diagnostics hover completion =>
      split at isResult
      · cases isResult
      · next few =>
        rw [List.take_of_length_le (by omega)] at isRead
        cases isResult
        rcases isRead with _ | ⟨setsDiagnostics, _ | ⟨setsHover, _ | ⟨setsCompletion, _ | _⟩⟩⟩
        exact .list setsDiagnostics setsHover setsCompletion
    · cases isResult
  · rintro (_ | _ | ⟨setsDiagnostics, setsHover, setsCompletion⟩)
    refine ⟨[_, _, _], mapM_switch_eq_ok_iff.mpr ?_, rfl⟩
    exact .cons setsDiagnostics (.cons setsHover (.cons setsCompletion .nil))

end Fields

theorem ofSection_eq_ok_iff {payload : Json} {overrides : Overrides}
    (distinct : payload.HasDistinctFields) :
    ofSection payload = .ok overrides ↔ Describes payload overrides := by
  cases payload with
  | object fields => exact ofFields_eq_ok_iff distinct
  | array items => exact ofItems_eq_ok_iff
  | null =>
      constructor
      · intro read
        cases read
        exact .nothing
      · rintro (_ | _)
        rfl
  | bool | integer | float | string =>
      constructor
      · intro read
        cases read
      · intro describes
        cases describes

end Overrides

namespace Settings

open Overrides (Describes)

variable {payload : Json} {settings : Settings}

theorem ofSection_eq_ok_iff (distinct : payload.HasDistinctFields) :
    ofSection payload = .ok settings ↔
      ∃ overrides, Describes payload overrides ∧ settings = overrides.apply {} := by
  rw [ofSection]
  cases isRead : Overrides.ofSection payload with
  | error error =>
      simp only [← Overrides.ofSection_eq_ok_iff distinct, isRead]
      simp [Except.map]
  | ok overrides =>
      simp only [← Overrides.ofSection_eq_ok_iff distinct, isRead]
      simp [Except.map, eq_comm]

theorem exists_error_iff (distinct : payload.HasDistinctFields) :
    (∃ error, ofSection payload = .error error) ↔ ¬∃ overrides, Describes payload overrides := by
  cases isRead : ofSection payload with
  | error error =>
      refine ⟨?_, fun _ => ⟨error, rfl⟩⟩
      rintro - ⟨overrides, describes⟩
      have alsoRead := (ofSection_eq_ok_iff distinct).mpr ⟨overrides, describes, rfl⟩
      rw [isRead] at alsoRead
      cases alsoRead
  | ok settings =>
      rcases (ofSection_eq_ok_iff distinct).mp isRead with ⟨overrides, describes, _⟩
      constructor
      · rintro ⟨error, isError⟩
        cases isError
      · intro undescribed
        exact absurd ⟨overrides, describes⟩ undescribed

end Settings

/--
Wherever a resolver meets the section, in an answer or in a notification of an editor that is not
asked, it takes these settings from it.
-/
def Resolver.TakesFrom (payload : Json) (settings : Settings) : Prop :=
  (∀ (resolver : Resolver) (fetch : Fetch),
    (resolver.complete fetch (.ok payload)).1 = settings) ∧
  ∀ (resolver : Resolver) (notification : Json), resolver.perDocument = false →
    notification.field? settingsSection = some payload →
      (resolver.configurationChanged (some notification)).global = settings

theorem Resolver.takesFrom_ofSectionOrDefault (payload : Json) :
    TakesFrom payload (.ofSectionOrDefault payload) := by
  constructor
  · intro resolver fetch
    rfl
  · intro resolver notification notAsked isSection
    simp [configurationChanged, notAsked, globalSettings, isSection]

/--
Reading a section succeeds exactly if it is one, and then gives what it sets, with every switch on
that it does not set. Everything else is an error, and a resolver that meets it in place of a
section takes every switch to be on.
-/
theorem Settings.ofSection_accepts_described {payload : Json}
    (distinct : payload.HasDistinctFields) :
    (∀ settings, Settings.ofSection payload = .ok settings ↔
      ∃ overrides, Overrides.Describes payload overrides ∧
        settings = ⟨overrides.diagnostics.getD true, overrides.hover.getD true,
          overrides.completion.getD true⟩) ∧
    ((∃ error, Settings.ofSection payload = .error error) ↔
      ¬∃ overrides, Overrides.Describes payload overrides) ∧
    (∀ settings, Settings.ofSection payload = .ok settings →
      Resolver.TakesFrom payload settings) ∧
    (∀ error, Settings.ofSection payload = .error error →
      Resolver.TakesFrom payload ⟨true, true, true⟩) := by
  have taken := Resolver.takesFrom_ofSectionOrDefault payload
  refine ⟨?_, ?_, ?_, ?_⟩
  · intro settings
    exact Settings.ofSection_eq_ok_iff distinct
  · exact Settings.exists_error_iff distinct
  · intro settings isRead
    rwa [Settings.ofSectionOrDefault, isRead] at taken
  · intro error isRead
    rwa [Settings.ofSectionOrDefault, isRead] at taken

/-- A section that sets one of the switches, among fields that set none. -/
def hoverOff : Json :=
  .object [("trace", .object [("enableHover", .bool true)]), ("enableHover", .bool false),
    ("enableDiagnostics", .null)]

/-- The last of the three switches is missing. -/
def shortList : Json := .array [.bool false, .null]

theorem Settings.ofSection_accepts_described_shortList :
    Settings.ofSection hoverOff = .ok ⟨true, false, true⟩ ∧
      (Resolver.configurationChanged {} (some (.object [("pinescript", hoverOff)]))).global =
        ⟨true, false, true⟩ ∧
      (∃ error, Settings.ofSection shortList = .error error) ∧
      (Resolver.complete {} ⟨"file:///a", 0⟩ (.ok shortList)).1 = ⟨true, true, true⟩ := by
  have distinct : hoverOff.HasDistinctFields := by
    change List.Nodup ["trace", "enableHover", "enableDiagnostics"]
    decide
  have fieldless : shortList.HasDistinctFields := trivial
  have described : Overrides.Describes hoverOff ⟨none, some false, none⟩ := by
    apply Overrides.Describes.object
    · exact .present (by simp) .nothing
    · exact .present (by simp) (.value false)
    · exact .absent (by simp)
  have undescribed : ¬∃ overrides, Overrides.Describes shortList overrides := by
    rintro ⟨overrides, describes⟩
    cases describes
  rcases Settings.ofSection_accepts_described distinct with ⟨understood, _, taken, _⟩
  rcases Settings.ofSection_accepts_described fieldless with ⟨_, refused, _, notTaken⟩
  have isRead := (understood ⟨true, false, true⟩).mpr ⟨_, described, rfl⟩
  have isRefused := refused.mpr undescribed
  refine ⟨isRead, (taken _ isRead).2 {} _ rfl rfl, isRefused, ?_⟩
  rcases isRefused with ⟨error, isError⟩
  exact (notTaken error isError).1 {} _

end PineAssist
