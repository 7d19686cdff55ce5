import PineAssist.Server.Basic

/-!
# JSON forms

How the values that server and editor exchange are written as JSON. Kinds and severities are the
numbers that the protocol between them assigns.
-/

namespace PineAssist.Wire

open Editor (CompletionItem Diagnostic Hover LocatedSymbol Position Range SymbolKind)
open Server (Answer ClientCapabilities Message)

/-- A number of 32 bits. -/
def ofWord (word : UInt32) : Json :=
  .integer word.toNat

/-- A version of a document. -/
def ofVersion (version : Int32) : Json :=
  .integer version.toInt

/-- A value that may be missing. -/
def ofOption {α : Type} (encode : α → Json) : Option α → Json
  | none => .null
  | some value => encode value

/-- A position. -/
def ofPosition (position : Position) : Json :=
  .object [("character", ofWord position.character), ("line", ofWord position.line)]

/-- A range. -/
def ofRange (range : Range) : Json :=
  .object [("end", ofPosition range.stop), ("start", ofPosition range.start)]

/-- Number of a severity. -/
def severityNumber : Lint.Severity → Int
  | .error => 1
  | .warning => 2
  | .hint => 4

/-- A diagnostic. -/
def ofDiagnostic (diagnostic : Diagnostic) : Json :=
  .object
    [("code", .string diagnostic.code),
      ("message", .string diagnostic.message),
      ("range", ofRange diagnostic.range),
      ("severity", .integer (severityNumber diagnostic.severity)),
      ("source", .string Editor.diagnosticSource)]

/-- A list of diagnostics. -/
def ofDiagnostics (diagnostics : List Diagnostic) : Json :=
  .array (diagnostics.map ofDiagnostic)

/-- Number of a kind of proposal. -/
def categoryNumber : Category → Int
  | .function => 3
  | .value => 6
  | .keyword => 14
  | .typeName => 25

/-- Number of a way to insert text. -/
def formatNumber (isSnippet : Bool) : Int :=
  if isSnippet then 2 else 1

/-- A proposal. -/
def ofCompletionItem (item : CompletionItem) : Json :=
  .object
    [("detail", .string item.detail),
      ("documentation", .string item.documentation),
      ("insertText", .string item.insertText),
      ("insertTextFormat", .integer (formatNumber item.isSnippet)),
      ("kind", .integer (categoryNumber item.category)),
      ("label", .string item.label)]

/-- The documentation of a name. -/
def ofHover (hover : Hover) : Json :=
  .object
    [("contents", .object [("kind", .string "markdown"), ("value", .string hover.contents)]),
      ("range", ofRange hover.range)]

/-- Number of a kind of symbol. -/
def symbolNumber : SymbolKind → Int
  | .function => 12
  | .keptVariable => 13

/-- A symbol with its location. -/
def ofSymbol (symbol : LocatedSymbol) : Json :=
  .object
    [("kind", .integer (symbolNumber symbol.kind)),
      ("location", .object [("range", ofRange symbol.range), ("uri", .string symbol.uri)]),
      ("name", .string symbol.name)]

/-- The services that the server offers, and its name. -/
def ofCapabilities (workspaceFolders : Bool) : Json :=
  let folders := .object [("changeNotifications", .bool true), ("supported", .bool true)]
  let workspace :=
    if workspaceFolders then [("workspace", .object [("workspaceFolders", folders)])] else []
  let triggers := .array (Server.triggerCharacters.map .string)
  let services :=
    [("completionProvider",
        .object [("resolveProvider", .bool true), ("triggerCharacters", triggers)]),
      ("documentSymbolProvider", .bool true),
      ("hoverProvider", .bool true),
      ("textDocumentSync", .object [("change", .integer 1), ("openClose", .bool true)])]
  .object
    [("capabilities", .object (services ++ workspace)),
      ("serverInfo",
        .object [("name", .string Server.name), ("version", .string Server.version)])]

/-- An answer. -/
def ofAnswer : Answer → Json
  | .done => .null
  | .capabilities workspaceFolders => ofCapabilities workspaceFolders
  | .diagnostics diagnostics => ofDiagnostics diagnostics
  | .versionedDiagnostics found =>
    ofOption (fun (diagnostics, version) => .array [ofDiagnostics diagnostics, ofVersion version])
      found
  | .completions items => .array (items.map ofCompletionItem)
  | .hover hover => ofOption ofHover hover
  | .symbols symbols => .array (symbols.map ofSymbol)
  | .completionItem item => item

/-- Method by which an editor reports changes of its configuration. -/
def configurationChangeMethod : String := "workspace/didChangeConfiguration"

/-- Method and parameters of a message. -/
def ofMessage : Message → String × Json
  | .publishDiagnostics uri diagnostics version =>
    let version := version.toList.map fun version => ("version", ofVersion version)
    ("textDocument/publishDiagnostics",
      .object ([("diagnostics", ofDiagnostics diagnostics), ("uri", .string uri)] ++ version))
  | .showError text =>
    ("window/showMessage", .object [("message", .string text), ("type", .integer 1)])
  | .requestSettings uri =>
    let item := .object [("scopeUri", .string uri), ("section", .string settingsSection)]
    ("workspace/configuration", .object [("items", .array [item])])
  | .registerConfigurationChanges =>
    let registration := .object
      [("id", .string "pinescript-did-change-configuration"),
        ("method", .string configurationChangeMethod)]
    ("client/registerCapability", .object [("registrations", .array [registration])])

/-- Settings. -/
def ofSettings (settings : Settings) : Json :=
  .object
    [("enableCompletion", .bool settings.completion),
      ("enableDiagnostics", .bool settings.diagnostics),
      ("enableHover", .bool settings.hover)]

/-- The capabilities that an editor announces. -/
def toClientCapabilities (json : Json) : ClientCapabilities :=
  let announces (name : String) : Bool :=
    match (json.field? "workspace").bind (·.field? name) with
    | some (.bool value) => value
    | _ => false
  ⟨announces "configuration", announces "workspaceFolders"⟩

end PineAssist.Wire
