import PineAssist.Document.Store
import PineAssist.Editor.Completion
import PineAssist.Editor.Hover
import PineAssist.Editor.Outline
import PineAssist.Json.Basic
import PineAssist.Lint.Rule
import PineAssist.Settings.Resolver

/-!
# What server and editor tell each other

An editor sends requests, some of which are mere notifications and get no proper answer. While it
handles one, the server may send messages of its own. Only the question for settings waits for a
reply of the editor. Findings of the linter are sent as diagnostics.
-/

namespace PineAssist.Editor

/-- A finding with its range in the document. -/
structure Diagnostic where
  range : Range
  severity : Lint.Severity
  /-- Identifier of the rule. -/
  code : String
  message : String
  deriving DecidableEq

/-- Name under which an editor files the diagnostics. -/
def diagnosticSource : String := "pinescript"

/-- The diagnostic for a finding. -/
def Diagnostic.ofFinding (finding : Lint.Finding) : Diagnostic :=
  ⟨.onLine finding.span.line finding.span.start finding.span.stop, finding.severity, finding.rule,
    finding.message⟩

end PineAssist.Editor

namespace PineAssist.Server

open Editor (CompletionItem Diagnostic Hover LocatedSymbol Position)

/-- What an editor can do, as far as the server cares. -/
structure ClientCapabilities where
  /-- The editor answers questions for settings. -/
  configuration : Bool := false
  /-- The editor manages several folders at once. -/
  workspaceFolders : Bool := false
  deriving DecidableEq

/-- A question about one document whose answer depends on its settings. -/
inductive Query where
  | diagnostics
  /-- Diagnostics together with the version that they belong to. -/
  | versionedDiagnostics
  | completion (position : Position)
  | hover (position : Position)
  deriving DecidableEq

/-- What an editor asks or announces. -/
inductive Request where
  /-- The first thing an editor does. -/
  | introduce (capabilities : ClientCapabilities)
  /-- The editor is set up. -/
  | ready
  | shutdown
  | openDocument (uri : Uri) (document : Document)
  /-- New texts of a document, of which the last one counts. -/
  | changeDocument (uri : Uri) (version : Int32) (texts : List String)
  | closeDocument (uri : Uri)
  /-- New settings for all documents, or the notice that settings have changed. -/
  | changeConfiguration (payload : Json)
  | changeFolders
  | changeWatchedFiles
  | query (uri : Uri) (query : Query)
  /-- Publish the diagnostics of a document once more. -/
  | validate (uri : Uri)
  | symbols (uri : Uri)
  /-- Fill in what is missing in a proposal, which is nothing. -/
  | resolveCompletion (item : Json)
  /-- Change the size limit for documents. -/
  | limitSize (maxSize : Nat)

/-- What the server answers. -/
inductive Answer where
  /-- There is nothing to say. -/
  | done
  /-- The services on offer, with or without those for several folders. -/
  | capabilities (workspaceFolders : Bool)
  | diagnostics (diagnostics : List Diagnostic)
  | versionedDiagnostics (diagnostics : Option (List Diagnostic × Int32))
  | completions (items : List CompletionItem)
  | hover (hover : Option Hover)
  | symbols (symbols : List LocatedSymbol)
  | completionItem (item : Json)

/-- What the server tells or asks on its own account. -/
inductive Message where
  /-- The diagnostics of a document, in place of those published before. -/
  | publishDiagnostics (uri : Uri) (diagnostics : List Diagnostic) (version : Option Int32)
  /-- An error for the user to see. -/
  | showError (text : String)
  /-- The question for the settings of a document. -/
  | requestSettings (uri : Uri)
  /-- The wish to be told about changes of the configuration. -/
  | registerConfigurationChanges
  deriving DecidableEq

/-- How an editor replies to a question for settings. -/
inductive Reply where
  /-- The sections asked for, of which the first one counts. -/
  | values (sections : List Json)
  | refused

/-- The section in a reply. -/
def Reply.answer : Reply → Except FetchError Json
  | values (first :: _) => .ok first
  | values [] => .error .empty
  | refused => .error .failed

end PineAssist.Server
