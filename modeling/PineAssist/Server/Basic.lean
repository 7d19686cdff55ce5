import PineAssist.Catalog.Builtin
import PineAssist.Document.Store
import PineAssist.Lint.Linter
import PineAssist.Server.Message

/-!
# The language server

The server reacts to a request at once, except where it first has to ask the editor for the settings
of a document. It then stops with a note of what is left to do, goes on with other requests, and
takes up the note when the reply arrives. Texts are read only after that, so that what is published
or answered always belongs to the text of the moment.
-/

namespace PineAssist

open Editor (Diagnostic)
open Server (Answer ClientCapabilities Message Query Reply Request)

/-- State of the language server. -/
structure Server where
  catalog : Catalog
  linter : Lint.Linter
  documents : Store
  resolver : Resolver
  /-- Whether an editor has introduced itself; before that nothing is published. -/
  started : Bool

namespace Server

/-- Name by which the server introduces itself. -/
def name : String := "pine-lsp"

/-- Version by which the server introduces itself. -/
def version : String := "1.0.0"

/-- Characters after which an editor asks for proposals unbidden. -/
def triggerCharacters : List String := [".", "(", "["]

/-- A server without documents; a configuration that is not acceptable counts for nothing. -/
def new (config : Lint.Config) (maxSize : Nat) : Server where
  catalog := .builtin
  linter := .standard config.orDefault .builtin
  documents := { maxSize }
  resolver := {}
  started := false

/-- What remains to be done when the settings of a document are known. -/
inductive Continuation where
  /-- Publish the diagnostics of the document, and then those of other documents. -/
  | publish (others : List Uri)
  | answer (query : Query)
  deriving DecidableEq

/-- A request that waits for the settings of a document. -/
structure Pending where
  fetch : Fetch
  continuation : Continuation
  deriving DecidableEq

/-- How far a request has been handled. -/
inductive Progress where
  | finished (answer : Answer)
  | waiting (pending : Pending)

/-- What the server does in one go. -/
structure Reaction where
  server : Server
  /-- Messages sent, in order. -/
  sent : List Message
  progress : Progress

namespace Reaction

/-- Nothing more happens. -/
def finish (server : Server) (answer : Answer) : Reaction :=
  ⟨server, [], .finished answer⟩

/-- Messages are sent before everything else. -/
def after (messages : List Message) (reaction : Reaction) : Reaction :=
  { reaction with sent := messages ++ reaction.sent }

end Reaction

/-- The diagnostics of a document under the given settings. -/
def diagnose (server : Server) (settings : Settings) (document : Document) : List Diagnostic :=
  if settings.diagnostics then (server.linter.run document.text).map .ofFinding else []

/-- The message with the diagnostics of a document, once an editor has introduced itself. -/
def publication (server : Server) (uri : Uri) (diagnostics : List Diagnostic)
    (version : Option Int32) : List Message :=
  if server.started then [.publishDiagnostics uri diagnostics version] else []

/-- Publishes the diagnostics of a document under the given settings, if it is still open. -/
def publishDocument (server : Server) (uri : Uri) (settings : Settings) : List Message :=
  match server.documents.snapshot? uri with
  | none => []
  | some document =>
    server.publication uri (server.diagnose settings document) (some document.version)

/-- Publishes the diagnostics of one document after the other, waiting for settings where needed. -/
def validateAll (server : Server) : List Uri → Reaction
  | [] => .finish server .done
  | uri :: others =>
    if server.documents.contains uri then
      match server.resolver.resolve uri with
      | .known settings =>
        (server.validateAll others).after (server.publishDocument uri settings)
      | .needed fetch => ⟨server, [.requestSettings uri], .waiting ⟨fetch, .publish others⟩⟩
    else server.validateAll others

/-- The answer to a question about a document that is not open. -/
def answerClosed : Query → Answer
  | .diagnostics => .diagnostics []
  | .versionedDiagnostics => .versionedDiagnostics none
  | .completion _ => .completions []
  | .hover _ => .hover none

/-- The answer to a question about an open document under the given settings. -/
def answerOpen (server : Server) (settings : Settings) (document : Document) : Query → Answer
  | .diagnostics => .diagnostics (server.diagnose settings document)
  | .versionedDiagnostics =>
    .versionedDiagnostics (some (server.diagnose settings document, document.version))
  | .completion position =>
    .completions
      (if settings.completion then Editor.completions server.catalog document.text position else [])
  | .hover position =>
    .hover (if settings.hover then Editor.hover? server.catalog document.text position else none)

/-- The answer to a question about a document under the given settings. -/
def answer (server : Server) (uri : Uri) (settings : Settings) (query : Query) : Answer :=
  match server.documents.snapshot? uri with
  | none => answerClosed query
  | some document => server.answerOpen settings document query

/-- Goes on with a document whose settings have become known. -/
def proceed (server : Server) (uri : Uri) (settings : Settings) : Continuation → Reaction
  | .publish others => (server.validateAll others).after (server.publishDocument uri settings)
  | .answer query => .finish server (server.answer uri settings query)

/-- Begins to answer a question about a document. -/
def consult (server : Server) (uri : Uri) (query : Query) : Reaction :=
  if server.documents.contains uri then
    match server.resolver.resolve uri with
    | .known settings => server.proceed uri settings (.answer query)
    | .needed fetch => ⟨server, [.requestSettings uri], .waiting ⟨fetch, .answer query⟩⟩
  else .finish server (answerClosed query)

/-- What the user is told about a document that is too large. -/
def tooLargeMessage (size maxSize : Nat) : String :=
  "Document too large: " ++ size.repr ++ " bytes exceeds maximum of " ++ maxSize.repr ++
    " bytes (" ++ (maxSize / bytesPerMegabyte).repr ++ " MB)"

/-- An editor introduces itself. -/
def introduce (server : Server) (capabilities : ClientCapabilities) : Reaction :=
  .finish
    { server with
      resolver := server.resolver.setPerDocument capabilities.configuration
      started := true }
    (.capabilities capabilities.workspaceFolders)

/-- An editor is ready: it is asked to report changes of its configuration. -/
def ready (server : Server) : Reaction :=
  let messages := if server.resolver.perDocument then [.registerConfigurationChanges] else []
  (Reaction.finish server .done).after messages

/-- A document is opened, and refused with a message if it is too large. -/
def openDocument (server : Server) (uri : Uri) (document : Document) : Reaction :=
  match server.documents.put? uri document with
  | some documents => { server with documents }.validateAll [uri]
  | none =>
    let text := tooLargeMessage document.text.utf8ByteSize server.documents.maxSize
    (Reaction.finish server .done).after [.showError text]

/-- A document gets the last of the given texts, unless it is too large. -/
def changeDocument (server : Server) (uri : Uri) (version : Int32) (texts : List String) :
    Reaction :=
  match texts.getLast?.bind fun text => server.documents.put? uri ⟨text, version⟩ with
  | some documents => { server with documents }.validateAll [uri]
  | none => .finish server .done

/-- A document is closed: what was known and published about it is withdrawn. -/
def closeDocument (server : Server) (uri : Uri) : Reaction :=
  let closed : Server :=
    { server with
      documents := server.documents.remove uri
      resolver := server.resolver.evict uri }
  (Reaction.finish closed .done).after (closed.publication uri [] none)

/-- The configuration has changed: the diagnostics of the given documents are published anew. -/
def changeConfiguration (server : Server) (payload : Json) (order : List Uri) : Reaction :=
  { server with resolver := server.resolver.configurationChanged (some payload) }.validateAll order

/-- The symbols of a document, of which there are none unless it is open. -/
def symbols (server : Server) (uri : Uri) : List Editor.LocatedSymbol :=
  match server.documents.text? uri with
  | none => []
  | some text => Editor.locatedOutline uri text

/-- Begins to handle a request. -/
def handle (server : Server) : Request → Reaction
  | .introduce capabilities => server.introduce capabilities
  | .ready => server.ready
  | .shutdown => .finish server .done
  | .openDocument uri document => server.openDocument uri document
  | .changeDocument uri version texts => server.changeDocument uri version texts
  | .closeDocument uri => server.closeDocument uri
  | .changeConfiguration payload => server.changeConfiguration payload server.documents.uris
  | .changeFolders => .finish server .done
  | .changeWatchedFiles => .finish server .done
  | .query uri query => server.consult uri query
  | .validate uri => server.validateAll [uri]
  | .symbols uri => .finish server (.symbols (server.symbols uri))
  | .resolveCompletion item => .finish server (.completionItem item)
  | .limitSize maxSize =>
    .finish { server with documents := server.documents.setMaxSize maxSize } .done

/-- Goes on with a waiting request when the editor replies. -/
def resume (server : Server) (pending : Pending) (reply : Reply) : Reaction :=
  let (settings, resolver) := server.resolver.complete pending.fetch reply.answer
  { server with resolver }.proceed pending.fetch.uri settings pending.continuation

end Server

end PineAssist
