import PineAssist.Server.Basic

/-!
# What a reaction can do

The server changes its state at most once on a request, before it says anything, and from then on
only reads it. So everything that it publishes in one go belongs to the state in which the reaction
leaves it. `Reaction.Sound` records this, together with the fact that the server asks only for the
settings of open documents.

`Handles` sorts the reactions to requests by what they do to documents, answers and generation.
Whatever is to be proved of all requests is proved of its five cases.
-/

namespace PineAssist.Server

open Editor (Diagnostic)

/-- What a message publishes about a document: diagnostics, and the version they belong to. -/
def Message.published? (uri : Uri) : Message → Option (List Diagnostic × Option Int32)
  | .publishDiagnostics other diagnostics version =>
    if other = uri then some (diagnostics, version) else none
  | _ => none

/-- Everything that messages publish about a document, in order. -/
def publications (uri : Uri) (messages : List Message) : List (List Diagnostic × Option Int32) :=
  messages.filterMap (Message.published? uri)

/-- The diagnostics are those of the text, or none because they are switched off. -/
def Reports (server : Server) (text : String) (diagnostics : List Diagnostic) : Prop :=
  diagnostics = [] ∨ diagnostics = (server.linter.run text).map .ofFinding

/-- What is published about a document belongs to the text and version that the server holds. -/
def UpToDate (server : Server) (uri : Uri) (published : List Diagnostic × Option Int32) : Prop :=
  ∃ document, server.documents.snapshot? uri = some document ∧
    published.2 = some document.version ∧ server.Reports document.text published.1

/-- What is published about a document that has been closed. -/
def withdrawn : List Diagnostic × Option Int32 := ([], none)

/-- The server has to ask for the settings of an open document before it goes on. -/
def Asks (server : Server) (pending : Pending) : Prop :=
  server.documents.contains pending.fetch.uri ∧
    server.resolver.resolve pending.fetch.uri = .needed pending.fetch

/-- The diagnostics of the document are to be published when its settings are known. -/
def Pending.Validates (pending : Pending) (uri : Uri) : Prop :=
  pending.fetch.uri = uri ∧ ∃ others, pending.continuation = .publish others

/-- What is published and what is asked for agrees with the state in which the server is left. -/
structure Reaction.Sound (reaction : Reaction) : Prop where
  published : ∀ uri, ∀ published ∈ publications uri reaction.sent,
    reaction.server.UpToDate uri published ∨
      (published = withdrawn ∧ reaction.server.documents.snapshot? uri = none)
  /-- Before an editor has introduced itself nothing is published. -/
  silent : reaction.server.started = false → ∀ uri, publications uri reaction.sent = []
  waiting : ∀ pending, reaction.progress = .waiting pending → reaction.server.Asks pending

section Publications

variable {server : Server} {uri other : Uri}

@[simp]
theorem publications_nil : publications uri [] = [] :=
  rfl

@[simp]
theorem publications_append (first second : List Message) :
    publications uri (first ++ second) = publications uri first ++ publications uri second :=
  List.filterMap_append

@[simp]
theorem publications_requestSettings : publications uri [.requestSettings other] = [] :=
  rfl

theorem publications_publication (diagnostics : List Diagnostic) (version : Option Int32) :
    publications uri (server.publication other diagnostics version) =
      if server.started ∧ other = uri then [(diagnostics, version)] else [] := by
  cases started : server.started <;> by_cases same : other = uri <;>
    simp [publication, publications, Message.published?, started, same]

theorem reports_diagnose (settings : Settings) (document : Document) :
    server.Reports document.text (server.diagnose settings document) := by
  cases enabled : settings.diagnostics <;> simp [Reports, diagnose, enabled]

theorem upToDate_of_mem_publishDocument {settings : Settings}
    {published : List Diagnostic × Option Int32}
    (isPublished : published ∈ publications uri (server.publishDocument other settings)) :
    server.UpToDate uri published := by
  simp only [publishDocument] at isPublished
  split at isPublished
  · simp at isPublished
  next document held =>
    rw [publications_publication] at isPublished
    split at isPublished
    next about =>
      rw [List.mem_singleton] at isPublished
      subst isPublished
      rw [about.2] at held
      exact ⟨document, held, rfl, reports_diagnose settings document⟩
    · simp at isPublished

theorem UpToDate.congr {changed : Server} {published : List Diagnostic × Option Int32}
    (upToDate : server.UpToDate uri published) (linter : changed.linter = server.linter)
    (same : changed.documents.snapshot? uri = server.documents.snapshot? uri) :
    changed.UpToDate uri published := by
  rcases upToDate with ⟨document, held, version, reports⟩
  refine ⟨document, same.trans held, version, ?_⟩
  simpa only [Reports, linter] using reports

theorem publications_publishDocument_of_not_started {settings : Settings}
    (notStarted : server.started = false) :
    publications uri (server.publishDocument other settings) = [] := by
  simp only [publishDocument]
  split <;> simp [publications_publication, notStarted]

theorem publications_publishDocument_ne_nil {settings : Settings} (started : server.started)
    (isOpen : (server.documents.snapshot? uri).isSome) :
    publications uri (server.publishDocument uri settings) ≠ [] := by
  rcases Option.isSome_iff_exists.mp isOpen with ⟨document, held⟩
  simp [publishDocument, held, publications_publication, started]

end Publications

section Validation

variable {server : Server} {uri : Uri} {uris : List Uri}

@[simp]
theorem Reaction.after_server (messages : List Message) (reaction : Reaction) :
    (reaction.after messages).server = reaction.server :=
  rfl

@[simp]
theorem Reaction.after_sent (messages : List Message) (reaction : Reaction) :
    (reaction.after messages).sent = messages ++ reaction.sent :=
  rfl

@[simp]
theorem Reaction.after_progress (messages : List Message) (reaction : Reaction) :
    (reaction.after messages).progress = reaction.progress :=
  rfl

theorem Reaction.sound_finish (answer : Answer) : (Reaction.finish server answer).Sound :=
  ⟨by simp [Reaction.finish], by simp [Reaction.finish], by simp [Reaction.finish]⟩

theorem Reaction.Sound.after_publishDocument {reaction : Reaction} (sound : reaction.Sound)
    (uri : Uri) (settings : Settings) :
    (reaction.after (reaction.server.publishDocument uri settings)).Sound := by
  refine ⟨?_, ?_, sound.waiting⟩
  · intro about published isPublished
    rw [Reaction.after_sent, publications_append, List.mem_append] at isPublished
    rcases isPublished with first | later
    · exact .inl (upToDate_of_mem_publishDocument first)
    · exact sound.published about published later
  · intro notStarted about
    rw [Reaction.after_server] at notStarted
    rw [Reaction.after_sent, publications_append, sound.silent notStarted,
      publications_publishDocument_of_not_started notStarted, List.append_nil]

@[simp]
theorem validateAll_server (server : Server) (uris : List Uri) :
    (server.validateAll uris).server = server := by
  fun_induction validateAll server uris with
  | case1 => rfl
  | case2 uri others isOpen settings known ih => exact ih
  | case3 => rfl
  | case4 uri others notOpen ih => exact ih

theorem sound_validateAll (server : Server) (uris : List Uri) :
    (server.validateAll uris).Sound := by
  fun_induction validateAll server uris with
  | case1 => exact Reaction.sound_finish .done
  | case2 uri others isOpen settings known ih =>
      simpa using ih.after_publishDocument uri settings
  | case3 uri others isOpen fetch needed =>
      refine ⟨by simp, by simp, ?_⟩
      rintro _ ⟨⟩
      rcases Resolver.resolve_eq_needed_iff.mp needed with ⟨_, _, rfl⟩
      exact ⟨isOpen, needed⟩
  | case4 uri others notOpen ih => exact ih

/-- The diagnostics of a single document are published at once or when the reply has arrived. -/
theorem validateAll_singleton (started : server.started)
    (isOpen : (server.documents.snapshot? uri).isSome) :
    publications uri (server.validateAll [uri]).sent ≠ [] ∨
      ∃ pending, (server.validateAll [uri]).progress = .waiting pending ∧
        pending.Validates uri := by
  simp only [validateAll, Store.contains_eq_isSome_snapshot?, isOpen, if_true]
  split
  next settings known =>
    left
    simp [publications_publishDocument_ne_nil started isOpen]
  next fetch needed =>
    right
    rcases Resolver.resolve_eq_needed_iff.mp needed with ⟨_, _, rfl⟩
    exact ⟨_, rfl, rfl, [], rfl⟩

end Validation

section Handling

/-- Open documents, answers and generation are the same in both states. -/
structure Keeps (server changed : Server) : Prop where
  documents : ∀ uri, changed.documents.snapshot? uri = server.documents.snapshot? uri
  cache : changed.resolver.cache = server.resolver.cache
  generation : changed.resolver.generation = server.resolver.generation
  linter : changed.linter = server.linter
  started : server.started → changed.started

/-- How the server may react to a request, going through the open documents in any order. -/
inductive Handles (server : Server) : Request → Reaction → Prop where
  /-- At most something is shown, answered or asked for. -/
  | quietly {request : Request} {reaction : Reaction} (keeps : server.Keeps reaction.server)
      (nothing : ∀ uri, publications uri reaction.sent = [])
      (asks : ∀ pending, reaction.progress = .waiting pending → reaction.server.Asks pending) :
      Handles server request reaction
  | validating (uri : Uri) : Handles server (.validate uri) (server.validateAll [uri])
  | storing {request : Request} (uri : Uri) {document : Document} {documents : Store}
      (accepted : server.documents.put? uri document = some documents) :
      Handles server request ({ server with documents }.validateAll [uri])
  | closing (uri : Uri) : Handles server (.closeDocument uri) (server.closeDocument uri)
  | reconfiguring (payload : Json) (order : List Uri) :
      Handles server (.changeConfiguration payload) (server.changeConfiguration payload order)

/-- A document is closed or the configuration has changed. -/
def Request.endsGeneration : Request → Bool
  | .closeDocument _ => true
  | .changeConfiguration _ => true
  | _ => false

variable {server changed : Server} {request : Request} {reaction : Reaction} {uri : Uri}

theorem Keeps.refl (server : Server) : server.Keeps server :=
  ⟨fun _ => rfl, rfl, rfl, rfl, id⟩

theorem handles_finish (keeps : server.Keeps changed) (answer : Answer) :
    server.Handles request (.finish changed answer) :=
  .quietly keeps (by simp [Reaction.finish]) (by simp [Reaction.finish])

theorem handles_consult (server : Server) (uri : Uri) (query : Query) :
    server.Handles (.query uri query) (server.consult uri query) := by
  simp only [consult, proceed]
  split
  next isOpen =>
    split
    next settings known => exact handles_finish (.refl server) _
    next fetch needed =>
      refine .quietly (.refl server) (by simp) ?_
      rintro _ ⟨⟩
      rcases Resolver.resolve_eq_needed_iff.mp needed with ⟨_, _, rfl⟩
      exact ⟨isOpen, needed⟩
  · exact handles_finish (.refl server) _

theorem handles_handle (server : Server) (request : Request) :
    server.Handles request (server.handle request) := by
  cases request with
  | introduce capabilities =>
      refine handles_finish ?_ _
      exact ⟨fun _ => rfl, rfl, rfl, rfl, fun _ => rfl⟩
  | ready =>
      refine .quietly (.refl server) ?_ (by simp [handle, ready, Reaction.finish])
      intro uri
      simp only [handle, ready]
      split <;> rfl
  | shutdown => exact handles_finish (.refl server) _
  | openDocument uri document =>
      simp only [handle, openDocument]
      split
      next documents accepted => exact .storing uri accepted
      · exact .quietly (.refl server) (fun _ => rfl) (by simp [Reaction.finish])
  | changeDocument uri version texts =>
      simp only [handle, changeDocument]
      split
      next documents stored =>
        rcases Option.bind_eq_some_iff.mp stored with ⟨text, _, accepted⟩
        exact .storing uri accepted
      · exact handles_finish (.refl server) _
  | closeDocument uri => exact .closing uri
  | changeConfiguration payload => exact .reconfiguring payload _
  | changeFolders => exact handles_finish (.refl server) _
  | changeWatchedFiles => exact handles_finish (.refl server) _
  | query uri query => exact handles_consult server uri query
  | validate uri => exact .validating uri
  | symbols uri => exact handles_finish (.refl server) _
  | resolveCompletion item => exact handles_finish (.refl server) _
  | limitSize maxSize =>
      refine handles_finish ?_ _
      exact ⟨fun _ => rfl, rfl, rfl, rfl, id⟩

theorem closeDocument_snapshot? (server : Server) (closed : Uri) :
    (server.closeDocument closed).server.documents.snapshot? uri =
      if closed = uri then none else server.documents.snapshot? uri :=
  Store.snapshot?_remove server.documents closed uri

theorem publications_closeDocument (server : Server) (closed : Uri) :
    publications uri (server.closeDocument closed).sent =
      if server.started ∧ closed = uri then [withdrawn] else [] := by
  simp [closeDocument, Reaction.finish, publications_publication, withdrawn]

theorem sound_closeDocument (server : Server) (closed : Uri) :
    (server.closeDocument closed).Sound := by
  refine ⟨?_, ?_, by simp [closeDocument, Reaction.finish]⟩
  · intro uri published isPublished
    rw [publications_closeDocument] at isPublished
    split at isPublished
    next same =>
      right
      refine ⟨List.mem_singleton.mp isPublished, ?_⟩
      rw [closeDocument_snapshot?, if_pos same.2]
    · simp at isPublished
  · intro notStarted uri
    have notStarted' : server.started = false := notStarted
    simp [publications_closeDocument, notStarted']

theorem Handles.sound (handles : server.Handles request reaction) : reaction.Sound := by
  cases handles with
  | quietly keeps nothing asks => exact ⟨by simp [nothing], by simp [nothing], asks⟩
  | validating uri => exact sound_validateAll server [uri]
  | storing uri accepted => exact sound_validateAll _ [uri]
  | closing uri => exact sound_closeDocument server uri
  | reconfiguring payload order => exact sound_validateAll _ order

theorem Handles.linter (handles : server.Handles request reaction) :
    reaction.server.linter = server.linter := by
  cases handles with
  | quietly keeps _ _ => exact keeps.linter
  | validating uri => simp
  | storing uri accepted => simp
  | closing uri => rfl
  | reconfiguring payload order => simp [changeConfiguration]

theorem Handles.started (handles : server.Handles request reaction) (started : server.started) :
    reaction.server.started := by
  cases handles with
  | quietly keeps _ _ => exact keeps.started started
  | validating uri => simpa using started
  | storing uri accepted => simpa using started
  | closing uri => exact started
  | reconfiguring payload order => simpa [changeConfiguration] using started

/-- A new text is published, or is going to be. -/
theorem Handles.covers {document : Document} (handles : server.Handles request reaction)
    (started : reaction.server.started)
    (held : reaction.server.documents.snapshot? uri = some document) :
    server.documents.snapshot? uri = some document ∨ publications uri reaction.sent ≠ [] ∨
      ∃ pending, reaction.progress = .waiting pending ∧ pending.Validates uri := by
  cases handles with
  | quietly keeps _ _ => exact .inl (keeps.documents uri ▸ held)
  | validating stored => exact .inl (by simpa using held)
  | storing stored accepted =>
      rw [validateAll_server] at started held
      by_cases same : stored = uri
      · subst same
        exact .inr (validateAll_singleton started (by simp [held]))
      · rw [Store.snapshot?_of_put? accepted, if_neg same] at held
        exact .inl held
  | closing other =>
      rw [closeDocument_snapshot?] at held
      split at held
      · cases held
      · exact .inl held
  | reconfiguring payload order => exact .inl (by simpa [changeConfiguration] using held)

theorem Handles.withdraws (handles : server.Handles request reaction)
    (started : reaction.server.started) (before : (server.documents.snapshot? uri).isSome)
    (closed : reaction.server.documents.snapshot? uri = none) :
    publications uri reaction.sent ≠ [] := by
  cases handles with
  | quietly keeps _ _ => simp [← keeps.documents, closed] at before
  | validating stored =>
      rw [validateAll_server] at closed
      simp [closed] at before
  | storing stored accepted =>
      rw [validateAll_server, Store.snapshot?_of_put? accepted] at closed
      split at closed
      · cases closed
      · simp [closed] at before
  | closing other =>
      rw [closeDocument_snapshot?] at closed
      split at closed
      next same =>
        have startedBefore : server.started := started
        simp [publications_closeDocument, startedBefore, same]
      · simp [closed] at before
  | reconfiguring payload order =>
      simp only [changeConfiguration, validateAll_server] at closed
      simp [closed] at before

/-- As long as the generation lasts no document is closed. -/
theorem Handles.generation (handles : server.Handles request reaction) :
    (reaction.server.resolver.generation = server.resolver.generation ∧
      ∀ uri, (server.documents.snapshot? uri).isSome →
        (reaction.server.documents.snapshot? uri).isSome) ∨
    (reaction.server.resolver.generation = server.resolver.generation + 1 ∧
      request.endsGeneration) := by
  cases handles with
  | quietly keeps _ _ =>
      left
      refine ⟨keeps.generation, ?_⟩
      intro uri isOpen
      rw [keeps.documents]
      exact isOpen
  | validating uri => simp
  | storing stored accepted =>
      left
      refine ⟨by simp, ?_⟩
      intro uri isOpen
      rw [validateAll_server, Store.snapshot?_of_put? accepted]
      split
      · rfl
      · exact isOpen
  | closing uri => exact .inr ⟨rfl, rfl⟩
  | reconfiguring payload order =>
      simp only [changeConfiguration, validateAll_server, Resolver.configurationChanged]
      split
      · exact .inr ⟨rfl, rfl⟩
      · exact .inl ⟨rfl, fun _ isOpen => isOpen⟩

theorem Handles.cache (handles : server.Handles request reaction)
    (cached : uri ∈ reaction.server.resolver.cache) :
    uri ∈ server.resolver.cache ∧
      ((server.documents.snapshot? uri).isSome →
        (reaction.server.documents.snapshot? uri).isSome) := by
  cases handles with
  | quietly keeps _ _ =>
      rw [keeps.cache] at cached
      rw [keeps.documents]
      exact ⟨cached, id⟩
  | validating uri => simpa using cached
  | storing stored accepted =>
      rw [validateAll_server] at cached ⊢
      refine ⟨cached, ?_⟩
      intro isOpen
      rw [Store.snapshot?_of_put? accepted]
      split
      · rfl
      · exact isOpen
  | closing other =>
      have kept : other ≠ uri ∧ uri ∈ server.resolver.cache := by
        simpa [closeDocument, Reaction.finish, Resolver.evict] using cached
      rw [closeDocument_snapshot?, if_neg kept.1]
      exact ⟨kept.2, id⟩
  | reconfiguring payload order =>
      simp only [changeConfiguration, validateAll_server, Resolver.configurationChanged] at cached ⊢
      split at cached
      · simp [Resolver.invalidateAll] at cached
      · exact ⟨cached, id⟩

end Handling

section Resumption

variable {server : Server} {pending : Pending} {reply : Reply} {uri : Uri}

@[simp]
theorem proceed_server (server : Server) (uri : Uri) (settings : Settings)
    (continuation : Continuation) :
    (server.proceed uri settings continuation).server = server := by
  cases continuation with
  | publish others => simp [proceed]
  | answer query => rfl

theorem sound_proceed (server : Server) (uri : Uri) (settings : Settings)
    (continuation : Continuation) : (server.proceed uri settings continuation).Sound := by
  cases continuation with
  | publish others =>
      have sound := (sound_validateAll server others).after_publishDocument uri settings
      rw [validateAll_server] at sound
      exact sound
  | answer query => exact Reaction.sound_finish _

theorem resume_server :
    (server.resume pending reply).server =
      { server with resolver := (server.resolver.complete pending.fetch reply.answer).2 } :=
  proceed_server _ _ _ _

theorem sound_resume : (server.resume pending reply).Sound :=
  sound_proceed _ _ _ _

/-- A validation that was waiting publishes the diagnostics of its document if it is still open. -/
theorem resume_covers (validates : pending.Validates uri) (started : server.started)
    (isOpen : (server.documents.snapshot? uri).isSome) :
    publications uri (server.resume pending reply).sent ≠ [] := by
  rcases validates with ⟨rfl, others, continuation⟩
  simp only [resume, proceed, continuation, Reaction.after_sent, publications_append]
  intro empty
  exact publications_publishDocument_ne_nil started isOpen (List.append_eq_nil_iff.mp empty).1

end Resumption

end PineAssist.Server
