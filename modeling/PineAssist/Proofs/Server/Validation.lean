import PineAssist.Proofs.Server.Publication

/-!
# Validations and the settings they use

Every message with diagnostics is computed under some settings: those that the server knows when it
sends the message, or those in the very reply that it has just received. `Reflects` names the
settings, so that later results can trace them back.

A change of the configuration makes the server validate all open documents one after the other, so
a waiting request may owe diagnostics of many documents. `Step.attends` says that no such debt is
forgotten: a document about which nothing is published either has the text it had before, under an
unchanged configuration, or is owed its diagnostics.
-/

namespace PineAssist.Server

open Editor (Diagnostic)

/-- What is published about the document belongs to its present text under these settings. -/
def Reflects (server : Server) (uri : Uri) (settings : Settings)
    (published : List Diagnostic × Option Int32) : Prop :=
  ∃ document, server.documents.snapshot? uri = some document ∧
    published = (server.diagnose settings document, some document.version)

/-- The diagnostics of the document are published before this request is finished. -/
def Pending.Owes (pending : Pending) (uri : Uri) : Prop :=
  ∃ others, pending.continuation = .publish others ∧ (pending.fetch.uri = uri ∨ uri ∈ others)

/-- The server asks for the settings of a document exactly if it stops to wait for them. -/
def Reaction.AsksToWait (reaction : Reaction) : Prop :=
  ∀ uri, .requestSettings uri ∈ reaction.sent ↔
    ∃ pending, reaction.progress = .waiting pending ∧ pending.fetch.uri = uri

/-- What a request does to the known settings. -/
def Request.adjust (resolver : Resolver) : Request → Resolver
  | .introduce capabilities => resolver.setPerDocument capabilities.configuration
  | .closeDocument uri => resolver.evict uri
  | .changeConfiguration payload => resolver.configurationChanged (some payload)
  | _ => resolver

/-- Handles a request, going through the open documents in the given order where it matters. -/
def handleIn (server : Server) (order : List Uri) : Request → Reaction
  | .changeConfiguration payload => server.changeConfiguration payload order
  | request => server.handle request

variable {server : Server} {uri other : Uri} {uris order : List Uri} {settings : Settings}
  {published : List Diagnostic × Option Int32} {request : Request} {reaction : Reaction}
  {pending : Pending} {reply : Reply}

section Publishing

theorem reflects_of_mem_publishDocument
    (isPublished : published ∈ publications uri (server.publishDocument other settings)) :
    other = uri ∧ server.Reflects uri settings published := by
  simp only [publishDocument] at isPublished
  split at isPublished
  · simp at isPublished
  next document held =>
    rw [publications_publication] at isPublished
    split at isPublished
    next about =>
      have same := about.2
      subst same
      exact ⟨rfl, document, held, by simpa using isPublished⟩
    · simp at isPublished

theorem Reflects.congr {changed : Server} (reflects : server.Reflects uri settings published)
    (linter : changed.linter = server.linter)
    (same : changed.documents.snapshot? uri = server.documents.snapshot? uri) :
    changed.Reflects uri settings published := by
  rcases reflects with ⟨document, held, computed⟩
  refine ⟨document, same.trans held, ?_⟩
  simpa only [diagnose, linter] using computed

theorem known_of_mem_validateAll
    (isPublished : published ∈ publications uri (server.validateAll uris).sent) :
    ∃ settings, server.resolver.resolve uri = .known settings ∧
      server.Reflects uri settings published := by
  fun_induction validateAll server uris with
  | case1 => simp [Reaction.finish] at isPublished
  | case2 first others isOpen settings known ih =>
      simp only [Reaction.after_sent, publications_append, List.mem_append] at isPublished
      rcases isPublished with now | later
      · have reflects := reflects_of_mem_publishDocument now
        exact ⟨settings, reflects.1 ▸ known, reflects.2⟩
      · exact ih later
  | case3 first others isOpen fetch needed => simp at isPublished
  | case4 first others notOpen ih => exact ih isPublished

theorem validateAll_attends (started : server.started)
    (isOpen : (server.documents.snapshot? uri).isSome) (listed : uri ∈ uris) :
    publications uri (server.validateAll uris).sent ≠ [] ∨
      ∃ pending, (server.validateAll uris).progress = .waiting pending ∧ pending.Owes uri := by
  fun_induction validateAll server uris with
  | case1 => simp at listed
  | case2 first others firstOpen settings known ih =>
      simp only [Reaction.after_sent, publications_append, Reaction.after_progress]
      rcases List.mem_cons.mp listed with rfl | listedLater
      · left
        simp [publications_publishDocument_ne_nil started isOpen]
      · rcases ih listedLater with something | waits
        · left
          simp [something]
        · exact .inr waits
  | case3 first others firstOpen fetch needed =>
      right
      rcases Resolver.resolve_eq_needed_iff.mp needed with ⟨_, _, rfl⟩
      refine ⟨_, rfl, others, rfl, ?_⟩
      rcases List.mem_cons.mp listed with rfl | listedLater
      · exact .inl rfl
      · exact .inr listedLater
  | case4 first others notOpen ih =>
      apply ih
      rcases List.mem_cons.mp listed with rfl | listedLater
      · rw [Store.contains_eq_isSome_snapshot?] at notOpen
        exact absurd isOpen notOpen
      · exact listedLater

/-- Whoever is waiting with a debt publishes the diagnostics or goes on waiting with it. -/
theorem resume_attends (owes : pending.Owes uri) (started : server.started)
    (isOpen : (server.documents.snapshot? uri).isSome) :
    publications uri (server.resume pending reply).sent ≠ [] ∨
      ∃ next, (server.resume pending reply).progress = .waiting next ∧ next.Owes uri := by
  rcases owes with ⟨others, continuation, own | listed⟩
  · exact .inl (resume_covers ⟨own, others, continuation⟩ started isOpen)
  · have informedStarted : ({ server with
        resolver := (server.resolver.complete pending.fetch reply.answer).2 } : Server).started :=
      started
    simp only [resume, proceed, continuation, Reaction.after_sent, publications_append,
      Reaction.after_progress]
    rcases validateAll_attends informedStarted isOpen listed with something | waits
    · left
      intro nothing
      exact something (List.append_eq_nil_iff.mp nothing).2
    · exact .inr waits

theorem known_of_mem_resume
    (isPublished : published ∈ publications uri (server.resume pending reply).sent) :
    (∃ settings, (server.resume pending reply).server.resolver.resolve uri = .known settings ∧
      (server.resume pending reply).server.Reflects uri settings published) ∨
    (pending.Validates uri ∧
      (server.resume pending reply).server.Reflects uri (Resolver.decode reply.answer)
        published) := by
  rw [resume_server]
  simp only [resume] at isPublished
  cases continuation : pending.continuation with
  | publish others =>
      simp only [proceed, continuation, Reaction.after_sent, publications_append,
        List.mem_append] at isPublished
      rcases isPublished with own | later
      · have reflects := reflects_of_mem_publishDocument own
        exact .inr ⟨⟨reflects.1, others, continuation⟩, reflects.2⟩
      · exact .inl (known_of_mem_validateAll later)
  | answer query => simp [proceed, continuation, Reaction.finish] at isPublished

end Publishing

section Asking

theorem Reaction.asksToWait_finish (answer : Answer) :
    (Reaction.finish server answer).AsksToWait := by
  simp [Reaction.AsksToWait, Reaction.finish]

theorem Reaction.AsksToWait.after {messages : List Message} (asks : reaction.AsksToWait)
    (nothing : ∀ uri, .requestSettings uri ∉ messages) : (reaction.after messages).AsksToWait := by
  intro uri
  simp [nothing uri, asks uri]

theorem requestSettings_notMem_publication (diagnostics : List Diagnostic)
    (version : Option Int32) :
    .requestSettings uri ∉ server.publication other diagnostics version := by
  simp only [publication]
  split <;> simp

theorem requestSettings_notMem_publishDocument :
    .requestSettings uri ∉ server.publishDocument other settings := by
  simp only [publishDocument]
  split
  · simp
  · exact requestSettings_notMem_publication _ _

theorem asksToWait_validateAll (server : Server) (uris : List Uri) :
    (server.validateAll uris).AsksToWait := by
  fun_induction validateAll server uris with
  | case1 => exact Reaction.asksToWait_finish .done
  | case2 first others isOpen settings known ih =>
      exact ih.after fun _ => requestSettings_notMem_publishDocument
  | case3 first others isOpen fetch needed =>
      rcases Resolver.resolve_eq_needed_iff.mp needed with ⟨_, _, rfl⟩
      intro uri
      simp [eq_comm]
  | case4 first others notOpen ih => exact ih

theorem asksToWait_consult (server : Server) (uri : Uri) (query : Query) :
    (server.consult uri query).AsksToWait := by
  simp only [consult, proceed]
  split
  · split
    · exact Reaction.asksToWait_finish _
    next fetch needed =>
      rcases Resolver.resolve_eq_needed_iff.mp needed with ⟨_, _, rfl⟩
      intro other
      simp [eq_comm]
  · exact Reaction.asksToWait_finish _

theorem asksToWait_resume : (server.resume pending reply).AsksToWait := by
  simp only [resume]
  cases pending.continuation with
  | publish others =>
      apply (asksToWait_validateAll _ others).after
      intro uri
      exact requestSettings_notMem_publishDocument
  | answer query => exact Reaction.asksToWait_finish _

theorem asksToWait_handleIn (server : Server) (order : List Uri) (request : Request) :
    (server.handleIn order request).AsksToWait := by
  cases request with
  | ready =>
      apply (Reaction.asksToWait_finish .done).after
      intro uri
      split <;> simp
  | openDocument uri document =>
      simp only [handleIn, handle, openDocument]
      split
      · exact asksToWait_validateAll _ _
      · exact (Reaction.asksToWait_finish .done).after (by simp)
  | changeDocument uri version texts =>
      simp only [handleIn, handle, changeDocument]
      split
      · exact asksToWait_validateAll _ _
      · exact Reaction.asksToWait_finish .done
  | closeDocument uri =>
      apply (Reaction.asksToWait_finish .done).after
      intro other
      exact requestSettings_notMem_publication _ _
  | changeConfiguration payload => exact asksToWait_validateAll _ order
  | query uri query => exact asksToWait_consult server uri query
  | validate uri => exact asksToWait_validateAll server [uri]
  | _ => exact Reaction.asksToWait_finish _

end Asking

section Handling

theorem handleIn_uris (server : Server) (request : Request) :
    server.handleIn server.documents.uris request = server.handle request := by
  cases request <;> rfl

theorem handles_handleIn (server : Server) (order : List Uri) (request : Request) :
    server.Handles request (server.handleIn order request) := by
  cases request with
  | changeConfiguration payload => exact .reconfiguring payload order
  | _ => exact handles_handle server _

@[simp]
theorem consult_server (server : Server) (uri : Uri) (query : Query) :
    (server.consult uri query).server = server := by
  simp only [consult]
  split
  · split <;> simp
  · rfl

theorem handleIn_resolver (server : Server) (order : List Uri) (request : Request) :
    (server.handleIn order request).server.resolver = request.adjust server.resolver := by
  cases request with
  | openDocument uri document =>
      simp only [handleIn, handle, openDocument, Request.adjust]
      split <;> simp [Reaction.finish]
  | changeDocument uri version texts =>
      simp only [handleIn, handle, changeDocument, Request.adjust]
      split <;> simp [Reaction.finish]
  | changeConfiguration payload => simp [handleIn, changeConfiguration, Request.adjust]
  | query uri query => simp [handleIn, handle, Request.adjust]
  | validate uri => simp [handleIn, handle, Request.adjust]
  | _ => rfl

theorem Handles.known (handles : server.Handles request reaction)
    (isOpen : (reaction.server.documents.snapshot? uri).isSome)
    (isPublished : published ∈ publications uri reaction.sent) :
    ∃ settings, reaction.server.resolver.resolve uri = .known settings ∧
      reaction.server.Reflects uri settings published := by
  cases handles with
  | quietly keeps nothing _ => simp [nothing] at isPublished
  | validating uri =>
      rw [validateAll_server]
      exact known_of_mem_validateAll isPublished
  | storing stored accepted =>
      rw [validateAll_server]
      exact known_of_mem_validateAll isPublished
  | closing closed =>
      rw [publications_closeDocument] at isPublished
      split at isPublished
      next about => simp [closeDocument_snapshot?, about.2] at isOpen
      · simp at isPublished
  | reconfiguring payload order =>
      simp only [changeConfiguration, validateAll_server] at isPublished ⊢
      exact known_of_mem_validateAll isPublished

theorem changeConfiguration_attends {payload : Json}
    (complete : order.Perm server.documents.uris) (started : server.started)
    (isOpen : (server.documents.snapshot? uri).isSome) :
    publications uri (server.changeConfiguration payload order).sent ≠ [] ∨
      ∃ pending, (server.changeConfiguration payload order).progress = .waiting pending ∧
        pending.Owes uri := by
  have listed : uri ∈ order := by
    rw [complete.mem_iff, Store.mem_uris, Store.contains_eq_isSome_snapshot?]
    exact isOpen
  exact validateAll_attends started isOpen listed

end Handling

end PineAssist.Server

namespace PineAssist.Session

open Editor (Diagnostic)
open Server (Message Pending Reaction Reply Request publications)

/-- Some waiting request owes the diagnostics of the document. -/
def Owing (session : Session) (uri : Uri) : Prop :=
  ∃ ticket pending, session.waiting.lookup ticket = some pending ∧ pending.Owes uri

/-- The configuration has changed. -/
def Entry.Reconfigures (entry : Entry) : Prop :=
  ∃ payload, entry.1 = .request (.changeConfiguration payload)

/-- No editor introduces itself again. -/
def IntroducedOnce (history : List Entry) : Prop :=
  ∀ entry ∈ history, ∀ capabilities, entry.1 ≠ .request (.introduce capabilities)

variable {session next : Session} {event : Event} {outcome : Outcome} {history : List Entry}
  {uri : Uri} {document : Document} {published : List Diagnostic × Option Int32}
  {request : Request}

theorem IntroducedOnce.of_snoc {entry : Entry} (once : IntroducedOnce (history ++ [entry])) :
    IntroducedOnce history ∧ ∀ capabilities, entry.1 ≠ .request (.introduce capabilities) :=
  ⟨fun earlier earlierMem => once earlier (by simp [earlierMem]), once entry (by simp)⟩

theorem introducedOnce_replay {begin : Session} {events : List Event}
    (never : ∀ capabilities, .request (.introduce capabilities) ∉ events) :
    IntroducedOnce (replay step begin events).1 := by
  intro entry entryMem capabilities introduces
  apply never capabilities
  rw [← replay_events step begin events, ← introduces]
  exact List.mem_map_of_mem entryMem

theorem Step.handled (step : Step session (.request request) (next, outcome)) :
    ∃ order : List Uri, order.Perm session.server.documents.uris ∧
      session.record (session.server.handleIn order request) = (next, outcome) := by
  generalize entered : (next, outcome) = result at step
  cases step with
  | sorted =>
      refine ⟨_, .refl _, ?_⟩
      rw [Server.handleIn_uris]
      rfl
  | inOrder payload complete => exact ⟨_, complete, rfl⟩

/-- The reaction to an event asks for settings exactly if the request begins to wait. -/
theorem Step.reacts_asking (step : Step session event (next, outcome)) :
    ∃ base reaction, session.Reacts event base reaction ∧
      base.record reaction = (next, outcome) ∧ reaction.AsksToWait := by
  cases event with
  | request request =>
      rcases step.handled with ⟨order, _, recorded⟩
      have handles := Server.handles_handleIn session.server order request
      exact ⟨_, _, .request handles, recorded, Server.asksToWait_handleIn _ order request⟩
  | reply ticket reply =>
      rcases step.reacts with ⟨base, reaction, reacts, recorded⟩
      refine ⟨base, reaction, reacts, recorded, ?_⟩
      cases reacts with
      | reply reply isWaiting => exact Server.asksToWait_resume
      | ignored reply nobody => exact Reaction.asksToWait_finish .done

theorem Step.resolver_of_request (step : Step session (.request request) (next, outcome)) :
    next.server.resolver = request.adjust session.server.resolver := by
  rcases step.handled with ⟨order, _, recorded⟩
  rw [record_server recorded]
  exact Server.handleIn_resolver session.server order request

/-- A reply adds at most one answer to the known settings. -/
theorem Step.resolver_of_reply {ticket : Nat} {reply : Reply}
    (step : Step session (.reply ticket reply) (next, outcome)) :
    next.server.resolver = session.server.resolver ∨
      ∃ pending, session.waiting.lookup ticket = some pending ∧
        session.server.resolver.generation = pending.fetch.generation ∧
        next.server.resolver = { session.server.resolver with
          cache := session.server.resolver.cache.insert pending.fetch.uri
            (Resolver.decode reply.answer) } := by
  rcases step.reacts with ⟨base, reaction, reacts, recorded⟩
  rw [record_server recorded]
  cases reacts with
  | @reply _ pending _ isWaiting =>
      simp only [Server.resume_server, Resolver.complete]
      split
      next current => exact .inr ⟨pending, isWaiting, current, rfl⟩
      · exact .inl rfl
  | ignored _ nobody => exact .inl rfl

theorem Step.perDocument (step : Step session event (next, outcome))
    (notIntroduced : ∀ capabilities, event ≠ .request (.introduce capabilities)) :
    next.server.resolver.perDocument = session.server.resolver.perDocument := by
  cases event with
  | request request =>
      rw [step.resolver_of_request]
      cases request with
      | introduce capabilities => exact absurd rfl (notIntroduced capabilities)
      | changeConfiguration payload =>
          simp only [Request.adjust, Resolver.configurationChanged]
          split <;> rfl
      | _ => rfl
  | reply ticket reply =>
      rcases step.resolver_of_reply with same | ⟨pending, _, _, learned⟩
      · rw [same]
      · rw [learned]

theorem perDocument_of_introduced {config : Lint.Config} {maxSize : Nat}
    {capabilities : Server.ClientCapabilities}
    (run : History (introduced config maxSize capabilities) history session)
    (once : IntroducedOnce history) :
    session.server.resolver.perDocument = capabilities.configuration := by
  induction run with
  | nil => rfl
  | snoc run step ih =>
      rw [step.perDocument once.of_snoc.2]
      exact ih once.of_snoc.1

/-- Diagnostics of an open document are computed under settings that are known, or just received. -/
theorem Step.reflects (step : Step session event (next, outcome))
    (isOpen : (next.server.documents.snapshot? uri).isSome)
    (isPublished : published ∈ publications uri outcome.sent) :
    (∃ settings, next.server.resolver.resolve uri = .known settings ∧
      next.server.Reflects uri settings published) ∨
    ∃ ticket reply pending, event = .reply ticket reply ∧
      session.waiting.lookup ticket = some pending ∧ pending.Validates uri ∧
      next.server.Reflects uri (Resolver.decode reply.answer) published := by
  rcases step.reacts with ⟨base, reaction, reacts, recorded⟩
  rw [record_sent recorded] at isPublished
  rw [record_server recorded] at isOpen ⊢
  cases reacts with
  | request handles => exact .inl (handles.known isOpen isPublished)
  | @reply ticket pending reply isWaiting =>
      rcases Server.known_of_mem_resume isPublished with known | ⟨validates, reflects⟩
      · exact .inl known
      · exact .inr ⟨ticket, reply, pending, rfl, isWaiting, validates, reflects⟩
  | ignored reply nobody => simp [Reaction.finish] at isPublished

theorem Owing.of_waiting {base : Session} {reaction : Reaction} {pending : Pending}
    (recorded : base.record reaction = (next, outcome))
    (waits : reaction.progress = .waiting pending) (owes : pending.Owes uri) :
    next.Owing uri := by
  rcases record_cases recorded with ⟨_, _, _, finished, _⟩ | ⟨_, _, new, isNew, moreWaiting⟩
  · simp [waits] at finished
  · rw [waits] at isNew
    cases isNew
    exact ⟨base.issued, pending, by simp [moreWaiting], owes⟩

/--
If a step publishes nothing about an open document, then its diagnostics are owed, or neither its
text nor the configuration has changed and no debt has been forgotten.
-/
theorem Step.attends (step : Step session event (next, outcome))
    (numbered : Numbered session.waiting session.issued) (started : session.server.started)
    (held : next.server.documents.snapshot? uri = some document)
    (nothing : publications uri outcome.sent = []) :
    next.Owing uri ∨
      (session.server.documents.snapshot? uri = some document ∧
        ¬Entry.Reconfigures (event, outcome) ∧ (session.Owing uri → next.Owing uri)) := by
  have keepsOwing (notReplied : ∀ ticket pending,
      session.waiting.lookup ticket = some pending → pending.Owes uri →
      ¬Entry.Replies ticket (event, outcome)) :
      session.Owing uri → next.Owing uri := by
    rintro ⟨ticket, pending, waits, owes⟩
    have unanswered := notReplied ticket pending waits owes
    exact ⟨ticket, pending, step.lookup_of_not_replied numbered waits unanswered, owes⟩
  cases event with
  | request request =>
      rcases step.handled with ⟨order, complete, recorded⟩
      have startedAfter := step.started started
      rw [record_server recorded] at held startedAfter
      rw [record_sent recorded] at nothing
      by_cases reconfigures : ∃ payload, request = .changeConfiguration payload
      · left
        rcases reconfigures with ⟨payload, rfl⟩
        have heldBefore : session.server.documents.snapshot? uri = some document := by
          simpa [Server.handleIn, Server.changeConfiguration] using held
        have isOpen : (session.server.documents.snapshot? uri).isSome := by simp [heldBefore]
        rcases Server.changeConfiguration_attends complete started isOpen with
          something | ⟨pending, waits, owes⟩
        · exact absurd nothing something
        · exact .of_waiting recorded waits owes
      · have handles := Server.handles_handleIn session.server order request
        rcases handles.covers startedAfter held with
          same | something | ⟨pending, waits, own, others, continuation⟩
        · refine .inr ⟨same, ?_, keepsOwing (by simp [Entry.Replies])⟩
          rintro ⟨payload, ⟨⟩⟩
          exact reconfigures ⟨payload, rfl⟩
        · exact absurd nothing something
        · exact .inl (.of_waiting recorded waits ⟨others, continuation, .inl own⟩)
  | reply answered reply =>
      have unchanged : ¬Entry.Reconfigures (.reply answered reply, outcome) := by
        simp [Entry.Reconfigures]
      rcases step.reacts with ⟨base, reaction, reacts, recorded⟩
      rw [record_server recorded] at held
      rw [record_sent recorded] at nothing
      cases reacts with
      | @reply _ pending _ isWaiting =>
          rw [Server.resume_server] at held
          have heldBefore : session.server.documents.snapshot? uri = some document := held
          refine .inr ⟨heldBefore, unchanged, ?_⟩
          rintro ⟨ticket, waiting, waits, owes⟩
          by_cases same : ticket = answered
          · subst same
            rw [isWaiting, Option.some.injEq] at waits
            subst waits
            rcases Server.resume_attends owes started (by simp [heldBefore]) with
              something | ⟨pending, waitsOn, owesOn⟩
            · exact absurd nothing something
            · exact .of_waiting recorded waitsOn owesOn
          · refine ⟨ticket, waiting, step.lookup_of_not_replied numbered waits ?_, owes⟩
            simp [Entry.Replies, Ne.symm same]
      | ignored _ nobody =>
          refine .inr ⟨held, unchanged, keepsOwing ?_⟩
          rintro ticket waiting waits owes ⟨_, ⟨⟩⟩
          simp [nobody] at waits

end PineAssist.Session
