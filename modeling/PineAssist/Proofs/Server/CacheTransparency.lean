import PineAssist.Proofs.Server.Conversation

/-!
# Nobody notices the cache

An editor changes its mind about settings only when it reports a change of its configuration. Then
the cache of the server cannot be noticed: a forgetful server, which asks anew whenever it needs
settings, gives the same answers and publishes the same diagnostics.

The two servers are compared by leaving out the cache: what a request leads to is a function of the
bare server, because whatever is in the cache is what the editor would reply now.
-/

namespace PineAssist.Server

/-- What an editor gets to see of an exchange, apart from the questions for settings. -/
def Exchange.visible (exchange : Exchange) : List Message × Answer :=
  (statements exchange.sent, exchange.answer)

variable {memory : Memory} {client : Uri → Reply} {server : Server} {order : List Uri}
  {request : Request} {messages : List Message}

section Visible

theorem statements_eq_self (nothing : ∀ uri, .requestSettings uri ∉ messages) :
    statements messages = messages := by
  simp only [statements, List.filter_eq_self]
  intro message messageMem
  cases message with
  | requestSettings uri => exact absurd messageMem (nothing uri)
  | _ => rfl

theorem statements_question (uri : Uri) (messages : List Message) :
    statements (.requestSettings uri :: messages) = statements messages :=
  rfl

theorem visible_after (exchange : Exchange) :
    (exchange.after messages).visible =
      (statements messages ++ exchange.visible.1, exchange.visible.2) := by
  simp [Exchange.visible, statements]

theorem visible_finish (answer : Answer) :
    ((Reaction.finish server answer).conclude memory client).visible = ([], answer) := by
  rw [conclude_finish]
  rfl

theorem visible_told (answer : Answer) :
    (((Reaction.finish server answer).after messages).conclude memory client).visible =
      (statements messages, answer) := by
  rw [conclude_after, visible_after, visible_finish, List.append_nil]

theorem visible_validateAll (honest : memory.Honest) (agrees : server.resolver.Agrees client)
    (uris : List Uri) :
    ((server.validateAll uris).conclude memory client).visible =
      (uris.flatMap fun uri => server.publishDocument uri (server.settingsBy client uri),
        .done) := by
  induction uris generalizing server with
  | nil => exact visible_finish .done
  | cons uri others ih =>
      have published (settings : Settings) : statements (server.publishDocument uri settings) =
          server.publishDocument uri settings :=
        statements_eq_self fun _ => requestSettings_notMem_publishDocument
      cases isOpen : server.documents.contains uri with
      | false =>
          have closed : server.documents.snapshot? uri = none := by
            simpa [Store.contains_eq_isSome_snapshot?] using isOpen
          rw [conclude_validateAll_closed isOpen, ih agrees]
          simp [publishDocument, closed]
      | true =>
          cases resolved : server.resolver.resolve uri with
          | known settings =>
              have same := eq_settingsBy_of_known agrees resolved
              rw [conclude_validateAll_known isOpen resolved, visible_after, ih agrees]
              simp [published, same]
          | needed fetch =>
              have same := eq_settingsBy_of_needed client resolved
              rcases Resolver.resolve_eq_needed_iff.mp resolved with ⟨perDocument, _, rfl⟩
              rw [conclude_validateAll_needed isOpen resolved, visible_after,
                ih (honest.agrees agrees perDocument), honest.settingsBy, statements_question,
                published, same]
              rfl

theorem visible_consult (agrees : server.resolver.Agrees client) (uri : Uri) (query : Query) :
    ((server.consult uri query).conclude memory client).visible =
      ([], if server.documents.contains uri then
          server.answer uri (server.settingsBy client uri) query
        else answerClosed query) := by
  cases isOpen : server.documents.contains uri with
  | false =>
      simp only [consult, isOpen]
      exact visible_finish _
  | true =>
      cases resolved : server.resolver.resolve uri with
      | known settings =>
          have same := eq_settingsBy_of_known agrees resolved
          simp only [consult, isOpen, resolved, proceed, if_true, ← same]
          exact visible_finish _
      | needed fetch =>
          have same := eq_settingsBy_of_needed client resolved
          rcases Resolver.resolve_eq_needed_iff.mp resolved with ⟨_, _, rfl⟩
          simp only [consult, isOpen, resolved, if_true, Reaction.conclude, resumeWith, proceed,
            conclude_finish, ← same]
          rfl

end Visible

section Exchanges

theorem handleIn_bare (server : Server) (order : List Uri) (request : Request) :
    (server.bare.handleIn order request).server = (server.handleIn order request).server.bare := by
  cases request with
  | openDocument uri document =>
      cases stored : server.documents.put? uri document <;>
        simp [handleIn, handle, openDocument, bare, stored, Reaction.finish]
  | changeDocument uri version texts =>
      cases stored : texts.getLast?.bind fun text => server.documents.put? uri ⟨text, version⟩ <;>
        simp [handleIn, handle, changeDocument, bare, stored, Reaction.finish]
  | closeDocument uri =>
      simp [handleIn, handle, closeDocument, bare, Reaction.finish, Resolver.evict]
  | changeConfiguration payload =>
      cases perDocument : server.resolver.perDocument <;>
        simp [handleIn, changeConfiguration, bare, Resolver.configurationChanged, perDocument,
          Resolver.invalidateAll]
  | query uri query => simp [handleIn, handle]
  | validate uri => simp [handleIn, handle]
  | _ => rfl

/-- Validations read the documents and the settings, and neither depends on the cache. -/
theorem visible_exchange (agrees : (request.adjust server.resolver).Agrees client) :
    (server.exchange .keeping client order request).visible =
      (server.bare.exchange .forgetful client order request).visible := by
  have validated (changed : Server) (agreesChanged : changed.resolver.Agrees client)
      (uris : List Uri) :
      ((changed.validateAll uris).conclude .keeping client).visible =
        ((changed.bare.validateAll uris).conclude .forgetful client).visible := by
    rw [visible_validateAll Memory.honest_keeping agreesChanged,
      visible_validateAll Memory.honest_forgetful (agrees_of_forgotten rfl)]
    rfl
  cases request with
  | ready =>
      simp only [exchange, handleIn, handle, ready, visible_told]
      rfl
  | openDocument uri document =>
      simp only [exchange, handleIn, handle, openDocument, bare_documents]
      cases server.documents.put? uri document with
      | some documents => exact validated { server with documents } agrees [uri]
      | none => simp only [visible_told]
  | changeDocument uri version texts =>
      simp only [exchange, handleIn, handle, changeDocument, bare_documents]
      cases texts.getLast?.bind fun text => server.documents.put? uri ⟨text, version⟩ with
      | some documents => exact validated { server with documents } agrees [uri]
      | none => simp only [visible_finish]
  | closeDocument uri =>
      simp only [exchange, handleIn, handle, closeDocument, visible_told]
      rfl
  | changeConfiguration payload =>
      have reconfigured : server.bare.resolver.configurationChanged (some payload) =
          { server.resolver.configurationChanged (some payload) with cache := ∅ } := by
        cases perDocument : server.resolver.perDocument <;>
          simp [bare, Resolver.configurationChanged, perDocument, Resolver.invalidateAll]
      simp only [exchange, handleIn, changeConfiguration, reconfigured]
      exact validated
        { server with resolver := server.resolver.configurationChanged (some payload) } agrees order
  | query uri query =>
      simp only [exchange, handleIn, handle]
      rw [visible_consult agrees, visible_consult (agrees_of_forgotten rfl)]
      rfl
  | validate uri => exact validated server agrees [uri]
  | symbols uri =>
      simp only [exchange, handleIn, handle, visible_finish]
      rfl
  | _ => simp only [exchange, handleIn, handle, introduce, visible_finish]

theorem bare_exchange (server : Server) (order : List Uri) (request : Request) :
    (server.bare.exchange .forgetful client order request).server =
      (server.exchange .keeping client order request).server.bare := by
  rw [exchange, exchange, conclude_forgetful_server, bare_conclude Memory.honest_keeping,
    handleIn_bare]

theorem agrees_exchange (honest : memory.Honest)
    (agrees : (request.adjust server.resolver).Agrees client) :
    (server.exchange memory client order request).server.resolver.Agrees client := by
  apply agrees_conclude honest
  · exact (handles_handleIn server order request).sound
  · rw [handleIn_resolver]
    exact agrees

end Exchanges

section Conversations

variable {client : Nat → Uri → Reply} {changes : Nat}

/-- The editor changes its mind only when the cache is emptied. -/
theorem agrees_adjust {resolver : Resolver} (agrees : resolver.Agrees (client changes))
    (capable : ∀ capabilities, request = .introduce capabilities → capabilities.configuration) :
    (request.adjust resolver).Agrees (client (changes + request.changes)) := by
  intro uri settings cached
  cases request with
  | introduce capabilities =>
      exact ⟨capable capabilities rfl, (agrees uri settings cached).2⟩
  | closeDocument closed =>
      apply agrees uri settings
      simp only [Request.adjust, Resolver.evict, Std.ExtTreeMap.getElem?_erase] at cached
      split at cached
      · cases cached
      · exact cached
  | changeConfiguration payload =>
      simp only [Request.adjust, Resolver.configurationChanged] at cached
      split at cached
      · simp [Resolver.invalidateAll] at cached
      next pushed => exact absurd (agrees uri settings cached).1 pushed
  | _ => exact agrees uri settings cached

theorem visible_converse (agrees : server.resolver.Agrees (client changes))
    (requests : List (Request × List Uri))
    (capable : ∀ capabilities order, (.introduce capabilities, order) ∈ requests →
      capabilities.configuration) :
    (converse .keeping client changes server requests).map Exchange.visible =
      (converse .forgetful client changes server.bare requests).map Exchange.visible := by
  induction requests generalizing changes server with
  | nil => rfl
  | cons first rest ih =>
      rcases first with ⟨request, order⟩
      have agreesNow : (request.adjust server.resolver).Agrees
          (client (changes + request.changes)) := by
        apply agrees_adjust agrees
        rintro capabilities rfl
        exact capable capabilities order (by simp)
      simp only [converse, List.map_cons, List.cons.injEq]
      refine ⟨visible_exchange agreesNow, ?_⟩
      rw [bare_exchange]
      apply ih
      · exact agrees_exchange Memory.honest_keeping agreesNow
      · intro capabilities order listed
        exact capable capabilities order (by simp [listed])

theorem bare_of_mem_converse {requests : List (Request × List Uri)} {exchange : Exchange}
    (happens : exchange ∈ converse .forgetful client changes server.bare requests) :
    exchange.server.bare = exchange.server := by
  induction requests generalizing changes server with
  | nil => simp [converse] at happens
  | cons first rest ih =>
      rcases first with ⟨request, order⟩
      simp only [converse, bare_exchange, List.mem_cons] at happens
      rcases happens with now | later
      · rw [now, bare_exchange]
        rfl
      · exact ih later

/--
Whatever the editor asks and in whatever order the server goes through the documents, the editor
cannot tell the server from a forgetful one, which has to ask whenever it needs the settings of a
document.
-/
theorem cache_unnoticed (config : Lint.Config) (maxSize : Nat) (client : Nat → Uri → Reply)
    (requests : List (Request × List Uri))
    (capable : ∀ capabilities order, (.introduce capabilities, order) ∈ requests →
      capabilities.configuration) :
    (converse .keeping client 0 (.new config maxSize) requests).map Exchange.visible =
      (converse .forgetful client 0 (.new config maxSize) requests).map Exchange.visible ∧
    ∀ exchange ∈ converse .forgetful client 0 (.new config maxSize) requests,
      exchange.server.resolver.perDocument → ∀ uri,
        exchange.server.resolver.resolve uri =
          .needed ⟨uri, exchange.server.resolver.generation⟩ := by
  constructor
  · exact visible_converse (agrees_of_forgotten rfl) requests capable
  · intro exchange happens perDocument uri
    have isBare := bare_of_mem_converse (show exchange ∈
      converse .forgetful client 0 (Server.new config maxSize).bare requests from happens)
    have unknown : exchange.server.resolver.cache[uri]? = none := by
      rw [← isBare]
      simp [bare]
    exact Resolver.resolve_eq_needed_iff.mpr ⟨perDocument, unknown, rfl⟩

/-- The editor switches off hover texts when it reports a change for the first time. -/
def fickle : Nat → Uri → Reply :=
  fun changes _ => .values [.object [("enableHover", .bool (changes == 0))]]

/-- Two questions about a document, with a change of the configuration in between. -/
def hoveringTwice : List (Request × List Uri) :=
  [(.introduce { configuration := true }, []), (.openDocument "a" ⟨"close", 1⟩, []),
    (.query "a" (.hover ⟨0, 1⟩), []), (.changeConfiguration .null, ["a"]),
    (.query "a" (.hover ⟨0, 1⟩), [])]

theorem cache_unnoticed_hoveringTwice :
    (converse .keeping fickle 0 (.new {} 100) hoveringTwice).map Exchange.visible =
      (converse .forgetful fickle 0 (.new {} 100) hoveringTwice).map Exchange.visible :=
  (cache_unnoticed {} 100 fickle hoveringTwice (by simp [hoveringTwice])).1

end Conversations

end PineAssist.Server
