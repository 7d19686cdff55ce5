import PineAssist.Proofs.Server.Conversation

/-!
# The order of validations

When the configuration changes, the server goes through the open documents in an order that it does
not promise. If the replies of the editor depend on nothing but the document, this order shows in
the order of the messages only: the server ends in the same state, and every open document gets its
diagnostics once.
-/

namespace PineAssist.Server

/-- All messages about a document whose settings are not known yet. -/
def announcement (client : Uri → Reply) (server : Server) (uri : Uri) : List Message :=
  (if server.resolver.perDocument then [.requestSettings uri] else []) ++
    server.publishDocument uri (server.settingsBy client uri)

/-- The server when it has kept the settings of a document. -/
def learn (server : Server) (uri : Uri) (settings : Settings) : Server :=
  { server with
    resolver :=
      { server.resolver with cache := server.resolver.cache.insert uri settings } }

/-- The server when it has taken notice of a change of the configuration. -/
def reconfigured (server : Server) (payload : Json) : Server :=
  { server with resolver := server.resolver.configurationChanged (some payload) }

variable {client : Uri → Reply} {server other : Server} {uri : Uri} {uris : List Uri}

theorem eq_of_bare_eq (bareEq : server.bare = other.bare)
    (cacheEq : server.resolver.cache = other.resolver.cache) : server = other := by
  rcases server with ⟨_, _, _, ⟨_, _, _, _⟩, _⟩
  rcases other with ⟨_, _, _, ⟨_, _, _, _⟩, _⟩
  simp_all [bare]

theorem keeping_current (server : Server) (uri : Uri) (answer : Except FetchError Json) :
    { server with
        resolver := Memory.keeping server.resolver ⟨uri, server.resolver.generation⟩ answer } =
      server.learn uri (Resolver.decode answer) := by
  simp [Memory.keeping, Resolver.complete, learn]

theorem learn_cache (first uri : Uri) (settings : Settings) :
    (server.learn first settings).resolver.cache[uri]? =
      if first = uri then some settings else server.resolver.cache[uri]? := by
  simp [learn, Std.ExtTreeMap.getElem?_insert]

/--
Documents whose settings are not known are announced one after the other, and then their settings
are known. If the editor pushes its settings, none are learned. No document is visited twice, so
what is learned of one does not concern the others.
-/
theorem conclude_validateAll_afresh (isOpen : ∀ uri ∈ uris, server.documents.contains uri)
    (unknown : ∀ uri ∈ uris, server.resolver.perDocument → server.resolver.cache[uri]? = none)
    (distinct : uris.Nodup) :
    ((server.validateAll uris).conclude .keeping client).sent =
      uris.flatMap (server.announcement client) ∧
    ∀ uri, ((server.validateAll uris).conclude .keeping client).server.resolver.cache[uri]? =
      if server.resolver.perDocument ∧ uri ∈ uris then
        some (Resolver.decode (client uri).answer)
      else server.resolver.cache[uri]? := by
  induction uris generalizing server with
  | nil => simp [validateAll, conclude_finish]
  | cons first others ih =>
      rcases List.nodup_cons.mp distinct with ⟨notAgain, othersDistinct⟩
      have firstOpen := isOpen first (by simp)
      have othersOpen : ∀ uri ∈ others, server.documents.contains uri := by
        intro uri listed
        exact isOpen uri (by simp [listed])
      cases perDocument : server.resolver.perDocument with
      | false =>
          have known : server.resolver.resolve first = .known server.resolver.global := by
            simp [Resolver.resolve_eq_known_iff, perDocument]
          rcases ih othersOpen (by simp [perDocument]) othersDistinct with ⟨sentLater, learned⟩
          rw [conclude_validateAll_known firstOpen known]
          constructor
          · simp [sentLater, announcement, settingsBy, perDocument]
          · simpa [perDocument] using learned
      | true =>
          have firstUnknown := unknown first (by simp) perDocument
          have needed := Resolver.resolve_eq_needed_iff.mpr ⟨perDocument, firstUnknown, rfl⟩
          rw [conclude_validateAll_needed firstOpen needed, keeping_current]
          generalize decoded : Resolver.decode (client first).answer = settings
          have openThen : ∀ uri ∈ others, (server.learn first settings).documents.contains uri :=
            othersOpen
          have unknownThen : ∀ uri ∈ others,
              (server.learn first settings).resolver.perDocument →
              (server.learn first settings).resolver.cache[uri]? = none := by
            intro uri listed _
            have different : first ≠ uri := by
              rintro rfl
              exact notAgain listed
            rw [learn_cache, if_neg different]
            exact unknown uri (by simp [listed]) perDocument
          rcases ih openThen unknownThen othersDistinct with ⟨sentLater, learned⟩
          constructor
          · have announced : server.announcement client first =
                .requestSettings first :: server.publishDocument first settings := by
              simp [announcement, settingsBy, perDocument, decoded]
            rw [Exchange.after_sent, sentLater, List.flatMap_cons, announced]
            rfl
          · intro uri
            have asked : (server.learn first settings).resolver.perDocument := perDocument
            rw [Exchange.after_server, learned, learn_cache]
            by_cases same : first = uri
            · subst same
              simp [decoded]
            · simp [asked, same, Ne.symm same]

theorem contains_of_complete (payload : Json) (complete : uris.Perm server.documents.uris) :
    ∀ uri ∈ uris, (server.reconfigured payload).documents.contains uri := by
  intro uri listed
  exact Store.mem_uris.mp (complete.mem_iff.mp listed)

theorem exchange_changeConfiguration (payload : Json) (order : List Uri) :
    server.exchange .keeping client order (.changeConfiguration payload) =
      ((server.reconfigured payload).validateAll order).conclude .keeping client :=
  rfl

/-- What comes of a change of the configuration, with the order in which documents are visited. -/
theorem sent_and_learned_changeConfiguration (payload : Json)
    (complete : uris.Perm server.documents.uris) :
    (server.exchange .keeping client uris (.changeConfiguration payload)).sent =
      uris.flatMap ((server.reconfigured payload).announcement client) ∧
    ∀ uri,
      (server.exchange .keeping client uris
        (.changeConfiguration payload)).server.resolver.cache[uri]? =
      if (server.reconfigured payload).resolver.perDocument ∧ server.documents.contains uri then
        some (Resolver.decode (client uri).answer)
      else (server.reconfigured payload).resolver.cache[uri]? := by
  have unknown : ∀ uri ∈ uris, (server.reconfigured payload).resolver.perDocument →
      (server.reconfigured payload).resolver.cache[uri]? = none := by
    intro uri listed
    cases perDocument : server.resolver.perDocument <;>
      simp [reconfigured, Resolver.configurationChanged, perDocument, Resolver.invalidateAll]
  have distinct : uris.Nodup := complete.nodup_iff.mpr (Store.nodup_uris _)
  rcases conclude_validateAll_afresh (contains_of_complete payload complete) unknown distinct with
    ⟨allSent, learned⟩
  refine ⟨allSent, ?_⟩
  intro uri
  simpa only [exchange_changeConfiguration, ← Store.mem_uris, ← complete.mem_iff] using
    learned uri

theorem bare_exchange_changeConfiguration (payload : Json) (order : List Uri) :
    (server.exchange .keeping client order (.changeConfiguration payload)).server.bare =
      (server.reconfigured payload).bare := by
  rw [exchange_changeConfiguration, bare_conclude Memory.honest_keeping, validateAll_server]

theorem length_publications_announcement (started : server.started)
    (isOpen : server.documents.contains uri) (about : Uri) :
    (publications about (server.announcement client uri)).length =
      if uri = about then 1 else 0 := by
  rw [Store.contains_eq_isSome_snapshot?] at isOpen
  rcases Option.isSome_iff_exists.mp isOpen with ⟨document, held⟩
  have asking : publications about
      (if server.resolver.perDocument then [.requestSettings uri] else []) = [] := by
    split <;> rfl
  simp only [announcement, publications_append, asking, publishDocument, held,
    publications_publication, started]
  split <;> simp_all

theorem length_publications_announcements (started : server.started)
    (isOpen : ∀ uri ∈ uris, server.documents.contains uri) (about : Uri) :
    (publications about (uris.flatMap (server.announcement client))).length =
      uris.count about := by
  induction uris with
  | nil => rfl
  | cons first others ih =>
      have othersOpen : ∀ uri ∈ others, server.documents.contains uri := by
        intro uri listed
        exact isOpen uri (by simp [listed])
      rw [List.flatMap_cons, publications_append, List.length_append, ih othersOpen,
        length_publications_announcement started (isOpen first (by simp)), List.count_cons,
        Nat.add_comm]
      simp

end PineAssist.Server

namespace PineAssist.Session

open Server (ClientCapabilities Reply publications)

variable {session : Session} {history : List Entry} {config : Lint.Config} {maxSize : Nat}
  {capabilities : ClientCapabilities}

/--
Going through the open documents in another order, the server ends in the same state, sends the same
messages in another order, and publishes diagnostics once for every open document.
-/
theorem validation_order_irrelevant
    (run : History (introduced config maxSize capabilities) history session) (payload : Json)
    (client : Uri → Reply) {order other : List Uri}
    (complete : order.Perm session.server.documents.uris)
    (otherComplete : other.Perm session.server.documents.uris) :
    let one := session.server.exchange .keeping client order (.changeConfiguration payload)
    let another := session.server.exchange .keeping client other (.changeConfiguration payload)
    one.server = another.server ∧ one.sent.Perm another.sent ∧
      ∀ uri, (publications uri one.sent).length =
        if session.server.documents.contains uri then 1 else 0 := by
  intro one another
  rcases Server.sent_and_learned_changeConfiguration payload complete with ⟨oneSent, oneLearned⟩
  rcases Server.sent_and_learned_changeConfiguration payload otherComplete with
    ⟨anotherSent, anotherLearned⟩
  refine ⟨?_, ?_, ?_⟩
  · have sameBare : one.server.bare = another.server.bare := by
      rw [Server.bare_exchange_changeConfiguration, Server.bare_exchange_changeConfiguration]
    apply Server.eq_of_bare_eq sameBare
    apply Std.ExtTreeMap.ext_getElem?
    intro uri
    exact (oneLearned uri).trans (anotherLearned uri).symm
  · rw [oneSent, anotherSent]
    exact (complete.trans otherComplete.symm).flatMap_right _
  · intro uri
    have started : (session.server.reconfigured payload).started := started_of_introduced run
    have isOpen := Server.contains_of_complete payload complete
    have distinct : order.Nodup := complete.nodup_iff.mpr (Store.nodup_uris _)
    rw [oneSent, Server.length_publications_announcements started isOpen, distinct.count]
    simp only [complete.mem_iff, Store.mem_uris]

/-- Two documents are opened, and the settings of the second one are still to come. -/
def twoOpen : List Entry × Session :=
  replay step (introduced {} 100 { configuration := true })
    [.request (.openDocument "a" ⟨"x", 1⟩), .reply 0 (.values [.null]),
      .request (.openDocument "b" ⟨"if x", 1⟩)]

/-- The editor refuses to tell the settings of one document. -/
def discreet : Uri → Reply :=
  fun uri => if uri = "a" then .refused else .values [.null]

theorem validation_order_irrelevant_twoOpen :
    (twoOpen.2.server.exchange .keeping discreet ["a", "b"] (.changeConfiguration .null)).server =
      (twoOpen.2.server.exchange .keeping discreet ["b", "a"]
        (.changeConfiguration .null)).server ∧
    (publications "b" (twoOpen.2.server.exchange .keeping discreet ["a", "b"]
      (.changeConfiguration .null)).sent).length = 1 := by
  have run : History (introduced {} 100 { configuration := true }) twoOpen.1 twoOpen.2 :=
    history_replay _ _
  have sorted : ["a", "b"].Perm twoOpen.2.server.documents.uris := .refl ["a", "b"]
  have reversed : ["b", "a"].Perm twoOpen.2.server.documents.uris := .swap "a" "b" []
  have irrelevant := validation_order_irrelevant run .null discreet sorted reversed
  exact ⟨irrelevant.1, irrelevant.2.2 "b"⟩

end PineAssist.Session
