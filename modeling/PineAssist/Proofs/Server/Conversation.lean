import Mathlib.Data.List.Chain
import PineAssist.Proofs.Server.Validation

/-!
# Conversations

An editor that replies to every question at once leaves the server no time for other requests in
between: a request and the replies to all questions that it leads to make up one exchange, and a
conversation is a sequence of exchanges. By `Session.history_converse` every conversation makes up a
history of a session, exchange by exchange.

What the server makes of a reply besides using it is its memory. The running server keeps replies.
A forgetful one does not, so it has to ask whenever it needs settings. As far as the documents, the
messages other than questions and the answers are concerned the memory makes no difference while
everything in the cache is what the editor would reply now, which is what `Agrees` says.
-/

namespace PineAssist

/-- What is known about single documents is what an editor who replies like this would tell. -/
def Resolver.Agrees (resolver : Resolver) (client : Uri → Server.Reply) : Prop :=
  ∀ uri settings, resolver.cache[uri]? = some settings →
    resolver.perDocument ∧ settings = Resolver.decode (client uri).answer

namespace Server

/-- What becomes of the known settings when an answer arrives. -/
abbrev Memory := Resolver → Fetch → Except FetchError Json → Resolver

namespace Memory

/-- Answers are kept, unless a generation has ended since the question. -/
def keeping : Memory :=
  fun resolver fetch answer => (resolver.complete fetch answer).2

/-- Answers are used once and never kept. -/
def forgetful : Memory :=
  fun resolver _ _ => resolver

/-- An answer is kept under the document that it is about, or not at all. -/
def Honest (memory : Memory) : Prop :=
  ∀ resolver fetch answer, memory resolver fetch answer = resolver ∨
    memory resolver fetch answer =
      { resolver with cache := resolver.cache.insert fetch.uri (Resolver.decode answer) }

theorem honest_keeping : keeping.Honest := by
  intro resolver fetch answer
  simp only [keeping, Resolver.complete]
  split
  · exact .inr rfl
  · exact .inl rfl

theorem honest_forgetful : forgetful.Honest := by
  intro resolver fetch answer
  exact .inl rfl

end Memory

/-- Goes on with a waiting request as a server with such a memory does. -/
def resumeWith (memory : Memory) (server : Server) (pending : Pending) (reply : Reply) :
    Reaction :=
  { server with resolver := memory server.resolver pending.fetch reply.answer }.proceed
    pending.fetch.uri (Resolver.decode reply.answer) pending.continuation

theorem resumeWith_keeping (server : Server) (pending : Pending) (reply : Reply) :
    server.resumeWith .keeping pending reply = server.resume pending reply :=
  rfl

/-- Number of replies that may be waited for, this one included. -/
def Continuation.rounds : Continuation → Nat
  | .publish others => others.length + 1
  | .answer _ => 1

/-- Number of replies that may be waited for. -/
def Progress.rounds : Progress → Nat
  | .finished _ => 0
  | .waiting pending => pending.continuation.rounds

theorem rounds_validateAll (server : Server) (uris : List Uri) :
    (server.validateAll uris).progress.rounds ≤ uris.length := by
  fun_induction validateAll server uris with
  | case1 => simp [Reaction.finish, Progress.rounds]
  | case2 uri others isOpen settings known ih =>
      simp only [Reaction.after_progress, List.length_cons]
      omega
  | case3 uri others isOpen fetch needed => simp [Progress.rounds, Continuation.rounds]
  | case4 uri others notOpen ih =>
      simp only [List.length_cons]
      omega

theorem rounds_resumeWith (memory : Memory) (server : Server) (pending : Pending) (reply : Reply) :
    (server.resumeWith memory pending reply).progress.rounds < pending.continuation.rounds := by
  simp only [resumeWith]
  cases pending.continuation with
  | publish others =>
      simp only [proceed, Reaction.after_progress, Continuation.rounds]
      exact Nat.lt_succ_of_le (rounds_validateAll _ others)
  | answer query => simp [proceed, Reaction.finish, Progress.rounds, Continuation.rounds]

/-- What a request comes to when the editor replies to all questions at once. -/
structure Exchange where
  server : Server
  /-- Messages sent, in order. -/
  sent : List Message
  answer : Answer

/-- Messages were sent before everything else. -/
def Exchange.after (messages : List Message) (exchange : Exchange) : Exchange :=
  { exchange with sent := messages ++ exchange.sent }

/-- Lets the editor reply until the server is finished. -/
def Reaction.conclude (memory : Memory) (client : Uri → Reply) : Reaction → Exchange
  | ⟨server, sent, .finished answer⟩ => ⟨server, sent, answer⟩
  | ⟨server, sent, .waiting pending⟩ =>
    ((server.resumeWith memory pending (client pending.fetch.uri)).conclude memory
      client).after sent
termination_by reaction => reaction.progress.rounds
decreasing_by exact rounds_resumeWith memory server pending _

/-- A request and everything that follows from it. -/
def exchange (memory : Memory) (client : Uri → Reply) (server : Server) (order : List Uri)
    (request : Request) : Exchange :=
  (server.handleIn order request).conclude memory client

/-- Number of changes of the configuration that a request reports. -/
def Request.changes : Request → Nat
  | .changeConfiguration _ => 1
  | _ => 0

/--
One exchange after the other. Each request comes with the order in which the server goes through
the documents, and the editor replies according to the number of changes that it has reported.
-/
def converse (memory : Memory) (client : Nat → Uri → Reply) :
    Nat → Server → List (Request × List Uri) → List Exchange
  | _, _, [] => []
  | changes, server, (request, order) :: rest =>
    let exchange :=
      server.exchange memory (client (changes + request.changes)) order request
    exchange :: converse memory client (changes + request.changes) exchange.server rest

/-- The server without the settings of single documents. -/
def bare (server : Server) : Server :=
  { server with resolver := { server.resolver with cache := ∅ } }

/-- The settings of a document according to an editor who replies like this. -/
def settingsBy (client : Uri → Reply) (server : Server) (uri : Uri) : Settings :=
  if server.resolver.perDocument then Resolver.decode (client uri).answer
  else server.resolver.global

/-- Whether a message is a question for settings. -/
def Message.isQuestion : Message → Bool
  | .requestSettings _ => true
  | _ => false

/-- All messages but the questions for settings. -/
def statements (messages : List Message) : List Message :=
  messages.filter (!·.isQuestion)

variable {memory : Memory} {client : Uri → Reply} {server : Server} {reaction : Reaction}
  {messages : List Message} {uri : Uri} {uris : List Uri} {settings : Settings}

@[simp]
theorem bare_documents (server : Server) : server.bare.documents = server.documents :=
  rfl

section Concluding

theorem conclude_finish (answer : Answer) :
    (Reaction.finish server answer).conclude memory client = ⟨server, [], answer⟩ := by
  simp [Reaction.finish, Reaction.conclude]

theorem conclude_after (messages : List Message) (reaction : Reaction) :
    (reaction.after messages).conclude memory client =
      (reaction.conclude memory client).after messages := by
  rcases reaction with ⟨server, sent, answer | pending⟩ <;>
    simp [Reaction.after, Reaction.conclude, Exchange.after]

@[simp]
theorem Exchange.after_server (messages : List Message) (exchange : Exchange) :
    (exchange.after messages).server = exchange.server :=
  rfl

@[simp]
theorem Exchange.after_sent (messages : List Message) (exchange : Exchange) :
    (exchange.after messages).sent = messages ++ exchange.sent :=
  rfl

@[simp]
theorem Exchange.after_answer (messages : List Message) (exchange : Exchange) :
    (exchange.after messages).answer = exchange.answer :=
  rfl

theorem bare_conclude (honest : memory.Honest) (reaction : Reaction) :
    (reaction.conclude memory client).server.bare = reaction.server.bare := by
  fun_induction Reaction.conclude memory client reaction with
  | case1 server sent answer => rfl
  | case2 server sent pending ih =>
      rw [Exchange.after_server, ih, resumeWith, proceed_server]
      rcases honest server.resolver pending.fetch (client pending.fetch.uri).answer with
        same | learned
      · rw [same]
      · rw [learned]
        rfl

theorem conclude_forgetful_server (reaction : Reaction) :
    (reaction.conclude .forgetful client).server = reaction.server := by
  fun_induction Reaction.conclude Memory.forgetful client reaction with
  | case1 server sent answer => rfl
  | case2 server sent pending ih =>
      rw [Exchange.after_server, ih, resumeWith, proceed_server]
      rfl

theorem conclude_validateAll_closed {others : List Uri}
    (closed : server.documents.contains uri = false) :
    (server.validateAll (uri :: others)).conclude memory client =
      (server.validateAll others).conclude memory client := by
  simp [validateAll, closed]

theorem conclude_validateAll_known {others : List Uri} (isOpen : server.documents.contains uri)
    (known : server.resolver.resolve uri = .known settings) :
    (server.validateAll (uri :: others)).conclude memory client =
      ((server.validateAll others).conclude memory client).after
        (server.publishDocument uri settings) := by
  rw [← conclude_after]
  simp [validateAll, isOpen, known]

theorem conclude_validateAll_needed {others : List Uri} {fetch : Fetch}
    (isOpen : server.documents.contains uri)
    (needed : server.resolver.resolve uri = .needed fetch) :
    (server.validateAll (uri :: others)).conclude memory client =
      (({ server with
          resolver := memory server.resolver fetch (client uri).answer }.validateAll
            others).conclude memory client).after
        (.requestSettings uri ::
          server.publishDocument uri (Resolver.decode (client uri).answer)) := by
  rcases Resolver.resolve_eq_needed_iff.mp needed with ⟨_, _, rfl⟩
  simp [validateAll, isOpen, needed, Reaction.conclude, resumeWith, proceed, conclude_after,
    Exchange.after, publishDocument, diagnose, publication]

end Concluding

section Agreement

theorem agrees_of_forgotten {resolver : Resolver} (forgotten : resolver.cache = ∅) :
    resolver.Agrees client := by
  intro uri settings cached
  simp [forgotten] at cached

theorem Memory.Honest.agrees (honest : memory.Honest) {resolver : Resolver} {fetch : Fetch}
    (agrees : resolver.Agrees client) (perDocument : resolver.perDocument) :
    (memory resolver fetch (client fetch.uri).answer).Agrees client := by
  rcases honest resolver fetch (client fetch.uri).answer with same | learned
  · rw [same]
    exact agrees
  · rw [learned]
    intro uri settings cached
    simp only [Std.ExtTreeMap.getElem?_insert, Std.compare_eq_iff_eq] at cached
    split at cached
    next isSame =>
      subst isSame
      exact ⟨perDocument, (Option.some.inj cached).symm⟩
    · exact agrees uri settings cached

theorem agrees_conclude (honest : memory.Honest) (sound : reaction.Sound)
    (agrees : reaction.server.resolver.Agrees client) :
    (reaction.conclude memory client).server.resolver.Agrees client := by
  fun_induction Reaction.conclude memory client reaction with
  | case1 server sent answer => exact agrees
  | case2 server sent pending ih =>
      apply ih
      · exact sound_proceed _ _ _ _
      · have needed := (sound.waiting pending rfl).2
        rw [resumeWith, proceed_server]
        exact honest.agrees agrees (Resolver.resolve_eq_needed_iff.mp needed).1

theorem Memory.Honest.settingsBy (honest : memory.Honest) (fetch : Fetch)
    (answer : Except FetchError Json) :
    ({ server with resolver := memory server.resolver fetch answer } : Server).settingsBy client =
      server.settingsBy client := by
  rcases honest server.resolver fetch answer with same | learned
  · rw [same]
  · rw [learned]
    rfl

theorem eq_settingsBy_of_known (agrees : server.resolver.Agrees client)
    (known : server.resolver.resolve uri = .known settings) :
    settings = server.settingsBy client uri := by
  rw [Resolver.resolve_eq_known_iff] at known
  simp only [settingsBy]
  split at known
  next perDocument =>
    rw [if_pos perDocument]
    exact (agrees uri settings known).2
  next pushed =>
    rw [if_neg pushed]
    exact (Option.some.inj known).symm

theorem eq_settingsBy_of_needed {fetch : Fetch} (client : Uri → Reply)
    (needed : server.resolver.resolve uri = .needed fetch) :
    Resolver.decode (client uri).answer = server.settingsBy client uri := by
  have perDocument := (Resolver.resolve_eq_needed_iff.mp needed).1
  simp [settingsBy, perDocument]

end Agreement

end Server

namespace Session

open Server (Exchange Memory Pending Reaction Reply Request converse)

/--
An exchange takes place in a session: the server does what it says, the editor sees its messages
and its answer, and nobody else who waits is disturbed.
-/
structure Enacts (session final : Session) (outcomes : List Outcome) (exchange : Exchange) :
    Prop where
  server : final.server = exchange.server
  waiting : final.waiting = session.waiting
  sent : outcomes.flatMap (·.sent) = exchange.sent
  answer : outcomes.getLast?.map (·.status) = some (.answered exchange.answer)

/-- The settings of a document are asked for, and the next thing that happens is the reply. -/
def Entry.RepliedAtOnce (client : Uri → Reply) (asking replying : Entry) : Prop :=
  ∃ ticket uri, asking.2.status = .waiting ticket ∧ .requestSettings uri ∈ asking.2.sent ∧
    replying.1 = .reply ticket (client uri)

/--
A conversation takes place in a session: its exchanges follow each other, and each of them consists
of a request and the replies to the questions that it leads to.
-/
inductive Holds (client : Nat → Uri → Reply) :
    Nat → List Request → List Exchange → Session → List Entry → Session → Prop where
  | silence {changes : Nat} {session : Session} : Holds client changes [] [] session [] session
  | exchange {changes : Nat} {request : Request} {requests : List Request} {exchange : Exchange}
      {exchanges : List Exchange} {session between final : Session} {outcome : Outcome}
      {replies later : List Entry}
      (run : History session ((.request request, outcome) :: replies) between)
      (replied : ((.request request, outcome) :: replies).IsChain
        (Entry.RepliedAtOnce (client (changes + request.changes))))
      (enacts : session.Enacts between (outcome :: replies.map (·.2)) exchange)
      (rest : Holds client (changes + request.changes) requests exchanges between later final) :
      Holds client changes (request :: requests) (exchange :: exchanges) session
        ((.request request, outcome) :: replies ++ later) final

/-- Whenever the configuration changes, the server goes through all documents that are open then. -/
def Exhaustive (client : Nat → Uri → Reply) : Nat → Server → List (Request × List Uri) → Prop
  | _, _, [] => True
  | changes, server, (request, order) :: rest =>
    (∀ payload, request = .changeConfiguration payload → order.Perm server.documents.uris) ∧
      Exhaustive client (changes + request.changes)
        (server.exchange .keeping (client (changes + request.changes)) order request).server rest

variable {session next : Session} {outcome : Outcome} {reaction : Reaction} {order : List Uri}

theorem Step.reply_of_waiting {ticket : Nat} {pending : Pending} {reply : Reply}
    (isWaiting : session.waiting.lookup ticket = some pending)
    (recorded : (session.withdraw ticket).record
      (session.server.resumeWith .keeping pending reply) = (next, outcome)) :
    Step session (.reply ticket reply) (next, outcome) := by
  have step : Step session _ _ := .sorted (.reply ticket reply)
  simp only [Session.step, isWaiting, ← Server.resumeWith_keeping, recorded] at step
  exact step

/-- The ticket of a question is withdrawn with the reply, so in the end the same requests wait. -/
theorem history_conclude (client : Uri → Reply) (event : Event)
    (recorded : session.record reaction = (next, outcome)) (asks : reaction.AsksToWait)
    (numbered : Numbered session.waiting session.issued) :
    ∃ replies final, History next replies final ∧
      ((event, outcome) :: replies).IsChain (Entry.RepliedAtOnce client) ∧
      session.Enacts final (outcome :: replies.map (·.2)) (reaction.conclude .keeping client) := by
  fun_induction Reaction.conclude Memory.keeping client reaction
    generalizing session next outcome event with
  | case1 server messages answer =>
      cases recorded
      refine ⟨[], _, .nil, .singleton _, rfl, rfl, ?_, rfl⟩
      simp
  | case2 server messages pending ih =>
      cases recorded
      generalize entered : (withdraw ⟨server, (session.issued, pending) :: session.waiting,
        session.issued + 1⟩ session.issued).record (server.resumeWith .keeping pending
          (client pending.fetch.uri)) = result
      rcases result with ⟨next, outcome⟩
      have replied := Step.reply_of_waiting List.lookup_cons_self entered
      rcases ih (.reply session.issued (client pending.fetch.uri)) entered
        Server.asksToWait_resume numbered.give.withdraw with ⟨replies, final, run, chain, enacts⟩
      refine ⟨_ :: replies, final, .cons replied run, ?_, enacts.server, ?_, ?_, ?_⟩
      · apply List.IsChain.cons_cons _ chain
        exact ⟨session.issued, _, rfl, (asks _).mpr ⟨pending, rfl, rfl⟩, rfl⟩
      · exact enacts.waiting.trans numbered.withdraw_latest
      · rw [List.flatMap_cons, Exchange.after_sent, ← enacts.sent]
        rfl
      · rw [List.map_cons, List.getLast?_cons_cons]
        exact enacts.answer

/-- Every exchange takes place in a session in which the editor replies at once. -/
theorem history_exchange (client : Uri → Reply) (request : Request)
    (numbered : Numbered session.waiting session.issued)
    (complete : ∀ payload, request = .changeConfiguration payload →
      order.Perm session.server.documents.uris) :
    ∃ outcome replies final,
      History session ((.request request, outcome) :: replies) final ∧
      ((.request request, outcome) :: replies).IsChain (Entry.RepliedAtOnce client) ∧
      session.Enacts final (outcome :: replies.map (·.2))
        (session.server.exchange .keeping client order request) := by
  have handled : Step session (.request request)
      (session.record (session.server.handleIn order request)) := by
    cases request with
    | changeConfiguration payload => exact .inOrder payload (complete payload rfl)
    | _ => exact .sorted _
  rcases history_conclude client (.request request) rfl
    (Server.asksToWait_handleIn session.server order request) numbered with
    ⟨replies, final, run, chain, enacts⟩
  exact ⟨_, replies, final, .cons handled run, chain, enacts⟩

namespace Holds

variable {client : Nat → Uri → Reply} {changes : Nat} {requests : List Request}
  {exchanges : List Exchange} {entries : List Entry} {final : Session}

theorem history (holds : Holds client changes requests exchanges session entries final) :
    History session entries final := by
  induction holds with
  | silence => exact .nil
  | exchange run _ _ _ ih => exact run.append ih

theorem waiting (holds : Holds client changes requests exchanges session entries final) :
    final.waiting = session.waiting := by
  induction holds with
  | silence => rfl
  | exchange _ _ enacts _ ih => exact ih.trans enacts.waiting

theorem sent (holds : Holds client changes requests exchanges session entries final) :
    sent entries = exchanges.flatMap (·.sent) := by
  induction holds with
  | silence => rfl
  | exchange _ _ enacts _ ih =>
      rw [List.flatMap_cons, ← ih, ← enacts.sent]
      simp [Session.sent, List.flatMap_map]

end Holds

theorem exists_holds (client : Nat → Uri → Reply) {changes : Nat}
    {requests : List (Request × List Uri)} (numbered : Numbered session.waiting session.issued)
    (exhaustive : Exhaustive client changes session.server requests) :
    ∃ history final, Holds client changes (requests.map (·.1))
      (converse .keeping client changes session.server requests) session history final := by
  induction requests generalizing session changes with
  | nil => exact ⟨[], session, .silence⟩
  | cons first rest ih =>
      rcases first with ⟨request, order⟩
      rcases exhaustive with ⟨complete, restExhaustive⟩
      rcases history_exchange (client (changes + request.changes)) request numbered complete with
        ⟨outcome, replies, between, run, replied, enacts⟩
      have betweenNumbered : Numbered between.waiting between.issued :=
        run.invariant (motive := fun session => Numbered session.waiting session.issued) numbered
          Step.numbered
      rw [← enacts.server] at restExhaustive
      rcases ih betweenNumbered restExhaustive with ⟨later, final, holds⟩
      rw [enacts.server] at holds
      exact ⟨_, final, .exchange run replied enacts holds⟩

/--
Every conversation takes place in a session in which the editor replies at once: it makes up a
history whose messages are those of the exchanges, and nobody else who waits is disturbed.
-/
theorem history_converse (client : Nat → Uri → Reply) {changes : Nat}
    {requests : List (Request × List Uri)} (numbered : Numbered session.waiting session.issued)
    (exhaustive : Exhaustive client changes session.server requests) :
    ∃ history final, History session history final ∧
      Holds client changes (requests.map (·.1))
        (converse .keeping client changes session.server requests) session history final ∧
      sent history =
        (converse .keeping client changes session.server requests).flatMap (·.sent) ∧
      final.waiting = session.waiting := by
  rcases exists_holds client numbered exhaustive with ⟨history, final, holds⟩
  exact ⟨history, final, holds.history, holds, holds.sent, holds.waiting⟩

end Session

end PineAssist
