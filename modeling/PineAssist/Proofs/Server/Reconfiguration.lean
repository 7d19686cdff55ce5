import PineAssist.Proofs.Server.CachedSettings
import PineAssist.Proofs.Server.Validation

/-!
# Changes of the configuration

When the configuration changes, the server forgets all settings and validates every open document
anew. A validation that has asked for settings before the change is not stopped, though: it
publishes what its own reply says, even if the reply comes last.

So the diagnostics that an editor sees in the end need not follow the settings that it was asked for
last; in the session `overtaken` they do not. This is the only way to be out of date. Published
diagnostics follow a reply that arrived after the last change, and this reply answers a question
that was asked after the change too, unless nothing has been published since the reply arrived. In
particular settings that were asked for before a change are never kept for later.
-/

namespace PineAssist.Session

open Server (ClientCapabilities Pending Reply publications)

/-- A question for the settings of the document was asked and got the ticket. -/
def Entry.Inquires (uri : Uri) (ticket : Nat) (entry : Entry) : Prop :=
  Entry.Defers ticket entry ∧ .requestSettings uri ∈ entry.2.sent

/-- A question for the settings of the document is open; `during` is what has happened since. -/
abbrev InquiredSince (history : List Entry) (uri : Uri) (ticket : Nat) (during : List Entry) :
    Prop :=
  Outstanding (Entry.Inquires uri ticket) (Entry.Replies ticket) history during

/--
A question for the settings of the document got this reply. What happened while it was open is
`during`, what came of the reply is `outcome`, and what has happened since is `later`.
-/
def RepliedTo (history : List Entry) (uri : Uri) (during : List Entry) (reply : Reply)
    (outcome : Outcome) (later : List Entry) : Prop :=
  ∃ earlier ticket, history = earlier ++ (.reply ticket reply, outcome) :: later ∧
    InquiredSince earlier uri ticket during

/-- What was last published about the document is computed under the settings in a reply. -/
def PublishedUnder (history : List Entry) (session : Session) (uri : Uri) (reply : Reply) : Prop :=
  ∃ published, lastPublished? uri history = some published ∧
    session.server.Reflects uri (Resolver.decode reply.answer) published

/--
What was last published about the document follows a reply that arrived after the last change of
the configuration. Its question was asked after this change too, or else the diagnostics were
published when this very reply arrived. For the second part no request may wait while all
generations of the server go by.
-/
def Informed (history : List Entry) (session : Session) (uri : Uri) : Prop :=
  ∃ during reply outcome later, RepliedTo history uri during reply outcome later ∧
    PublishedUnder history session uri reply ∧ (∀ entry ∈ later, ¬entry.Reconfigures) ∧
    (RepliedInTime history →
      (∀ entry ∈ during, ¬entry.Reconfigures) ∨
        (publications uri outcome.sent ≠ [] ∧ publications uri (sent later) = []))

variable {session next : Session} {event : Event} {outcome : Outcome} {history : List Entry}
  {during later : List Entry} {uri : Uri} {ticket : Nat} {pending : Pending} {reply : Reply}
  {document : Document} {settings : Settings} {entry : Entry}

section Steps

/-- A request that waits after a step waited before, or its question was asked in this step. -/
theorem Step.lookup_inquires (step : Step session event (next, outcome))
    (waits : next.waiting.lookup ticket = some pending) :
    (session.waiting.lookup ticket = some pending ∧ ¬Entry.Replies ticket (event, outcome)) ∨
    (Entry.Inquires pending.fetch.uri ticket (event, outcome) ∧ next.server.Asks pending) := by
  rcases step.lookup_cases waits with before | ⟨latest, status, asks⟩
  · exact .inl before
  · refine .inr ⟨⟨status, ?_⟩, asks⟩
    rcases step.reacts_asking with ⟨base, reaction, reacts, recorded, asksToWait⟩
    rcases record_cases recorded with ⟨_, _, _, _, answered⟩ | ⟨_, _, new, isNew, moreWaiting⟩
    · simp [status] at answered
    · rw [moreWaiting, latest, ← reacts.issued, List.lookup_cons_self, Option.some.injEq] at waits
      rw [record_sent recorded]
      exact (asksToWait pending.fetch.uri).mpr ⟨new, isNew, by rw [waits]⟩

theorem Step.generation_of_perDocument (step : Step session event (next, outcome))
    (perDocument : session.server.resolver.perDocument) :
    next.server.resolver.generation = session.server.resolver.generation +
      if Entry.endsGeneration (event, outcome) then 1 else 0 := by
  cases event with
  | request request =>
      rw [step.resolver_of_request]
      cases request with
      | closeDocument uri => rfl
      | changeConfiguration payload =>
          simp [Server.Request.adjust, Resolver.configurationChanged, perDocument,
            Resolver.invalidateAll, Entry.endsGeneration, Server.Request.endsGeneration]
      | _ => simp [Server.Request.adjust, Entry.endsGeneration, Server.Request.endsGeneration,
          Resolver.setPerDocument]
  | reply ticket reply =>
      rcases step.resolver_of_reply with same | ⟨pending, _, _, learned⟩
      · simp [same, Entry.endsGeneration]
      · simp [learned, Entry.endsGeneration]

/-- Known settings outlive a step only if it does not change the configuration. -/
theorem Step.cached_cases (step : Step session event (next, outcome))
    (perDocument : session.server.resolver.perDocument)
    (cached : next.server.resolver.cache[uri]? = some settings) :
    (session.server.resolver.cache[uri]? = some settings ∧
      ¬Entry.Reconfigures (event, outcome)) ∨
    ∃ ticket reply pending, event = .reply ticket reply ∧
      session.waiting.lookup ticket = some pending ∧ pending.fetch.uri = uri ∧
      session.server.resolver.generation = pending.fetch.generation ∧
      settings = Resolver.decode reply.answer := by
  cases event with
  | request request =>
      left
      rw [step.resolver_of_request] at cached
      cases request with
      | closeDocument closed =>
          simp only [Server.Request.adjust, Resolver.evict, Std.ExtTreeMap.getElem?_erase] at cached
          split at cached
          · cases cached
          · exact ⟨cached, by simp [Entry.Reconfigures]⟩
      | changeConfiguration payload =>
          simp [Server.Request.adjust, Resolver.configurationChanged, perDocument,
            Resolver.invalidateAll] at cached
      | _ => exact ⟨cached, by simp [Entry.Reconfigures]⟩
  | reply ticket reply =>
      have unchanged : ¬Entry.Reconfigures (.reply ticket reply, outcome) := by
        simp [Entry.Reconfigures]
      rcases step.resolver_of_reply with same | ⟨pending, isWaiting, current, learned⟩
      · rw [same] at cached
        exact .inl ⟨cached, unchanged⟩
      · rw [learned, Std.ExtTreeMap.getElem?_insert] at cached
        split at cached
        next isSame =>
          right
          refine ⟨ticket, reply, pending, rfl, isWaiting, ?_, current, ?_⟩
          · exact Std.compare_eq_iff_eq.mp isSame
          · exact (Option.some.inj cached).symm
        · exact .inl ⟨cached, unchanged⟩

end Steps

section Provenance

theorem RepliedTo.snoc (replied : RepliedTo history uri during reply outcome later)
    (entry : Entry) :
    RepliedTo (history ++ [entry]) uri during reply outcome (later ++ [entry]) := by
  rcases replied with ⟨earlier, ticket, rfl, since⟩
  exact ⟨earlier, ticket, by simp, since⟩

theorem not_reconfigures_snoc (unchanged : ∀ entry ∈ later, ¬entry.Reconfigures)
    (notNow : ¬entry.Reconfigures) : ∀ other ∈ later ++ [entry], ¬other.Reconfigures := by
  intro other otherMem
  rcases List.mem_append.mp otherMem with old | new
  · exact unchanged other old
  · rw [List.mem_singleton.mp new]
    exact notNow

theorem Entry.endsGeneration_of_reconfigures (reconfigures : entry.Reconfigures) :
    entry.endsGeneration := by
  rcases entry with ⟨event, outcome⟩
  rcases reconfigures with ⟨payload, rfl⟩
  rfl

theorem Informed.snoc (informed : Informed history session uri)
    (step : Step session event (next, outcome)) (nothing : publications uri outcome.sent = [])
    (same : next.server.documents.snapshot? uri = session.server.documents.snapshot? uri)
    (unchanged : ¬Entry.Reconfigures (event, outcome)) :
    Informed (history ++ [(event, outcome)]) next uri := by
  rcases informed with ⟨during, reply, received, later, replied, ⟨published, last, reflects⟩,
    sinceChange, asked⟩
  refine ⟨during, reply, received, later ++ [(event, outcome)], replied.snoc _,
    ⟨published, ?_, reflects.congr step.linter same⟩,
    not_reconfigures_snoc sinceChange unchanged, ?_⟩
  · rw [lastPublished?_snoc_of_nil nothing]
    exact last
  · intro inTime
    rcases asked inTime.of_snoc with askedLater | ⟨something, nothingSince⟩
    · exact .inl askedLater
    · refine .inr ⟨something, ?_⟩
      simp only [sent] at nothingSince ⊢
      simp [nothingSince, nothing]

end Provenance

section Runs

variable {config : Lint.Config} {maxSize : Nat} {capabilities : ClientCapabilities}

theorem inquiredSince_of_waiting
    (run : History (introduced config maxSize capabilities) history session)
    (asked : capabilities.configuration) (once : IntroducedOnce history)
    (waits : session.waiting.lookup ticket = some pending) :
    ∃ during, InquiredSince history pending.fetch.uri ticket during ∧
      session.server.resolver.generation =
        pending.fetch.generation + UInt64.ofNat (during.countP Entry.endsGeneration) := by
  induction run generalizing pending with
  | nil => cases waits
  | @snoc history session next event outcome run step ih =>
      have onceBefore := once.of_snoc.1
      rcases step.lookup_inquires waits with ⟨waited, notReplied⟩ | ⟨inquires, _, needed⟩
      · rcases ih onceBefore waited with ⟨during, since, generation⟩
        refine ⟨during ++ [(event, outcome)], since.snoc notReplied, ?_⟩
        have perDocument := (perDocument_of_introduced run onceBefore).trans asked
        rw [step.generation_of_perDocument perDocument, generation, List.countP_append,
          UInt64.ofNat_add, ← UInt64.add_assoc]
        cases ends : Entry.endsGeneration (event, outcome) <;> simp [ends]
      · rcases Resolver.resolve_eq_needed_iff.mp needed with ⟨_, _, fetch⟩
        refine ⟨[], .opened inquires, ?_⟩
        rw [fetch]
        simp

/-- What is kept for a document comes from a reply to a question of the present configuration. -/
theorem repliedTo_of_cached
    (run : History (introduced config maxSize capabilities) history session)
    (asked : capabilities.configuration) (once : IntroducedOnce history)
    (cached : session.server.resolver.cache[uri]? = some settings) :
    ∃ during reply outcome later, RepliedTo history uri during reply outcome later ∧
      settings = Resolver.decode reply.answer ∧ (∀ entry ∈ later, ¬entry.Reconfigures) ∧
      (RepliedInTime history → ∀ entry ∈ during, ¬entry.Reconfigures) := by
  induction run with
  | nil => simp [introduced, Session.step, record, Server.handle, Server.introduce,
      Server.Reaction.finish, start, Server.new, Resolver.setPerDocument] at cached
  | @snoc history session next event outcome run step ih =>
      have onceBefore := once.of_snoc.1
      have perDocument := (perDocument_of_introduced run onceBefore).trans asked
      rcases step.cached_cases perDocument cached with
        ⟨before, unchanged⟩ | ⟨ticket, reply, pending, rfl, waits, rfl, current, decoded⟩
      · rcases ih onceBefore before with ⟨during, reply, received, later, replied, decoded,
          sinceChange, askedLater⟩
        refine ⟨during, reply, received, later ++ [(event, outcome)], replied.snoc _, decoded,
          not_reconfigures_snoc sinceChange unchanged, ?_⟩
        intro inTime
        exact askedLater inTime.of_snoc
      · rcases inquiredSince_of_waiting run asked onceBefore waits with ⟨during, since, moved⟩
        refine ⟨during, reply, outcome, [], ⟨history, ticket, rfl, since⟩, decoded, by simp, ?_⟩
        intro inTime entry entryMem reconfigures
        have few : during.countP Entry.endsGeneration < UInt64.size :=
          inTime.countP_lt ⟨reply, rfl⟩ (since.imp fun _ inquires => inquires.1)
        have none : during.countP Entry.endsGeneration = 0 := by
          rw [← add_ofNat_eq_self_iff few, ← moved]
          exact current
        have ends := List.countP_eq_zero.mp none entry entryMem
        exact ends (Entry.endsGeneration_of_reconfigures reconfigures)

theorem owing_or_informed
    (run : History (introduced config maxSize capabilities) history session)
    (asked : capabilities.configuration) (once : IntroducedOnce history)
    (held : session.server.documents.snapshot? uri = some document) :
    session.Owing uri ∨ Informed history session uri := by
  induction run generalizing document with
  | nil =>
      rw [snapshot?_introduced] at held
      cases held
  | @snoc history session next event outcome run step ih =>
      have onceBefore := once.of_snoc.1
      by_cases nothing : publications uri outcome.sent = []
      · rcases step.attends (numbered_of_introduced run) (started_of_introduced run) held nothing
          with owing | ⟨same, unchanged, keepsOwing⟩
        · exact .inl owing
        · rcases ih onceBefore same with owing | informed
          · exact .inl (keepsOwing owing)
          · exact .inr (informed.snoc step nothing (held.trans same.symm) unchanged)
      · right
        rcases lastPublished?_snoc_of_ne_nil nothing with ⟨published, isPublished, last⟩
        rcases step.reflects (by simp [held]) isPublished with
          ⟨settings, known, reflects⟩ | ⟨ticket, reply, pending, rfl, waits, validates, reflects⟩
        · have perDocument := (perDocument_of_introduced (run.snoc step) once).trans asked
          rw [Resolver.resolve_eq_known_iff, if_pos perDocument] at known
          rcases repliedTo_of_cached (run.snoc step) asked once known with
            ⟨during, reply, received, later, replied, rfl, sinceChange, askedLater⟩
          refine ⟨during, reply, received, later, replied, ⟨published, last, reflects⟩,
            sinceChange, ?_⟩
          intro inTime
          exact .inl (askedLater inTime)
        · rcases inquiredSince_of_waiting run asked onceBefore waits with ⟨during, since, _⟩
          rw [validates.1] at since
          refine ⟨during, reply, outcome, [], ⟨history, ticket, rfl, since⟩,
            ⟨published, last, reflects⟩, by simp, ?_⟩
          intro _
          exact .inr ⟨nothing, rfl⟩

/--
Once nobody waits any more, the diagnostics of every open document follow a reply that arrived
after the configuration last changed. They follow a question from before the change only if they
were published by the validation that had asked it.
-/
theorem informed_since_change
    (run : History (introduced config maxSize capabilities) history session)
    (asked : capabilities.configuration) (once : IntroducedOnce history)
    (idle : session.waiting = []) (isOpen : session.server.documents.contains uri) :
    Informed history session uri := by
  rw [Store.contains_eq_isSome_snapshot?] at isOpen
  rcases Option.isSome_iff_exists.mp isOpen with ⟨document, held⟩
  rcases owing_or_informed run asked once held with ⟨ticket, pending, waits, _⟩ | informed
  · simp [idle] at waits
  · exact informed

/-- The configuration changes while a validation waits, and its reply comes after the new one. -/
def overtaken : List Entry × Session :=
  replay step (introduced {} 100 { configuration := true })
    [.request (.openDocument "a" ⟨"x", 1⟩), .request (.changeConfiguration .null),
      .reply 1 (.values [.object [("enableDiagnostics", .bool false)]]),
      .reply 0 (.values [.null])]

theorem informed_since_change_overtaken :
    overtaken.2.waiting = [] ∧ overtaken.2.server.documents.contains "a" ∧
      RepliedInTime overtaken.1 ∧ Informed overtaken.1 overtaken.2 "a" := by
  have run : History (introduced {} 100 { configuration := true }) overtaken.1 overtaken.2 :=
    history_replay _ _
  have once : IntroducedOnce overtaken.1 := introducedOnce_replay (by simp)
  have inTime : RepliedInTime overtaken.1 := .of_length_lt (by decide)
  exact ⟨rfl, rfl, inTime, informed_since_change run rfl once rfl rfl⟩

/--
The diagnostics seen last follow no reply to a question asked since the last change: the later of
the two questions was answered first and switched diagnostics off, and the earlier one was asked
before the change.
-/
theorem overtaken_by_earlier_reply :
    History (introduced {} 100 { configuration := true }) overtaken.1 overtaken.2 ∧
      IntroducedOnce overtaken.1 ∧ overtaken.2.waiting = [] ∧
      overtaken.2.server.documents.contains "a" ∧
      ¬∃ during reply outcome later, RepliedTo overtaken.1 "a" during reply outcome later ∧
        PublishedUnder overtaken.1 overtaken.2 "a" reply ∧
        ∀ entry ∈ during ++ later, ¬entry.Reconfigures := by
  refine ⟨history_replay _ _, introducedOnce_replay (by simp), rfl, rfl, ?_⟩
  rintro ⟨during, reply, outcome, later, ⟨earlier, ticket, split, before, opening, since, inquires,
    _⟩, ⟨published, last, document, _, computed⟩, unchanged⟩
  obtain ⟨sent₁, sent₂, sent₃, sent₄, entries⟩ : ∃ sent₁ sent₂ sent₃ sent₄, overtaken.1 =
      [(.request (.openDocument "a" ⟨"x", 1⟩), ⟨sent₁, .waiting 0⟩),
        (.request (.changeConfiguration .null), ⟨sent₂, .waiting 1⟩),
        (.reply 1 (.values [.object [("enableDiagnostics", .bool false)]]),
          ⟨sent₃, .answered .done⟩),
        (.reply 0 (.values [.null]), ⟨sent₄, .answered .done⟩)] := ⟨_, _, _, _, rfl⟩
  have found : (lastPublished? "a" overtaken.1).map (·.1.isEmpty) = some false := rfl
  rw [entries] at split
  rcases earlier with _ | ⟨first, _ | ⟨second, _ | ⟨third, _ | ⟨fourth, rest⟩⟩⟩⟩
  · simp at split
  · simp at split
  · simp only [List.cons_append, List.nil_append, List.cons.injEq, Prod.mk.injEq,
      Event.reply.injEq] at split
    rcases split with ⟨_, _, ⟨⟨_, rfl⟩, _⟩, _⟩
    rw [last, computed] at found
    have off : (Resolver.decode (Reply.answer
        (.values [.object [("enableDiagnostics", .bool false)]]))).diagnostics = false := rfl
    simp [Server.diagnose, off] at found
  · simp only [List.cons_append, List.nil_append, List.cons.injEq, Prod.mk.injEq,
      Event.reply.injEq] at split
    rcases split with ⟨rfl, rfl, rfl, ⟨⟨rfl, _⟩, _⟩, _⟩
    rcases before with _ | ⟨_, _ | ⟨_, _ | ⟨_, _⟩⟩⟩
    · simp only [List.nil_append, List.cons.injEq] at since
      have changeMem : (.request (.changeConfiguration .null), ⟨sent₂, .waiting 1⟩) ∈
          during ++ later := by simp [← since.2]
      exact unchanged _ changeMem ⟨.null, rfl⟩
    · simp only [List.cons_append, List.nil_append, List.cons.injEq] at since
      simp [Entry.Inquires, Entry.Defers, ← since.2.1] at inquires
    · simp only [List.cons_append, List.nil_append, List.cons.injEq] at since
      simp [Entry.Inquires, Entry.Defers, ← since.2.2.1] at inquires
    · simp at since
  · simp at split

end Runs

end PineAssist.Session
