import PineAssist.Proofs.Server.Interleaving

/-!
# Published diagnostics fit the documents

While a validation waits for settings, the document may be edited, closed, opened again or validated
a second time. What is published in the end nevertheless belongs to the text that the server holds
at that moment, because the text is read after the reply has arrived.

No text is left without diagnostics either: whenever a document gets a new text, its diagnostics are
published at once or a validation starts to wait, and a validation that waits publishes them later
if the document is still open. So a document with no validation waiting is up to date, and one that
is closed has its diagnostics withdrawn.
-/

namespace PineAssist.Session

open Editor (Diagnostic)
open Server (ClientCapabilities Pending publications withdrawn)

/-- A session in which an editor has introduced itself and done nothing else. -/
def introduced (config : Lint.Config) (maxSize : Nat) (capabilities : ClientCapabilities) :
    Session :=
  ((new config maxSize).step (.request (.introduce capabilities))).1

/-- A validation of the document waits for settings. -/
def Validating (session : Session) (uri : Uri) : Prop :=
  ∃ ticket pending, session.waiting.lookup ticket = some pending ∧ pending.Validates uri

/-- What was last published about the document belongs to its present text and version. -/
def Settled (history : List Entry) (session : Session) (uri : Uri) : Prop :=
  ∃ published, lastPublished? uri history = some published ∧ session.server.UpToDate uri published

variable {begin session next : Session} {event : Event} {outcome : Outcome} {history : List Entry}
  {uri : Uri} {document : Document} {published : List Diagnostic × Option Int32}

section LastPublished

theorem lastPublished?_snoc (uri : Uri) (history : List Entry) (event : Event)
    (outcome : Outcome) :
    lastPublished? uri (history ++ [(event, outcome)]) =
      (publications uri outcome.sent).getLast?.or (lastPublished? uri history) := by
  simp [lastPublished?, sent, List.getLast?_append]

theorem lastPublished?_snoc_of_nil (nothing : publications uri outcome.sent = []) :
    lastPublished? uri (history ++ [(event, outcome)]) = lastPublished? uri history := by
  rw [lastPublished?_snoc, nothing]
  rfl

theorem lastPublished?_snoc_of_ne_nil (something : publications uri outcome.sent ≠ []) :
    ∃ published ∈ publications uri outcome.sent,
      lastPublished? uri (history ++ [(event, outcome)]) = some published := by
  refine ⟨_, List.getLast_mem something, ?_⟩
  rw [lastPublished?_snoc, List.getLast?_eq_some_getLast something]
  rfl

end LastPublished

section Steps

theorem Step.started (step : Step session event (next, outcome))
    (started : session.server.started) : next.server.started := by
  rcases step.reacts with ⟨base, reaction, reacts, recorded⟩
  rw [record_server recorded]
  exact reacts.started started

theorem Step.linter (step : Step session event (next, outcome)) :
    next.server.linter = session.server.linter := by
  rcases step.reacts with ⟨base, reaction, reacts, recorded⟩
  rw [record_server recorded]
  exact reacts.linter

theorem Step.upToDate_or_withdrawn (step : Step session event (next, outcome))
    (isPublished : published ∈ publications uri outcome.sent) :
    next.server.UpToDate uri published ∨
      (published = withdrawn ∧ next.server.documents.snapshot? uri = none) := by
  rcases step.reacts with ⟨base, reaction, reacts, recorded⟩
  rw [record_sent recorded] at isPublished
  rw [record_server recorded]
  exact reacts.sound.published uri published isPublished

theorem Step.silent (step : Step session event (next, outcome))
    (notStarted : next.server.started = false) : publications uri outcome.sent = [] := by
  rcases step.reacts with ⟨base, reaction, reacts, recorded⟩
  rw [record_server recorded] at notStarted
  rw [record_sent recorded]
  exact reacts.sound.silent notStarted uri

theorem Step.withdraws (step : Step session event (next, outcome))
    (started : next.server.started) (before : (session.server.documents.snapshot? uri).isSome)
    (closed : next.server.documents.snapshot? uri = none) :
    publications uri outcome.sent ≠ [] := by
  rcases step.reacts with ⟨base, reaction, reacts, recorded⟩
  rw [record_server recorded] at started closed
  rw [record_sent recorded]
  exact reacts.withdraws started before closed

/--
If a step publishes nothing about an open document, then a validation of it begins to wait, or its
text is the same as before and no validation of it has been dropped: one that is taken off the list
would publish something.
-/
theorem Step.covers (step : Step session event (next, outcome))
    (numbered : Numbered session.waiting session.issued) (started : next.server.started)
    (held : next.server.documents.snapshot? uri = some document)
    (nothing : publications uri outcome.sent = []) :
    next.Validating uri ∨
      (session.server.documents.snapshot? uri = some document ∧
        (session.Validating uri → next.Validating uri)) := by
  rcases step.reacts with ⟨base, reaction, reacts, recorded⟩
  have keepsWaiting (notReplied : ∀ ticket pending,
      session.waiting.lookup ticket = some pending → pending.Validates uri →
      ¬Entry.Replies ticket (event, outcome)) :
      session.Validating uri → next.Validating uri := by
    rintro ⟨ticket, pending, waits, validates⟩
    have unanswered := notReplied ticket pending waits validates
    exact ⟨ticket, pending, step.lookup_of_not_replied numbered waits unanswered, validates⟩
  rw [record_server recorded] at started held
  rw [record_sent recorded] at nothing
  cases reacts with
  | request handles =>
      rcases handles.covers started held with same | something | ⟨pending, waits, validates⟩
      · exact .inr ⟨same, keepsWaiting (by simp [Entry.Replies])⟩
      · exact absurd nothing something
      · left
        rcases record_cases recorded with ⟨_, _, _, finished, _⟩ | ⟨_, _, new, isNew, moreWaiting⟩
        · rw [waits] at finished
          cases finished
        · rw [waits] at isNew
          cases isNew
          exact ⟨session.issued, pending, by simp [moreWaiting], validates⟩
  | @reply answered pending reply isWaiting =>
      rw [Server.resume_server] at started held
      have startedBefore : session.server.started := started
      have heldBefore : session.server.documents.snapshot? uri = some document := held
      refine .inr ⟨heldBefore, keepsWaiting ?_⟩
      rintro ticket waiting waits validates ⟨_, ⟨⟩⟩
      rw [isWaiting, Option.some.injEq] at waits
      subst waits
      exact Server.resume_covers validates startedBefore (by simp [heldBefore]) nothing
  | @ignored answered reply nobody =>
      refine .inr ⟨held, keepsWaiting ?_⟩
      rintro ticket waiting waits validates ⟨_, ⟨⟩⟩
      rw [nobody] at waits
      cases waits

end Steps

section Runs

variable {config : Lint.Config} {maxSize : Nat} {capabilities : ClientCapabilities}

theorem started_of_introduced
    (run : History (introduced config maxSize capabilities) history session) :
    session.server.started :=
  run.invariant (motive := fun session => session.server.started) rfl
    fun step started => step.started started

theorem numbered_of_introduced
    (run : History (introduced config maxSize capabilities) history session) :
    Numbered session.waiting session.issued :=
  run.invariant (motive := fun session => Numbered session.waiting session.issued) .nil
    fun step numbered => step.numbered numbered

theorem linter_of_introduced
    (run : History (introduced config maxSize capabilities) history session) :
    session.server.linter = (Server.new config maxSize).linter :=
  run.invariant
    (motive := fun session => session.server.linter = (Server.new config maxSize).linter) rfl
    fun step same => step.linter.trans same

theorem snapshot?_introduced :
    (introduced config maxSize capabilities).server.documents.snapshot? uri = none :=
  Std.ExtTreeMap.getElem?_empty

/-- Diagnostics of every open document have been published or are going to be. -/
theorem validating_or_settled
    (run : History (introduced config maxSize capabilities) history session)
    (held : session.server.documents.snapshot? uri = some document) :
    session.Validating uri ∨ Settled history session uri := by
  induction run generalizing document with
  | nil =>
      rw [snapshot?_introduced] at held
      cases held
  | @snoc history session next event outcome run step ih =>
      by_cases nothing : publications uri outcome.sent = []
      · have started := step.started (started_of_introduced run)
        rcases step.covers (numbered_of_introduced run) started held nothing with
          validating | ⟨same, keepsWaiting⟩
        · exact .inl validating
        · rcases ih same with validating | ⟨published, last, upToDate⟩
          · exact .inl (keepsWaiting validating)
          · right
            refine ⟨published, (lastPublished?_snoc_of_nil nothing).trans last, ?_⟩
            exact upToDate.congr step.linter (held.trans same.symm)
      · rcases lastPublished?_snoc_of_ne_nil nothing with ⟨published, isPublished, last⟩
        rcases step.upToDate_or_withdrawn isPublished with upToDate | ⟨_, closed⟩
        · exact .inr ⟨published, last, upToDate⟩
        · rw [closed] at held
          cases held

/--
Diagnostics that are published with a version belong to the text and version that the server holds
when it sends them. And once no validation of an open document waits any more, the last ones that
were published belong to its present text and version.
-/
theorem published_belong_to_text
    (run : History (introduced config maxSize capabilities) history session) :
    (∀ event next outcome, Step session event (next, outcome) → ∀ uri diagnostics version,
      .publishDiagnostics uri diagnostics (some version) ∈ outcome.sent →
      ∃ text, next.server.documents.snapshot? uri = some ⟨text, version⟩ ∧
        (diagnostics = [] ∨
          diagnostics = ((Server.new config maxSize).linter.run text).map .ofFinding)) ∧
    (∀ uri text version, session.server.documents.snapshot? uri = some ⟨text, version⟩ →
      ¬session.Validating uri →
      ∃ diagnostics, lastPublished? uri history = some (diagnostics, some version) ∧
        (diagnostics = [] ∨
          diagnostics = ((Server.new config maxSize).linter.run text).map .ofFinding)) := by
  have sameLinter := linter_of_introduced run
  constructor
  · intro event next outcome step uri diagnostics version isSent
    have isPublished : (diagnostics, some version) ∈ publications uri outcome.sent :=
      List.mem_filterMap.mpr ⟨_, isSent, by simp [Server.Message.published?]⟩
    rcases step.upToDate_or_withdrawn isPublished with
      ⟨document, held, ofDocument, reports⟩ | ⟨impossible, _⟩
    · cases ofDocument
      refine ⟨document.text, held, ?_⟩
      rw [← sameLinter, ← step.linter]
      exact reports
    · cases impossible
  · intro uri text version held notValidating
    rcases validating_or_settled run held with
      validating | ⟨⟨diagnostics, _⟩, last, document, isHeld, ofDocument, reports⟩
    · exact absurd validating notValidating
    · rw [held, Option.some.injEq] at isHeld
      subst isHeld
      cases ofDocument
      rw [← sameLinter]
      exact ⟨diagnostics, last, reports⟩

/-- A document is edited while its first validation waits, and the second one is resumed first. -/
def edited : List Entry × Session :=
  replay step (introduced {} 100 { configuration := true })
    [.request (.openDocument "a" ⟨"", 1⟩), .request (.changeDocument "a" 2 ["if x"]),
      .reply 1 (.values [.null]), .reply 0 .refused]

theorem published_belong_to_text_edited :
    ∃ diagnostics, lastPublished? "a" edited.1 = some (diagnostics, some 2) ∧
      (diagnostics = [] ∨
        diagnostics = ((Server.new {} 100).linter.run "if x").map .ofFinding) := by
  have run : History (introduced {} 100 { configuration := true }) edited.1 edited.2 :=
    history_replay _ _
  refine (published_belong_to_text run).2 "a" "if x" 2 rfl ?_
  rintro ⟨ticket, pending, waits, _⟩
  cases waits

theorem nothing_published_before_introduction (uri : Uri)
    (run : History (new config maxSize) history session)
    (notStarted : session.server.started = false) : lastPublished? uri history = none := by
  induction run with
  | nil => rfl
  | @snoc history session next event outcome run step ih =>
      rw [lastPublished?_snoc_of_nil (step.silent notStarted)]
      apply ih
      cases started : session.server.started with
      | false => rfl
      | true =>
          rw [step.started started] at notStarted
          cases notStarted

/-- Whatever was published about a document is withdrawn when it is closed, and stays so. -/
theorem withdrawn_while_closed (run : History (new config maxSize) history session)
    (closed : session.server.documents.contains uri = false)
    (last : lastPublished? uri history = some published) : published = ([], none) := by
  rw [Store.contains_eq_isSome_snapshot?, Option.isSome_eq_false_iff,
    Option.isNone_iff_eq_none] at closed
  induction run with
  | nil => cases last
  | @snoc history session next event outcome run step ih =>
      by_cases nothing : publications uri outcome.sent = []
      · rw [lastPublished?_snoc_of_nil nothing] at last
        cases before : session.server.documents.snapshot? uri with
        | none => exact ih before last
        | some document =>
            cases started : next.server.started with
            | true =>
                exact absurd nothing (step.withdraws started (by simp [before]) closed)
            | false =>
                have silent := nothing_published_before_introduction uri (run.snoc step) started
                rw [lastPublished?_snoc_of_nil nothing, last] at silent
                cases silent
      · rcases lastPublished?_snoc_of_ne_nil nothing with ⟨latest, isPublished, isLast⟩
        rw [isLast, Option.some.injEq] at last
        subst last
        rcases step.upToDate_or_withdrawn isPublished with ⟨document, held, _⟩ | ⟨isWithdrawn, _⟩
        · rw [closed] at held
          cases held
        · exact isWithdrawn

/-- Of two validations of a document one is resumed before and one after the document is closed. -/
def closedEarly : List Entry × Session :=
  replay step (new {} 100)
    [.request (.introduce { configuration := true }), .request (.openDocument "a" ⟨"", 1⟩),
      .request (.changeDocument "a" 2 ["if x"]), .reply 0 .refused,
      .request (.closeDocument "a"), .reply 1 (.values [.null])]

theorem withdrawn_while_closed_early :
    closedEarly.2.server.documents.contains "a" = false ∧
      ∃ published, lastPublished? "a" closedEarly.1 = some published ∧ published = ([], none) := by
  have run : History (new {} 100) closedEarly.1 closedEarly.2 := history_replay _ _
  have last : lastPublished? "a" closedEarly.1 = some _ := rfl
  exact ⟨rfl, _, last, withdrawn_while_closed run rfl last⟩

end Runs

end PineAssist.Session
