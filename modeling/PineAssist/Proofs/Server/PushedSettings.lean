import PineAssist.Proofs.Server.Validation

/-!
# Editors that push their settings

An editor that cannot be asked for settings pushes them, once for all documents. The server then
always knows the settings of every document, so it never asks, no request ever waits, and after
every event the diagnostics last published about an open document are those of its present text
under the present settings.
-/

namespace PineAssist.Session

open Server (ClientCapabilities publications)

variable {session next : Session} {event : Event} {outcome : Outcome} {history : List Entry}
  {uri : Uri} {document : Document} {config : Lint.Config} {maxSize : Nat}
  {capabilities : ClientCapabilities}

section Steps

theorem Step.finishes (step : Step session event (next, outcome))
    (pushed : next.server.resolver.perDocument = false) (idle : session.waiting = []) :
    next.waiting = [] ∧ ∀ uri, .requestSettings uri ∉ outcome.sent := by
  rcases step.reacts_asking with ⟨base, reaction, reacts, recorded, asks⟩
  have baseIdle : base.waiting = [] := by
    cases reacts with
    | request handles => exact idle
    | reply reply isWaiting => simp [idle] at isWaiting
    | ignored reply nobody => exact idle
  have notWaiting (pending : Server.Pending) : reaction.progress ≠ .waiting pending := by
    intro waits
    have needed := (reacts.sound.waiting pending waits).2
    have asked := (Resolver.resolve_eq_needed_iff.mp needed).1
    simp [← record_server recorded, pushed] at asked
  constructor
  · rcases record_cases recorded with ⟨sameWaiting, _⟩ | ⟨_, _, pending, waits, _⟩
    · exact sameWaiting.trans baseIdle
    · exact absurd waits (notWaiting pending)
  · intro uri asked
    rw [record_sent recorded] at asked
    rcases (asks uri).mp asked with ⟨pending, waits, _⟩
    exact notWaiting pending waits

theorem Step.global (step : Step session event (next, outcome))
    (unchanged : ¬Entry.Reconfigures (event, outcome)) :
    next.server.resolver.global = session.server.resolver.global := by
  cases event with
  | request request =>
      rw [step.resolver_of_request]
      cases request with
      | changeConfiguration payload => exact absurd ⟨payload, rfl⟩ unchanged
      | _ => rfl
  | reply ticket reply =>
      rcases step.resolver_of_reply with same | ⟨pending, _, _, learned⟩
      · rw [same]
      · rw [learned]

end Steps

section Runs

theorem idle_of_pushed (run : History (introduced config maxSize capabilities) history session)
    (pushed : capabilities.configuration = false) (once : IntroducedOnce history) :
    session.waiting = [] ∧ ∀ uri, .requestSettings uri ∉ sent history := by
  induction run with
  | nil => exact ⟨rfl, by simp [sent]⟩
  | snoc run step ih =>
      rcases ih once.of_snoc.1 with ⟨idle, neverAsked⟩
      have stillPushed := perDocument_of_introduced (run.snoc step) once
      rcases step.finishes (stillPushed.trans pushed) idle with ⟨stillIdle, notAsked⟩
      refine ⟨stillIdle, ?_⟩
      intro uri
      have before := neverAsked uri
      have now := notAsked uri
      simp only [sent] at before ⊢
      simp [before, now]

/--
Nobody waits, so no debt explains it if nothing is published: text and settings are as before.
-/
theorem lastPublished?_of_pushed
    (run : History (introduced config maxSize capabilities) history session)
    (pushed : capabilities.configuration = false) (once : IntroducedOnce history)
    (held : session.server.documents.snapshot? uri = some document) :
    lastPublished? uri history =
      some (session.server.diagnose session.server.resolver.global document,
        some document.version) := by
  induction run generalizing document with
  | nil =>
      rw [snapshot?_introduced] at held
      cases held
  | @snoc history session next event outcome run step ih =>
      have onceBefore := once.of_snoc.1
      by_cases nothing : publications uri outcome.sent = []
      · have idle := (idle_of_pushed (run.snoc step) pushed once).1
        rcases step.attends (numbered_of_introduced run) (started_of_introduced run) held
          nothing with ⟨ticket, pending, waits, _⟩ | ⟨same, unchanged, _⟩
        · simp [idle] at waits
        · rw [lastPublished?_snoc_of_nil nothing, ih onceBefore same]
          simp only [Server.diagnose, step.global unchanged, step.linter]
      · rcases lastPublished?_snoc_of_ne_nil nothing with ⟨published, isPublished, last⟩
        rcases step.reflects (by simp [held]) isPublished with
          ⟨settings, known, found, isFound, reflects⟩ | ⟨ticket, _, pending, _, waits, _⟩
        · have stillPushed := perDocument_of_introduced (run.snoc step) once
          rw [Resolver.resolve_eq_known_iff, stillPushed, pushed] at known
          rw [held, Option.some.injEq] at isFound
          simp only [Bool.false_eq_true, if_false, Option.some.injEq] at known
          rw [last, reflects, known, isFound]
        · simp [(idle_of_pushed run pushed onceBefore).1] at waits

/--
With an editor that pushes its settings, what was last published about an open document is what its
present text deserves under the present settings, whatever has happened before. Nothing ever waits
and the editor is never asked.
-/
theorem published_under_pushed_settings
    (run : History (introduced config maxSize capabilities) history session)
    (pushed : capabilities.configuration = false) (once : IntroducedOnce history) :
    (∀ uri text version, session.server.documents.snapshot? uri = some ⟨text, version⟩ →
      lastPublished? uri history =
        some
          (if session.server.resolver.global.diagnostics then
              ((Server.new config maxSize).linter.run text).map .ofFinding
            else [],
            some version)) ∧
    session.waiting = [] ∧ ∀ uri, .requestSettings uri ∉ sent history := by
  refine ⟨?_, idle_of_pushed run pushed once⟩
  intro uri text version held
  have last := lastPublished?_of_pushed run pushed once held
  simpa only [Server.diagnose, linter_of_introduced run] using last

/-- Settings are pushed twice, and a text is refused for its size in between. -/
def pushedTwice : List Entry × Session :=
  replay step (introduced {} 5 {})
    [.request (.openDocument "a" ⟨"if x", 1⟩), .request (.changeConfiguration .null),
      .request (.changeDocument "a" 2 ["if x then"]),
      .request (.changeConfiguration
        (.object [("pinescript", .object [("enableDiagnostics", .bool false)])]))]

theorem published_under_pushed_settings_twice :
    lastPublished? "a" pushedTwice.1 = some ([], some 1) ∧
      ∀ uri, .requestSettings uri ∉ sent pushedTwice.1 := by
  have run : History (introduced {} 5 {}) pushedTwice.1 pushedTwice.2 := history_replay _ _
  have once : IntroducedOnce pushedTwice.1 := introducedOnce_replay (by simp)
  have settled := published_under_pushed_settings run rfl once
  exact ⟨settled.1 "a" "if x" 1 rfl, settled.2.2⟩

end Runs

end PineAssist.Session
