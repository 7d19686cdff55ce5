import PineAssist.Proofs.Server.Interleaving

/-!
# Settings are cached for open documents only

A document may be closed while its settings are being asked for, and may even be opened again before
the reply arrives. The reply must not leave behind settings that nobody will ever drop. Closing a
document ends a generation, so it is enough to know that a request that waits since the current
generation waits for an open document. The generation is a counter of 64 bits, which is why the
theorem speaks about sessions in which every request gets its reply in time.
-/

namespace PineAssist.Session

open Server (Pending)

/-- A request was put off under the ticket. -/
def Entry.Defers (ticket : Nat) (entry : Entry) : Prop :=
  entry.2.status = .waiting ticket

/-- A document was closed or the configuration has changed. -/
def Entry.endsGeneration (entry : Entry) : Bool :=
  match entry.1 with
  | .request request => request.endsGeneration
  | .reply _ _ => false

/-- No request waited for its reply while all generations of the server went by. -/
abbrev RepliedInTime (history : List Entry) : Prop :=
  Prompt Entry.Defers Entry.Replies Entry.endsGeneration history

/--
The request waits since it was put off. The generation has moved on at most as often as documents
were closed or the configuration changed, and if it has not, then the document is open.
-/
def WaitsSince (history : List Entry) (session : Session) (ticket : Nat) (pending : Pending)
    (during : List Entry) : Prop :=
  Outstanding (Entry.Defers ticket) (Entry.Replies ticket) history during ∧
    ∃ ended, ended ≤ during.countP Entry.endsGeneration ∧
      session.server.resolver.generation = pending.fetch.generation + UInt64.ofNat ended ∧
      (ended = 0 → session.server.documents.contains pending.fetch.uri)

variable {session next : Session} {event : Event} {outcome : Outcome} {history : List Entry}
  {uri : Uri} {ticket : Nat} {pending : Pending}

theorem Step.generation (step : Step session event (next, outcome)) :
    (next.server.resolver.generation = session.server.resolver.generation ∧
      ∀ uri, session.server.documents.contains uri → next.server.documents.contains uri) ∨
    (next.server.resolver.generation = session.server.resolver.generation + 1 ∧
      Entry.endsGeneration (event, outcome)) := by
  rcases step.reacts with ⟨base, reaction, reacts, recorded⟩
  simp only [Store.contains_eq_isSome_snapshot?, record_server recorded]
  cases reacts with
  | request handles => exact handles.generation
  | reply reply isWaiting =>
      left
      simp only [Server.resume_server, Resolver.complete]
      split <;> exact ⟨rfl, fun _ isOpen => isOpen⟩
  | ignored reply nobody => exact .inl ⟨rfl, fun _ isOpen => isOpen⟩

/-- Settings are cached when the reply to a request of the current generation arrives. -/
theorem Step.cache (step : Step session event (next, outcome))
    (cached : uri ∈ next.server.resolver.cache) :
    (uri ∈ session.server.resolver.cache ∧
      (session.server.documents.contains uri → next.server.documents.contains uri)) ∨
    ∃ ticket pending, Entry.Replies ticket (event, outcome) ∧
      session.waiting.lookup ticket = some pending ∧ pending.fetch.uri = uri ∧
      session.server.resolver.generation = pending.fetch.generation ∧
      next.server.documents = session.server.documents := by
  rcases step.reacts with ⟨base, reaction, reacts, recorded⟩
  simp only [Store.contains_eq_isSome_snapshot?, record_server recorded] at cached ⊢
  cases reacts with
  | request handles => exact .inl (handles.cache cached)
  | @reply ticket pending reply isWaiting =>
      simp only [Server.resume_server, Resolver.complete] at cached ⊢
      split at cached
      next current =>
        rw [Std.ExtTreeMap.mem_insert, Std.compare_eq_iff_eq] at cached
        rcases cached with same | before
        · exact .inr ⟨ticket, pending, ⟨reply, rfl⟩, isWaiting, same, current, trivial⟩
        · exact .inl ⟨before, id⟩
      · exact .inl ⟨cached, id⟩
  | ignored reply nobody => exact .inl ⟨cached, id⟩

theorem waitsSince_of_waiting {server : Server} (run : History (start server) history session)
    (waits : session.waiting.lookup ticket = some pending) :
    ∃ during, WaitsSince history session ticket pending during := by
  induction run generalizing pending with
  | nil => simp [start] at waits
  | @snoc history session next event outcome run step ih =>
      rcases step.lookup_cases waits with ⟨waited, notReplied⟩ | ⟨_, status, isOpen, needed⟩
      · rcases ih waited with ⟨during, since, ended, counted, generation, isOpen⟩
        refine ⟨during ++ [(event, outcome)], since.snoc notReplied, ?_⟩
        rcases step.generation with ⟨same, staysOpen⟩ | ⟨moved, ends⟩
        · refine ⟨ended, ?_, same.trans generation, fun none => staysOpen _ (isOpen none)⟩
          rw [List.countP_append]
          exact Nat.le_add_right_of_le counted
        · refine ⟨ended + 1, ?_, ?_, by simp⟩
          · rw [List.countP_append, List.countP_singleton, if_pos ends]
            exact Nat.succ_le_succ counted
          · rw [moved, generation, UInt64.ofNat_add, ← UInt64.add_assoc]
            rfl
      · rcases Resolver.resolve_eq_needed_iff.mp needed with ⟨_, _, fetch⟩
        refine ⟨[], .opened status, 0, Nat.le_refl 0, ?_, fun _ => isOpen⟩
        rw [fetch]
        simp

/-- Whatever order replies come in, no settings are cached for a document that is not open. -/
theorem cached_isOpen {config : Lint.Config} {maxSize : Nat}
    (run : History (new config maxSize) history session) (inTime : RepliedInTime history)
    (cached : uri ∈ session.server.resolver.cache) :
    session.server.documents.contains uri := by
  induction run with
  | nil => simp [start, Server.new] at cached
  | snoc run step ih =>
      rcases step.cache cached with ⟨before, staysOpen⟩ |
        ⟨ticket, pending, replies, waits, rfl, current, sameDocuments⟩
      · exact staysOpen (ih inTime.of_snoc before)
      · rcases waitsSince_of_waiting run waits with ⟨during, since, ended, counted, moved, isOpen⟩
        have bounded := inTime.countP_lt replies since
        have few : ended < UInt64.size := by omega
        rw [current] at moved
        rw [sameDocuments]
        exact isOpen ((add_ofNat_eq_self_iff few).mp moved.symm)

/-- A document is closed and opened again before the two replies for it arrive. -/
def reopened : List Entry × Session :=
  replay step (new {} 100)
    [.request (.introduce { configuration := true }), .request (.openDocument "a" ⟨"", 1⟩),
      .request (.closeDocument "a"), .request (.openDocument "a" ⟨"", 2⟩), .reply 1 .refused,
      .reply 0 .refused]

theorem cached_isOpen_reopened :
    "a" ∈ reopened.2.server.resolver.cache ∧ reopened.2.server.documents.contains "a" := by
  have run : History (new {} 100) reopened.1 reopened.2 := history_replay _ _
  have cached : ("a" : Uri) ∈ reopened.2.server.resolver.cache := by decide
  exact ⟨cached, cached_isOpen run (.of_length_lt (by decide)) cached⟩

end PineAssist.Session
