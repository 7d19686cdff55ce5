import PineAssist.Proofs.Run
import PineAssist.Proofs.Server.Reaction
import PineAssist.Server.Session

/-!
# Interleaved requests

A session lets requests and replies follow each other in any order. The server is free in one more
respect: when the configuration changes, it goes through the open documents in whatever order it
likes. `Step` allows every such order, the sorted one of `Session.step` among them.

Every step is a reaction of the server, entered into the list of waiting requests. `Reacts` says
which reactions are possible, so that facts about reactions become facts about steps.
-/

namespace PineAssist.Session

open Server (Message Pending Reaction publications)

/-- What may come of an event. -/
inductive Step (session : Session) : Event → Session × Outcome → Prop where
  | sorted (event : Event) : Step session event (session.step event)
  | inOrder (payload : Json) {order : List Uri}
      (complete : order.Perm session.server.documents.uris) :
      Step session (.request (.changeConfiguration payload))
        (session.record (session.server.changeConfiguration payload order))

/-- An event together with what came of it. -/
abbrev Entry := Event × Outcome

/-- What can happen in a session that begins like this. -/
abbrev History (begin : Session) (history : List Entry) (session : Session) : Prop :=
  Run Step begin history session

/-- A session with a server on which nobody has opened a document. -/
abbrev new (config : Lint.Config) (maxSize : Nat) : Session :=
  start (.new config maxSize)

/-- All messages that the server has sent, in order. -/
def sent (history : List Entry) : List Message :=
  history.flatMap fun entry => entry.2.sent

/-- The last thing that was published about a document. -/
def lastPublished? (uri : Uri) (history : List Entry) :
    Option (List Editor.Diagnostic × Option Int32) :=
  (publications uri (sent history)).getLast?

/-- The reaction to an event, and the session that it is entered into. -/
inductive Reacts (session : Session) : Event → Session → Reaction → Prop where
  | request {request : Server.Request} {reaction : Reaction}
      (handles : session.server.Handles request reaction) :
      Reacts session (.request request) session reaction
  | reply {ticket : Nat} {pending : Pending} (reply : Server.Reply)
      (isWaiting : session.waiting.lookup ticket = some pending) :
      Reacts session (.reply ticket reply) (session.withdraw ticket)
        (session.server.resume pending reply)
  | ignored {ticket : Nat} (reply : Server.Reply)
      (nobody : session.waiting.lookup ticket = none) :
      Reacts session (.reply ticket reply) session (.finish session.server .done)

variable {begin session next base : Session} {event : Event} {outcome : Outcome}
  {history : List Entry} {reaction : Reaction} {uri : Uri} {ticket : Nat} {pending : Pending}

/-- What the running session does is one of the things that can happen. -/
theorem history_replay (begin : Session) (events : List Event) :
    History begin (replay step begin events).1 (replay step begin events).2 :=
  run_replay (fun _ => .sorted) begin events

theorem Step.reacts (step : Step session event (next, outcome)) :
    ∃ base reaction, session.Reacts event base reaction ∧
      base.record reaction = (next, outcome) := by
  generalize entered : (next, outcome) = result at step
  cases step with
  | sorted =>
      cases event with
      | request request =>
          exact ⟨_, _, .request (Server.handles_handle _ request), rfl⟩
      | reply ticket reply =>
          simp only [Session.step]
          split
          next nobody => exact ⟨_, _, .ignored reply nobody, rfl⟩
          next pending isWaiting => exact ⟨_, _, .reply reply isWaiting, rfl⟩
  | inOrder payload complete => exact ⟨_, _, .request (.reconfiguring payload _), rfl⟩

theorem Reacts.sound (reacts : session.Reacts event base reaction) : reaction.Sound := by
  cases reacts with
  | request handles => exact handles.sound
  | reply reply isWaiting => exact Server.sound_resume
  | ignored reply nobody => exact Reaction.sound_finish .done

theorem Reacts.linter (reacts : session.Reacts event base reaction) :
    reaction.server.linter = session.server.linter := by
  cases reacts with
  | request handles => exact handles.linter
  | reply reply isWaiting => rw [Server.resume_server]
  | ignored reply nobody => rfl

theorem Reacts.started (reacts : session.Reacts event base reaction)
    (started : session.server.started) : reaction.server.started := by
  cases reacts with
  | request handles => exact handles.started started
  | reply reply isWaiting =>
      rw [Server.resume_server]
      exact started
  | ignored reply nobody => exact started

theorem Reacts.withdraws (reacts : session.Reacts event base reaction)
    (started : reaction.server.started) (before : (session.server.documents.snapshot? uri).isSome)
    (closed : reaction.server.documents.snapshot? uri = none) :
    publications uri reaction.sent ≠ [] := by
  cases reacts with
  | request handles => exact handles.withdraws started before closed
  | reply reply isWaiting =>
      rw [Server.resume_server] at closed
      simp [closed] at before
  | ignored reply nobody =>
      simp only [Reaction.finish] at closed
      simp [closed] at before

section Recording

theorem record_server (recorded : base.record reaction = (next, outcome)) :
    next.server = reaction.server := by
  simp only [record] at recorded
  split at recorded <;> cases recorded <;> rfl

theorem record_sent (recorded : base.record reaction = (next, outcome)) :
    outcome.sent = reaction.sent := by
  simp only [record] at recorded
  split at recorded <;> cases recorded <;> rfl

theorem record_cases (recorded : base.record reaction = (next, outcome)) :
    (next.waiting = base.waiting ∧ next.issued = base.issued ∧
      ∃ answer, reaction.progress = .finished answer ∧ outcome.status = .answered answer) ∨
    (next.issued = base.issued + 1 ∧ outcome.status = .waiting base.issued ∧
      ∃ pending, reaction.progress = .waiting pending ∧
        next.waiting = (base.issued, pending) :: base.waiting) := by
  simp only [record] at recorded
  split at recorded
  next answer finished =>
    cases recorded
    exact .inl ⟨rfl, rfl, answer, finished, rfl⟩
  next pending waits =>
    cases recorded
    exact .inr ⟨rfl, rfl, pending, waits, rfl⟩

end Recording

section Waiting

/-- Somebody replies to the ticket. -/
def Entry.Replies (ticket : Nat) (entry : Entry) : Prop :=
  ∃ reply, entry.1 = .reply ticket reply

theorem Reacts.issued (reacts : session.Reacts event base reaction) :
    base.issued = session.issued := by
  cases reacts with
  | request handles => rfl
  | reply reply isWaiting => rfl
  | ignored reply nobody => rfl

theorem Reacts.lookup_base (reacts : session.Reacts event base reaction) :
    base.waiting.lookup ticket = some pending ↔
      session.waiting.lookup ticket = some pending ∧ ¬Entry.Replies ticket (event, outcome) := by
  cases reacts with
  | request handles => simp [Entry.Replies]
  | @reply answered found reply isWaiting =>
      simp only [withdraw, lookup_withdrawn_eq_some_iff]
      simp [Entry.Replies, and_comm, eq_comm]
  | @ignored answered reply nobody =>
      by_cases same : ticket = answered
      · subst answered
        simp [nobody]
      · simp [Entry.Replies, Ne.symm same]

/-- After a step those requests wait that waited before, and possibly one more. -/
theorem Step.lookup_cases (step : Step session event (next, outcome))
    (waits : next.waiting.lookup ticket = some pending) :
    (session.waiting.lookup ticket = some pending ∧ ¬Entry.Replies ticket (event, outcome)) ∨
    (ticket = session.issued ∧ outcome.status = .waiting ticket ∧ next.server.Asks pending) := by
  rcases step.reacts with ⟨base, reaction, reacts, recorded⟩
  rcases record_cases recorded with ⟨sameWaiting, _, _⟩ | ⟨_, status, new, isNew, moreWaiting⟩
  · rw [sameWaiting] at waits
    exact .inl (reacts.lookup_base.mp waits)
  · rw [moreWaiting] at waits
    by_cases latest : ticket = base.issued
    · subst latest
      rw [List.lookup_cons_self, Option.some.injEq] at waits
      subst waits
      rw [record_server recorded]
      exact .inr ⟨reacts.issued, status, reacts.sound.waiting new isNew⟩
    · rw [lookup_cons_of_ne latest] at waits
      exact .inl (reacts.lookup_base.mp waits)

theorem Reacts.numbered (reacts : session.Reacts event base reaction)
    (numbered : Numbered session.waiting session.issued) : Numbered base.waiting base.issued := by
  cases reacts with
  | request handles => exact numbered
  | reply reply isWaiting => exact numbered.withdraw
  | ignored reply nobody => exact numbered

theorem Step.numbered (step : Step session event (next, outcome))
    (numbered : Numbered session.waiting session.issued) : Numbered next.waiting next.issued := by
  rcases step.reacts with ⟨base, reaction, reacts, recorded⟩
  have baseNumbered := reacts.numbered numbered
  rcases record_cases recorded with ⟨sameWaiting, sameIssued, _⟩ |
    ⟨moreIssued, _, new, _, moreWaiting⟩
  · rw [sameWaiting, sameIssued]
    exact baseNumbered
  · rw [moreWaiting, moreIssued]
    exact baseNumbered.give

theorem Step.lookup_of_not_replied (step : Step session event (next, outcome))
    (numbered : Numbered session.waiting session.issued)
    (waits : session.waiting.lookup ticket = some pending)
    (notReplied : ¬Entry.Replies ticket (event, outcome)) :
    next.waiting.lookup ticket = some pending := by
  rcases step.reacts with ⟨base, reaction, reacts, recorded⟩
  have waitsOn := reacts.lookup_base.mpr ⟨waits, notReplied⟩
  rcases record_cases recorded with ⟨sameWaiting, _⟩ | ⟨_, _, new, _, moreWaiting⟩
  · rw [sameWaiting]
    exact waitsOn
  · rw [moreWaiting]
    exact (reacts.numbered numbered).lookup_give waitsOn

end Waiting

end PineAssist.Session
