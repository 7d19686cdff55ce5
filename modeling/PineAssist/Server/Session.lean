import PineAssist.Server.Basic

/-!
# Sessions

In a session several requests may wait for replies at once. Each gets a ticket, and the editor
replies to tickets in any order, handing in other requests in between.
-/

namespace PineAssist

open Server (Answer Message Pending Progress Reaction Reply Request)

/-- A server with the requests that wait for replies. -/
structure Session where
  server : Server
  /-- Waiting requests by ticket, the latest first. -/
  waiting : List (Nat × Pending)
  /-- Number of tickets given out. -/
  issued : Nat

namespace Session

/-- A session in which nothing has happened. -/
def start (server : Server) : Session :=
  ⟨server, [], 0⟩

/-- What happens next in a session. -/
inductive Event where
  | request (request : Request)
  | reply (ticket : Nat) (reply : Reply)

/-- Whether a request has been answered or waits for a reply. -/
inductive Status where
  | answered (answer : Answer)
  | waiting (ticket : Nat)

/-- What an editor sees of one event. -/
structure Outcome where
  /-- Messages sent by the server, in order. -/
  sent : List Message
  status : Status

/-- Takes note of what the server did. -/
def record (session : Session) (reaction : Reaction) : Session × Outcome :=
  match reaction.progress with
  | .finished answer =>
    ({ session with server := reaction.server }, ⟨reaction.sent, .answered answer⟩)
  | .waiting pending =>
    ({ server := reaction.server
       waiting := (session.issued, pending) :: session.waiting
       issued := session.issued + 1 },
      ⟨reaction.sent, .waiting session.issued⟩)

/-- The session without a waiting request. -/
def withdraw (session : Session) (ticket : Nat) : Session :=
  { session with waiting := session.waiting.filter (·.1 ≠ ticket) }

/-- Lets one event happen. A reply to a ticket that nobody waits for changes nothing. -/
def step (session : Session) : Event → Session × Outcome
  | .request request => session.record (session.server.handle request)
  | .reply ticket reply =>
    match session.waiting.lookup ticket with
    | none => (session, ⟨[], .answered .done⟩)
    | some pending => (session.withdraw ticket).record (session.server.resume pending reply)

end Session

end PineAssist
