import PineAssist.Proofs.Run
import PineAssist.Settings.Resolver

/-!
# Questions for settings and their answers

An inquiry is a resolver in use: any number of questions may be open at once, and answers to them
come in any order, between evictions, changes of the configuration and further questions. Every open
question has a ticket.

The resolver compares two counters of 64 bits to decide whether an answer is kept. The main theorem
says what this comparison means for the history of an inquiry: an answer is kept exactly if nothing
was forgotten since its question was asked, and whatever is kept answers a question that was asked
after the document was last forgotten. The invariant behind it is that the generation of an open
question and the number of times that something was forgotten since add up to the generation of the
resolver. An entry of a history tells by its outcome whether something was forgotten; `forgets_iff`
says which events this comes from.
-/

namespace PineAssist

/-- A resolver with the questions that wait for an answer. -/
structure Inquiry where
  resolver : Resolver := {}
  /-- Open questions by ticket, the latest first. -/
  pending : List (Nat × Fetch) := []
  /-- Number of tickets given out. -/
  issued : Nat := 0

namespace Inquiry

/-- What happens next to a resolver. -/
inductive Event where
  /-- Somebody wants the settings of a document. -/
  | resolve (uri : Uri)
  /-- An open question is answered. -/
  | answer (ticket : Nat) (answer : Except FetchError Json)
  | evict (uri : Uri)
  | invalidateAll
  | configurationChanged (payload : Option Json)
  | setPerDocument (perDocument : Bool)

/-- What comes of an event. -/
inductive Outcome where
  /-- Whoever wanted settings gets them. -/
  | returned (settings : Settings)
  /-- The editor has been asked. -/
  | asked (ticket : Nat)
  /-- The answer for one document, or all of them, have been dropped. -/
  | forgot (uri? : Option Uri)
  | nothing

/-- Lets one event happen. An answer to a ticket that nobody waits for changes nothing. -/
def step (inquiry : Inquiry) : Event → Inquiry × Outcome
  | .resolve uri =>
    match inquiry.resolver.resolve uri with
    | .known settings => (inquiry, .returned settings)
    | .needed fetch =>
      ({ inquiry with
          pending := (inquiry.issued, fetch) :: inquiry.pending
          issued := inquiry.issued + 1 },
        .asked inquiry.issued)
  | .answer ticket answer =>
    match inquiry.pending.lookup ticket with
    | none => (inquiry, .nothing)
    | some fetch =>
      ({ inquiry with
          resolver := (inquiry.resolver.complete fetch answer).2
          pending := inquiry.pending.filter (·.1 ≠ ticket) },
        .returned (inquiry.resolver.complete fetch answer).1)
  | .evict uri => ({ inquiry with resolver := inquiry.resolver.evict uri }, .forgot (some uri))
  | .invalidateAll => ({ inquiry with resolver := inquiry.resolver.invalidateAll }, .forgot none)
  | .configurationChanged payload =>
    ({ inquiry with resolver := inquiry.resolver.configurationChanged payload },
      if inquiry.resolver.perDocument then .forgot none else .nothing)
  | .setPerDocument perDocument =>
    ({ inquiry with resolver := inquiry.resolver.setPerDocument perDocument }, .nothing)

/-- The settings that an answer stands for: everything is on unless it can be understood. -/
inductive Decodes : Except FetchError Json → Settings → Prop where
  | understood {payload : Json} {settings : Settings}
      (wellFormed : Settings.ofSection payload = .ok settings) : Decodes (.ok payload) settings
  | malformed {payload : Json} {error : SectionError}
      (illFormed : Settings.ofSection payload = .error error) : Decodes (.ok payload) {}
  | failed (error : FetchError) : Decodes (.error error) {}

/-- An event together with what came of it. -/
abbrev Entry := Event × Outcome

namespace Entry

/-- A question for the settings of the document was asked and got the ticket. -/
def Asks (uri : Uri) (ticket : Nat) (entry : Entry) : Prop :=
  entry = (.resolve uri, .asked ticket)

/-- The question with the ticket was answered. -/
def Answers (ticket : Nat) (entry : Entry) : Prop :=
  ∃ answer, entry.1 = .answer ticket answer

/-- Something was forgotten. -/
def drops : Entry → Bool
  | (_, .forgot _) => true
  | _ => false

/-- The answer for the document was forgotten, if there was one. -/
def Forgets (uri : Uri) (entry : Entry) : Prop :=
  entry.2 = .forgot none ∨ entry.2 = .forgot (some uri)

end Entry

/-- What can happen to a new resolver. -/
abbrev History (history : List Entry) (inquiry : Inquiry) : Prop :=
  Run (fun inquiry event result => inquiry.step event = result) {} history inquiry

/-- A question for the settings of the document is open; `during` is what has happened since. -/
abbrev OpenSince (history : List Entry) (uri : Uri) (ticket : Nat) (during : List Entry) : Prop :=
  Outstanding (Entry.Asks uri ticket) (Entry.Answers ticket) history during

/-- No question stayed open while the resolver went through all its generations. -/
abbrev AnsweredInTime (history : List Entry) : Prop :=
  Prompt (fun ticket entry => ∃ uri, Entry.Asks uri ticket entry) Entry.Answers Entry.drops history

/--
The settings answer a question for those of the document, and neither while the question was open
nor later has the document been forgotten.
-/
def Fresh (history : List Entry) (uri : Uri) (settings : Settings) : Prop :=
  ∃ earlier ticket during answer later,
    history = earlier ++ (.answer ticket answer, .returned settings) :: later ∧
    OpenSince earlier uri ticket during ∧ Decodes answer settings ∧
    ∀ entry ∈ during ++ later, ¬Entry.Forgets uri entry

variable {history during : List Entry} {inquiry next : Inquiry} {event : Event}
  {outcome : Outcome} {uri : Uri} {ticket : Nat} {fetch : Fetch} {settings : Settings}

/-- Whether the editor is asked for each document after an event, given whether it was before. -/
def Event.choose (perDocument : Bool) : Event → Bool
  | .setPerDocument chosen => chosen
  | _ => perDocument

/-- Whether the editor is asked for each document, according to what was chosen last. -/
def perDocumentAfter (history : List Entry) : Bool :=
  history.foldl (fun perDocument entry => entry.1.choose perDocument) false

theorem decodes_decode (answer : Except FetchError Json) :
    Decodes answer (Resolver.decode answer) := by
  cases answer with
  | ok payload =>
      simp only [Resolver.decode, Settings.ofSectionOrDefault]
      split
      next wellFormed => exact .understood wellFormed
      next illFormed => exact .malformed illFormed
  | error error => exact .failed error

/-- What one step comes to, with what has to be the case for it. -/
inductive Transition (inquiry : Inquiry) : Event → Inquiry → Outcome → Prop where
  | known {uri : Uri} {settings : Settings}
      (isKnown : inquiry.resolver.resolve uri = .known settings) :
      Transition inquiry (.resolve uri) inquiry (.returned settings)
  | asked {uri : Uri}
      (unknown : inquiry.resolver.resolve uri = .needed ⟨uri, inquiry.resolver.generation⟩) :
      Transition inquiry (.resolve uri)
        { inquiry with
          pending := (inquiry.issued, ⟨uri, inquiry.resolver.generation⟩) :: inquiry.pending
          issued := inquiry.issued + 1 }
        (.asked inquiry.issued)
  | answered {ticket : Nat} {fetch : Fetch} (answer : Except FetchError Json)
      (isPending : inquiry.pending.lookup ticket = some fetch) :
      Transition inquiry (.answer ticket answer)
        { inquiry with
          resolver := (inquiry.resolver.complete fetch answer).2
          pending := inquiry.pending.filter (·.1 ≠ ticket) }
        (.returned (Resolver.decode answer))
  | ignored {ticket : Nat} (answer : Except FetchError Json)
      (nobody : inquiry.pending.lookup ticket = none) :
      Transition inquiry (.answer ticket answer) inquiry .nothing
  | evicted (uri : Uri) :
      Transition inquiry (.evict uri) { inquiry with resolver := inquiry.resolver.evict uri }
        (.forgot (some uri))
  | invalidated :
      Transition inquiry .invalidateAll { inquiry with resolver := inquiry.resolver.invalidateAll }
        (.forgot none)
  | reconfigured (payload : Option Json) (perDocument : inquiry.resolver.perDocument) :
      Transition inquiry (.configurationChanged payload)
        { inquiry with resolver := inquiry.resolver.invalidateAll } (.forgot none)
  | pushed (payload : Option Json) (forAll : inquiry.resolver.perDocument = false) :
      Transition inquiry (.configurationChanged payload)
        { inquiry with
          resolver := { inquiry.resolver with global := Resolver.globalSettings payload } }
        .nothing
  | chosen (perDocument : Bool) :
      Transition inquiry (.setPerDocument perDocument)
        { inquiry with resolver := inquiry.resolver.setPerDocument perDocument } .nothing

theorem transition_of_step (step : inquiry.step event = (next, outcome)) :
    inquiry.Transition event next outcome := by
  cases event with
  | resolve uri =>
      simp only [Inquiry.step] at step
      split at step <;> cases step
      next settings isKnown => exact .known isKnown
      next fetch needed =>
        rcases Resolver.resolve_eq_needed_iff.mp needed with ⟨_, _, rfl⟩
        exact .asked needed
  | answer ticket answer =>
      simp only [Inquiry.step] at step
      split at step <;> cases step
      next nobody => exact .ignored answer nobody
      next fetch isPending => exact .answered answer isPending
  | evict uri =>
      cases step
      exact .evicted uri
  | invalidateAll =>
      cases step
      exact .invalidated
  | configurationChanged payload =>
      cases step
      by_cases perDocument : inquiry.resolver.perDocument
      · rw [Resolver.configurationChanged, if_pos perDocument, if_pos perDocument]
        exact .reconfigured payload perDocument
      · rw [Resolver.configurationChanged, if_neg perDocument, if_neg perDocument]
        exact .pushed payload (by simpa using perDocument)
  | setPerDocument perDocument =>
      cases step
      exact .chosen perDocument

section Forgetting

theorem Entry.drops_iff (entry : Entry) : entry.drops ↔ ∃ uri, entry.Forgets uri := by
  rcases entry with ⟨event, outcome⟩
  cases outcome with
  | forgot uri? => cases uri? <;> simp [Entry.drops, Entry.Forgets]
  | _ => simp [Entry.drops, Entry.Forgets]

theorem step_forgets_iff (step : inquiry.step event = (next, outcome)) :
    Entry.Forgets uri (event, outcome) ↔
      event = .evict uri ∨ event = .invalidateAll ∨
        inquiry.resolver.perDocument ∧ ∃ payload, event = .configurationChanged payload := by
  cases transition_of_step step with
  | reconfigured payload perDocument => simp [Entry.Forgets, perDocument]
  | pushed payload forAll => simp [Entry.Forgets, forAll]
  | _ => simp [Entry.Forgets]

theorem step_perDocument (step : inquiry.step event = (next, outcome)) :
    next.resolver.perDocument = event.choose inquiry.resolver.perDocument := by
  cases transition_of_step step with
  | answered answer isPending =>
      simp only [Resolver.complete]
      split <;> rfl
  | _ => rfl

theorem perDocument_of_history (run : History history inquiry) :
    inquiry.resolver.perDocument = perDocumentAfter history := by
  induction run with
  | nil => rfl
  | snoc run step ih => simp [step_perDocument step, ih, perDocumentAfter]

/--
The answer for a document is forgotten exactly if the document is evicted, everything is
invalidated, or the configuration changes while the editor is asked for each document.
-/
theorem forgets_iff {earlier later : List Entry} {entry : Entry}
    (run : History (earlier ++ entry :: later) inquiry) :
    entry.Forgets uri ↔
      entry.1 = .evict uri ∨ entry.1 = .invalidateAll ∨
        perDocumentAfter earlier ∧ ∃ payload, entry.1 = .configurationChanged payload := by
  rcases entry with ⟨event, outcome⟩
  rcases run.exists_of_append with ⟨before, after, earlierRun, step⟩
  rw [step_forgets_iff step, perDocument_of_history earlierRun]

end Forgetting

theorem step_generation (step : inquiry.step event = (next, outcome)) :
    next.resolver.generation =
      inquiry.resolver.generation + if Entry.drops (event, outcome) then 1 else 0 := by
  cases transition_of_step step with
  | answered answer isPending =>
      simp only [Resolver.complete]
      split <;> simp [Entry.drops]
  | evicted uri => rfl
  | invalidated => rfl
  | reconfigured payload perDocument => rfl
  | _ => simp [Entry.drops, Resolver.setPerDocument]

/--
A step asks a question, answers an open one, or leaves the open questions alone. In the last case it
may drop answers but learns none.
-/
theorem step_cases (step : inquiry.step event = (next, outcome)) :
    (∃ uri, event = .resolve uri ∧ outcome = .asked inquiry.issued ∧
      next = { inquiry with
        pending := (inquiry.issued, ⟨uri, inquiry.resolver.generation⟩) :: inquiry.pending
        issued := inquiry.issued + 1 }) ∨
    (∃ ticket answer fetch, event = .answer ticket answer ∧
      inquiry.pending.lookup ticket = some fetch ∧ outcome = .returned (Resolver.decode answer) ∧
      next = { inquiry with
        resolver := (inquiry.resolver.complete fetch answer).2
        pending := inquiry.pending.filter (·.1 ≠ ticket) }) ∨
    (next.pending = inquiry.pending ∧ next.issued = inquiry.issued ∧
      (∀ ticket, outcome ≠ .asked ticket) ∧
      (∀ ticket answer, event = .answer ticket answer → inquiry.pending.lookup ticket = none) ∧
      ∀ uri settings, next.resolver.cache[uri]? = some settings →
        inquiry.resolver.cache[uri]? = some settings ∧ ¬Entry.Forgets uri (event, outcome)) := by
  cases transition_of_step step with
  | asked unknown => exact .inl ⟨_, rfl, rfl, rfl⟩
  | answered answer isPending => exact .inr (.inl ⟨_, answer, _, rfl, isPending, rfl, rfl⟩)
  | ignored answer nobody =>
      refine .inr (.inr ⟨rfl, rfl, by simp, ?_, by simp [Entry.Forgets]⟩)
      rintro _ _ ⟨⟩
      exact nobody
  | evicted uri =>
      refine .inr (.inr ⟨rfl, rfl, by simp, by simp, ?_⟩)
      intro other settings cached
      simp only [Resolver.evict, Std.ExtTreeMap.getElem?_erase, Std.compare_eq_iff_eq] at cached
      split at cached
      · cases cached
      · simp_all [Entry.Forgets]
  | _ => simp [Entry.Forgets, Resolver.invalidateAll, Resolver.setPerDocument]

theorem numbered_of_history (run : History history inquiry) :
    Numbered inquiry.pending inquiry.issued := by
  refine run.invariant (motive := fun inquiry => Numbered inquiry.pending inquiry.issued) .nil ?_
  intro inquiry event next outcome step numbered
  rcases step_cases step with ⟨uri, _, _, rfl⟩ | ⟨ticket, _, _, _, _, _, rfl⟩ |
    ⟨samePending, sameIssued, _⟩
  · exact numbered.give
  · exact numbered.withdraw
  · rw [samePending, sameIssued]
    exact numbered

theorem step_lookup (run : History history inquiry) (step : inquiry.step event = (next, outcome))
    (isPending : inquiry.pending.lookup ticket = some fetch)
    (notAnswered : ¬Entry.Answers ticket (event, outcome)) :
    next.pending.lookup ticket = some fetch := by
  rcases step_cases step with ⟨uri, _, _, rfl⟩ | ⟨answered, answer, _, rfl, _, _, rfl⟩ |
    ⟨samePending, _⟩
  · exact (numbered_of_history run).lookup_give isPending
  · refine lookup_withdrawn_eq_some_iff.mpr ⟨?_, isPending⟩
    rintro rfl
    exact notAnswered ⟨answer, rfl⟩
  · rw [samePending]
    exact isPending

theorem step_counted {generation : UInt64} (step : inquiry.step event = (next, outcome))
    (counted : inquiry.resolver.generation =
      generation + UInt64.ofNat (during.countP Entry.drops)) :
    next.resolver.generation =
      generation + UInt64.ofNat ((during ++ [(event, outcome)]).countP Entry.drops) := by
  rw [step_generation step, counted, List.countP_append, UInt64.ofNat_add, ← UInt64.add_assoc]
  cases drops : Entry.drops (event, outcome) <;> simp [drops]

theorem pending_of_openSince (run : History history inquiry)
    (openSince : OpenSince history uri ticket during) :
    ∃ generation, inquiry.pending.lookup ticket = some ⟨uri, generation⟩ ∧
      inquiry.resolver.generation =
        generation + UInt64.ofNat (during.countP Entry.drops) := by
  induction run generalizing during with
  | nil => exact absurd openSince Outstanding.not_nil
  | snoc run step ih =>
      rcases openSince.of_snoc with ⟨rfl, asks⟩ | ⟨earlier, rfl, notAnswered, before⟩
      · cases asks
        rcases step_cases step with ⟨_, ⟨⟩, ⟨⟩, rfl⟩ | ⟨_, _, _, ⟨⟩, _⟩ | ⟨_, _, notAsked, _⟩
        · exact ⟨_, List.lookup_cons_self, by simp⟩
        · exact absurd rfl (notAsked ticket)
      · rcases ih before with ⟨generation, isPending, counted⟩
        exact ⟨generation, step_lookup run step isPending notAnswered, step_counted step counted⟩

theorem openSince_of_pending (run : History history inquiry)
    (isPending : inquiry.pending.lookup ticket = some fetch) :
    ∃ during, OpenSince history fetch.uri ticket during := by
  induction run generalizing fetch with
  | nil => simp at isPending
  | @snoc history inquiry next event outcome run step ih =>
      rcases step_cases step with ⟨uri, rfl, rfl, rfl⟩ | ⟨answered, _, _, rfl, _, _, rfl⟩ |
        ⟨samePending, _, _, onlyClosed, _⟩
      · by_cases new : ticket = inquiry.issued
        · subst ticket
          rw [List.lookup_cons_self, Option.some.injEq] at isPending
          subst fetch
          exact ⟨[], Outstanding.opened rfl⟩
        · rw [lookup_cons_of_ne new] at isPending
          rcases ih isPending with ⟨during, openSince⟩
          exact ⟨_, openSince.snoc (by simp [Entry.Answers])⟩
      · rcases lookup_withdrawn_eq_some_iff.mp isPending with ⟨other, wasPending⟩
        rcases ih wasPending with ⟨during, openSince⟩
        exact ⟨_, openSince.snoc (by simp [Entry.Answers, Ne.symm other])⟩
      · rw [samePending] at isPending
        rcases ih isPending with ⟨during, openSince⟩
        refine ⟨_, openSince.snoc ?_⟩
        rintro ⟨answer, rfl⟩
        rw [onlyClosed ticket answer rfl] at isPending
        cases isPending

/-- The answer to an open question is kept unless something has been forgotten since. -/
theorem complete_cache (run : History history inquiry)
    (openSince : OpenSince history uri ticket during)
    (few : during.countP Entry.drops < UInt64.size)
    (isPending : inquiry.pending.lookup ticket = some fetch) (answer : Except FetchError Json) :
    (inquiry.resolver.complete fetch answer).2.cache =
      if during.any Entry.drops then inquiry.resolver.cache
      else inquiry.resolver.cache.insert uri (Resolver.decode answer) := by
  rcases pending_of_openSince run openSince with ⟨generation, sameTicket, counted⟩
  rw [isPending, Option.some.injEq] at sameTicket
  subst fetch
  have unchanged : inquiry.resolver.generation = generation ↔ during.any Entry.drops = false := by
    rw [counted, add_ofNat_eq_self_iff few, List.countP_eq_zero]
    simp
  simp only [Resolver.complete, unchanged]
  cases during.any Entry.drops <;> simp

theorem Fresh.snoc {entry : Entry} (fresh : Fresh history uri settings)
    (notForgotten : ¬entry.Forgets uri) : Fresh (history ++ [entry]) uri settings := by
  rcases fresh with ⟨earlier, ticket, during, answer, later, rfl, openSince, decoded, kept⟩
  refine ⟨earlier, ticket, during, answer, later ++ [entry], by simp, openSince, decoded, ?_⟩
  intro entry' entryMem
  rw [← List.append_assoc] at entryMem
  rcases List.mem_append.mp entryMem with old | new
  · exact kept entry' old
  · rw [List.mem_singleton.mp new]
    exact notForgotten

theorem fresh_of_cached (run : History history inquiry) (inTime : AnsweredInTime history)
    (cached : inquiry.resolver.cache[uri]? = some settings) : Fresh history uri settings := by
  induction run generalizing settings with
  | nil => simp at cached
  | @snoc history inquiry next event outcome run step ih =>
      have known {settings : Settings}
          (before : inquiry.resolver.cache[uri]? = some settings) : Fresh history uri settings :=
        ih inTime.of_snoc before
      rcases step_cases step with ⟨_, rfl, rfl, rfl⟩ |
        ⟨ticket, answer, fetch, rfl, isPending, rfl, rfl⟩ | ⟨_, _, _, _, keeps⟩
      · exact (known cached).snoc (by simp [Entry.Forgets])
      · rcases openSince_of_pending run isPending with ⟨during, openSince⟩
        have few : during.countP Entry.drops < UInt64.size := by
          refine inTime.countP_lt ⟨answer, rfl⟩ ?_
          rcases openSince with ⟨before, opening, split, asks, unanswered⟩
          exact ⟨before, opening, split, ⟨fetch.uri, asks⟩, unanswered⟩
        rw [complete_cache run openSince few isPending] at cached
        split at cached
        · exact (known cached).snoc (by simp [Entry.Forgets])
        next undisturbed =>
          by_cases same : fetch.uri = uri
          · subst uri
            rw [Std.ExtTreeMap.getElem?_insert_self, Option.some.injEq] at cached
            subst settings
            refine ⟨history, ticket, during, answer, [], rfl, openSince, decodes_decode answer, ?_⟩
            intro entry entryMem forgets
            rw [List.append_nil] at entryMem
            apply undisturbed
            exact List.any_eq_true.mpr ⟨entry, entryMem, entry.drops_iff.mpr ⟨fetch.uri, forgets⟩⟩
          · have other : inquiry.resolver.cache[uri]? = some settings := by
              simpa [Std.ExtTreeMap.getElem?_insert, same] using cached
            exact (known other).snoc (by simp [Entry.Forgets])
      · rcases keeps uri settings cached with ⟨before, notForgotten⟩
        exact (known before).snoc notForgotten

/--
An answer reaches whoever asked, and is kept exactly if nothing was forgotten while the question was
open; so whatever is kept is fresh. Only a question that stays open through all generations of the
resolver can escape this.
-/
theorem kept_iff_undisturbed (run : History history inquiry) :
    (∀ uri ticket during answer, OpenSince history uri ticket during →
      ∃ settings, Decodes answer settings ∧
        (inquiry.step (.answer ticket answer)).2 = .returned settings ∧
        (during.countP Entry.drops < UInt64.size →
          (inquiry.step (.answer ticket answer)).1.resolver.cache =
            if during.any Entry.drops then inquiry.resolver.cache
            else inquiry.resolver.cache.insert uri settings)) ∧
    (AnsweredInTime history → ∀ uri settings,
      inquiry.resolver.cache[uri]? = some settings → Fresh history uri settings) := by
  constructor
  · intro uri ticket during answer openSince
    rcases pending_of_openSince run openSince with ⟨generation, isPending, _⟩
    simp only [Inquiry.step, isPending]
    refine ⟨Resolver.decode answer, decodes_decode answer, rfl, ?_⟩
    intro few
    exact complete_cache run openSince few isPending answer
  · intro inTime uri settings cached
    exact fresh_of_cached run inTime cached

/-- Two questions for one document are open, and another document was evicted in between. -/
def interrupted : List Entry × Inquiry :=
  replay step {}
    [.setPerDocument true, .resolve "a", .resolve "b", .evict "c", .resolve "a"]

/-- Only the answer to the later one of the two questions is kept, and it is fresh. -/
theorem kept_iff_undisturbed_interrupted :
    (interrupted.2.step (.answer 0 (.ok .null))).1.resolver.cache[("a" : Uri)]? = none ∧
    ∃ settings,
      (interrupted.2.step (.answer 2 (.ok .null))).1.resolver.cache[("a" : Uri)]? =
        some settings ∧
      Fresh (interrupted.1 ++ [(.answer 2 (.ok .null), .returned settings)]) "a" settings := by
  have run : History interrupted.1 interrupted.2 := run_replay (fun _ _ => rfl) _ _
  have answered := (kept_iff_undisturbed run).1 "a"
  constructor
  · rcases answered 0 [_, _, _] (.ok .null) ⟨[_], _, rfl, rfl, by simp [Entry.Answers]⟩ with
      ⟨settings, _, _, dropped⟩
    rw [dropped (by decide)]
    rfl
  · rcases answered 2 [] (.ok .null) ⟨[_, _, _, _], _, rfl, rfl, by simp⟩ with
      ⟨settings, _, returned, kept⟩
    have cached : (interrupted.2.step (.answer 2 (.ok .null))).1.resolver.cache[("a" : Uri)]? =
        some settings := by
      rw [kept (by decide)]
      exact Std.ExtTreeMap.getElem?_insert_self
    refine ⟨settings, cached, ?_⟩
    have step : interrupted.2.step (.answer 2 (.ok .null)) = (_, .returned settings) :=
      Prod.ext rfl returned
    have short : interrupted.1.length + 1 < UInt64.size := by decide
    refine (kept_iff_undisturbed (run.snoc step)).2 (.of_length_lt ?_) "a" settings cached
    simpa using short

end Inquiry

end PineAssist
