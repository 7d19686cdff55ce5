import PineAssist.Document.Store
import PineAssist.Proofs.Run

/-!
# What the store holds

Whatever has been done to a store that was empty at first, it holds of every document the last text
and version that it has accepted, unless the document has been closed since. Whether a text is
accepted depends on its size and on the limit at that time; later limits do not matter to it.
-/

namespace PineAssist.Store

/-- What can be done to a store. -/
inductive Event where
  | put (uri : Uri) (document : Document)
  | remove (uri : Uri)
  | setMaxSize (maxSize : Nat)

/-- What is answered to that. -/
inductive Outcome where
  | accepted
  | rejected
  | removed (wasOpen : Bool)
  | limited
  deriving DecidableEq

/-- Does something to a store, which stays as it is if a text is too large. -/
def step (store : Store) : Event → Store × Outcome
  | .put uri document =>
    match store.put? uri document with
    | some changed => (changed, .accepted)
    | none => (store, .rejected)
  | .remove uri => (store.remove uri, .removed (store.contains uri))
  | .setMaxSize maxSize => (store.setMaxSize maxSize, .limited)

abbrev Entry := Event × Outcome

namespace Entry

/-- This text and version of the document were accepted. -/
def Writes (uri : Uri) (document : Document) (entry : Entry) : Prop :=
  entry = (.put uri document, .accepted)

/-- What was held of the document before has been replaced or dropped. -/
def Replaces (uri : Uri) (entry : Entry) : Prop :=
  (∃ document, entry.Writes uri document) ∨ entry.1 = .remove uri

def limit? : Entry → Option Nat
  | (.setMaxSize maxSize, _) => some maxSize
  | _ => none

end Entry

/-- The limit after a history: the last one that was set, or else the one at the start. -/
def limitAfter (maxSize : Nat) (history : List Entry) : Nat :=
  (history.filterMap Entry.limit?).getLast?.getD maxSize

/--
The last text and version of the document that were accepted, if it has not been closed since.
-/
def Holds (history : List Entry) (uri : Uri) (document : Document) : Prop :=
  ∃ during, Outstanding (Entry.Writes uri document) (Entry.Replaces uri) history during

/-- Whatever is asked of a store, it answers from the documents that its history says it holds. -/
structure Agrees (store : Store) (history : List Entry) : Prop where
  snapshot : ∀ uri document, store.snapshot? uri = some document ↔ Holds history uri document
  text : ∀ uri text, store.text? uri = some text ↔ ∃ version, Holds history uri ⟨text, version⟩
  version : ∀ uri version,
    store.version? uri = some version ↔ ∃ text, Holds history uri ⟨text, version⟩
  contains : ∀ uri, store.contains uri ↔ ∃ document, Holds history uri document
  uris : ∀ uri, uri ∈ store.uris ↔ ∃ document, Holds history uri document
  /-- No document is listed twice, so that the number of documents is that of the list. -/
  size : store.uris.Nodup ∧ store.size = store.uris.length
  isEmpty : store.isEmpty ↔ ∀ uri document, ¬Holds history uri document

/-- What can happen to a store that is empty at first. -/
abbrev History (maxSize : Nat) (history : List Entry) (store : Store) : Prop :=
  Run (fun store event result => store.step event = result) { maxSize } history store

variable {store next : Store} {event : Event} {outcome : Outcome} {maxSize : Nat}
  {history : List Entry} {entry : Entry} {uri other : Uri} {document written : Document}

section Steps

theorem step_cases (step : store.step event = (next, outcome)) :
    (∃ uri document, event = .put uri document ∧ outcome = .accepted ∧
      document.text.utf8ByteSize ≤ store.maxSize ∧ next.maxSize = store.maxSize ∧
      ∀ other, next.snapshot? other = if uri = other then some document
        else store.snapshot? other) ∨
    (∃ uri document, event = .put uri document ∧ outcome = .rejected ∧
      store.maxSize < document.text.utf8ByteSize ∧ next = store) ∨
    (∃ uri, event = .remove uri ∧ outcome = .removed (store.contains uri) ∧
      next.maxSize = store.maxSize ∧
      ∀ other, next.snapshot? other = if uri = other then none else store.snapshot? other) ∨
    (∃ maxSize, event = .setMaxSize maxSize ∧ outcome = .limited ∧ next.maxSize = maxSize ∧
      ∀ other, next.snapshot? other = store.snapshot? other) := by
  cases event with
  | put uri document =>
      simp only [Store.step] at step
      split at step
      · next changed isChanged =>
        cases step
        left
        rcases of_put?_eq_some isChanged with ⟨small, sameLimit⟩
        exact ⟨uri, document, rfl, rfl, small, sameLimit, snapshot?_of_put? isChanged⟩
      · next tooLarge =>
        cases step
        right; left
        exact ⟨uri, document, rfl, rfl, put?_eq_none_iff.mp tooLarge, rfl⟩
  | remove uri =>
      cases step
      right; right; left
      exact ⟨uri, rfl, rfl, rfl, store.snapshot?_remove uri⟩
  | setMaxSize maxSize =>
      cases step
      right; right; right
      exact ⟨maxSize, rfl, rfl, rfl, fun _ => rfl⟩

theorem step_eq_self_of_rejected (rejected : (store.step event).2 = .rejected) :
    (store.step event).1 = store := by
  rcases step_cases (Prod.eta (store.step event)).symm with
    ⟨_, _, _, isOutcome, _⟩ | ⟨_, _, _, _, _, unchanged⟩ | ⟨_, _, isOutcome, _⟩ |
    ⟨_, _, isOutcome, _⟩
  · rw [isOutcome] at rejected
    contradiction
  · exact unchanged
  · rw [isOutcome] at rejected
    contradiction
  · rw [isOutcome] at rejected
    contradiction

end Steps

section Histories

theorem limitAfter_snoc :
    limitAfter maxSize (history ++ [entry]) = entry.limit?.getD (limitAfter maxSize history) := by
  rw [limitAfter, List.filterMap_append]
  cases isLimit : entry.limit? with
  | none => simp [isLimit, limitAfter]
  | some limit => simp [isLimit]

theorem holds_snoc_of_not_replaces (untouched : ¬entry.Replaces uri) :
    Holds (history ++ [entry]) uri document ↔ Holds history uri document := by
  constructor
  · rintro ⟨during, outstanding⟩
    rcases outstanding.of_snoc with ⟨_, isWritten⟩ | ⟨earlier, _, _, still⟩
    · exact absurd (.inl ⟨document, isWritten⟩) untouched
    · exact ⟨earlier, still⟩
  · rintro ⟨during, outstanding⟩
    exact ⟨during ++ [entry], outstanding.snoc untouched⟩

theorem holds_snoc_of_writes (isWritten : entry.Writes uri written) :
    Holds (history ++ [entry]) uri document ↔ written = document := by
  constructor
  · rintro ⟨during, outstanding⟩
    rcases outstanding.of_snoc with ⟨_, alsoWritten⟩ | ⟨_, _, untouched, _⟩
    · rw [isWritten] at alsoWritten
      cases alsoWritten
      rfl
    · exact absurd (.inl ⟨written, isWritten⟩) untouched
  · rintro rfl
    exact ⟨[], .opened isWritten⟩

theorem not_holds_snoc_of_removes (isRemoved : entry.1 = .remove uri) :
    ¬Holds (history ++ [entry]) uri document := by
  rintro ⟨during, outstanding⟩
  rcases outstanding.of_snoc with ⟨_, isWritten⟩ | ⟨_, _, untouched, _⟩
  · rw [isWritten] at isRemoved
    contradiction
  · exact untouched (.inr isRemoved)

end Histories

section Runs

theorem maxSize_eq_limitAfter (run : History maxSize history store) :
    store.maxSize = limitAfter maxSize history := by
  induction run with
  | nil => rfl
  | snoc _ step ih =>
      rw [limitAfter_snoc, ← ih]
      rcases step_cases step with ⟨_, _, rfl, _, _, sameLimit, _⟩ | ⟨_, _, rfl, _, _, rfl⟩ |
        ⟨_, rfl, _, sameLimit, _⟩ | ⟨_, rfl, _, isLimit, _⟩
      · exact sameLimit
      · rfl
      · exact sameLimit
      · exact isLimit

theorem snapshot?_eq_some_iff (run : History maxSize history store) :
    store.snapshot? uri = some document ↔ Holds history uri document := by
  induction run with
  | nil =>
      have nothing : ({ maxSize } : Store).snapshot? uri = none := by simp [snapshot?]
      rw [nothing]
      constructor
      · intro impossible
        cases impossible
      · rintro ⟨during, outstanding⟩
        exact absurd outstanding Outstanding.not_nil
  | snoc _ step ih =>
      rcases step_cases step with ⟨put, written, rfl, rfl, _, _, isHeld⟩ |
        ⟨put, _, rfl, rfl, _, rfl⟩ | ⟨removed, rfl, rfl, _, isHeld⟩ | ⟨_, rfl, rfl, _, isHeld⟩
      · rw [isHeld]
        by_cases same : put = uri
        · subst put
          rw [if_pos rfl, holds_snoc_of_writes rfl, Option.some.injEq]
        · rw [if_neg same, ih, holds_snoc_of_not_replaces]
          simp [Entry.Replaces, Entry.Writes, same]
      · rw [ih, holds_snoc_of_not_replaces]
        simp [Entry.Replaces, Entry.Writes]
      · rw [isHeld]
        by_cases same : removed = uri
        · subst removed
          simp [not_holds_snoc_of_removes]
        · rw [if_neg same, ih, holds_snoc_of_not_replaces]
          simp [Entry.Replaces, Entry.Writes, same]
      · rw [isHeld, ih, holds_snoc_of_not_replaces]
        simp [Entry.Replaces, Entry.Writes]

theorem contains_iff (run : History maxSize history store) :
    store.contains uri ↔ ∃ document, Holds history uri document := by
  rw [contains_eq_isSome_snapshot?, Option.isSome_iff_exists]
  exact exists_congr fun _ => snapshot?_eq_some_iff run

theorem agrees_of_history (run : History maxSize history store) : store.Agrees history where
  snapshot _ _ := snapshot?_eq_some_iff run
  text uri text := by
    rw [text?, Option.map_eq_some_iff]
    constructor
    · rintro ⟨⟨_, version⟩, isHeld, rfl⟩
      exact ⟨version, (snapshot?_eq_some_iff run).mp isHeld⟩
    · rintro ⟨version, isHeld⟩
      exact ⟨⟨text, version⟩, (snapshot?_eq_some_iff run).mpr isHeld, rfl⟩
  version uri version := by
    rw [version?, Option.map_eq_some_iff]
    constructor
    · rintro ⟨⟨text, _⟩, isHeld, rfl⟩
      exact ⟨text, (snapshot?_eq_some_iff run).mp isHeld⟩
    · rintro ⟨text, isHeld⟩
      exact ⟨⟨text, version⟩, (snapshot?_eq_some_iff run).mpr isHeld, rfl⟩
  contains _ := contains_iff run
  uris _ := mem_uris.trans (contains_iff run)
  size := ⟨store.nodup_uris, store.length_uris.symm⟩
  isEmpty := by
    rw [isEmpty_iff]
    apply forall_congr'
    intro uri
    rw [contains_iff run, not_exists]

theorem outcome_of_put {earlier later : List Entry}
    (run : History maxSize (earlier ++ (.put uri document, outcome) :: later) store) :
    outcome = if document.text.utf8ByteSize ≤ limitAfter maxSize earlier then .accepted
      else .rejected := by
  rcases run.exists_of_append with ⟨before, after, earlierRun, step⟩
  rw [← maxSize_eq_limitAfter earlierRun]
  rcases step_cases step with ⟨_, _, isPut, rfl, small, _⟩ | ⟨_, _, isPut, rfl, large, _⟩ |
    ⟨_, impossible, _⟩ | ⟨_, impossible, _⟩
  · cases isPut
    rw [if_pos small]
  · cases isPut
    rw [if_neg (by omega)]
  · cases impossible
  · cases impossible

theorem outcome_of_remove {earlier later : List Entry} {wasOpen : Bool}
    (run : History maxSize (earlier ++ (.remove uri, .removed wasOpen) :: later) store) :
    wasOpen ↔ ∃ document, Holds earlier uri document := by
  rcases run.exists_of_append with ⟨before, after, earlierRun, step⟩
  have isOpen : before.contains uri = wasOpen := by
    cases step
    rfl
  rw [← isOpen]
  exact contains_iff earlierRun

end Runs

/--
Whatever is done to a store that is empty at first, it holds of each document the last text and
version that were accepted since the document was last closed. A text was accepted if it was within
the limit of that time, and one that is rejected leaves the store as it is.
-/
theorem holds_last_accepted (maxSize : Nat) (events : List Event) :
    ∃ history store, replay step { maxSize } events = (history, store) ∧
      history.map (·.1) = events ∧
      store.Agrees history ∧
      store.maxSize = limitAfter maxSize history ∧
      (∀ earlier uri document outcome later,
        history = earlier ++ (.put uri document, outcome) :: later →
          outcome = if document.text.utf8ByteSize ≤ limitAfter maxSize earlier then .accepted
            else .rejected) ∧
      (∀ earlier uri (wasOpen : Bool) later,
        history = earlier ++ (.remove uri, .removed wasOpen) :: later →
          (wasOpen ↔ ∃ document, Holds earlier uri document)) ∧
      ∀ event, (store.step event).2 = .rejected → (store.step event).1 = store := by
  have allowed (store : Store) (event : Event) : store.step event = store.step event := rfl
  have run := run_replay allowed { maxSize } events
  have isEvents := replay_events step { maxSize } events
  generalize replay step { maxSize } events = reached at run isEvents ⊢
  rcases reached with ⟨history, store⟩
  refine ⟨history, store, rfl, isEvents, agrees_of_history run, maxSize_eq_limitAfter run, ?_, ?_,
    ?_⟩
  · intro earlier uri document outcome later split
    rw [split] at run
    exact outcome_of_put run
  · intro earlier uri wasOpen later split
    rw [split] at run
    exact outcome_of_remove run
  · intro event rejected
    exact step_eq_self_of_rejected rejected

end PineAssist.Store
