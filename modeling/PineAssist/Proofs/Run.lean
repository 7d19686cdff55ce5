/-!
# Runs and their histories

A machine takes one step for each event and shows an outcome. A run is any sequence of such steps,
and its history lists the events with their outcomes, the earliest first.

Some entries of a history open a matter that a later entry closes: a question is asked and answered
much later, when a lot has happened in between. `Outstanding` describes a matter that is open at the
end of a history, together with what has happened since it was opened. A history is `Prompt` if no
matter stays open while as many entries of some kind pass as a counter of 64 bits can tell apart.

Open matters are kept in lists of tickets, numbered in the order in which they are given out. The
lemmas at the end say how such a list changes when a ticket is given out or withdrawn.
-/

namespace PineAssist

/-- The machine can get from one state to another with this history. -/
inductive Run {State Event Outcome : Type} (Step : State → Event → State × Outcome → Prop)
    (start : State) : List (Event × Outcome) → State → Prop where
  | nil : Run Step start [] start
  | snoc {history : List (Event × Outcome)} {state next : State} {event : Event}
      {outcome : Outcome} (run : Run Step start history state)
      (step : Step state event (next, outcome)) :
      Run Step start (history ++ [(event, outcome)]) next

namespace Run

variable {State Event Outcome : Type} {Step : State → Event → State × Outcome → Prop}
  {start state next : State} {history : List (Event × Outcome)} {event : Event}
  {outcome : Outcome}

theorem append {later : List (Event × Outcome)} (first : Run Step start history state)
    (second : Run Step state later next) : Run Step start (history ++ later) next := by
  induction second with
  | nil => simpa using first
  | snoc _ last ih =>
      rw [← List.append_assoc]
      exact .snoc ih last

theorem cons (step : Step start event (state, outcome)) (run : Run Step state history next) :
    Run Step start ((event, outcome) :: history) next :=
  append (.snoc .nil step) run

/-- Every entry of a history is what one step of the run came to. -/
theorem exists_of_append {earlier later : List (Event × Outcome)}
    (run : Run Step start (earlier ++ (event, outcome) :: later) state) :
    ∃ before after, Run Step start earlier before ∧ Step before event (after, outcome) := by
  generalize split : earlier ++ (event, outcome) :: later = history at run
  induction run generalizing later with
  | nil => simp at split
  | snoc run step ih =>
      rcases List.eq_nil_or_concat later with rfl | ⟨between, last, rfl⟩
      · have same := List.append_inj' split rfl
        simp only [List.cons.injEq, Prod.mk.injEq, and_true] at same
        rcases same with ⟨rfl, rfl, rfl⟩
        exact ⟨_, _, run, step⟩
      · rw [List.concat_eq_append, ← List.cons_append, ← List.append_assoc] at split
        exact ih (List.append_inj' split rfl).1

/-- What holds at the start and is preserved by every step holds at the end of every run. -/
theorem invariant {motive : State → Prop} (run : Run Step start history state)
    (initially : motive start)
    (preserved : ∀ {state event next outcome}, Step state event (next, outcome) →
      motive state → motive next) :
    motive state := by
  induction run with
  | nil => exact initially
  | snoc _ step ih => exact preserved step ih

end Run

/-- History and final state when the given events happen to a machine that has no choice. -/
def replay {State Event Outcome : Type} (step : State → Event → State × Outcome) (start : State)
    (events : List Event) : List (Event × Outcome) × State :=
  events.foldl
    (fun (history, state) event =>
      (history ++ [(event, (step state event).2)], (step state event).1))
    ([], start)

/-- A machine that has no choice makes one of the runs of a machine that may have one. -/
theorem run_replay {State Event Outcome : Type} {Step : State → Event → State × Outcome → Prop}
    {step : State → Event → State × Outcome}
    (allowed : ∀ state event, Step state event (step state event)) (start : State)
    (events : List Event) :
    Run Step start (replay step start events).1 (replay step start events).2 := by
  unfold replay
  refine List.foldlRecOn
    (motive := fun (reached : List (Event × Outcome) × State) =>
      Run Step start reached.1 reached.2) events _ .nil ?_
  intro reached run event _
  exact .snoc run (allowed reached.2 event)

theorem replay_events {State Event Outcome : Type} (step : State → Event → State × Outcome)
    (start : State) (events : List Event) :
    (replay step start events).1.map (·.1) = events := by
  unfold replay
  have general (reached : List (Event × Outcome) × State) :
      (events.foldl
        (fun (history, state) event =>
          (history ++ [(event, (step state event).2)], (step state event).1))
        reached).1.map (·.1) = reached.1.map (·.1) ++ events := by
    induction events generalizing reached with
    | nil => simp
    | cons event rest ih => simp [ih]
  exact general ([], start)

section Outstanding

variable {Entry : Type}

/-- Something was opened and has not been closed; `during` is what has happened since. -/
def Outstanding (opens closes : Entry → Prop) (history during : List Entry) : Prop :=
  ∃ before entry, history = before ++ entry :: during ∧ opens entry ∧
    ∀ later ∈ during, ¬closes later

/-- What is closed under some ticket has never been open for long, counted in some entries. -/
def Prompt (opens closes : Nat → Entry → Prop) (counts : Entry → Bool)
    (history : List Entry) : Prop :=
  ∀ ticket earlier entry later during, history = earlier ++ entry :: later →
    closes ticket entry → Outstanding (opens ticket) (closes ticket) earlier during →
    during.countP counts < UInt64.size

namespace Outstanding

variable {opens closes : Entry → Prop} {history during : List Entry} {entry : Entry}

theorem opened (isOpened : opens entry) : Outstanding opens closes (history ++ [entry]) [] :=
  ⟨history, entry, rfl, isOpened, by simp⟩

theorem snoc (outstanding : Outstanding opens closes history during)
    (notClosed : ¬closes entry) :
    Outstanding opens closes (history ++ [entry]) (during ++ [entry]) := by
  rcases outstanding with ⟨before, opening, rfl, isOpened, unclosed⟩
  refine ⟨before, opening, by simp, isOpened, ?_⟩
  intro later laterMem
  rcases List.mem_append.mp laterMem with old | new
  · exact unclosed later old
  · simp only [List.mem_singleton] at new
    subst later
    exact notClosed

theorem imp {others : Entry → Prop} (outstanding : Outstanding opens closes history during)
    (weaker : ∀ entry, opens entry → others entry) :
    Outstanding others closes history during := by
  rcases outstanding with ⟨before, opening, split, isOpened, unclosed⟩
  exact ⟨before, opening, split, weaker opening isOpened, unclosed⟩

theorem not_nil : ¬Outstanding opens closes [] during := by
  rintro ⟨before, opening, impossible, _⟩
  simp at impossible

theorem of_snoc (outstanding : Outstanding opens closes (history ++ [entry]) during) :
    (during = [] ∧ opens entry) ∨
      ∃ earlier, during = earlier ++ [entry] ∧ ¬closes entry ∧
        Outstanding opens closes history earlier := by
  rcases outstanding with ⟨before, opening, split, isOpened, unclosed⟩
  rcases List.eq_nil_or_concat during with rfl | ⟨earlier, last, rfl⟩
  · left
    have same := List.append_inj' split rfl
    simp only [List.cons.injEq, and_true] at same
    exact ⟨rfl, same.2 ▸ isOpened⟩
  · right
    rw [List.concat_eq_append] at split unclosed ⊢
    rw [← List.cons_append, ← List.append_assoc] at split
    have same := List.append_inj' split rfl
    simp only [List.cons.injEq, and_true] at same
    rcases same with ⟨rfl, rfl⟩
    refine ⟨earlier, rfl, unclosed entry (by simp), before, opening, rfl, isOpened, ?_⟩
    intro later laterMem
    exact unclosed later (by simp [laterMem])

end Outstanding

namespace Prompt

variable {opens closes : Nat → Entry → Prop} {counts : Entry → Bool} {history : List Entry}

theorem of_snoc {entry : Entry} (prompt : Prompt opens closes counts (history ++ [entry])) :
    Prompt opens closes counts history := by
  intro ticket earlier closing later during split isClosed outstanding
  refine prompt ticket earlier closing (later ++ [entry]) during ?_ isClosed outstanding
  simp [split]

theorem countP_lt {entry : Entry} {ticket : Nat} {during : List Entry}
    (prompt : Prompt opens closes counts (history ++ [entry])) (isClosed : closes ticket entry)
    (outstanding : Outstanding (opens ticket) (closes ticket) history during) :
    during.countP counts < UInt64.size :=
  prompt ticket history entry [] during rfl isClosed outstanding

theorem of_length_lt (short : history.length < UInt64.size) :
    Prompt opens closes counts history := by
  rintro ticket earlier closing later during rfl _ ⟨before, opening, rfl, _⟩
  have counted := during.countP_le_length (p := counts)
  simp only [List.length_append, List.length_cons] at short
  omega

end Prompt

end Outstanding

/-- A counter of 64 bits tells fewer steps than it has values from none. -/
theorem add_ofNat_eq_self_iff {counter : UInt64} {steps : Nat} (few : steps < UInt64.size) :
    counter + UInt64.ofNat steps = counter ↔ steps = 0 := by
  rw [UInt64.add_eq_left, ← UInt64.toNat_inj, UInt64.toNat_ofNat', UInt64.toNat_zero]
  rw [Nat.mod_eq_of_lt few]

section Tickets

variable {Matter : Type} {tickets : List (Nat × Matter)} {ticket other issued : Nat}
  {matter found : Matter}

/-- Every ticket in the list is among those that have been given out. -/
def Numbered (tickets : List (Nat × Matter)) (issued : Nat) : Prop :=
  ∀ ticket matter, tickets.lookup ticket = some matter → ticket < issued

theorem lookup_cons_of_ne (different : other ≠ ticket) :
    ((ticket, matter) :: tickets).lookup other = tickets.lookup other := by
  rw [List.lookup_cons, beq_false_of_ne different]

theorem lookup_withdrawn_of_ne (different : other ≠ ticket) :
    (tickets.filter (·.1 ≠ ticket)).lookup other = tickets.lookup other := by
  induction tickets with
  | nil => rfl
  | cons entry rest ih =>
      rcases entry with ⟨number, matter⟩
      by_cases withdrawn : number = ticket
      · subst number
        rw [List.filter_cons_of_neg (by simp), ih, lookup_cons_of_ne different]
      · rw [List.filter_cons_of_pos (by simpa using withdrawn), List.lookup_cons,
          List.lookup_cons, ih]

theorem lookup_withdrawn : (tickets.filter (·.1 ≠ ticket)).lookup ticket = none := by
  rw [List.lookup_eq_none_iff]
  intro entry entryMem
  have kept := (List.mem_filter.mp entryMem).2
  simp only [ne_eq, decide_eq_true_eq] at kept
  simpa using Ne.symm kept

theorem lookup_withdrawn_eq_some_iff :
    (tickets.filter (·.1 ≠ ticket)).lookup other = some found ↔
      other ≠ ticket ∧ tickets.lookup other = some found := by
  by_cases same : other = ticket
  · subst other
    rw [lookup_withdrawn]
    simp
  · rw [lookup_withdrawn_of_ne same]
    simp [same]

namespace Numbered

theorem nil : Numbered ([] : List (Nat × Matter)) issued := by
  intro ticket matter impossible
  cases impossible

theorem withdraw (numbered : Numbered tickets issued) :
    Numbered (tickets.filter (·.1 ≠ ticket)) issued := by
  intro other found isFound
  exact numbered other found (lookup_withdrawn_eq_some_iff.mp isFound).2

theorem give (numbered : Numbered tickets issued) :
    Numbered ((issued, matter) :: tickets) (issued + 1) := by
  intro other found isFound
  by_cases new : other = issued
  · omega
  · rw [lookup_cons_of_ne new] at isFound
    have older := numbered other found isFound
    omega

theorem lookup_give (numbered : Numbered tickets issued)
    (isFound : tickets.lookup ticket = some found) :
    ((issued, matter) :: tickets).lookup ticket = some found := by
  have older := numbered ticket found isFound
  rw [lookup_cons_of_ne (by omega)]
  exact isFound

theorem withdraw_latest (numbered : Numbered tickets issued) :
    ((issued, matter) :: tickets).filter (·.1 ≠ issued) = tickets := by
  have unused : tickets.lookup issued = none := by
    cases found : tickets.lookup issued with
    | none => rfl
    | some matter => exact absurd (numbered issued matter found) (Nat.lt_irrefl issued)
  rw [List.filter_cons_of_neg (by simp), List.filter_eq_self]
  intro entry entryMem
  have different : issued ≠ entry.1 := by
    simpa using List.lookup_eq_none_iff.mp unused entry entryMem
  simpa using different.symm

end Numbered

end Tickets

end PineAssist
