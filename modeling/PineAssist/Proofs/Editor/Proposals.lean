import Mathlib.Data.List.Basic
import PineAssist.Proofs.Editor.HoveredName
import PineAssist.Proofs.Text.LetterCase

/-!
# What is proposed at a cursor

The text in front of a cursor asks for one of three things. `Asks` says for which, without an order
in which the namespaces are tried: no namespace ends in the name of another one, so a text ends in
at most one of them. What is proposed is then a part of the catalogue that can be described entry by
entry, in the order of the catalogue.

A further character of an identifier only makes the word longer that names have to begin with, or
begins one. So typing it never adds a proposal, except behind the dot of a namespace.
-/

namespace PineAssist

namespace Text

theorem suffix_trailing {property : Char → Bool} {line run : Line} (ends : run <:+ line)
    (inside : ∀ char ∈ run, property char) : run <:+ trailing property line := by
  rcases ends with ⟨front, rfl⟩
  have insideReverse : ∀ char ∈ run.reverse, property char := by
    intro char listed
    exact inside char (List.mem_reverse.mp listed)
  refine ⟨(front.reverse.takeWhile property).reverse, ?_⟩
  rw [trailing, List.reverse_append, List.takeWhile_append_of_pos insideReverse,
    List.reverse_append, List.reverse_reverse]

theorem of_trailing_eq_nil {property : Char → Bool} {line : Line}
    (nothing : trailing property line = []) :
    ∀ char, line.getLast? = some char → property char = false := by
  rcases exists_eq_append_trailing property line with ⟨front, isLine, ends⟩
  rw [nothing, List.append_nil] at isLine
  rwa [isLine]

end Text

section Catalog

open Text (Line lowered)

theorem Catalog.beginsWith_iff {name : String} {word : Line} :
    beginsWith name (String.ofList word) ↔ lowered word <+: lowered name.toList := by
  rw [beginsWith, List.isPrefixOf_iff_prefix, String.toList_ofList]
  rfl

end Catalog

namespace Editor

open Text (Line isIdentifierChar lowered loweredBytes trailing)

/-- The name of a namespace with the dot behind which its members are proposed. -/
def Namespace.dotted (scope : Namespace) : Line :=
  scope.name.toList ++ ['.']

/-- What is proposed behind the dot: the entries of one category whose names begin with the name and
the dot, or the constructors of colours. -/
def Namespace.proposed (scope : Namespace) (catalog : Catalog) : List Entry :=
  match scope.source with
  | .catalog category => catalog.entries.filter fun entry =>
      entry.category = category ∧ scope.dotted <+: entry.name.toList
  | .colorConstructors => colorConstructors

/-- The text ends in the name of some namespace and its dot. -/
def EndsInScope (before : Line) : Prop :=
  ∃ scope ∈ namespaces, scope.dotted <:+ before

instance (before : Line) : Decidable (EndsInScope before) :=
  inferInstanceAs (Decidable (∃ scope ∈ namespaces, scope.dotted <:+ before))

/-- What the text in front of a cursor asks for. -/
inductive Asks : Line → Context → Prop where
  | members {before : Line} {scope : Namespace} (listed : scope ∈ namespaces)
      (ends : scope.dotted <:+ before) : Asks before (.members scope)
  | word {front text : Line} (isText : IsIdentifier text)
      (begins : ∀ char, front.getLast? = some char → isIdentifierChar char = false) :
      Asks (front ++ text) (.word text)
  | everything {before : Line} (unscoped : ¬EndsInScope before)
      (ends : ∀ char, before.getLast? = some char → isIdentifierChar char = false) :
      Asks before .everything

/-- The longest end of a text that consists of identifier characters. -/
structure IsLastWord (before word : Line) : Prop where
  ends : word <:+ before
  inside : ∀ char ∈ word, isIdentifierChar char
  longest : ∀ other, other <:+ before → (∀ char ∈ other, isIdentifierChar char) → other <:+ word

theorem isLastWord_trailing (before : Line) :
    IsLastWord before (trailing isIdentifierChar before) where
  ends := Text.trailing_suffix
  inside := by
    intro char listed
    exact Text.of_mem_trailing listed
  longest := by
    intro other ends inside
    exact Text.suffix_trailing ends inside

section Contexts

variable {before : Line} {scope other : Namespace} {context : Context}

theorem namespaces_apart : ∀ scope ∈ namespaces, ∀ other ∈ namespaces,
    scope.dotted <:+ other.dotted → scope = other := by
  decide +kernel

theorem Namespace.eq_of_dotted_suffix (listed : scope ∈ namespaces) (isOther : other ∈ namespaces)
    (ends : scope.dotted <:+ before) (otherEnds : other.dotted <:+ before) : other = scope := by
  rcases List.suffix_or_suffix_of_suffix ends otherEnds with inside | around
  · exact (namespaces_apart scope listed other isOther inside).symm
  · exact namespaces_apart other isOther scope listed around

theorem not_endsInScope_append (front : Line) {text : Line} (isText : IsIdentifier text) :
    ¬EndsInScope (front ++ text) := by
  rintro ⟨scope, _, ends⟩
  have lastOfScope : (front ++ text).getLast? = some '.' := by
    rcases ends with ⟨start, isEnd⟩
    rw [← isEnd, Namespace.dotted, ← List.append_assoc, List.getLast?_concat]
  rw [List.getLast?_append_of_ne_nil front isText.1] at lastOfScope
  exact isText.ne_dot (List.mem_of_getLast? lastOfScope) rfl

theorem endingNamespace?_eq_some_iff :
    endingNamespace? before = some scope ↔ scope ∈ namespaces ∧ scope.dotted <:+ before := by
  have sound {found : Namespace} (isFound : endingNamespace? before = some found) :
      found ∈ namespaces ∧ found.dotted <:+ before := by
    rw [endingNamespace?] at isFound
    have ends := List.find?_some isFound
    exact ⟨List.mem_of_find?_eq_some isFound, List.isSuffixOf_iff_suffix.mp ends⟩
  constructor
  · exact sound
  · rintro ⟨listed, ends⟩
    cases isFound : endingNamespace? before with
    | none =>
        have refused := List.find?_eq_none.mp isFound scope listed
        exact absurd (List.isSuffixOf_iff_suffix.mpr ends) refused
    | some found =>
        rcases sound isFound with ⟨isListed, foundEnds⟩
        rw [Namespace.eq_of_dotted_suffix listed isListed ends foundEnds]

theorem endingNamespace?_eq_none (unscoped : ¬EndsInScope before) :
    endingNamespace? before = none := by
  apply Option.eq_none_iff_forall_ne_some.mpr
  intro scope isFound
  exact unscoped ⟨scope, endingNamespace?_eq_some_iff.mp isFound⟩

theorem Asks.context_eq (asks : Asks before context) : Context.of before = context := by
  cases asks with
  | members listed ends =>
      rw [Context.of, endingNamespace?_eq_some_iff.mpr ⟨listed, ends⟩]
  | @word front text isText begins =>
      have isRun := Text.trailing_run isText.2 begins
      rw [Context.of, endingNamespace?_eq_none (not_endsInScope_append front isText), isRun]
      cases text with
      | nil => exact absurd rfl isText.1
      | cons first others => rfl
  | everything unscoped ends =>
      have isRun : trailing isIdentifierChar (before ++ []) = [] :=
        Text.trailing_run (by simp) ends
      rw [List.append_nil] at isRun
      rw [Context.of, endingNamespace?_eq_none unscoped, isRun]

theorem Asks.trailing (begun : trailing isIdentifierChar before ≠ []) :
    Asks before (.word (trailing isIdentifierChar before)) := by
  rcases Text.exists_eq_append_trailing isIdentifierChar before with ⟨front, isBefore, begins⟩
  have isText : IsIdentifier (Text.trailing isIdentifierChar before) := by
    refine ⟨begun, ?_⟩
    intro char listed
    exact Text.of_mem_trailing listed
  have asks := Asks.word isText begins
  rwa [← isBefore] at asks

/-- Every text asks for something. -/
theorem exists_asks (before : Line) : ∃ context, Asks before context := by
  by_cases ends : EndsInScope before
  · rcases ends with ⟨scope, listed, ends⟩
    exact ⟨.members scope, .members listed ends⟩
  · by_cases begun : trailing isIdentifierChar before = []
    · refine ⟨.everything, .everything ends ?_⟩
      exact Text.of_trailing_eq_nil begun
    · exact ⟨.word (trailing isIdentifierChar before), .trailing begun⟩

theorem asks_context (before : Line) : Asks before (Context.of before) := by
  rcases exists_asks before with ⟨context, asks⟩
  rw [asks.context_eq]
  exact asks

end Contexts

section Proposals

variable {catalog : Catalog} {content : String} {position : Position} {before after : Line}

theorem completions_of_asks {context : Context}
    (isBefore : (Cursor.at? content position).bind Cursor.split? = some (before, after))
    (asks : Asks before context) :
    completions catalog content position = (context.entries catalog).map .ofEntry := by
  rw [completions, isBefore]
  simp only [asks.context_eq]

theorem entries_members (scope : Namespace) :
    (Context.members scope).entries catalog = scope.proposed catalog := by
  rcases scope with ⟨name, source⟩
  cases source with
  | colorConstructors => rfl
  | catalog category =>
      simp only [Context.entries, Catalog.members, Catalog.ofCategory, List.filter_filter]
      apply List.filter_congr
      intro entry _
      rw [Bool.eq_iff_iff, Bool.and_eq_true, decide_eq_true_iff, decide_eq_true_iff, Entry.inScope,
        List.isPrefixOf_iff_prefix, and_comm]
      rfl

theorem entries_word (text : Line) :
    (Context.word text).entries catalog =
      catalog.entries.filter fun entry => lowered text <+: lowered entry.name.toList := by
  apply List.filter_congr
  intro entry _
  rw [Bool.eq_iff_iff, Catalog.beginsWith_iff, decide_eq_true_iff]

/--
Behind the name and the dot of a namespace, of which there is only one then, its members in the
catalogue are proposed, or the constructors of colours. Elsewhere, behind an identifier that has
been begun, the entries are proposed whose names begin like it but for the case of ASCII letters,
whether characters or bytes are compared, and otherwise all entries. They come in the order of the
catalogue.
-/
theorem completions_fit_text (catalog : Catalog) (content : String) (position : Position)
    {line : Line} (isLine : (Text.lines content)[position.line.toNat]? = some line) :
    ∃ before after, (Cursor.at? content position).bind Cursor.split? = some (before, after) ∧
      before ++ after = line ∧
      (∀ scope ∈ namespaces, scope.dotted <:+ before →
        (∀ other ∈ namespaces, other.dotted <:+ before → other = scope) ∧
        completions catalog content position = (scope.proposed catalog).map .ofEntry) ∧
      (¬EndsInScope before →
        (∀ char, before.getLast? = some char → isIdentifierChar char →
          ∃ word, IsLastWord before word ∧
            completions catalog content position =
              (catalog.entries.filter fun entry =>
                lowered word <+: lowered entry.name.toList).map .ofEntry ∧
            completions catalog content position =
              (catalog.entries.filter fun entry =>
                loweredBytes (String.ofList word) <+: loweredBytes entry.name).map .ofEntry) ∧
        ((∀ char, before.getLast? = some char → isIdentifierChar char = false) →
          completions catalog content position = catalog.entries.map .ofEntry)) := by
  rcases Cursor.exists_at? isLine with ⟨before, after, rfl, isCursor⟩
  have isBefore : (Cursor.at? content position).bind Cursor.split? = some (before, after) := by
    rw [isCursor, Option.bind_some, (Cursor.cuts_append before after).halves]
  refine ⟨before, after, isBefore, rfl, ?_, ?_⟩
  · intro scope listed ends
    constructor
    · intro other isOther otherEnds
      exact Namespace.eq_of_dotted_suffix listed isOther ends otherEnds
    · rw [completions_of_asks isBefore (.members listed ends), entries_members]
  · intro unscoped
    constructor
    · intro char isLast inName
      have begun : trailing isIdentifierChar before ≠ [] := by
        intro nothing
        have outside := Text.of_trailing_eq_nil nothing char isLast
        rw [outside] at inName
        cases inName
      have proposed : completions catalog content position = _ :=
        completions_of_asks isBefore (.trailing begun)
      rw [entries_word] at proposed
      refine ⟨trailing isIdentifierChar before, isLastWord_trailing before, proposed, ?_⟩
      simp only [Text.loweredBytes_prefix_iff, String.toList_ofList]
      exact proposed
    · intro ends
      rw [completions_of_asks isBefore (.everything unscoped ends)]
      rfl

/-- A catalogue with a member of a namespace and a name that begins like the namespace. -/
def averageAndTag : Catalog :=
  ⟨[⟨"Tag", .value, "string", "Name of the symbol.", none⟩,
    ⟨"ta.sma", .function, "ta.sma(source, length)", "Simple moving average.", none⟩]⟩

/-- A text need not be about a namespace to end in its name. -/
theorem completions_fit_text_longerName :
    (completions averageAndTag "x\né = data." ⟨1, 9⟩).map (·.label) = ["ta.sma"] := by
  have isLine : (Text.lines "x\né = data.")[1]? = some "é = data.".toList := by decide +kernel
  have isSplit : (Cursor.at? "x\né = data." ⟨1, 9⟩).bind Cursor.split? =
      some ("é = data.".toList, []) := by decide +kernel
  rcases completions_fit_text averageAndTag "x\né = data." ⟨1, 9⟩ isLine with
    ⟨before, after, isBefore, _, members, _⟩
  rw [isSplit] at isBefore
  cases isBefore
  have proposed := members ⟨"ta", .catalog .function⟩ (by decide) (by decide +kernel)
  rw [proposed.2]
  decide +kernel

/-- Elsewhere the case of the word does not matter. -/
example : (completions averageAndTag "é = TA" ⟨0, 6⟩).map (·.label) = ["Tag", "ta.sma"] := by
  decide +kernel

section Typing

variable {char : Char}

theorem startingWith_append_sublist (text more : Line) :
    (catalog.startingWith (String.ofList (text ++ more))).Sublist
      (catalog.startingWith (String.ofList text)) := by
  apply List.monotone_filter_right
  intro entry begins
  rw [Catalog.beginsWith_iff] at begins ⊢
  apply List.IsPrefix.trans _ begins
  exact (List.prefix_append text more).map Char.toLower

/-- A character of an identifier continues the word in front of it or begins a new one. -/
theorem entries_typed_sublist (inName : isIdentifierChar char) (unscoped : ¬EndsInScope before) :
    ((Context.of (before ++ [char])).entries catalog).Sublist
      ((Context.of before).entries catalog) := by
  have isWord : IsIdentifier [char] := by simpa [IsIdentifier] using inName
  have asks := asks_context before
  generalize Context.of before = context at asks
  cases asks with
  | members listed ends => exact absurd ⟨_, listed, ends⟩ unscoped
  | @word front text isText begins =>
      have isLonger : IsIdentifier (text ++ [char]) := by
        refine ⟨by simp, ?_⟩
        intro other listed
        rcases List.mem_append.mp listed with inText | isTyped
        · exact isText.2 other inText
        · exact isWord.2 other isTyped
      rw [List.append_assoc, (Asks.word isLonger begins).context_eq]
      exact startingWith_append_sublist text [char]
  | everything _ ends =>
      rw [(Asks.word isWord ends).context_eq]
      exact List.filter_sublist

/--
Typing narrows: where the text in front of one cursor is that in front of another one and a further
character of an identifier, every proposal at the first is also made at the second, in the same
order, unless the shorter text ends in the dot of a namespace.
-/
theorem completions_narrow (catalog : Catalog) {content typed : String}
    {position following : Position} {before after rest : Line} {char : Char}
    (isBefore : (Cursor.at? content position).bind Cursor.split? = some (before, after))
    (isTyped : (Cursor.at? typed following).bind Cursor.split? = some (before ++ [char], rest))
    (unscoped : ¬EndsInScope before) (inName : isIdentifierChar char) :
    (completions catalog typed following).Sublist (completions catalog content position) := by
  rw [completions_of_asks isBefore (asks_context before),
    completions_of_asks isTyped (asks_context (before ++ [char]))]
  apply List.Sublist.map
  exact entries_typed_sublist inName unscoped

/-- The third character of a word leaves one of two proposals. -/
theorem completions_narrow_thirdCharacter :
    ¬EndsInScope "plot(TA".toList ∧
      (completions averageAndTag "plot(TAG)" ⟨0, 8⟩).Sublist
        (completions averageAndTag "plot(TA" ⟨0, 7⟩) := by
  have isBefore : (Cursor.at? "plot(TA" ⟨0, 7⟩).bind Cursor.split? =
      some ("plot(TA".toList, []) := by decide +kernel
  have isTyped : (Cursor.at? "plot(TAG)" ⟨0, 8⟩).bind Cursor.split? =
      some ("plot(TA".toList ++ ['G'], [')']) := by decide +kernel
  have unscoped : ¬EndsInScope "plot(TA".toList := by decide +kernel
  exact ⟨unscoped, completions_narrow averageAndTag isBefore isTyped unscoped (by decide)⟩

/-- Behind the dot of a namespace the members give way to names that begin with the character. -/
example : (completions averageAndTag "ta." ⟨0, 3⟩).map (·.label) = ["ta.sma"] ∧
    (completions averageAndTag "ta.t" ⟨0, 4⟩).map (·.label) = ["Tag", "ta.sma"] := by
  decide +kernel

end Typing

end Proposals

end Editor

end PineAssist
