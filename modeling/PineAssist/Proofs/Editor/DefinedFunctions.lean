import PineAssist.Editor.Outline
import PineAssist.Proofs.Text.Lexemes

/-!
# Which function a line defines

The outline looks for the name of a function among the lexemes of a line. A `FunctionDefinition`
says without lexemes what it looks for: word characters, a parenthesis with arguments up to the
first closing one, and an arrow, with white space allowed before the parenthesis and before the
arrow. A definition may begin in the middle of a word or among the arguments of another one. The one
that begins first does neither, and its name is the one that the outline lists.

The proof takes the line apart lexeme by lexeme. A definition of the line begins in its first
lexeme, which is then a word with a `Signature` behind it, or it is a definition of the rest.
-/

namespace PineAssist.Editor

open Text (IsSpacing IsWordRun Lexeme Line lexemes skipBlank)
open Unicode (isWord isWord_eq_false_of_isWhiteSpace)

/-- What follows the name of a function where it is defined. -/
structure Signature (line : Line) where
  gap : Line
  arguments : Line
  space : Line
  body : Line
  line_eq : line = gap ++ '(' :: (arguments ++ ')' :: (space ++ '=' :: '>' :: body))
  gap_white : IsSpacing gap
  /-- The first closing parenthesis ends the arguments. -/
  closing_notMem : ')' ∉ arguments
  space_white : IsSpacing space

/-- A place on a line where word characters have a signature behind them. -/
structure FunctionDefinition (line : Line) where
  before : Line
  name : Line
  behind : Line
  line_eq : line = before ++ (name ++ behind)
  name_word : IsWordRun name
  signature : Signature behind

namespace FunctionDefinition

variable {line : Line}

/-- No definition on the line begins earlier. -/
def IsFirst (definition : FunctionDefinition line) : Prop :=
  ∀ other : FunctionDefinition line, definition.before.length ≤ other.before.length

/-- The name is a word of the line and not a part of one. -/
def IsWholeWord (definition : FunctionDefinition line) : Prop :=
  (∀ char, definition.before.getLast? = some char → isWord char = false) ∧
    ∀ char, definition.behind.head? = some char → isWord char = false

end FunctionDefinition

/-- Whether the name of a function ends with this lexeme. -/
def NamesFunction (lexeme : Lexeme) (rest : Line) : Prop :=
  ∃ name, lexeme = .word name ∧ Nonempty (Signature rest)

section Signatures

variable {line rest arguments text : Line} {lexeme : Lexeme} {char : Char}
  {following : List Lexeme}

theorem afterClosing_attach (other : char ≠ ')') :
    afterClosing (Lexeme.attach char following) = afterClosing following := by
  unfold Lexeme.attach
  split
  · split <;> simp [afterClosing]
  · split
    · split <;> simp [afterClosing]
    · simp [afterClosing, other]

theorem afterClosing_lexemes_append (notClosed : ')' ∉ arguments) :
    afterClosing (lexemes (arguments ++ rest)) = afterClosing (lexemes rest) := by
  induction arguments with
  | nil => rfl
  | cons char arguments ih =>
      rw [List.mem_cons, not_or] at notClosed
      have attached : lexemes (char :: arguments ++ rest) =
          Lexeme.attach char (lexemes (arguments ++ rest)) := rfl
      rw [attached, afterClosing_attach (Ne.symm notClosed.1), ih notClosed.2]

theorem startsWithArrow_lexemes_iff :
    startsWithArrow (lexemes line) ↔
      ∃ space body, line = space ++ '=' :: '>' :: body ∧ IsSpacing space := by
  have isArrow : startsWithArrow (lexemes line) ↔
      ∃ following, skipBlank (lexemes line) = .mark '=' :: .mark '>' :: following := by
    rw [startsWithArrow, List.isPrefixOf_iff_prefix]
    constructor
    · rintro ⟨following, isNext⟩
      exact ⟨following, isNext.symm⟩
    · rintro ⟨following, isNext⟩
      exact ⟨following, isNext.symm⟩
  rw [isArrow]
  constructor
  · rintro ⟨following, isNext⟩
    rcases Text.skipBlank_lexemes_eq_mark_iff.mp isNext with ⟨space, rest, rfl, white, _, isRest⟩
    rcases Text.lexemes_eq_cons_iff.mp isRest.symm with ⟨body, rfl, _, _⟩
    exact ⟨space, body, rfl, white⟩
  · rintro ⟨space, body, rfl, white⟩
    refine ⟨lexemes body, Text.skipBlank_lexemes_eq_mark_iff.mpr
      ⟨space, '>' :: body, rfl, white, by decide +kernel, ?_⟩⟩
    exact (Text.lexemes_mark (by decide +kernel) (by decide +kernel)).symm

theorem startsWithArrow_afterClosing_iff :
    startsWithArrow (afterClosing (lexemes line)) ↔
      ∃ arguments rest, line = arguments ++ ')' :: rest ∧ ')' ∉ arguments ∧
        startsWithArrow (lexemes rest) := by
  have closed (rest : Line) : afterClosing (lexemes (')' :: rest)) = lexemes rest := by
    rw [Text.lexemes_mark (by decide +kernel) (by decide +kernel), afterClosing]
  constructor
  · intro arrow
    by_cases closing : ')' ∈ line
    · rcases List.eq_append_cons_of_mem closing with ⟨arguments, rest, rfl, notClosed⟩
      rw [afterClosing_lexemes_append notClosed, closed] at arrow
      exact ⟨arguments, rest, rfl, notClosed, arrow⟩
    · rw [← List.append_nil line, afterClosing_lexemes_append closing] at arrow
      cases arrow
  · rintro ⟨arguments, rest, rfl, notClosed, arrow⟩
    rwa [afterClosing_lexemes_append notClosed, closed]

/-- A signature is what the lexemes behind a name are tried for. -/
theorem nonempty_signature_iff :
    Nonempty (Signature line) ↔
      ∃ arguments, skipBlank (lexemes line) = .mark '(' :: arguments ∧
        startsWithArrow (afterClosing arguments) := by
  constructor
  · rintro ⟨gap, arguments, space, body, rfl, gapWhite, notClosed, spaceWhite⟩
    refine ⟨_, Text.skipBlank_lexemes_eq_mark_iff.mpr
      ⟨gap, _, rfl, gapWhite, by decide +kernel, rfl⟩, ?_⟩
    apply startsWithArrow_afterClosing_iff.mpr
    refine ⟨arguments, _, rfl, notClosed, ?_⟩
    exact startsWithArrow_lexemes_iff.mpr ⟨space, body, rfl, spaceWhite⟩
  · rintro ⟨_, opens, arrow⟩
    rcases Text.skipBlank_lexemes_eq_mark_iff.mp opens with ⟨gap, _, isLine, gapWhite, _, rfl⟩
    rcases startsWithArrow_afterClosing_iff.mp arrow with ⟨arguments, _, rfl, notClosed, arrow⟩
    rcases startsWithArrow_lexemes_iff.mp arrow with ⟨space, body, rfl, spaceWhite⟩
    exact ⟨⟨gap, arguments, space, body, isLine, gapWhite, notClosed, spaceWhite⟩⟩

/-- The word in front of a signature is found. -/
theorem definedFunction?_of_signature (signature : Signature rest) :
    definedFunction? (.word text :: lexemes rest) = some text := by
  rcases nonempty_signature_iff.mp ⟨signature⟩ with ⟨arguments, opens, arrow⟩
  simp only [definedFunction?, opens, arrow, if_true]

/-- Every other lexeme is passed over. -/
theorem definedFunction?_of_not_namesFunction (passed : ¬NamesFunction lexeme rest) :
    definedFunction? (lexeme :: lexemes rest) = definedFunction? (lexemes rest) := by
  cases lexeme with
  | blank text => rfl
  | mark char => rfl
  | word text =>
      rw [definedFunction?]
      split
      · next arguments opens =>
        apply if_neg
        intro arrow
        exact passed ⟨text, rfl, nonempty_signature_iff.mpr ⟨arguments, opens, arrow⟩⟩
      · rfl

theorem Signature.boundary (signature : Signature line) :
    ∀ next, line.head? = some next → isWord next = false := by
  rcases signature with ⟨gap, arguments, space, body, rfl, gapWhite, _, _⟩
  intro next isNext
  cases gap with
  | nil =>
      cases isNext
      decide +kernel
  | cons first gap =>
      cases isNext
      exact isWord_eq_false_of_isWhiteSpace (gapWhite next List.mem_cons_self)

end Signatures

namespace FunctionDefinition

variable {line rest text name : Line} {lexeme : Lexeme}

/-- Word characters in front of a signature end where a run of them ends. -/
theorem name_eq_takeWhile (definition : FunctionDefinition line) :
    (definition.name ++ definition.behind).takeWhile isWord = definition.name :=
  Text.takeWhile_run definition.name_word.2 definition.signature.boundary

/-- The definition that begins with the line. -/
def ofSignature (isRun : IsWordRun text) (signature : Signature rest) :
    FunctionDefinition (text ++ rest) :=
  ⟨[], text, rest, rfl, isRun, signature⟩

/-- The definition further down on a longer line. -/
def movedBehind (skipped : Line) (definition : FunctionDefinition rest) :
    FunctionDefinition (skipped ++ rest) where
  before := skipped ++ definition.before
  name := definition.name
  behind := definition.behind
  line_eq := by rw [List.append_assoc, ← definition.line_eq]
  name_word := definition.name_word
  signature := definition.signature

/--
A definition of a line begins in the first lexeme or stands in the rest. In the first case the
lexeme is a word, and the name ends together with it.
-/
theorem first_or_behind (definition : FunctionDefinition (lexeme.chars ++ rest))
    (ends : lexeme.EndsBefore rest) :
    NamesFunction lexeme rest ∨
      ∃ inRest : FunctionDefinition rest,
        definition.before.length = lexeme.chars.length + inRest.before.length := by
  rcases definition with ⟨before, name, behind, isLine, isRun, signature⟩
  rcases List.append_eq_append_iff.mp isLine with ⟨passed, rfl, isRest⟩ | ⟨covered, isChars, isName⟩
  · right
    exact ⟨⟨passed, name, behind, isRest, isRun, signature⟩, List.length_append⟩
  cases covered with
  | nil =>
      right
      rw [List.append_nil] at isChars
      exact ⟨⟨[], name, behind, isName.symm, isRun, signature⟩, by simp [isChars]⟩
  | cons char covered =>
      left
      have inWord : isWord char := by
        cases name with
        | nil => exact absurd rfl isRun.1
        | cons letter letters =>
            rw [← (List.cons.inj isName).1]
            exact isRun.2 letter List.mem_cons_self
      rcases ends.exists_word (by simp [isChars]) inWord with ⟨text, rfl⟩
      have inText : ∀ letter ∈ char :: covered, isWord letter := by
        intro letter listed
        apply ends.1.2 letter
        rw [show text = before ++ char :: covered from isChars]
        exact List.mem_append_right before listed
      have sameName : name = char :: covered := by
        rw [← Text.takeWhile_run isRun.2 signature.boundary, isName,
          Text.takeWhile_run inText ends.2]
      rw [sameName, List.append_cancel_left_eq] at isName
      exact ⟨text, rfl, ⟨isName ▸ signature⟩⟩

/-- The name that is found belongs to a definition that begins first. -/
theorem exists_isFirst (found : definedFunction? (lexemes line) = some name) :
    ∃ definition : FunctionDefinition line, definition.IsFirst ∧ definition.name = name := by
  generalize isLine : lexemes line = following at found
  induction following generalizing line with
  | nil => cases found
  | cons lexeme following ih =>
      rcases Text.lexemes_eq_cons_iff.mp isLine with ⟨rest, rfl, ends, rfl⟩
      by_cases named : NamesFunction lexeme rest
      · rcases named with ⟨text, rfl, ⟨signature⟩⟩
        rw [definedFunction?_of_signature signature, Option.some.injEq] at found
        exact ⟨ofSignature ends.1 signature, fun other => Nat.zero_le _, found⟩
      · rw [definedFunction?_of_not_namesFunction named] at found
        rcases ih rfl found with ⟨inRest, isFirst, isName⟩
        refine ⟨inRest.movedBehind lexeme.chars, ?_, isName⟩
        intro other
        rcases other.first_or_behind ends with atFirst | ⟨otherInRest, isLength⟩
        · exact absurd atFirst named
        · have inFront := isFirst otherInRest
          simp only [movedBehind, List.length_append, isLength]
          omega

theorem isSome_definedFunction? (definition : FunctionDefinition line) :
    (definedFunction? (lexemes line)).isSome := by
  generalize isLine : lexemes line = following
  induction following generalizing line with
  | nil =>
      have isEmpty := definition.line_eq.symm.trans (Text.lexemes_eq_nil_iff.mp isLine)
      simp [definition.name_word.1] at isEmpty
  | cons lexeme following ih =>
      rcases Text.lexemes_eq_cons_iff.mp isLine with ⟨rest, rfl, ends, rfl⟩
      by_cases named : NamesFunction lexeme rest
      · rcases named with ⟨text, rfl, ⟨signature⟩⟩
        rw [definedFunction?_of_signature signature, Option.isSome_some]
      · rcases definition.first_or_behind ends with atFirst | ⟨inRest, _⟩
        · exact absurd atFirst named
        · rw [definedFunction?_of_not_namesFunction named]
          exact ih inRest rfl

/-- Definitions that begin first begin at the same place, and there only one word ends in front of a
signature. -/
theorem name_eq_of_isFirst {first second : FunctionDefinition line} (isFirst : first.IsFirst)
    (alsoFirst : second.IsFirst) : first.name = second.name := by
  have sameLength := Nat.le_antisymm (isFirst second) (alsoFirst first)
  have sameLine := first.line_eq.symm.trans second.line_eq
  have sameRest := (List.append_inj sameLine sameLength).2
  rw [← first.name_eq_takeWhile, sameRest, second.name_eq_takeWhile]

/-- A name that could be extended to the left would belong to an earlier definition. -/
theorem IsFirst.isWholeWord {definition : FunctionDefinition line} (isFirst : definition.IsFirst) :
    definition.IsWholeWord := by
  refine ⟨?_, definition.signature.boundary⟩
  intro char isLast
  rcases definition with ⟨before, name, behind, isLine, isRun, signature⟩
  rcases List.eq_nil_or_concat before with rfl | ⟨others, last, rfl⟩
  · cases isLast
  · have isChar : last = char := by simpa using isLast
    subst isChar
    apply Bool.eq_false_iff.mpr
    intro inWord
    have extended : IsWordRun (last :: name) := by
      refine ⟨List.cons_ne_nil last name, ?_⟩
      intro letter listed
      rcases List.mem_cons.mp listed with rfl | listed
      · exact inWord
      · exact isRun.2 letter listed
    have earlier :=
      isFirst ⟨others, last :: name, behind, by simpa using isLine, extended, signature⟩
    simp only [List.length_concat] at earlier
    omega

end FunctionDefinition

/--
The outline lists a function for a line exactly if the line has a definition of one. The name that
it lists is that of a definition that begins first, and such a name is a whole word of the line.
-/
theorem detects_first_definition (line : Line) :
    ((detectFunction (lexemes line)).isSome ↔ Nonempty (FunctionDefinition line)) ∧
    (∀ symbol, detectFunction (lexemes line) = some symbol ↔
      ∃ definition : FunctionDefinition line, definition.IsFirst ∧
        symbol = (String.ofList definition.name, .function)) ∧
    ∀ definition : FunctionDefinition line, definition.IsFirst → definition.IsWholeWord := by
  have isFound :
      (detectFunction (lexemes line)).isSome = (definedFunction? (lexemes line)).isSome :=
    Option.isSome_map
  refine ⟨?_, ?_, ?_⟩
  · rw [isFound, Option.isSome_iff_exists]
    constructor
    · rintro ⟨name, found⟩
      rcases FunctionDefinition.exists_isFirst found with ⟨definition, _⟩
      exact ⟨definition⟩
    · rintro ⟨definition⟩
      exact Option.isSome_iff_exists.mp definition.isSome_definedFunction?
  · intro symbol
    rw [detectFunction, Option.map_eq_some_iff]
    constructor
    · rintro ⟨name, found, rfl⟩
      rcases FunctionDefinition.exists_isFirst found with ⟨definition, isFirst, rfl⟩
      exact ⟨definition, isFirst, rfl⟩
    · rintro ⟨definition, isFirst, rfl⟩
      rcases Option.isSome_iff_exists.mp definition.isSome_definedFunction? with ⟨name, found⟩
      rcases FunctionDefinition.exists_isFirst found with ⟨other, alsoFirst, isName⟩
      refine ⟨name, found, ?_⟩
      rw [← isName, FunctionDefinition.name_eq_of_isFirst alsoFirst isFirst]
  · intro definition isFirst
    exact isFirst.isWholeWord

/-- A line on which the arguments of one function reach up to the arrow of another one. -/
def nestedArguments : Line := "größe (a, f (b) => c".toList

/-- The definition with which the line begins. -/
def outerDefinition : FunctionDefinition nestedArguments where
  before := []
  name := "größe".toList
  behind := " (a, f (b) => c".toList
  line_eq := by decide +kernel
  name_word := by decide +kernel
  signature := ⟨[' '], "a, f (b".toList, [' '], " c".toList, by decide +kernel, by decide +kernel,
    by decide +kernel, by decide +kernel⟩

/-- The definition inside its arguments. -/
def innerDefinition : FunctionDefinition nestedArguments where
  before := "größe (a, ".toList
  name := ['f']
  behind := " (b) => c".toList
  line_eq := by decide +kernel
  name_word := by decide +kernel
  signature := ⟨[' '], ['b'], [' '], " c".toList, by decide +kernel, by decide +kernel,
    by decide +kernel, by decide +kernel⟩

theorem detects_first_definition_nestedArguments :
    outerDefinition.IsFirst ∧ ¬innerDefinition.IsFirst ∧ outerDefinition.IsWholeWord ∧
      detectFunction (lexemes nestedArguments) = some ("größe", .function) := by
  have isFirst : outerDefinition.IsFirst := fun other => Nat.zero_le _
  have later : ¬innerDefinition.IsFirst := by
    intro alsoFirst
    have inFront := alsoFirst outerDefinition
    contradiction
  rcases detects_first_definition nestedArguments with ⟨_, found, whole⟩
  exact ⟨isFirst, later, whole outerDefinition isFirst,
    (found ("größe", .function)).mpr ⟨outerDefinition, isFirst, by decide +kernel⟩⟩

end PineAssist.Editor
