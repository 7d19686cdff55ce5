import PineAssist.Text.Lexeme

/-!
# Reading lexemes off a line

A word that is followed by anything but a word character is the first lexeme of its line, and so is
a blank that is followed by anything but white space. Lines of a known shape can thus be taken apart
from the left. Marks are found among the lexemes wherever they stand on the line. Conversely, the
first lexeme of any line can be split off: `lexemes_eq_cons_iff` says where it ends.
-/

namespace PineAssist.Text

open Unicode (isWhiteSpace isWord isWord_eq_false_of_isWhiteSpace)

/-- One word character or more. -/
def IsWordRun (text : Line) : Prop :=
  text ≠ [] ∧ ∀ char ∈ text, isWord char

/-- White-space characters, perhaps none. -/
def IsSpacing (text : Line) : Prop :=
  ∀ char ∈ text, isWhiteSpace char

/-- One white-space character or more. -/
def IsBlankRun (text : Line) : Prop :=
  text ≠ [] ∧ IsSpacing text

instance (text : Line) : Decidable (IsWordRun text) :=
  decidable_of_iff (text ≠ [] ∧ text.all isWord) (and_congr_right fun _ => List.all_eq_true)

instance (text : Line) : Decidable (IsSpacing text) :=
  decidable_of_iff (text.all isWhiteSpace) List.all_eq_true

instance (text : Line) : Decidable (IsBlankRun text) :=
  inferInstanceAs (Decidable (text ≠ [] ∧ IsSpacing text))

variable {text rest : Line} {char : Char} {following : List Lexeme}

namespace Lexeme

theorem attach_word (inWord : isWord char) (text : Line) :
    attach char (word text :: following) = word (char :: text) :: following := by
  simp [attach, inWord]

theorem attach_blank (white : isWhiteSpace char) (text : Line) :
    attach char (blank text :: following) = blank (char :: text) :: following := by
  simp [attach, white, isWord_eq_false_of_isWhiteSpace white]

theorem attach_beginning_word (inWord : isWord char)
    (noWord : ∀ text rest, following ≠ word text :: rest) :
    attach char following = word [char] :: following := by
  unfold attach
  rw [if_pos inWord]
  split
  · next text rest => exact absurd rfl (noWord text rest)
  · rfl

theorem attach_beginning_blank (white : isWhiteSpace char)
    (noBlank : ∀ text rest, following ≠ blank text :: rest) :
    attach char following = blank [char] :: following := by
  have notWord := isWord_eq_false_of_isWhiteSpace white
  unfold attach
  rw [if_neg (by simp [notWord]), if_pos white]
  split
  · next text rest => exact absurd rfl (noBlank text rest)
  · rfl

theorem mark_mem_attach {mark : Char} :
    Lexeme.mark mark ∈ attach char following ↔
      (mark = char ∧ isWord char = false ∧ isWhiteSpace char = false) ∨
        Lexeme.mark mark ∈ following := by
  unfold attach
  split
  · next inWord => split <;> simp [inWord]
  · next notWord =>
    split
    · next white => split <;> simp [white]
    · next notWhite => simp [notWord, notWhite]

end Lexeme

theorem lexemes_eq_nil_iff : lexemes rest = [] ↔ rest = [] := by
  constructor
  · intro empty
    rw [← flatMap_chars_lexemes rest, empty, List.flatMap_nil]
  · rintro rfl
    rfl

/-- The marks of a line are its characters that belong neither to words nor to blanks. -/
theorem mark_mem_lexemes_iff {mark : Char} :
    Lexeme.mark mark ∈ lexemes rest ↔
      mark ∈ rest ∧ isWord mark = false ∧ isWhiteSpace mark = false := by
  induction rest with
  | nil => simp [lexemes]
  | cons first rest ih =>
      have attached : Lexeme.mark mark ∈ lexemes (first :: rest) ↔ _ := Lexeme.mark_mem_attach
      rw [attached, List.mem_cons]
      change _ ∨ Lexeme.mark mark ∈ lexemes rest ↔ _
      rw [ih]
      constructor
      · rintro (⟨rfl, notWord, notWhite⟩ | ⟨listed, isMark⟩)
        · exact ⟨.inl rfl, notWord, notWhite⟩
        · exact ⟨.inr listed, isMark⟩
      · rintro ⟨rfl | listed, isMark⟩
        · exact .inl ⟨rfl, isMark⟩
        · exact .inr ⟨listed, isMark⟩

theorem lexemes_mark (notWord : isWord char = false) (notWhite : isWhiteSpace char = false) :
    lexemes (char :: rest) = .mark char :: lexemes rest := by
  simp [lexemes, Lexeme.attach, notWord, notWhite]

section Boundaries

theorem isWhiteSpace_eq_false_of_isWord (inWord : isWord char) : isWhiteSpace char = false := by
  cases white : isWhiteSpace char with
  | false => rfl
  | true =>
      rw [isWord_eq_false_of_isWhiteSpace white] at inWord
      contradiction

theorem IsWordRun.boundary (isRun : IsWordRun text) (rest : Line) :
    ∀ next, (text ++ rest).head? = some next → isWhiteSpace next = false := by
  intro next isNext
  cases text with
  | nil => exact absurd rfl isRun.1
  | cons first text =>
      cases isNext
      exact isWhiteSpace_eq_false_of_isWord (isRun.2 next (by simp))

theorem IsBlankRun.boundary (isRun : IsBlankRun text) (rest : Line) :
    ∀ next, (text ++ rest).head? = some next → isWord next = false := by
  intro next isNext
  cases text with
  | nil => exact absurd rfl isRun.1
  | cons first text =>
      cases isNext
      exact isWord_eq_false_of_isWhiteSpace (isRun.2 next (by simp))

theorem lexemes_ne_word (boundary : ∀ next, rest.head? = some next → isWord next = false)
    (text : Line) (following : List Lexeme) : lexemes rest ≠ .word text :: following := by
  cases rest with
  | nil => simp [lexemes]
  | cons first rest =>
      have notWord := boundary first rfl
      simp only [lexemes, List.foldr_cons, Lexeme.attach, notWord, Bool.false_eq_true, if_false]
      split
      · split <;> simp
      · simp

theorem lexemes_ne_blank (boundary : ∀ next, rest.head? = some next → isWhiteSpace next = false)
    (text : Line) (following : List Lexeme) : lexemes rest ≠ .blank text :: following := by
  cases rest with
  | nil => simp [lexemes]
  | cons first rest =>
      have notWhite := boundary first rfl
      simp only [lexemes, List.foldr_cons, Lexeme.attach, notWhite, Bool.false_eq_true, if_false]
      split
      · split <;> simp
      · simp

/-- Words and blanks grow in the same way; only what their characters do to what follows differs. -/
theorem lexemes_run {run : Line → Lexeme} (nonempty : text ≠ [])
    (begins : ∀ char ∈ text, Lexeme.attach char (lexemes rest) = run [char] :: lexemes rest)
    (joins : ∀ char ∈ text, ∀ part,
      Lexeme.attach char (run part :: lexemes rest) = run (char :: part) :: lexemes rest) :
    lexemes (text ++ rest) = run text :: lexemes rest := by
  induction text with
  | nil => contradiction
  | cons first text ih =>
      have attached : lexemes (first :: text ++ rest) =
          Lexeme.attach first (lexemes (text ++ rest)) := rfl
      rw [attached]
      cases text with
      | nil => exact begins first (by simp)
      | cons second text =>
          rw [ih (List.cons_ne_nil second text)]
          · exact joins first (by simp) (second :: text)
          · intro char listed
            exact begins char (List.mem_cons_of_mem first listed)
          · intro char listed
            exact joins char (List.mem_cons_of_mem first listed)

/-- A word that ends where its run of word characters ends is read as one lexeme. -/
theorem lexemes_word (isRun : IsWordRun text)
    (boundary : ∀ next, rest.head? = some next → isWord next = false) :
    lexemes (text ++ rest) = .word text :: lexemes rest := by
  apply lexemes_run isRun.1
  · intro char listed
    exact Lexeme.attach_beginning_word (isRun.2 char listed) (lexemes_ne_word boundary)
  · intro char listed part
    exact Lexeme.attach_word (isRun.2 char listed) part

/-- White space that ends where its run ends is read as one lexeme. -/
theorem lexemes_blank (isRun : IsBlankRun text)
    (boundary : ∀ next, rest.head? = some next → isWhiteSpace next = false) :
    lexemes (text ++ rest) = .blank text :: lexemes rest := by
  apply lexemes_run isRun.1
  · intro char listed
    exact Lexeme.attach_beginning_blank (isRun.2 char listed) (lexemes_ne_blank boundary)
  · intro char listed part
    exact Lexeme.attach_blank (isRun.2 char listed) part

/-- White space in front of something else is a blank or nothing at all. -/
theorem lexemes_spacing (white : IsSpacing text)
    (boundary : ∀ next, rest.head? = some next → isWhiteSpace next = false) :
    (text = [] ∧ lexemes (text ++ rest) = lexemes rest) ∨
      lexemes (text ++ rest) = .blank text :: lexemes rest := by
  by_cases empty : text = []
  · left
    exact ⟨empty, by rw [empty, List.nil_append]⟩
  · right
    exact lexemes_blank ⟨empty, white⟩ boundary

end Boundaries

section FirstLexeme

/-- A lexeme that does not reach into the rest of the line. -/
def Lexeme.EndsBefore (lexeme : Lexeme) (rest : Line) : Prop :=
  match lexeme with
  | word text => IsWordRun text ∧ ∀ next, rest.head? = some next → isWord next = false
  | blank text => IsBlankRun text ∧ ∀ next, rest.head? = some next → isWhiteSpace next = false
  | mark char => isWord char = false ∧ isWhiteSpace char = false

theorem Lexeme.EndsBefore.lexemes_append {lexeme : Lexeme} (ends : lexeme.EndsBefore rest) :
    lexemes (lexeme.chars ++ rest) = lexeme :: lexemes rest := by
  cases lexeme with
  | word text => exact lexemes_word ends.1 ends.2
  | blank text => exact lexemes_blank ends.1 ends.2
  | mark char => exact lexemes_mark ends.1 ends.2

theorem Lexeme.EndsBefore.exists_word {lexeme : Lexeme} (ends : lexeme.EndsBefore rest)
    (listed : char ∈ lexeme.chars) (inWord : isWord char) : ∃ text, lexeme = .word text := by
  cases lexeme with
  | word text => exact ⟨text, rfl⟩
  | blank text =>
      rw [isWord_eq_false_of_isWhiteSpace (ends.1.2 char listed)] at inWord
      contradiction
  | mark single =>
      rw [List.mem_singleton.mp listed, ends.1] at inWord
      contradiction

/-- Two word characters never meet at the end of a lexeme. -/
theorem Lexeme.EndsBefore.seam {lexeme : Lexeme} (ends : lexeme.EndsBefore rest) (before : Line) :
    ∀ char next, (before ++ lexeme.chars).getLast? = some char → rest.head? = some next →
      isWord next → isWord char = false := by
  intro char next isLast isNext inWord
  cases lexeme with
  | word text =>
      rw [ends.2 next isNext] at inWord
      contradiction
  | blank text =>
      rcases List.eq_nil_or_concat text with empty | ⟨_, last, rfl⟩
      · exact absurd empty ends.1.1
      · have isChar : last = char := by simpa [Lexeme.chars] using isLast
        exact isWord_eq_false_of_isWhiteSpace (ends.1.2 char (by simp [isChar]))
  | mark single =>
      have isChar : single = char := by simpa [Lexeme.chars] using isLast
      exact isChar ▸ ends.1

/--
A word that begins in a lexeme begins together with it: the lexeme is a word, too, and what is
skipped of it would be a word character in front of the other one.
-/
theorem Lexeme.EndsBefore.prefix_or_eq_nil {lexeme : Lexeme} {skipped word behind : Line}
    (ends : lexeme.EndsBefore rest) (isLine : lexeme.chars ++ rest = skipped ++ (word ++ behind))
    (isRun : IsWordRun word)
    (begins : ∀ char, skipped.getLast? = some char → isWord char = false) :
    lexeme.chars <+: skipped ∨ skipped = [] := by
  rcases List.append_eq_append_iff.mp isLine with ⟨passed, rfl, _⟩ | ⟨covered, isChars, isWordAt⟩
  · left
    exact List.prefix_append _ passed
  cases covered with
  | nil =>
      left
      exact ⟨[], by rw [List.append_nil, isChars, List.append_nil]⟩
  | cons char covered =>
      right
      have inWord : isWord char := by
        cases word with
        | nil => exact absurd rfl isRun.1
        | cons letter letters =>
            rw [← (List.cons.inj isWordAt).1]
            exact isRun.2 letter List.mem_cons_self
      rcases ends.exists_word (by simp [isChars]) inWord with ⟨text, rfl⟩
      rcases List.eq_nil_or_concat skipped with empty | ⟨_, last, rfl⟩
      · exact empty
      · have outside := begins last (by simp)
        have inside : last ∈ text := by simp [show text = _ from isChars]
        rw [ends.1.2 last inside] at outside
        contradiction

theorem exists_run_append {isRun : Char → Bool} (first : isRun char) (rest : Line) :
    ∃ text following, char :: rest = text ++ following ∧ text ≠ [] ∧
      (∀ char ∈ text, isRun char) ∧ ∀ next, following.head? = some next → isRun next = false := by
  refine ⟨(char :: rest).takeWhile isRun, (char :: rest).dropWhile isRun,
    List.takeWhile_append_dropWhile.symm, by simp [first], ?_, ?_⟩
  · intro char listed
    exact List.all_eq_true.mp List.all_takeWhile char listed
  · intro next isNext
    have stopped := List.head?_dropWhile_not isRun (char :: rest)
    rwa [isNext] at stopped

theorem exists_lexeme_append (char : Char) (rest : Line) :
    ∃ lexeme following, char :: rest = Lexeme.chars lexeme ++ following ∧
      lexeme.EndsBefore following := by
  by_cases inWord : isWord char
  · rcases exists_run_append inWord rest with ⟨text, following, isLine, nonempty, inside, ends⟩
    exact ⟨.word text, following, isLine, ⟨nonempty, inside⟩, ends⟩
  by_cases white : isWhiteSpace char
  · rcases exists_run_append white rest with ⟨text, following, isLine, nonempty, inside, ends⟩
    exact ⟨.blank text, following, isLine, ⟨nonempty, inside⟩, ends⟩
  · exact ⟨.mark char, rest, rfl, by simpa using inWord, by simpa using white⟩

/-- The first lexeme of a line is the only one that the line begins with and that ends there. -/
theorem lexemes_eq_cons_iff {line : Line} {lexeme : Lexeme} :
    lexemes line = lexeme :: following ↔
      ∃ rest, line = lexeme.chars ++ rest ∧ lexeme.EndsBefore rest ∧ following = lexemes rest := by
  constructor
  · intro isFirst
    cases line with
    | nil => cases isFirst
    | cons char rest =>
        rcases exists_lexeme_append char rest with ⟨found, behind, isLine, ends⟩
        rw [isLine, ends.lexemes_append, List.cons.injEq] at isFirst
        rcases isFirst with ⟨rfl, rfl⟩
        exact ⟨behind, isLine, ends, rfl⟩
  · rintro ⟨rest, rfl, ends, rfl⟩
    exact ends.lexemes_append

end FirstLexeme

/-- A mark that is met first when a blank is skipped has nothing but white space in front of it. -/
theorem skipBlank_lexemes_eq_mark_iff {line : Line} {mark : Char} :
    skipBlank (lexemes line) = .mark mark :: following ↔
      ∃ spacing rest, line = spacing ++ mark :: rest ∧ IsSpacing spacing ∧
        (isWord mark = false ∧ isWhiteSpace mark = false) ∧ following = lexemes rest := by
  constructor
  · intro isNext
    unfold skipBlank at isNext
    split at isNext
    · next spacing behind isLine =>
      rcases lexemes_eq_cons_iff.mp isLine with ⟨_, rfl, ends, rfl⟩
      rcases lexemes_eq_cons_iff.mp isNext with ⟨rest, rfl, isMark, isFollowing⟩
      exact ⟨spacing, rest, rfl, ends.1.2, isMark, isFollowing⟩
    · rcases lexemes_eq_cons_iff.mp isNext with ⟨rest, rfl, isMark, isFollowing⟩
      exact ⟨[], rest, rfl, by simp [IsSpacing], isMark, isFollowing⟩
  · rintro ⟨spacing, rest, rfl, white, ⟨notWord, notWhite⟩, rfl⟩
    have boundary : ∀ next, (mark :: rest).head? = some next → isWhiteSpace next = false := by
      intro next isNext
      cases isNext
      exact notWhite
    rcases lexemes_spacing white boundary with ⟨_, unspaced⟩ | spaced
    · rw [unspaced, lexemes_mark notWord notWhite]
      rfl
    · rw [spaced, lexemes_mark notWord notWhite]
      rfl

end PineAssist.Text
