import PineAssist.Lint.Version

/-!
# Which first lines declare a supported version

A first line is accepted if it declares a supported version, whatever follows the digits, or if it
declares nothing and is blank. The digits of a directive reach as far as decimal digits of any
script do. They are read one by one in 32 bits. This loses nothing: more digits never make a number
smaller, so a run that does not fit denotes no supported version. Leading zeros take no room,
however many there are.
-/

namespace PineAssist.Lint

open Text (Line utf16Length)
open Unicode (isDecimalDigit isDigit_iff_of_isDecimalDigit isWhiteSpace)

/-- The line begins with a version directive that has these digits and no more. -/
structure Declares (line digits : Line) : Prop where
  nonempty : digits ≠ []
  decimal : ∀ digit ∈ digits, isDecimalDigit digit
  line_eq : ∃ behind, line = "//@version=".toList ++ digits ++ behind ∧
    ∀ next, behind.head? = some next → isDecimalDigit next = false

/-- The digits are ASCII ones and denote a version from one to five. -/
def DenoteSupported (digits : Line) : Prop :=
  (∀ digit ∈ digits, digit.toNat < 0x80) ∧
    1 ≤ Nat.ofDigitChars 10 digits 0 ∧ Nat.ofDigitChars 10 digits 0 ≤ 5

/-- The warning that a first line has a directive with these digits, which is not supported. -/
def unsupportedWarning (line digits : Line) : Finding :=
  ⟨.warning, .unsupportedVersion,
    "Pine Script version " ++ String.ofList digits ++ " is not supported. Use version 5.",
    ⟨0, 0, utf16Length line⟩, "version-directive"⟩

/-- The warning that a first line has no directive. -/
def missingWarning (line : Line) : Finding :=
  ⟨.warning, .missingVersion, "Missing version directive. Add //@version=5 at the top of the file.",
    ⟨0, 0, utf16Length line⟩, "version-directive"⟩

variable {line digits : Line} {next : Option Line}

theorem directiveDigits?_eq_some_iff :
    directiveDigits? line = some digits ↔ Declares line digits := by
  constructor
  · intro found
    simp only [directiveDigits?] at found
    split at found
    · next isDirective =>
      cases found
      rw [Bool.and_eq_true, List.isPrefixOf_iff_prefix] at isDirective
      rcases isDirective with ⟨⟨rest, rfl⟩, nonempty⟩
      rw [List.drop_left] at nonempty ⊢
      refine ⟨by simpa using nonempty, ?_, rest.dropWhile isDecimalDigit, ?_, ?_⟩
      · exact List.all_eq_true.mp List.all_takeWhile
      · rw [List.append_assoc, List.takeWhile_append_dropWhile]
        rfl
      · intro next isNext
        have stopped := List.head?_dropWhile_not isDecimalDigit rest
        rwa [isNext] at stopped
    · cases found
  · rintro ⟨nonempty, decimal, behind, rfl, ends⟩
    have isRun := Text.takeWhile_run decimal ends
    simp [directiveDigits?, Script.versionDirective, isRun, nonempty]

theorem Declares.unique {others : Line} (declares : Declares line digits)
    (alsoDeclares : Declares line others) : digits = others := by
  have found := directiveDigits?_eq_some_iff.mpr declares
  rw [directiveDigits?_eq_some_iff.mpr alsoDeclares] at found
  exact (Option.some.inj found).symm

section Number

theorem le_ofDigitChars (digits : Line) (value : Nat) :
    value ≤ Nat.ofDigitChars 10 digits value := by
  induction digits generalizing value with
  | nil => exact Nat.le_refl value
  | cons digit digits ih =>
      rw [Nat.ofDigitChars_cons]
      have grown := ih (10 * value + (digit.toNat - '0'.toNat))
      omega

theorem appendDigit?_eq_some_iff {value result : UInt32} {digit : Char} :
    appendDigit? value digit = some result ↔
      digit.isDigit ∧ result.toNat = 10 * value.toNat + (digit.toNat - '0'.toNat) := by
  simp only [appendDigit?]
  generalize 10 * value.toNat + (digit.toNat - '0'.toNat) = extended
  constructor
  · intro appended
    split at appended
    · next fits =>
      rw [Bool.and_eq_true, decide_eq_true_eq] at fits
      cases appended
      exact ⟨fits.1, UInt32.toNat_ofNat_of_lt fits.2⟩
    · cases appended
  · rintro ⟨isDigit, rfl⟩
    simp [isDigit, UInt32.ofNat_toNat, result.toNat_lt]

/--
Reading digit by digit gives the number that they denote together, unless it does not fit. What has
been read on the way fits if the result does, since it is not larger.
-/
theorem foldlM_appendDigit?_eq_some_iff {value result : UInt32} :
    digits.foldlM appendDigit? value = some result ↔
      (∀ digit ∈ digits, digit.isDigit) ∧
        result.toNat = Nat.ofDigitChars 10 digits value.toNat := by
  induction digits generalizing value with
  | nil =>
      have isValue : result.toNat = value.toNat ↔ value = result :=
        ⟨fun same => UInt32.toNat_inj.mp same.symm, fun same => same ▸ rfl⟩
      simpa using isValue.symm
  | cons digit digits ih =>
      rw [List.foldlM_cons, Option.bind_eq_bind, Option.bind_eq_some_iff, Nat.ofDigitChars_cons,
        List.forall_mem_cons]
      constructor
      · rintro ⟨extended, appended, isRead⟩
        rcases appendDigit?_eq_some_iff.mp appended with ⟨isDigit, isExtended⟩
        rcases ih.mp isRead with ⟨areDigits, isResult⟩
        rw [isExtended] at isResult
        exact ⟨⟨isDigit, areDigits⟩, isResult⟩
      · rintro ⟨⟨isDigit, areDigits⟩, isResult⟩
        have fits : 10 * value.toNat + (digit.toNat - '0'.toNat) < UInt32.size := by
          apply Nat.lt_of_le_of_lt (le_ofDigitChars digits _)
          rw [← isResult]
          exact result.toNat_lt
        have isExtended := UInt32.toNat_ofNat_of_lt fits
        refine ⟨UInt32.ofNat (10 * value.toNat + (digit.toNat - '0'.toNat)),
          appendDigit?_eq_some_iff.mpr ⟨isDigit, isExtended⟩, ih.mpr ⟨areDigits, ?_⟩⟩
        rw [isResult]
        exact congrArg _ isExtended.symm

theorem isSupportedDirective_iff (decimal : ∀ digit ∈ digits, isDecimalDigit digit) :
    isSupportedDirective digits ↔ DenoteSupported digits := by
  have areAscii : (∀ digit ∈ digits, digit.isDigit) ↔ ∀ digit ∈ digits, digit.toNat < 0x80 :=
    forall₂_congr fun digit listed => isDigit_iff_of_isDecimalDigit (decimal digit listed)
  rw [isSupportedDirective, Option.any_eq_true, DenoteSupported, ← areAscii]
  simp only [versionNumber?, foldlM_appendDigit?_eq_some_iff, Script.isSupportedVersion,
    Bool.and_eq_true, decide_eq_true_eq, UInt32.toNat_zero]
  constructor
  · rintro ⟨version, ⟨areDigits, isVersion⟩, supported⟩
    rw [isVersion] at supported
    exact ⟨areDigits, supported⟩
  · rintro ⟨areDigits, supported⟩
    have fits : Nat.ofDigitChars 10 digits 0 < UInt32.size :=
      Nat.lt_of_le_of_lt supported.2 (by decide)
    have isVersion := UInt32.toNat_ofNat_of_lt fits
    exact ⟨_, ⟨areDigits, isVersion⟩, by rw [isVersion]; exact supported⟩

end Number

theorem check_of_declares (declares : Declares line digits) :
    DenoteSupported digits ∧ versionRule.check ⟨0, line, next⟩ = [] ∨
      ¬DenoteSupported digits ∧
        versionRule.check ⟨0, line, next⟩ = [unsupportedWarning line digits] := by
  have found := directiveDigits?_eq_some_iff.mpr declares
  have isSupported := isSupportedDirective_iff declares.decimal
  by_cases supported : DenoteSupported digits
  · left
    refine ⟨supported, ?_⟩
    simp [versionRule, checkVersion, found, isSupported.mpr supported]
  · right
    refine ⟨supported, ?_⟩
    have message : "Pine Script version " ++ String.ofList digits ++
        " is not supported. Use version " ++ Script.recommendedVersion.repr ++ "." =
          (unsupportedWarning line digits).message := by
      rw [String.append_assoc, String.append_assoc]
      rfl
    simp only [versionRule, checkVersion, found, isSupported, supported, message]
    rfl

theorem check_of_not_declares (absent : ∀ digits, ¬Declares line digits) :
    (∀ char ∈ line, isWhiteSpace char) ∧ versionRule.check ⟨0, line, next⟩ = [] ∨
      (¬∀ char ∈ line, isWhiteSpace char) ∧
        versionRule.check ⟨0, line, next⟩ = [missingWarning line] := by
  have notFound : directiveDigits? line = none := by
    rw [Option.eq_none_iff_forall_ne_some]
    intro digits found
    exact absent digits (directiveDigits?_eq_some_iff.mp found)
  by_cases blank : ∀ char ∈ line, isWhiteSpace char
  · left
    refine ⟨blank, ?_⟩
    simp [versionRule, checkVersion, notFound, List.all_eq_true.mpr blank]
  · right
    refine ⟨blank, ?_⟩
    rw [← List.all_eq_true] at blank
    simp only [versionRule, checkVersion, notFound, blank]
    rfl

/--
On the first line, the rule on version directives is satisfied with a directive whose digits are
ASCII ones and denote a version from one to five, and with a blank line that has no directive. In
any other case it gives one warning for the whole line, which quotes the digits of the directive or
says that there is none.
-/
theorem accepts_supported_or_blank (line : Line) (next : Option Line) :
    (versionRule.check ⟨0, line, next⟩ = [] ↔
      (∃ digits, Declares line digits ∧ DenoteSupported digits) ∨
        ((∀ digits, ¬Declares line digits) ∧ ∀ char ∈ line, isWhiteSpace char)) ∧
    (versionRule.check ⟨0, line, next⟩ = [] ∨
      (∃ digits, Declares line digits ∧
        versionRule.check ⟨0, line, next⟩ = [unsupportedWarning line digits]) ∨
      ((∀ digits, ¬Declares line digits) ∧
        versionRule.check ⟨0, line, next⟩ = [missingWarning line])) := by
  by_cases present : ∃ digits, Declares line digits
  · rcases present with ⟨digits, declares⟩
    rcases check_of_declares declares with ⟨supported, accepted⟩ | ⟨unsupported, reported⟩
    · exact ⟨iff_of_true accepted (.inl ⟨digits, declares, supported⟩), .inl accepted⟩
    · refine ⟨iff_of_false (by simp [reported]) ?_, .inr (.inl ⟨digits, declares, reported⟩)⟩
      rintro (⟨others, alsoDeclares, supported⟩ | ⟨absent, _⟩)
      · rw [← declares.unique alsoDeclares] at supported
        exact unsupported supported
      · exact absent digits declares
  · have absent : ∀ digits, ¬Declares line digits := not_exists.mp present
    rcases check_of_not_declares absent with ⟨blank, accepted⟩ | ⟨notBlank, reported⟩
    · exact ⟨iff_of_true accepted (.inr ⟨absent, blank⟩), .inl accepted⟩
    · refine ⟨iff_of_false (by simp [reported]) ?_, .inr (.inr ⟨absent, reported⟩)⟩
      rintro (⟨digits, declares, _⟩ | ⟨_, blank⟩)
      · exact absent digits declares
      · exact notBlank blank

/-- A number that 32 bits would take for one is refused, and leading zeros are not counted. -/
example : (versionRule.check ⟨0, "//@version=4294967297".toList, none⟩).length = 1 ∧
    (versionRule.check ⟨0, "//@version=0000000000005 x".toList, none⟩).length = 0 := by
  decide +kernel

end PineAssist.Lint
