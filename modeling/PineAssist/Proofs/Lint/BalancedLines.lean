import Mathlib.Data.List.Chain
import PineAssist.Catalog.Builtin
import PineAssist.Proofs.Lint.Placement

/-!
# Texts whose parentheses are not reported

The rule on parentheses compares every line with the next one only. A text is silent exactly if each
line is in balance or offset by the line after it, which for the text as a whole means: lines in
balance first, and from the first line that is not, lines that offset each other down to the end.

A call that is continued on the next line is two lines that offset each other. Its second line is
out of balance as well and is compared with what comes after the call, so it is reported unless the
call ends the text or another call that leaves as many parentheses open follows immediately.

A report points to the last code unit of its line. That is the last character except where this
character takes two code units; there the report begins in the middle of it.
-/

namespace PineAssist.Lint

open Text (Line codeUnits utf16Length utf16Units)

/-- The balances of the lines of a text, from the first to the last. -/
def balances (text : String) : List Int :=
  (Text.lines text).map balance

/-- A line with the first balance is not reported in front of a line with the second one. -/
def Accepted (own next : Int) : Prop :=
  own = 0 ∨ own + next = 0

section Reports

variable {finding : Finding} {text : String} {index : Nat} {own next : Int}

theorem getElem?_balances_eq_some :
    (balances text)[index]? = some own ↔
      ∃ line, (Text.lines text)[index]? = some line ∧ balance line = own := by
  rw [balances, List.getElem?_map, Option.map_eq_some_iff]

namespace Linter

variable {config : Config} {catalog : Catalog}

theorem eq_parenthesesRule {rule : Rule} (listed : rule ∈ (standard config catalog).rules)
    (sameId : rule.id = parenthesesRuleId) : rule = parenthesesRule := by
  simp only [standard, defaultRules, List.mem_cons, List.not_mem_nil, or_false] at listed
  rcases listed with rfl | rfl | rfl | rfl
  · exact absurd sameId (by decide : versionRuleId ≠ parenthesesRuleId)
  · rfl
  · exact absurd sameId (by decide : declarationRuleId ≠ parenthesesRuleId)
  · exact absurd sameId (by decide : controlRuleId ≠ parenthesesRuleId)

/-- What a run reports in the name of the rule stands on a line that the next one does not offset,
whatever the configuration. -/
theorem exists_of_mem_run (reported : finding ∈ (standard config catalog).run text)
    (signed : finding.rule = parenthesesRuleId) :
    ∃ index own next, (balances text)[index]? = some own ∧
      (balances text)[index + 1]? = some next ∧ ¬Accepted own next ∧
      finding.span.line = .ofNat index := by
  have found : finding ∈ (standard config catalog).findings text := by
    rcases mem_findings_or_eq_limitWarning reported with found | rfl
    · exact found
    · exact absurd signed (by decide : limitRuleId ≠ parenthesesRuleId)
  rcases of_mem_findings found with ⟨subject, isSubject, judged⟩
  rcases of_mem_judge judged with ⟨rule, listed, original, isOriginal, sameSpan, sameRule⟩
  have sameId : rule.id = parenthesesRuleId := by
    rw [← (standard_lineBound config catalog rule listed).signed isOriginal, ← sameRule, signed]
  rw [eq_parenthesesRule listed sameId] at isOriginal
  rcases mem_checkParentheses_iff.mp isOriginal with ⟨following, isNext, outOfBalance, rfl⟩
  rcases of_mem_subjects isSubject with ⟨index, isLine, isNumber, next⟩
  refine ⟨index, _, _, getElem?_balances_eq_some.mpr ⟨_, isLine, rfl⟩,
    getElem?_balances_eq_some.mpr ⟨following, ?_, rfl⟩, outOfBalance, ?_⟩
  · rw [← next, isNext]
  · rw [sameSpan, isNumber]

section Enabled

variable (enabled : (config.setting parenthesesRuleId).enabled)
  (within : ((standard config catalog).run text).length ≤ config.limit)

include enabled within

/--
Conversely, every such line is reported, provided that nothing had to be left out: the report is an
error, so no configuration changes it or keeps it back.
-/
theorem exists_mem_run (isOwn : (balances text)[index]? = some own)
    (isNext : (balances text)[index + 1]? = some next) (outOfBalance : ¬Accepted own next) :
    ∃ finding ∈ (standard config catalog).run text,
      finding.rule = parenthesesRuleId ∧ finding.span.line = .ofNat index := by
  rcases getElem?_balances_eq_some.mp isOwn with ⟨line, isLine, rfl⟩
  rcases getElem?_balances_eq_some.mp isNext with ⟨following, isFollowing, rfl⟩
  have isSubject : (⟨.ofNat index, line, some following⟩ : Subject) ∈
      subjects (Text.lines text) := by
    apply List.mem_of_getElem?
    rw [subjects, List.getElem?_mapIdx, isLine, Option.map_some, isFollowing]
  obtain ⟨finding, reported, isError, onLine⟩ :
      ∃ finding ∈ checkParentheses ⟨.ofNat index, line, some following⟩,
        finding.severity = .error ∧ finding.span.line = .ofNat index :=
    ⟨_, mem_checkParentheses_iff.mpr ⟨following, rfl, outOfBalance, rfl⟩, rfl, rfl⟩
  have unchanged : (config.setting parenthesesRuleId).weigh finding = finding := by
    simp [RuleSetting.weigh, ← isError]
  have judged : finding ∈ (standard config catalog).judge ⟨.ofNat index, line, some following⟩ := by
    apply List.mem_flatMap.mpr
    refine ⟨parenthesesRule, List.mem_filter.mpr ⟨by simp [standard, defaultRules], enabled⟩, ?_⟩
    exact List.mem_map.mpr ⟨finding, reported, unchanged⟩
  have severe : config.minimum.rank ≤ finding.severity.rank := by
    rw [isError]
    cases config.minimum <;> decide
  refine ⟨finding, ?_, (of_mem_checkParentheses reported).1, onLine⟩
  rw [run_eq_findings within]
  apply List.mem_filter.mpr
  exact ⟨List.mem_flatMap.mpr ⟨_, isSubject, judged⟩, decide_eq_true severe⟩

/-- A run is silent about parentheses exactly if every line is in balance or offset by the next. -/
theorem silent_iff_isChain :
    (∀ finding ∈ (standard config catalog).run text, finding.rule ≠ parenthesesRuleId) ↔
      (balances text).IsChain Accepted := by
  rw [List.isChain_iff_getElem]
  constructor
  · intro silent index inside
    by_contra outOfBalance
    rcases exists_mem_run enabled within (List.getElem?_eq_getElem (by omega))
      (List.getElem?_eq_getElem inside) outOfBalance with ⟨finding, reported, signed, _⟩
    exact silent finding reported signed
  · intro accepted finding reported signed
    rcases exists_of_mem_run reported signed with
      ⟨index, own, next, isOwn, isNext, outOfBalance, _⟩
    rcases List.getElem?_eq_some_iff.mp isOwn with ⟨_, rfl⟩
    rcases List.getElem?_eq_some_iff.mp isNext with ⟨inside, rfl⟩
    exact outOfBalance (accepted index inside)

end Enabled

end Linter

end Reports

section AlternatingTail

variable {sequence : List Int} {first index : Nat} {own later : Int}

/-- What offsets a line that is out of balance is out of balance, too. -/
theorem ne_zero_of_isChain (accepted : sequence.IsChain Accepted)
    (isFirst : sequence[first]? = some own) (outOfBalance : own ≠ 0) (above : first ≤ index)
    (isLater : sequence[index]? = some later) : later ≠ 0 := by
  induction index, above using Nat.le_induction generalizing later with
  | base =>
      rw [isFirst, Option.some.injEq] at isLater
      rwa [← isLater]
  | succ index above ih =>
      rcases List.getElem?_eq_some_iff.mp isLater with ⟨inside, rfl⟩
      have previous := ih (List.getElem?_eq_getElem (by omega))
      rcases accepted.getElem index inside with balanced | offset
      · exact absurd balanced previous
      · omega

/-- Lines that are all in balance or offset by the next one: the balanced ones come first, and the
others offset each other down to the last line. -/
theorem isChain_accepted_iff :
    sequence.IsChain Accepted ↔
      ∃ first ≤ sequence.length, (∀ index < first, sequence[index]? = some 0) ∧
        ∀ index own, first ≤ index → sequence[index]? = some own →
          own ≠ 0 ∧ ∀ next, sequence[index + 1]? = some next → next = -own := by
  constructor
  · intro accepted
    refine ⟨sequence.findIdx (· ≠ 0), List.findIdx_le_length, ?_, ?_⟩
    · intro index before
      have balanced := List.not_of_lt_findIdx before
      rw [List.getElem?_eq_some_iff]
      exact ⟨Nat.lt_of_lt_of_le before List.findIdx_le_length, by simpa using balanced⟩
    · intro index own above isOwn
      have inside := (List.getElem?_eq_some_iff.mp isOwn).1
      have firstInside : sequence.findIdx (· ≠ 0) < sequence.length := by omega
      have outOfBalance := List.findIdx_getElem (w := firstInside)
      have unbalanced := ne_zero_of_isChain accepted (List.getElem?_eq_getElem firstInside)
        (by simpa using outOfBalance) above isOwn
      refine ⟨unbalanced, ?_⟩
      intro next isNext
      rcases List.getElem?_eq_some_iff.mp isOwn with ⟨_, rfl⟩
      rcases List.getElem?_eq_some_iff.mp isNext with ⟨nextInside, rfl⟩
      rcases accepted.getElem index nextInside with balanced | offset
      · exact absurd balanced unbalanced
      · omega
  · rintro ⟨first, _, balanced, alternating⟩
    rw [List.isChain_iff_getElem]
    intro index inside
    by_cases before : index < first
    · left
      have isZero := balanced index before
      rwa [List.getElem?_eq_getElem (by omega), Option.some.injEq] at isZero
    · right
      have offset := (alternating index _ (by omega) (List.getElem?_eq_getElem (by omega))).2 _
        (List.getElem?_eq_getElem inside)
      omega

end AlternatingTail

/--
With the rule switched on and the limit not exceeded, nothing is reported about parentheses exactly
if the text begins with lines in balance and all further lines are out of balance, each of them
being offset by the next one as far as there is one.
-/
theorem Linter.silent_iff_alternating_tail (config : Config) (catalog : Catalog) {text : String}
    (enabled : (config.setting parenthesesRuleId).enabled)
    (within : ((standard config catalog).run text).length ≤ config.limit) :
    (∀ finding ∈ (standard config catalog).run text, finding.rule ≠ parenthesesRuleId) ↔
      ∃ first ≤ (Text.lines text).length, (∀ index < first, (balances text)[index]? = some 0) ∧
        ∀ index own, first ≤ index → (balances text)[index]? = some own →
          own ≠ 0 ∧ ∀ next, (balances text)[index + 1]? = some next → next = -own := by
  have sameLength : (balances text).length = (Text.lines text).length := List.length_map _
  rw [silent_iff_isChain enabled within, isChain_accepted_iff, sameLength]

/-- A script that ends in a call of two lines. -/
def callAtEnd : String := "//@version=5\nplot(close,\n  color=color.red)"

theorem Linter.run_callAtEnd : (standard {} ⟨[]⟩).run callAtEnd = [] := by
  decide +kernel

theorem Linter.silent_iff_alternating_tail_callAtEnd :
    (standard {} ⟨[]⟩).run callAtEnd = [] ∧ balances callAtEnd = [0, 1, -1] ∧
      ∃ first ≤ (Text.lines callAtEnd).length,
        (∀ index < first, (balances callAtEnd)[index]? = some 0) ∧
        ∀ index own, first ≤ index → (balances callAtEnd)[index]? = some own →
          own ≠ 0 ∧ ∀ next, (balances callAtEnd)[index + 1]? = some next → next = -own := by
  refine ⟨run_callAtEnd, by decide +kernel, ?_⟩
  apply (silent_iff_alternating_tail {} ⟨[]⟩ (by decide +kernel) (by simp [run_callAtEnd])).mp
  simp [run_callAtEnd]

section Blocks

/-- One line in balance, or a call that is continued on the next line. -/
inductive Block where
  | even
  /-- The first line leaves parentheses open and the second one closes as many. -/
  | continued (depth : Int) (opens : 0 < depth)
  deriving DecidableEq

/-- The balances of the lines of a block. -/
def Block.balances : Block → List Int
  | even => [0]
  | continued depth _ => [depth, -depth]

variable {blocks : List Block} {index : Nat} {own next : Int}

/-- What closes parentheses is offset only by what opens as many again. -/
theorem accepted_neg_iff {depth : Int} (opens : 0 < depth) :
    Accepted (-depth) next ↔ next = depth := by
  unfold Accepted
  omega

theorem isChain_accepted_blocks :
    (blocks.flatMap Block.balances).IsChain Accepted ↔
      blocks.IsChain fun first second => first = .even ∨ second = first := by
  have nonempty : [] ∉ blocks.map Block.balances := by
    rintro listed
    rcases List.mem_map.mp listed with ⟨block, _, isEmpty⟩
    cases block <;> cases isEmpty
  have inside : ∀ part ∈ blocks.map Block.balances, part.IsChain Accepted := by
    intro part listed
    rcases List.mem_map.mp listed with ⟨block, _, rfl⟩
    cases block with
    | even => exact .singleton 0
    | continued depth _ => exact .cons_cons (.inr (Int.add_right_neg depth)) (.singleton _)
  have seam (first second : Block) :
      (∀ᵉ (own ∈ first.balances.getLast?) (next ∈ second.balances.head?), Accepted own next) ↔
        first = .even ∨ second = first := by
    cases first with
    | even => simp [Block.balances, Accepted]
    | continued depth opens =>
        cases second with
        | even => simp [Block.balances, accepted_neg_iff opens, Int.ne_of_lt opens]
        | continued following _ => simp [Block.balances, accepted_neg_iff opens]
  rw [List.flatMap, List.isChain_flatten nonempty, List.isChain_map]
  simp only [seam]
  exact and_iff_right inside

/--
On lines that form blocks, only the second line of a call is ever reported, and only in front of a
block that is not such a call again. A place behind the first block is found in the rest, with that
block in front of it.
-/
theorem exists_call_of_not_accepted (isOwn : (blocks.flatMap Block.balances)[index]? = some own)
    (isNext : (blocks.flatMap Block.balances)[index + 1]? = some next)
    (outOfBalance : ¬Accepted own next) :
    ∃ before depth opens second after,
      blocks = before ++ .continued depth opens :: second :: after ∧
      second ≠ .continued depth opens ∧
      index = (before.flatMap Block.balances).length + 1 := by
  induction blocks generalizing index with
  | nil => cases isOwn
  | cons block rest ih =>
      have behind {place : Nat} (isOwn : (rest.flatMap Block.balances)[place]? = some own)
          (isNext : (rest.flatMap Block.balances)[place + 1]? = some next) :
          ∃ before depth opens second after,
            block :: rest = before ++ .continued depth opens :: second :: after ∧
            second ≠ .continued depth opens ∧
            block.balances.length + place = (before.flatMap Block.balances).length + 1 := by
        rcases ih isOwn isNext with ⟨before, depth, opens, second, after, rfl, differs, rfl⟩
        refine ⟨block :: before, depth, opens, second, after, rfl, differs, ?_⟩
        simp only [List.flatMap_cons, List.length_append]
        omega
      cases block with
      | even =>
          cases index with
          | zero =>
              cases isOwn
              exact absurd (.inl rfl) outOfBalance
          | succ place =>
              rw [Nat.add_comm place 1]
              exact behind isOwn isNext
      | continued depth opens =>
          match index with
          | 0 =>
              have isDepth : depth = own := Option.some.inj isOwn
              have isClosed : -depth = next := Option.some.inj isNext
              exact absurd (.inr (by omega)) outOfBalance
          | 1 =>
              have isClosed : -depth = own := Option.some.inj isOwn
              rw [← isClosed, accepted_neg_iff opens] at outOfBalance
              cases rest with
              | nil => cases isNext
              | cons second after =>
                  refine ⟨[], depth, opens, second, after, rfl, ?_, rfl⟩
                  rintro rfl
                  exact outOfBalance (Option.some.inj isNext).symm
          | place + 2 =>
              rw [Nat.add_comm place 2]
              exact behind isOwn isNext

/--
On a text whose lines form blocks, nothing is reported about parentheses exactly if behind the first
call there are only calls that leave as many open. Every report stands on the second line of a call
that something else follows.
-/
theorem Linter.silent_on_blocks_iff (config : Config) (catalog : Catalog) {text : String}
    {blocks : List Block} (enabled : (config.setting parenthesesRuleId).enabled)
    (within : ((standard config catalog).run text).length ≤ config.limit)
    (arranged : Lint.balances text = blocks.flatMap Block.balances) :
    ((∀ finding ∈ (standard config catalog).run text, finding.rule ≠ parenthesesRuleId) ↔
        blocks.IsChain fun first second => first = .even ∨ second = first) ∧
      ∀ finding ∈ (standard config catalog).run text, finding.rule = parenthesesRuleId →
        ∃ before depth opens second after,
          blocks = before ++ .continued depth opens :: second :: after ∧
          second ≠ .continued depth opens ∧
          finding.span.line = .ofNat ((before.flatMap Block.balances).length + 1) := by
  constructor
  · rw [silent_iff_isChain enabled within, arranged]
    exact isChain_accepted_blocks
  · intro finding reported signed
    rcases exists_of_mem_run reported signed with
      ⟨index, own, next, isOwn, isNext, outOfBalance, onLine⟩
    rw [arranged] at isOwn isNext
    rcases exists_call_of_not_accepted isOwn isNext outOfBalance with
      ⟨before, depth, opens, second, after, isSplit, differs, rfl⟩
    exact ⟨before, depth, opens, second, after, isSplit, differs, onLine⟩

theorem Linter.silent_on_blocks_iff_callAtEnd :
    Lint.balances callAtEnd = [Block.even, .continued 1 (by decide)].flatMap Block.balances ∧
      ∀ finding ∈ (standard {} ⟨[]⟩).run callAtEnd, finding.rule ≠ parenthesesRuleId := by
  have arranged : Lint.balances callAtEnd =
      [Block.even, .continued 1 (by decide)].flatMap Block.balances := by decide +kernel
  refine ⟨arranged, ?_⟩
  apply (silent_on_blocks_iff {} ⟨[]⟩ (by decide +kernel) (by simp [run_callAtEnd]) arranged).1.mpr
  decide

/-- A call of two lines in the middle of a script. -/
def callInside : String := callAtEnd ++ "\nx = 1"

/-- The second line of the call closes what the first one leaves open, and is reported. -/
theorem Linter.closing_line_reported :
    ¬∀ (text : String) (blocks : List Block),
      Lint.balances text = blocks.flatMap Block.balances →
      ∀ finding ∈ (standard {} Catalog.builtin).run text, finding.rule ≠ parenthesesRuleId := by
  intro silent
  have arranged : Lint.balances callInside =
      [Block.even, .continued 1 (by decide), .even].flatMap Block.balances := by decide +kernel
  have quiet := silent callInside _ arranged
  revert quiet
  decide +kernel

end Blocks

section LastCharacter

variable {subject : Subject} {finding : Finding} {before : Line} {last : Char}

theorem reported_start_eq_iff (reported : finding ∈ checkParentheses subject)
    (isText : subject.text = before ++ [last]) :
    finding.span.start = utf16Length before ↔
      last.toNat < 0x10000 ∧ utf16Length subject.text ≠ 0 := by
  rcases of_mem_checkParentheses reported with ⟨_, _, isStart, _⟩
  have isLength : utf16Length subject.text = utf16Length before + utf16Units last := by
    simp [isText, Text.utf16Length_append]
  rw [isStart]
  unfold utf16Units at isLength
  split at isLength <;> split <;> grind

/-- A report on a line that ends in a character of two code units begins between these two. -/
theorem reported_start_of_wide (reported : finding ∈ checkParentheses subject)
    (isText : subject.text = before ++ [last]) (bounded : codeUnits subject.text < UInt32.size)
    (wide : ¬last.toNat < 0x10000) : finding.span.start.toNat = codeUnits before + 1 := by
  rcases of_mem_checkParentheses reported with ⟨_, _, isStart, _⟩
  have isTotal : codeUnits subject.text = codeUnits before + 2 := by
    simp [isText, utf16Units, wide]
  have isLength := Text.toNat_utf16Length bounded
  have nonzero : utf16Length subject.text ≠ 0 := by
    intro isZero
    rw [isZero, isTotal] at isLength
    cases isLength
  have positive : 1 ≤ utf16Length subject.text := by
    apply UInt32.le_iff_toNat_le.mpr
    rw [isLength, isTotal]
    exact Nat.le_add_left 1 (codeUnits before + 1)
  rw [isStart, if_neg nonzero, UInt32.toNat_sub_of_le _ _ positive, isLength, isTotal]
  rfl

/--
A report ends where its line ends. It begins where the last character of the line begins exactly if
this character takes one code unit only, provided that the length of the line is not taken for zero;
this happens to lengths that 32 bits do not hold. On any other line, the report begins at a boundary
between characters in that case alone.
-/
theorem reported_last_character_iff (reported : finding ∈ parenthesesRule.check subject) :
    ∃ before last, subject.text = before ++ [last] ∧
      finding.span.line = subject.number ∧ finding.span.stop = utf16Length subject.text ∧
      (finding.span.start = utf16Length before ↔
        last.toNat < 0x10000 ∧ utf16Length subject.text ≠ 0) ∧
      (codeUnits subject.text < UInt32.size →
        utf16Length subject.text ≠ 0 ∧
        ((∃ beginning, beginning <+: subject.text ∧
            utf16Length beginning = finding.span.start) ↔ last.toNat < 0x10000)) := by
  rcases of_mem_checkParentheses reported with ⟨_, outOfBalance, _, isStop⟩
  have onLine := parenthesesRule_lineBound.line_eq reported
  have nonempty : subject.text ≠ [] := by
    intro empty
    simp [empty] at outOfBalance
  obtain ⟨before, last, isText⟩ : ∃ before last, subject.text = before ++ [last] :=
    ⟨_, _, (List.dropLast_append_getLast nonempty).symm⟩
  have exactly := reported_start_eq_iff reported isText
  refine ⟨before, last, isText, onLine, isStop, exactly, ?_⟩
  intro bounded
  have nonzero := UInt32.pos_iff_ne_zero.mp (Text.utf16Length_pos bounded nonempty)
  refine ⟨nonzero, ?_, ?_⟩
  · rintro ⟨beginning, isPrefix, isStart⟩
    by_contra wide
    have between := reported_start_of_wide reported isText bounded wide
    have fits : codeUnits beginning ≤ codeUnits subject.text :=
      Text.codeUnits_le_of_sublist isPrefix.sublist
    rw [← isStart, Text.toNat_utf16Length (by omega)] at between
    rw [isText] at isPrefix
    rcases List.prefix_concat_iff.mp isPrefix with rfl | shorter
    · simp [utf16Units, wide] at between
    · have less := Text.codeUnits_le_of_sublist shorter.sublist
      omega
  · intro narrow
    refine ⟨before, ?_, (exactly.mpr ⟨narrow, nonzero⟩).symm⟩
    rw [isText]
    exact List.prefix_append before [last]

/-- A line that leaves a parenthesis open and ends in a character of two code units. -/
def openBeforeEmoji : Subject := ⟨0, "plot(😀".toList, some "x".toList⟩

/-- What is reported about it. -/
def emojiFinding : Finding :=
  ⟨.error, .mismatchedParentheses, "Mismatched parentheses.", ⟨0, 6, 7⟩, parenthesesRuleId⟩

theorem reported_last_character_iff_openBeforeEmoji :
    emojiFinding ∈ parenthesesRule.check openBeforeEmoji ∧
      ¬∃ beginning, beginning <+: openBeforeEmoji.text ∧
        utf16Length beginning = emojiFinding.span.start := by
  have reported : emojiFinding ∈ parenthesesRule.check openBeforeEmoji := by decide +kernel
  rcases reported_last_character_iff reported with ⟨before, last, isText, _, _, _, atBoundary⟩
  have isLast : some '😀' = some last := by
    have lasts := congrArg List.getLast? isText
    rwa [List.getLast?_append] at lasts
  refine ⟨reported, ?_⟩
  rw [(atBoundary (by decide +kernel)).2, ← Option.some.inj isLast]
  decide

/-- The report begins one column behind the beginning of the last character. -/
theorem report_begins_inside_character :
    ∃ finding ∈ parenthesesRule.check openBeforeEmoji,
      openBeforeEmoji.text = "plot(".toList ++ ['😀'] ∧
      finding.span.stop = utf16Length openBeforeEmoji.text ∧
      finding.span.start ≠ utf16Length "plot(".toList := by
  decide +kernel

end LastCharacter

end PineAssist.Lint
