import PineAssist.Proofs.Lint.Findings
import PineAssist.Proofs.Lint.StandardRules

/-!
# Configuring rules

However often rules are switched on and off or raised, what counts for a rule is what was said about
it last. Since rules do not see each other's reports and sign what they report, the findings under
a configuration can be read off the findings without one: those of disabled rules are dropped, the
warnings of raised rules become errors, and what is not severe enough then is left out.
-/

namespace PineAssist.Lint

/-- What can be said about a rule. -/
inductive Instruction where
  | disable
  | enable
  | raise
  deriving DecidableEq

/-- Configures one rule. -/
def Config.follow (config : Config) : String × Instruction → Config
  | (rule, .disable) => config.disable rule
  | (rule, .enable) => config.enable rule
  | (rule, .raise) => config.raise rule

/-- What was said about a rule last. -/
def lastInstruction? (instructions : List (String × Instruction)) (rule : String) :
    Option Instruction :=
  instructions.reverse.lookup rule

namespace Config

/-- The setting that an instruction leaves a rule with. -/
def settingAfter : Instruction → RuleSetting
  | .disable => ⟨false, false⟩
  | .enable => ⟨true, false⟩
  | .raise => ⟨true, true⟩

theorem setting_follow (config : Config) (instructed rule : String) (instruction : Instruction) :
    (config.follow (instructed, instruction)).setting rule =
      if instructed = rule then settingAfter instruction else config.setting rule := by
  have configured : config.follow (instructed, instruction) =
      config.configure instructed (settingAfter instruction) := by
    cases instruction <;> rfl
  rw [configured]
  by_cases same : instructed = rule
  · simp [setting, configure, same]
  · simp [setting, configure, Std.ExtTreeMap.getElem?_insert, same]

/-- The last word about a rule counts. -/
theorem setting_foldl_follow (config : Config) (instructions : List (String × Instruction))
    (rule : String) :
    (instructions.foldl follow config).setting rule =
      ((lastInstruction? instructions rule).map settingAfter).getD (config.setting rule) := by
  induction instructions generalizing config with
  | nil => rfl
  | cons first rest ih =>
      rcases first with ⟨instructed, instruction⟩
      rw [List.foldl_cons, ih, setting_follow]
      simp only [lastInstruction?, List.reverse_cons, List.lookup_append]
      cases rest.reverse.lookup rule with
      | some later => rfl
      | none =>
          by_cases same : instructed = rule
          · simp [same]
          · have different : (rule == instructed) = false := by
              rw [beq_eq_false_iff_ne]
              exact Ne.symm same
            simp [same, List.lookup_cons, different]

/-- What the settings of the rules leave of findings that the rules have signed. -/
def impose (config : Config) (findings : List Finding) : List Finding :=
  (findings.filter fun finding => (config.setting finding.rule).enabled).map fun finding =>
    if (config.setting finding.rule).raised then finding.raise else finding

theorem impose_foldl_follow (instructions : List (String × Instruction)) (minimum : Severity)
    (limit : Nat) (findings : List Finding) :
    ({ instructions.foldl follow {} with minimum, limit } : Config).impose findings =
      (findings.filter fun finding =>
          lastInstruction? instructions finding.rule ≠ some .disable).map fun finding =>
        if lastInstruction? instructions finding.rule = some .raise then finding.raise
        else finding := by
  have isSetting (rule : String) :
      ({ instructions.foldl follow {} with minimum, limit } : Config).setting rule =
        ((lastInstruction? instructions rule).map settingAfter).getD {} :=
    setting_foldl_follow {} instructions rule
  have enabled (rule : String) :
      (((lastInstruction? instructions rule).map settingAfter).getD {}).enabled =
        decide (lastInstruction? instructions rule ≠ some .disable) := by
    rcases lastInstruction? instructions rule with _ | _ | _ | _ <;> rfl
  have raised (rule : String) :
      (((lastInstruction? instructions rule).map settingAfter).getD {}).raised =
        decide (lastInstruction? instructions rule = some .raise) := by
    rcases lastInstruction? instructions rule with _ | _ | _ | _ <;> rfl
  simp only [impose, isSetting, enabled, raised, decide_eq_true_eq]

theorem length_impose_le (config : Config) (findings : List Finding) :
    (config.impose findings).length ≤ findings.length := by
  rw [impose, List.length_map]
  exact List.length_filter_le _ _

theorem impose_append (config : Config) (findings others : List Finding) :
    config.impose (findings ++ others) = config.impose findings ++ config.impose others := by
  simp [impose]

theorem impose_flatMap {α : Type} (config : Config) (items : List α) (report : α → List Finding) :
    config.impose (items.flatMap report) =
      items.flatMap fun item => config.impose (report item) := by
  simp [impose, List.filter_flatMap, List.map_flatMap]

/-- All findings of one rule share its fate. -/
theorem impose_of_signed {config : Config} {findings : List Finding} {rule : String}
    (signed : ∀ finding ∈ findings, finding.rule = rule) :
    config.impose findings =
      if (config.setting rule).enabled then
        if (config.setting rule).raised then findings.map Finding.raise else findings
      else [] := by
  by_cases enabled : (config.setting rule).enabled
  · have kept : (findings.filter fun finding => (config.setting finding.rule).enabled) =
        findings := by
      apply List.filter_eq_self.mpr
      intro finding listed
      rw [signed finding listed, enabled]
    rw [impose, kept, if_pos enabled]
    by_cases raised : (config.setting rule).raised
    · rw [if_pos raised]
      apply List.map_congr_left
      intro finding listed
      rw [signed finding listed, if_pos raised]
    · rw [if_neg raised]
      refine (List.map_congr_left ?_).trans (List.map_id findings)
      intro finding listed
      rw [signed finding listed, if_neg raised, id]
  · have dropped : (findings.filter fun finding => (config.setting finding.rule).enabled) =
        [] := by
      apply List.filter_eq_nil_iff.mpr
      intro finding listed
      rw [signed finding listed]
      exact enabled
    rw [impose, dropped, if_neg enabled, List.map_nil]

end Config

namespace Linter

variable {linter : Linter} {text : String} {subject : Subject}

/-- What the rules say about a text, whatever the configuration makes of it. -/
def observations (linter : Linter) (text : String) : List Finding :=
  (subjects (Text.lines text)).flatMap fun subject => linter.rules.flatMap (·.check subject)

theorem judge_eq_impose
    (signed : ∀ rule ∈ linter.rules, ∀ finding ∈ rule.check subject, finding.rule = rule.id) :
    linter.judge subject = linter.config.impose (linter.rules.flatMap (·.check subject)) := by
  rcases linter with ⟨config, rules⟩
  induction rules with
  | nil => rfl
  | cons rule rest ih =>
      have later := ih (by
        intro other listed
        exact signed other (by simp [listed]))
      simp only [judge, RuleSetting.map_weigh] at later ⊢
      rw [List.flatMap_cons, Config.impose_append, Config.impose_of_signed (signed rule (by simp)),
        ← later, List.filter_cons]
      split <;> simp

theorem findings_eq_impose (lineBound : ∀ rule ∈ linter.rules, rule.LineBound) :
    linter.findings text =
      (linter.config.impose (linter.observations text)).filter fun finding =>
        linter.config.minimum.rank ≤ finding.severity.rank := by
  have judged : linter.judge =
      fun subject => linter.config.impose (linter.rules.flatMap (·.check subject)) := by
    funext subject
    apply judge_eq_impose
    intro rule listed finding reported
    exact (lineBound rule listed).signed reported
  rw [findings, judged, observations, Config.impose_flatMap]

theorem findings_unconfigured (catalog : Catalog) (limit : Nat) (text : String) :
    (standard { limit } catalog).findings text =
      (standard { limit } catalog).observations text := by
  rw [findings_eq_impose (standard_lineBound _ catalog)]
  simp [standard, Config.impose, Config.setting, Severity.rank]

/--
A run under a configuration shows what a run without one shows, less the findings of the rules that
were last disabled, with the warnings of those that were last raised as errors, and after that less
what does not reach the least severity.
-/
theorem run_configured_eq (catalog : Catalog) (text : String)
    (instructions : List (String × Instruction)) (minimum : Severity) {limit : Nat}
    (within : ((standard { limit } catalog).run text).length ≤ limit) :
    (standard { instructions.foldl Config.follow {} with minimum, limit } catalog).run text =
      ((((standard { limit } catalog).run text).filter fun finding =>
          lastInstruction? instructions finding.rule ≠ some .disable).map fun finding =>
        if lastInstruction? instructions finding.rule = some .raise then finding.raise
        else finding).filter fun finding => minimum.rank ≤ finding.severity.rank := by
  have unconfigured := run_eq_findings within
  rw [findings_unconfigured] at unconfigured
  rw [unconfigured] at within ⊢
  rw [← Config.impose_foldl_follow instructions minimum limit]
  generalize configured : ({ instructions.foldl Config.follow {} with minimum, limit } : Config) =
    config
  have isFindings : (standard config catalog).findings text =
      (config.impose ((standard { limit } catalog).observations text)).filter fun finding =>
        minimum.rank ≤ finding.severity.rank := by
    subst configured
    exact findings_eq_impose (standard_lineBound _ catalog)
  have fits : ((standard config catalog).findings text).length ≤
      (standard config catalog).config.limit := by
    have isLimit : (standard config catalog).config.limit = limit := by rw [← configured]; rfl
    rw [isFindings, isLimit]
    calc
      _ ≤ (config.impose ((standard { limit } catalog).observations text)).length :=
        List.length_filter_le _ _
      _ ≤ ((standard { limit } catalog).observations text).length := config.length_impose_le _
      _ ≤ limit := within
  rw [run_eq, if_pos fits, isFindings]

/-- A declaration without a known type, and a header without its colon. -/
def unfinishedScript : String := "var x = 1\nif x"

/-- The missing version is an error before the severity counts, and the colon is enabled again. -/
theorem run_configured_eq_unfinished :
    ((standard { limit := 3 } ⟨[]⟩).run unfinishedScript).length ≤ 3 ∧
      ((standard
          { [("declaration-type", .disable), ("missing-colon", .disable),
              ("version-directive", .raise), ("missing-colon", .enable)].foldl Config.follow {} with
            minimum := .error, limit := 3 }
          ⟨[]⟩).run unfinishedScript).map (fun finding => (finding.rule, finding.severity)) =
        [("version-directive", .error), ("missing-colon", .error)] := by
  have within : ((standard { limit := 3 } ⟨[]⟩).run unfinishedScript).length ≤ 3 := by
    decide +kernel
  refine ⟨within, ?_⟩
  rw [run_configured_eq ⟨[]⟩ unfinishedScript _ .error within]
  decide +kernel

end Linter

end PineAssist.Lint
