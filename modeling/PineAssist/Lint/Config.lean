import PineAssist.Lint.Rule
import Std.Data.ExtTreeMap

/-!
# Configuration of the linter

Rules are configured by identifier; a rule that is not mentioned is switched on and keeps its
severities. Several rules may share an identifier and are then configured together.
-/

namespace PineAssist.Lint

/-- How one rule is applied. -/
structure RuleSetting where
  enabled : Bool := true
  /-- Whether the warnings of the rule count as errors. -/
  raised : Bool := false
  deriving DecidableEq

/-- What the linter reports. -/
structure Config where
  rules : Std.ExtTreeMap String RuleSetting := ∅
  /-- Least severity that is reported. -/
  minimum : Severity := .hint
  /-- Number of findings after which the linter stops. -/
  limit : Nat := 10000

/-- Why a configuration is refused. -/
inductive ConfigError where
  | tooManyRules (count : Nat)
  | emptyRuleId
  | ruleIdTooLong (bytes : Nat)
  deriving DecidableEq

namespace Config

/-- Number of rules that may be configured. -/
def maxRules : Nat := 1000

/-- Number of bytes that the identifier of a rule may have. -/
def maxRuleIdLength : Nat := 100

/-- The setting of a rule. -/
def setting (config : Config) (rule : String) : RuleSetting :=
  (config.rules[rule]?).getD {}

/-- Replaces the setting of a rule. -/
def configure (config : Config) (rule : String) (setting : RuleSetting) : Config :=
  { config with rules := config.rules.insert rule setting }

/-- Switches a rule off. -/
def disable (config : Config) (rule : String) : Config :=
  config.configure rule ⟨false, false⟩

/-- Switches a rule on, with its own severities. -/
def enable (config : Config) (rule : String) : Config :=
  config.configure rule ⟨true, false⟩

/-- Switches a rule on and lets its warnings count as errors. -/
def raise (config : Config) (rule : String) : Config :=
  config.configure rule ⟨true, true⟩

/-- What is wrong with the identifier of a rule. -/
def ruleIdError? (rule : String) : Option ConfigError :=
  if rule.isEmpty then some .emptyRuleId
  else if maxRuleIdLength < rule.utf8ByteSize then some (.ruleIdTooLong rule.utf8ByteSize)
  else none

/-- The first reason to refuse a configuration: too many rules, then bad identifiers in order. -/
def error? (config : Config) : Option ConfigError :=
  if maxRules < config.rules.size then some (.tooManyRules config.rules.size)
  else config.rules.keys.findSome? ruleIdError?

/-- The configuration itself if it is acceptable, and otherwise the one without any settings. -/
def orDefault (config : Config) : Config :=
  if config.error?.isNone then config else {}

end Config

/-- What is said about a refused configuration. -/
def ConfigError.message : ConfigError → String
  | tooManyRules count =>
    "Too many rule configurations: " ++ count.repr ++ " (max: " ++ Config.maxRules.repr ++ ")"
  | emptyRuleId => "Empty rule ID not allowed"
  | ruleIdTooLong bytes =>
    "Rule ID too long: " ++ bytes.repr ++ " bytes (max: " ++ Config.maxRuleIdLength.repr ++ ")"

end PineAssist.Lint
