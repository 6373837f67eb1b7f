import StoryRules.Report
import StoryRules.Rule.Compiled

/-! Running rules. Rules run in ascending priority, those of equal priority in the order given, and
each on its own: a rule that cannot be evaluated adds one problem to the report and nothing else. -/

namespace StoryRules

structure RuleRun where
  ruleId : Ident
  triggered : Bool
  failed : Bool
  conditionsEvaluated : Nat
  deriving DecidableEq, Repr

namespace CompiledRule

def faultProblem (r : CompiledRule) (fault : RuleFault) : Problem where
  issue := .ruleExecutionError
  message := s!"Rule \"{r.name}\" could not be evaluated: {fault.message}"
  value := some (.obj [("rule_id", r.id.toJson)])

/-- The findings of a rule when it triggers; nothing when it does not. -/
def attempt (r : CompiledRule) (g : Graph) (s : Selection) :
    Except RuleFault (Option (List Finding)) := do
  if ← (r.evaluate g s 0).1 then return some (← r.effects g s) else return none

def findings (r : CompiledRule) (g : Graph) (s : Selection) : List Finding :=
  match r.attempt g s with
  | .ok effects => effects.getD []
  | .error fault => [.problem (r.faultProblem fault)]

/-- How a rule fared; a rule that failed did not trigger. -/
def run (r : CompiledRule) (g : Graph) (s : Selection) : RuleRun where
  ruleId := r.id
  triggered := match r.attempt g s with
    | .ok effects => effects.isSome
    | .error _ => false
  failed := match r.attempt g s with
    | .ok _ => false
    | .error _ => true
  conditionsEvaluated := (r.evaluate g s 0).2

def ordered (rules : List CompiledRule) : List CompiledRule :=
  rules.mergeSort fun a b => a.priority ≤ b.priority

end CompiledRule

/-- The active ones of some rules, compiled, in the order in which they run. -/
def Rule.compileActive (rules : List Rule) : List CompiledRule :=
  CompiledRule.ordered ((rules.filter (·.isActive)).map Rule.compile)

namespace Graph

def ruleFindings (g : Graph) (rules : List CompiledRule) (s : Selection) : List Finding :=
  (CompiledRule.ordered rules).flatMap fun r => r.findings g s

def ruleRuns (g : Graph) (rules : List CompiledRule) (s : Selection) : List RuleRun :=
  (CompiledRule.ordered rules).map fun r => r.run g s

end Graph

def RuleRun.toJson (r : RuleRun) : Json :=
  .obj [("rule_id", r.ruleId.toJson), ("triggered", .bool r.triggered), ("failed", .bool r.failed),
    ("conditions_evaluated", Json.ofNat r.conditionsEvaluated)]

end StoryRules
