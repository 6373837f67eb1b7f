import StoryRules.Item

/-! Findings: what a validation pass reports. A problem makes a selection invalid, a warning does
not, and a suggestion names a change that would improve it. -/

namespace StoryRules

inductive Severity where
  | error
  | warning
  | info
  deriving DecidableEq, Repr

namespace Severity

def name : Severity → String
  | error => "error"
  | warning => "warning"
  | info => "info"

def toJson (s : Severity) : Json := .str s.name

def ofJson? (j : Json) : Option Severity := j.oneOf? name [error, warning, info]

end Severity

inductive Issue where
  | hardRequirementViolation
  | softRequirementViolation
  | circularDependency
  | mutualExclusionViolation
  | classConflict
  | tagConflict
  | plotBlockConflict
  | externalConflict
  | instanceLimitExceeded
  | instanceLimitNotMet
  | instanceLimitMismatch
  | missingRequiredTag
  | missingRequiredMetadata
  | missingRequiredClass
  | missingRequiredPlotBlock
  | missingRequiredDependency
  | excludedCategory
  | invalidCategory
  | customRuleViolation
  | customRuleWarning
  | customRuleSuggestion
  | ruleExecutionError
  | templateWarning
  | templateGuidance
  | tagEnhancement
  | featureUnlock
  | missingRequirementFix
  | plotEnhancement
  | pathwayOrder
  | pathwayItemNotSelected
  | duplicatePathwayItem
  | fandomMismatch
  deriving DecidableEq, Repr

namespace Issue

def name : Issue → String
  | hardRequirementViolation => "hard_requirement_violation"
  | softRequirementViolation => "soft_requirement_violation"
  | circularDependency => "circular_dependency"
  | mutualExclusionViolation => "mutual_exclusion_violation"
  | classConflict => "class_conflict"
  | tagConflict => "tag_conflict"
  | plotBlockConflict => "plot_block_conflict"
  | externalConflict => "external_conflict"
  | instanceLimitExceeded => "instance_limit_exceeded"
  | instanceLimitNotMet => "instance_limit_not_met"
  | instanceLimitMismatch => "instance_limit_mismatch"
  | missingRequiredTag => "missing_required_tag"
  | missingRequiredMetadata => "missing_required_metadata"
  | missingRequiredClass => "missing_required_class"
  | missingRequiredPlotBlock => "missing_required_plot_block"
  | missingRequiredDependency => "missing_required_dependency"
  | excludedCategory => "excluded_category"
  | invalidCategory => "invalid_category"
  | customRuleViolation => "custom_rule_violation"
  | customRuleWarning => "custom_rule_warning"
  | customRuleSuggestion => "custom_rule_suggestion"
  | ruleExecutionError => "rule_execution_error"
  | templateWarning => "template_warning"
  | templateGuidance => "template_guidance"
  | tagEnhancement => "tag_enhancement"
  | featureUnlock => "feature_unlock"
  | missingRequirementFix => "missing_requirement_fix"
  | plotEnhancement => "plot_enhancement"
  | pathwayOrder => "pathway_order"
  | pathwayItemNotSelected => "pathway_item_not_selected"
  | duplicatePathwayItem => "duplicate_pathway_item"
  | fandomMismatch => "fandom_mismatch"

def all : List Issue :=
  [hardRequirementViolation, softRequirementViolation, circularDependency,
    mutualExclusionViolation, classConflict, tagConflict, plotBlockConflict, externalConflict,
    instanceLimitExceeded, instanceLimitNotMet, instanceLimitMismatch, missingRequiredTag,
    missingRequiredMetadata, missingRequiredClass, missingRequiredPlotBlock,
    missingRequiredDependency, excludedCategory, invalidCategory, customRuleViolation,
    customRuleWarning, customRuleSuggestion, ruleExecutionError, templateWarning,
    templateGuidance, tagEnhancement, featureUnlock, missingRequirementFix, plotEnhancement,
    pathwayOrder, pathwayItemNotSelected, duplicatePathwayItem, fandomMismatch]

def toJson (i : Issue) : Json := .str i.name

def ofJson? (j : Json) : Option Issue := j.oneOf? name all

end Issue

/-- What to do with the target of a suggestion; `keep` confirms what is already in place. -/
inductive Action where
  | add
  | remove
  | replace
  | keep
  deriving DecidableEq, Repr

namespace Action

def name : Action → String
  | add => "add"
  | remove => "remove"
  | replace => "replace"
  | keep => "keep"

def toJson (a : Action) : Json := .str a.name

def ofJson? (j : Json) : Option Action := j.oneOf? name [add, remove, replace, keep]

end Action

structure Problem where
  issue : Issue
  message : String
  field : Option String := none
  value : Option Json := none
  severity : Severity := .error
  affected : List Ident := []
  deriving DecidableEq, Repr

structure Warning where
  issue : Issue
  message : String
  field : Option String := none
  suggestion : Option String := none
  affected : List Ident := []
  deriving DecidableEq, Repr

structure Suggestion where
  issue : Issue
  message : String
  action : Action
  target : Option Ident := none
  alternatives : List Ident := []
  deriving DecidableEq, Repr

def Problem.mention (p : Problem) (ids : List Ident) : Problem :=
  { p with affected := p.affected ++ ids }

def Warning.mention (w : Warning) (ids : List Ident) : Warning :=
  { w with affected := w.affected ++ ids }

def Suggestion.offer (s : Suggestion) (ids : List Ident) : Suggestion :=
  { s with alternatives := s.alternatives ++ ids }

inductive Finding where
  | problem (p : Problem)
  | warning (w : Warning)
  | suggestion (s : Suggestion)
  deriving DecidableEq, Repr

namespace Finding

def problem? : Finding → Option Problem
  | problem p => some p
  | _ => none

def warning? : Finding → Option Warning
  | warning w => some w
  | _ => none

def suggestion? : Finding → Option Suggestion
  | suggestion s => some s
  | _ => none

end Finding

/-! Absent texts and targets and empty lists of ids are left out of the written form. A null value
of a problem reads as an absent one. -/

namespace Problem

def toJson (p : Problem) : Json :=
  .obj <| [("type", p.issue.toJson), ("message", .str p.message)]
    ++ Json.Fields.whenSome "field" .str p.field
    ++ Json.Fields.whenSome "value" id p.value
    ++ [("severity", p.severity.toJson)]
    ++ Json.Fields.whenNonempty "affected_ids" Ident.toJson p.affected

def ofJson? (j : Json) : Option Problem := do
  let fields ← j.fields?
  return {
    issue := ← fields.required "type" Issue.ofJson?
    message := ← fields.required "message" Json.str?
    field := ← fields.nullable "field" Json.str?
    value := ← fields.nullable "value" some
    severity := ← fields.required "severity" Severity.ofJson?
    affected := ← fields.optional "affected_ids" Ident.listOfJson? [] }

end Problem

namespace Warning

def toJson (w : Warning) : Json :=
  .obj <| [("type", w.issue.toJson), ("message", .str w.message)]
    ++ Json.Fields.whenSome "field" .str w.field
    ++ Json.Fields.whenSome "suggestion" .str w.suggestion
    ++ Json.Fields.whenNonempty "affected_ids" Ident.toJson w.affected

def ofJson? (j : Json) : Option Warning := do
  let fields ← j.fields?
  return {
    issue := ← fields.required "type" Issue.ofJson?
    message := ← fields.required "message" Json.str?
    field := ← fields.nullable "field" Json.str?
    suggestion := ← fields.nullable "suggestion" Json.str?
    affected := ← fields.optional "affected_ids" Ident.listOfJson? [] }

end Warning

namespace Suggestion

def toJson (s : Suggestion) : Json :=
  .obj <| [("type", s.issue.toJson), ("message", .str s.message), ("action", s.action.toJson)]
    ++ Json.Fields.whenSome "target_id" Ident.toJson s.target
    ++ Json.Fields.whenNonempty "alternative_ids" Ident.toJson s.alternatives

def ofJson? (j : Json) : Option Suggestion := do
  let fields ← j.fields?
  return {
    issue := ← fields.required "type" Issue.ofJson?
    message := ← fields.required "message" Json.str?
    action := ← fields.required "action" Action.ofJson?
    target := ← fields.nullable "target_id" Ident.ofJson?
    alternatives := ← fields.optional "alternative_ids" Ident.listOfJson? [] }

end Suggestion

end StoryRules
