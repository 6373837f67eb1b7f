import StoryRules.Finding

/-! Custom rules: a chain of conditions on a selection and the actions to take when it holds.
Conditions and actions are closed unions: what names no known kind, or lacks a part of its kind, is
no rule at all. Parts that belong to another kind are ignored. -/

namespace StoryRules

inductive Joiner where
  | and
  | or
  deriving DecidableEq, Repr

/-- How the targets of a condition relate to the present ids. -/
inductive Presence where
  | equals
  | contains
  | notContains
  | someOf
  | noneOf
  deriving DecidableEq, Repr

inductive Comparison where
  | equals
  | greaterThan
  | lessThan
  deriving DecidableEq, Repr

inductive Test where
  | hasTag (operator : Presence) (targets : List Ident)
  | hasPlotBlock (operator : Presence) (targets : List Ident)
  /-- Compares the number of applied tags, of those among `targets` unless that is empty. -/
  | tagCount (operator : Comparison) (value : Int64) (targets : List Ident)
  | plotBlockDepth (operator : Comparison) (value : Int64)
  /-- Holds always: the expression is kept and not evaluated. -/
  | customExpression (expression : String)
  deriving DecidableEq, Repr

structure RuleCondition where
  test : Test
  /-- Joins the condition to the next one; without effect on the last one. -/
  joiner : Joiner := .and
  deriving DecidableEq, Repr

inductive RuleAction where
  | requireTag (targets : List Ident) (message : Option String)
  | requirePlotBlock (targets : List Ident) (message : Option String)
  | forbidTag (targets : List Ident) (message : Option String)
  | suggestTag (targets : List Ident) (message : Option String)
  /-- Shows a text, at the severity of the rule unless another one is given. -/
  | showMessage (message : Option String) (severity : Option Severity)
  /-- Accepted and without effect. -/
  | modifyPriority (priority : Option Int32)
  deriving DecidableEq, Repr

structure Rule where
  id : Ident
  name : String
  description : Option String := none
  /-- Rules of lower priority values run first. -/
  priority : Int32 := 0
  severity : Severity
  isActive : Bool := true
  conditions : List RuleCondition := []
  actions : List RuleAction := []
  deriving DecidableEq, Repr

namespace Joiner

def name : Joiner → String
  | and => "AND"
  | or => "OR"

def toJson (j : Joiner) : Json := .str j.name

def ofJson? (j : Json) : Option Joiner := j.oneOf? name [and, or]

end Joiner

namespace Presence

def name : Presence → String
  | equals => "equals"
  | contains => "contains"
  | notContains => "not_contains"
  | someOf => "in"
  | noneOf => "not_in"

def toJson (p : Presence) : Json := .str p.name

def ofJson? (j : Json) : Option Presence :=
  j.oneOf? name [equals, contains, notContains, someOf, noneOf]

end Presence

namespace Comparison

def holds (actual expected : Int) : Comparison → Bool
  | equals => actual = expected
  | greaterThan => actual > expected
  | lessThan => actual < expected

def name : Comparison → String
  | equals => "equals"
  | greaterThan => "greater_than"
  | lessThan => "less_than"

def toJson (c : Comparison) : Json := .str c.name

def ofJson? (j : Json) : Option Comparison := j.oneOf? name [equals, greaterThan, lessThan]

end Comparison

namespace Test

def name : Test → String
  | hasTag .. => "has_tag"
  | hasPlotBlock .. => "has_plot_block"
  | tagCount .. => "tag_count"
  | plotBlockDepth .. => "plot_block_depth"
  | customExpression .. => "custom_expression"

def parts : Test → Json.Fields
  | hasTag operator targets | hasPlotBlock operator targets =>
    [("operator", operator.toJson), ("target_ids", Ident.listToJson targets)]
  | tagCount operator value targets =>
    [("operator", operator.toJson), ("value", Json.ofInt64 value),
      ("target_ids", Ident.listToJson targets)]
  | plotBlockDepth operator value =>
    [("operator", operator.toJson), ("value", Json.ofInt64 value)]
  | customExpression expression => [("expression", .str expression)]

/-- The fields of a test; `condition_type` names the test and determines the others. -/
def fields (t : Test) : Json.Fields := ("condition_type", .str t.name) :: t.parts

def ofFields? (fields : Json.Fields) : Option Test := do
  match ← fields.required "condition_type" Json.str? with
  | "has_tag" =>
    return hasTag (← fields.required "operator" Presence.ofJson?)
      (← fields.required "target_ids" Ident.listOfJson?)
  | "has_plot_block" =>
    return hasPlotBlock (← fields.required "operator" Presence.ofJson?)
      (← fields.required "target_ids" Ident.listOfJson?)
  | "tag_count" =>
    return tagCount (← fields.required "operator" Comparison.ofJson?)
      (← fields.required "value" Json.int64?)
      (← fields.optional "target_ids" Ident.listOfJson? [])
  | "plot_block_depth" =>
    return plotBlockDepth (← fields.required "operator" Comparison.ofJson?)
      (← fields.required "value" Json.int64?)
  | "custom_expression" => return customExpression (← fields.required "expression" Json.str?)
  | _ => none

def toJson (t : Test) : Json := .obj t.fields

def ofJson? (j : Json) : Option Test := j.fields?.bind ofFields?

end Test

namespace RuleCondition

def toJson (c : RuleCondition) : Json :=
  .obj (c.test.fields ++ [("logic_operator", c.joiner.toJson)])

def ofJson? (j : Json) : Option RuleCondition := do
  let fields ← j.fields?
  return {
    test := ← Test.ofFields? fields
    joiner := ← fields.optional "logic_operator" Joiner.ofJson? .and }

end RuleCondition

namespace RuleAction

def name : RuleAction → String
  | requireTag .. => "require_tag"
  | requirePlotBlock .. => "require_plot_block"
  | forbidTag .. => "forbid_tag"
  | suggestTag .. => "suggest_tag"
  | showMessage .. => "show_message"
  | modifyPriority .. => "modify_priority"

def parts : RuleAction → Json.Fields
  | requireTag targets message | requirePlotBlock targets message
  | forbidTag targets message | suggestTag targets message =>
    [("target_ids", Ident.listToJson targets), ("message", Json.ofOption .str message)]
  | showMessage message severity =>
    [("message", Json.ofOption .str message), ("severity", Json.ofOption Severity.toJson severity)]
  | modifyPriority priority => [("priority", Json.ofOption Json.ofInt32 priority)]

def toJson (a : RuleAction) : Json := .obj (("action_type", .str a.name) :: a.parts)

def targeted? (make : List Ident → Option String → RuleAction) (fields : Json.Fields) :
    Option RuleAction := do
  return make (← fields.required "target_ids" Ident.listOfJson?)
    (← fields.nullable "message" Json.str?)

def ofJson? (j : Json) : Option RuleAction := do
  let fields ← j.fields?
  match ← fields.required "action_type" Json.str? with
  | "require_tag" => targeted? requireTag fields
  | "require_plot_block" => targeted? requirePlotBlock fields
  | "forbid_tag" => targeted? forbidTag fields
  | "suggest_tag" => targeted? suggestTag fields
  | "show_message" =>
    return showMessage (← fields.nullable "message" Json.str?)
      (← fields.nullable "severity" Severity.ofJson?)
  | "modify_priority" => return modifyPriority (← fields.nullable "priority" Json.int32?)
  | _ => none

end RuleAction

namespace Rule

def toJson (r : Rule) : Json :=
  .obj <| [("id", r.id.toJson), ("name", .str r.name)]
    ++ Json.Fields.whenSome "description" .str r.description
    ++ [("priority", Json.ofInt32 r.priority), ("severity", r.severity.toJson),
      ("is_active", .bool r.isActive),
      ("conditions", Json.ofList RuleCondition.toJson r.conditions),
      ("actions", Json.ofList RuleAction.toJson r.actions)]

def ofJson? (j : Json) : Option Rule := do
  let fields ← j.fields?
  return {
    id := ← fields.required "id" Ident.ofJson?
    name := ← fields.required "name" Json.str?
    description := ← fields.nullable "description" Json.str?
    priority := ← fields.optional "priority" Json.int32? 0
    severity := ← fields.required "severity" Severity.ofJson?
    isActive := ← fields.optional "is_active" Json.bool? true
    conditions := ← fields.optional "conditions" (Json.list? RuleCondition.ofJson?) []
    actions := ← fields.optional "actions" (Json.list? RuleAction.ofJson?) [] }

end Rule

end StoryRules
