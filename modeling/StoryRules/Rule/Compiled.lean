import StoryRules.Rule
import StoryRules.Selection
import StoryRules.Graph.Depth
import StoryRules.Text.Blank

/-! Compiled rules: the tests of a rule as functions of a graph and a selection, the evaluation of
its chain of conditions, and the effects of its actions. The chain is folded from left to right and
left as soon as the next joiner fixes the outcome. -/

namespace StoryRules

inductive RuleFault where
  /-- The action of that name has no targets. -/
  | missingTargets (action : String)
  | missingMessage
  /-- The parents of a selected plot block form a loop. -/
  | cyclicHierarchy (block : Ident)
  deriving DecidableEq, Repr

def RuleFault.message : RuleFault → String
  | missingTargets action => s!"{action} action has no target ids"
  | missingMessage => "show_message action has no message"
  | cyclicHierarchy block => s!"plot block {block} has a cyclic parent chain"

abbrev Predicate := Graph → Selection → Except RuleFault Bool

structure Link where
  joiner : Joiner
  holds : Predicate

structure CompiledRule where
  id : Ident
  name : String
  priority : Int32
  severity : Severity
  conditions : List Link
  actions : List RuleAction

/-- Whether the targets stand in a relation to the present ids of a kind. -/
def Presence.holds (operator : Presence) (kind : Kind) (targets : List Ident) (g : Graph)
    (s : Selection) : Bool :=
  match operator with
  | equals => (g.present s kind).all targets.contains && targets.all (g.isPresent s kind)
  | contains => targets.all (g.isPresent s kind)
  | notContains => !targets.all (g.isPresent s kind)
  | someOf => targets.any (g.isPresent s kind)
  | noneOf => !targets.any (g.isPresent s kind)

/-- The depth of a selected plot block, which must not be below a loop. -/
def Graph.depthOf (g : Graph) (block : Ident) : Except RuleFault Nat :=
  match g.depth? block with
  | some depth => .ok depth
  | none => .error (.cyclicHierarchy block)

def Test.compile : Test → Predicate
  | hasTag operator targets => fun g s => .ok (operator.holds .tag targets g s)
  | hasPlotBlock operator targets => fun g s => .ok (operator.holds .plotBlock targets g s)
  | tagCount operator value targets => fun g s =>
    let count := (g.present s .tag).countP fun id => targets.isEmpty || targets.contains id
    .ok (operator.holds count value.toInt)
  | plotBlockDepth operator value => fun g s => do
    let depths ← s.plotBlocks.mapM g.depthOf
    return operator.holds (depths.foldl max 0 : Nat) value.toInt
  | customExpression _ => fun _ _ => .ok true

def RuleCondition.compile (c : RuleCondition) : Link where
  joiner := c.joiner
  holds := c.test.compile

def Rule.compile (r : Rule) : CompiledRule where
  id := r.id
  name := r.name
  priority := r.priority
  severity := r.severity
  conditions := r.conditions.map RuleCondition.compile
  actions := r.actions

namespace Joiner

def apply : Joiner → Bool → Bool → Bool
  | and => Bool.and
  | or => Bool.or

/-- Whether a value decides a joined pair, whatever comes second. -/
def isDecidedBy : Joiner → Bool → Bool
  | and, value => !value
  | or, value => value

end Joiner

/-- Goes on with a chain from the value of what came before and the joiner after it. The second
part of the answer is `count` and the number of predicates run. -/
def continueChain (g : Graph) (s : Selection) :
    Bool → Joiner → List Link → Nat → Except RuleFault Bool × Nat
  | value, _, [], count => (.ok value, count)
  | value, joiner, link :: rest, count =>
    if joiner.isDecidedBy value then (.ok value, count)
    else match link.holds g s with
      | .error fault => (.error fault, count + 1)
      | .ok next => continueChain g s (joiner.apply value next) link.joiner rest (count + 1)

namespace CompiledRule

/-- Whether a rule triggers, with `count` and the number of predicates run to find out. A rule
without conditions always triggers. -/
def evaluate (r : CompiledRule) (g : Graph) (s : Selection) (count : Nat) :
    Except RuleFault Bool × Nat :=
  match r.conditions with
  | [] => (.ok true, count)
  | link :: rest =>
    match link.holds g s with
    | .error fault => (.error fault, count + 1)
    | .ok value => continueChain g s value link.joiner rest (count + 1)

def outcome (r : CompiledRule) (severity : Severity) (message : String) (kind : Kind)
    (ids : List Ident) (action : Action) : Finding :=
  match severity with
  | .error => .problem {
      issue := .customRuleViolation
      message
      field := some kind.field
      value := some (.obj [("rule_id", r.id.toJson)])
      affected := ids }
  | .warning => .warning {
      issue := .customRuleWarning
      message
      field := some kind.field
      affected := ids }
  | .info => .suggestion {
      issue := .customRuleSuggestion
      message
      action
      target := ids.head?
      alternatives := ids.tail }

/-- The targets of an action, of which there must be some. -/
def targets (action : RuleAction) (ids : List Ident) : Except RuleFault (List Ident) :=
  if ids.isEmpty then .error (.missingTargets action.name) else .ok ids

/-- Demands that all targets are present, and confirms it when they are. -/
def require (r : CompiledRule) (g : Graph) (s : Selection) (kind : Kind) (ids : List Ident)
    (message : Option String) : Finding :=
  let missing := ids.filter fun id => !g.isPresent s kind id
  if missing.isEmpty then
    .suggestion {
      issue := .customRuleSuggestion
      message := s!"Rule \"{r.name}\" is satisfied"
      action := .keep
      alternatives := ids }
  else
    let list := ", ".intercalate (missing.map (g.nameOf kind))
    r.outcome r.severity (message.getD s!"Rule \"{r.name}\" requires: {list}") kind missing .add

def forbid (r : CompiledRule) (g : Graph) (s : Selection) (ids : List Ident)
    (message : Option String) : Option Finding :=
  let found := ids.filter (g.isPresent s .tag)
  if found.isEmpty then none
  else
    let list := ", ".intercalate (found.map (g.nameOf .tag))
    r.outcome r.severity (message.getD s!"Rule \"{r.name}\" forbids: {list}") .tag found .remove

def effect (r : CompiledRule) (g : Graph) (s : Selection) (action : RuleAction) :
    Except RuleFault (Option Finding) :=
  match action with
  | .requireTag ids message => do
    return r.require g s .tag (← targets action ids) message
  | .requirePlotBlock ids message => do
    return r.require g s .plotBlock (← targets action ids) message
  | .forbidTag ids message => do
    return r.forbid g s (← targets action ids) message
  | .suggestTag ids message => do
    let ids ← targets action ids
    let list := ", ".intercalate (ids.map (g.nameOf .tag))
    return some <| .suggestion {
      issue := .customRuleSuggestion
      message := message.getD s!"Consider adding: {list}"
      action := .add
      target := ids.head?
      alternatives := ids.tail }
  | .showMessage message severity =>
    match message.filter fun text => !Text.isBlankText text with
    | none => .error .missingMessage
    | some text => .ok (r.outcome (severity.getD r.severity) text .tag [] .keep)
  | .modifyPriority _ => .ok none

/-- The effects of all actions in order, or the first fault among them. -/
def effects (r : CompiledRule) (g : Graph) (s : Selection) : Except RuleFault (List Finding) := do
  return (← r.actions.mapM (r.effect g s)).flatMap Option.toList

end CompiledRule

end StoryRules
