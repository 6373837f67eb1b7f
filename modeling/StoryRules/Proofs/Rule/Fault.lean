import StoryRules.Proofs.Graph.Depth
import StoryRules.Proofs.Rule.Chain
import StoryRules.Proofs.Rule.Run

/-! When a rule fails, and of what. Only a condition on the depth of plot blocks can fail: it does
where the evaluation comes to it and some selected block is below a loop. Only an action without its
targets or its text can fail: it does where the rule triggers. There is no other failure
(`ruleExecutionError_iff`). -/

namespace StoryRules

variable {g : Graph} {s : Selection} {fault : RuleFault}

/-! ### Conditions -/

theorem Graph.depthOf_eq_error {block : Ident} :
    g.depthOf block = .error fault ↔ g.Loops block ∧ .cyclicHierarchy block = fault := by
  rw [depthOf, ← depth?_eq_none_iff]
  cases g.depth? block <;> simp

/-- A test that looks at the depth of the selected plot blocks. -/
def Test.isOnDepth : Test → Bool
  | plotBlockDepth .. => true
  | _ => false

theorem Test.compile_eq_error {t : Test} :
    t.compile g s = .error fault ↔ t.isOnDepth = true ∧
      ∃ block, s.plotBlocks.find? (fun block => g.Loops block) = some block ∧
        .cyclicHierarchy block = fault := by
  cases t with
  | plotBlockDepth operator value =>
    have hFails (block : Ident) (fault : RuleFault) : g.depthOf block = .error fault ↔
        decide (g.Loops block) = true ∧ RuleFault.cyclicHierarchy block = fault := by
      rw [Graph.depthOf_eq_error, decide_eq_true_iff]
    simp [compile, bind_eq_error, mapM_eq_error hFails, isOnDepth, pure, Except.pure]
  | hasTag | hasPlotBlock | tagCount | customExpression => simp [compile, isOnDepth]

/-- The evaluation of some conditions comes to a certain one: each before it answers, and leaves its
joiner undecided. -/
inductive Reaches (g : Graph) (s : Selection) : List RuleCondition → RuleCondition → Prop
  | first {c cs} : Reaches g s (c :: cs) c
  | next {c cs c' value} (hHolds : c.test.compile g s = .ok value)
      (hOpen : c.joiner.isDecidedBy value = false) (h : Reaches g s cs c') :
      Reaches g s (c :: cs) c'

/-- Of a condition that answers, evaluation goes on to the rest if its joiner is undecided. -/
theorem Reaches.cons_iff {c c' : RuleCondition} {cs : List RuleCondition} {value : Bool}
    (hHolds : c.test.compile g s = .ok value) (hFault : c'.test.compile g s = .error fault) :
    Reaches g s (c :: cs) c' ↔ c.joiner.isDecidedBy value = false ∧ Reaches g s cs c' := by
  constructor
  · intro h
    cases h with
    | first => simp [hHolds] at hFault
    | next hAnswer hOpen h =>
      obtain rfl := Except.ok.inj (hHolds.symm.trans hAnswer)
      exact ⟨hOpen, h⟩
  · rintro ⟨hOpen, h⟩
    exact .next hHolds hOpen h

/-- By induction on the conditions: before an undecided joiner, what came before makes no difference
to the value. -/
theorem continueChain_eq_error {cs : List RuleCondition} {value : Bool} {joiner : Joiner}
    {count : Nat} :
    (continueChain g s value joiner (cs.map RuleCondition.compile) count).1 = .error fault ↔
      joiner.isDecidedBy value = false ∧
        ∃ c, Reaches g s cs c ∧ c.test.compile g s = .error fault := by
  induction cs generalizing value joiner count with
  | nil =>
    refine iff_of_false (by simp [continueChain]) ?_
    rintro ⟨-, c, hReaches, -⟩
    cases hReaches
  | cons c cs ih =>
    rw [List.map_cons, continueChain]
    cases hOpen : joiner.isDecidedBy value with
    | true => simp
    | false =>
      have hLink : c.compile.holds g s = c.test.compile g s := rfl
      rw [if_neg Bool.false_ne_true, hLink, eq_self, true_and]
      cases hHolds : c.test.compile g s with
      | error fault' =>
        constructor
        · rintro ⟨⟩
          exact ⟨c, .first, hHolds⟩
        · rintro ⟨c', hReaches, hFault⟩
          cases hReaches with
          | first => rw [← hHolds, hFault]
          | next hAnswer => simp [hHolds] at hAnswer
      | ok next =>
        dsimp only
        rw [Joiner.apply_of_not_decided hOpen, ih, ← exists_and_left]
        refine exists_congr fun c' => ?_
        rw [← and_assoc]
        exact and_congr_left fun hFault => (Reaches.cons_iff hHolds hFault).symm

/-! ### Actions -/

namespace RuleAction

/-- The action lacks the targets or the text that it needs. -/
def isIncomplete : RuleAction → Bool
  | requireTag targets _ | requirePlotBlock targets _ | forbidTag targets _
  | suggestTag targets _ => targets.isEmpty
  | showMessage message _ => message.all Text.isBlankText
  | modifyPriority _ => false

/-- What an incomplete action lacks. -/
def lack : RuleAction → RuleFault
  | showMessage .. => .missingMessage
  | action => .missingTargets action.name

end RuleAction

namespace CompiledRule

variable {r : CompiledRule}

theorem targets_eq_error {action : RuleAction} {ids : List Ident} :
    targets action ids = .error fault ↔
      ids.isEmpty = true ∧ .missingTargets action.name = fault := by
  rw [targets]
  split <;> simp [*]

theorem effect_eq_error (action : RuleAction) (fault : RuleFault) :
    r.effect g s action = .error fault ↔ action.isIncomplete = true ∧ action.lack = fault := by
  cases action with
  | requireTag | requirePlotBlock | forbidTag | suggestTag =>
    simp only [effect, bind_eq_error, targets_eq_error, pure, Except.pure, reduceCtorEq, and_false,
      exists_false, or_false]
    rfl
  | showMessage message severity =>
    rw [effect, RuleAction.isIncomplete, RuleAction.lack]
    cases message with
    | none => simp
    | some text => cases hBlank : Text.isBlankText text <;> simp [hBlank, Option.filter]
  | modifyPriority => simp [effect, RuleAction.isIncomplete]

theorem effects_eq_error : r.effects g s = .error fault ↔
    ∃ action, r.actions.find? RuleAction.isIncomplete = some action ∧ action.lack = fault := by
  rw [effects, bind_eq_error, mapM_eq_error effect_eq_error]
  simp [pure, Except.pure]

theorem ruleReport_singleton (r : CompiledRule) (g : Graph) (s : Selection) :
    g.ruleReport [r] s = .ofFindings (r.findings g s) := by
  simp [Graph.ruleReport, Graph.ruleFindings, ordered]

end CompiledRule

/-! ### Failures of a rule -/

namespace Rule

/-- The evaluation of the conditions comes to one that looks at the depth of plot blocks. -/
def ReachesDepth (r : Rule) (g : Graph) (s : Selection) : Prop :=
  ∃ c, Reaches g s r.conditions c ∧ c.test.isOnDepth = true

theorem evaluate_eq_error {r : Rule} : (r.compile.evaluate g s 0).1 = .error fault ↔
    r.ReachesDepth g s ∧ ∃ block, s.plotBlocks.find? (fun block => g.Loops block) = some block ∧
      .cyclicHierarchy block = fault := by
  have hConditions : r.compile.conditions = r.conditions.map RuleCondition.compile := rfl
  rw [CompiledRule.evaluate_eq_continueChain, hConditions, continueChain_eq_error]
  simp only [Test.compile_eq_error, ReachesDepth, ← and_assoc, exists_and_right]
  simp [Joiner.isDecidedBy]

theorem attempt_eq_error {r : Rule} : r.compile.attempt g s = .error fault ↔
    (r.ReachesDepth g s ∧ ∃ block, s.plotBlocks.find? (fun block => g.Loops block) = some block ∧
      .cyclicHierarchy block = fault) ∨
    ((r.compile.evaluate g s 0).1 = .ok true ∧
      ∃ action, r.actions.find? RuleAction.isIncomplete = some action ∧ action.lack = fault) := by
  rw [CompiledRule.attempt_eq_error, evaluate_eq_error, CompiledRule.effects_eq_error]
  rfl

end Rule

end StoryRules
