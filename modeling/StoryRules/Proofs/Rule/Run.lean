import StoryRules.Proofs.Rule.Effect
import StoryRules.Proofs.StableOrder

/-! Rules run side by side. A rule fares as it would alone: it fails and adds one problem, is silent
and adds nothing, or triggers and adds the effects of its actions. The report of some rules is that
of each of them in turn (`ruleReport_isolated`), so a rule that fails, is dropped or is replaced
makes no difference to what the others add. -/

namespace StoryRules

namespace CompiledRule

/-- How a rule fares: what it adds to a report, and how its run is accounted for. -/
inductive Fares (r : CompiledRule) (g : Graph) (s : Selection) : List Finding → RuleRun → Prop
  | conditionFails {fault : RuleFault} (h : (r.evaluate g s 0).1 = .error fault) :
      Fares r g s [.problem (r.faultProblem fault)] ⟨r.id, false, true, (r.evaluate g s 0).2⟩
  | silent (h : (r.evaluate g s 0).1 = .ok false) :
      Fares r g s [] ⟨r.id, false, false, (r.evaluate g s 0).2⟩
  | actionFails {fault : RuleFault} (hTriggers : (r.evaluate g s 0).1 = .ok true)
      (h : r.effects g s = .error fault) :
      Fares r g s [.problem (r.faultProblem fault)] ⟨r.id, false, true, (r.evaluate g s 0).2⟩
  | acts {effects : List Finding} (hTriggers : (r.evaluate g s 0).1 = .ok true)
      (h : r.effects g s = .ok effects) :
      Fares r g s effects ⟨r.id, true, false, (r.evaluate g s 0).2⟩

variable {g : Graph} {s : Selection}

theorem findings_of_error {r : CompiledRule} {fault : RuleFault}
    (h : r.attempt g s = .error fault) : r.findings g s = [.problem (r.faultProblem fault)] := by
  rw [findings, h]

theorem findings_of_ok {r : CompiledRule} {said : Option (List Finding)}
    (h : r.attempt g s = .ok said) : r.findings g s = said.getD [] := by
  rw [findings, h]

theorem run_of_error {r : CompiledRule} {fault : RuleFault} (h : r.attempt g s = .error fault) :
    r.run g s = ⟨r.id, false, true, (r.evaluate g s 0).2⟩ := by
  rw [run, h]

theorem run_of_ok {r : CompiledRule} {said : Option (List Finding)}
    (h : r.attempt g s = .ok said) :
    r.run g s = ⟨r.id, said.isSome, false, (r.evaluate g s 0).2⟩ := by
  rw [run, h]

theorem fares (r : CompiledRule) (g : Graph) (s : Selection) :
    r.Fares g s (r.findings g s) (r.run g s) := by
  cases h : r.attempt g s with
  | error fault =>
    rw [findings_of_error h, run_of_error h]
    rcases attempt_eq_error.1 h with hFails | ⟨hTriggers, hFails⟩
    · exact .conditionFails hFails
    · exact .actionFails hTriggers hFails
  | ok said =>
    rw [findings_of_ok h, run_of_ok h]
    rcases attempt_eq_ok.1 h with ⟨hTriggers, effects, hEffects, rfl⟩ | ⟨hSilent, rfl⟩
    · exact .acts hTriggers hEffects
    · exact .silent hSilent

namespace Fares

variable {r : CompiledRule} {fs : List Finding} {run : RuleRun}

theorem not_both (h : r.Fares g s fs run) : ¬(run.triggered = true ∧ run.failed = true) := by
  cases h <;> simp

/-- Only a failure is told as one, and it is told once. -/
theorem errorCount (h : r.Fares g s fs run) :
    (Report.ofFindings fs).errorCount .ruleExecutionError = if run.failed then 1 else 0 := by
  cases h with
  | conditionFails => rfl
  | silent => rfl
  | actionFails => rfl
  | acts _ hEffects =>
    rw [if_neg Bool.false_ne_true, Report.errorCount, List.countP_eq_zero]
    intro p hp hIssue
    have hAbout : p.issue = .ruleExecutionError := by simpa using hIssue
    exact (isEffect_effects hEffects (Report.mem_errors_ofFindings.1 hp)).issue_ne hAbout

/-- What a rule adds is its one failure, or else effects of its actions. -/
theorem isEffect_or (h : r.Fares g s fs run) {f : Finding} (hf : f ∈ fs) :
    f.IsEffect ∨ ∃ fault, f = .problem (r.faultProblem fault) := by
  cases h with
  | conditionFails => exact .inr ⟨_, List.mem_singleton.1 hf⟩
  | silent => exact absurd hf List.not_mem_nil
  | actionFails => exact .inr ⟨_, List.mem_singleton.1 hf⟩
  | acts _ hEffects => exact .inl (isEffect_effects hEffects hf)

end Fares

theorem ordered_eq (rules : List CompiledRule) :
    ordered rules = rules.mergeSort fun a b => a.priority.toInt ≤ b.priority.toInt := by
  simp only [ordered, Int32.le_iff_toInt_le]

theorem stablyOrdered_ordered (rules : List CompiledRule) :
    StablyOrdered (·.priority.toInt) rules (ordered rules) := by
  rw [ordered_eq]
  exact stablyOrdered_mergeSort _ rules

theorem ordered_insert (front : List CompiledRule) (r : CompiledRule)
    (back : List CompiledRule) : ∃ before after, ordered (front ++ back) = before ++ after ∧
      ordered (front ++ r :: back) = before ++ r :: after := by
  obtain ⟨before, after, hOthers, hAll⟩ := (stablyOrdered_ordered (front ++ back)).insert r
  exact ⟨before, after, hOthers, (stablyOrdered_ordered _).unique hAll⟩

/-- What a rule adds to the report of some rules and to the account of their runs. -/
def contribution (r : CompiledRule) (g : Graph) (s : Selection) : Report × RuleRun :=
  (.ofFindings (r.findings g s), r.run g s)

end CompiledRule

namespace Graph

variable {g : Graph}

def ruleReport (g : Graph) (rules : List CompiledRule) (s : Selection) : Report :=
  .ofFindings (g.ruleFindings rules s)

/-- What each of some rules adds, in the order in which they run. -/
def contributions (g : Graph) (rules : List CompiledRule) (s : Selection) :
    List (Report × RuleRun) :=
  (CompiledRule.ordered rules).map (·.contribution g s)

theorem ruleReport_eq_concat (g : Graph) (rules : List CompiledRule) (s : Selection) :
    g.ruleReport rules s = Report.concat ((g.contributions rules s).map Prod.fst) := by
  rw [ruleReport, ruleFindings, Report.ofFindings_flatMap, contributions, List.map_map]
  rfl

theorem ruleRuns_eq_map (g : Graph) (rules : List CompiledRule) (s : Selection) :
    g.ruleRuns rules s = (g.contributions rules s).map Prod.snd := by
  rw [ruleRuns, contributions, List.map_map]
  rfl

/-- By induction on the rules, of which each tells its failure once. -/
theorem errorCount_concat (g : Graph) (s : Selection) (rules : List CompiledRule) :
    (Report.concat (rules.map fun r => .ofFindings (r.findings g s))).errorCount
        .ruleExecutionError =
      (rules.map (·.run g s)).countP (·.failed) := by
  induction rules with
  | nil => rfl
  | cons r rules ih =>
    rw [List.map_cons, List.map_cons, Report.concat_cons, Report.errorCount_merge, ih,
      (r.fares g s).errorCount, List.countP_cons, Nat.add_comm]

/-- A finding about the failure of a rule is a problem. -/
theorem exists_problem_of_issue {rules : List CompiledRule} {s : Selection} {f : Finding}
    (hf : f ∈ g.ruleFindings rules s) (hIssue : f.issue = .ruleExecutionError) :
    ∃ p, f = .problem p := by
  obtain ⟨r, -, hr⟩ := List.mem_flatMap.1 hf
  rcases (r.fares g s).isEffect_or hr with hEffect | ⟨fault, hFault⟩
  · exact absurd hIssue hEffect.issue_ne
  · exact ⟨_, hFault⟩

theorem contributions_insert (g : Graph) (s : Selection) (front : List CompiledRule)
    (r : CompiledRule) (back : List CompiledRule) :
    ∃ before after, g.contributions (front ++ back) s = before ++ after ∧
      g.contributions (front ++ r :: back) s = before ++ r.contribution g s :: after := by
  obtain ⟨before, after, hOthers, hAll⟩ := CompiledRule.ordered_insert front r back
  refine ⟨before.map (·.contribution g s), after.map (·.contribution g s), ?_, ?_⟩
  · rw [contributions, hOthers, List.map_append]
  · rw [contributions, hAll, List.map_append, List.map_cons]

/-- Rules run one by one in ascending priority, those of equal priority in the order given, and each
adds to the report what it would add alone. One that fails adds its failure and nothing else, and
counts as failed and not as triggered. To drop a rule, or to put another one in its place, is to
drop or to exchange what it adds. -/
theorem ruleReport_isolated (g : Graph) (rules : List CompiledRule) (s : Selection) :
    (StablyOrdered (·.priority.toInt) rules (CompiledRule.ordered rules) ∧
      g.ruleReport rules s = .concat ((g.contributions rules s).map Prod.fst) ∧
      g.ruleRuns rules s = (g.contributions rules s).map Prod.snd) ∧
    (∀ r : CompiledRule, r.Fares g s (r.findings g s) (r.run g s)) ∧
    (∀ run ∈ g.ruleRuns rules s, ¬(run.triggered = true ∧ run.failed = true)) ∧
    ((g.ruleReport rules s).errorCount .ruleExecutionError =
        (g.ruleRuns rules s).countP (·.failed) ∧
      ¬(g.ruleReport rules s).HasWarning .ruleExecutionError ∧
      (g.ruleReport rules s).suggestionsAbout .ruleExecutionError = []) ∧
    ∀ front r back r', rules = front ++ r :: back →
      ∃ before after before' after',
        g.contributions rules s = before ++ r.contribution g s :: after ∧
        g.contributions (front ++ back) s = before ++ after ∧
        g.contributions (front ++ r' :: back) s = before' ++ r'.contribution g s :: after' ∧
        before' ++ after' = before ++ after := by
  refine ⟨⟨CompiledRule.stablyOrdered_ordered rules, ruleReport_eq_concat g rules s,
    ruleRuns_eq_map g rules s⟩, fun r => r.fares g s, fun run hRun => ?_, ⟨?_, ?_, ?_⟩, ?_⟩
  · obtain ⟨r, -, rfl⟩ := List.mem_map.1 hRun
    exact (r.fares g s).not_both
  · rw [ruleReport, ruleFindings, Report.ofFindings_flatMap, errorCount_concat, ruleRuns]
  · rw [ruleReport, Report.hasWarning_ofFindings]
    rintro ⟨w, hw, hIssue⟩
    obtain ⟨p, hp⟩ := exists_problem_of_issue hw hIssue
    cases hp
  · refine List.filter_eq_nil_iff.2 fun m hm hIssue => ?_
    obtain ⟨p, hp⟩ := exists_problem_of_issue (Report.mem_suggestions_ofFindings.1 hm)
      (show m.issue = _ by simpa using hIssue)
    cases hp
  · rintro front r back r' rfl
    obtain ⟨before, after, hOthers, hAll⟩ := contributions_insert g s front r back
    obtain ⟨before', after', hOthers', hReplaced⟩ := contributions_insert g s front r' back
    exact ⟨before, after, before', after', hAll, hOthers, hReplaced, hOthers'.symm.trans hOthers⟩

end Graph

end StoryRules
