import StoryRules.Proofs.Rule.Run
import StoryRules.Proofs.TagClass
import StoryRules.Snapshot

/-! The passes of a validation, and the issues that each of them speaks about. -/

namespace StoryRules

inductive Pass where
  | requirements
  | tagClasses
  | rules
  | templates
  | enhancements
  deriving DecidableEq, Repr

namespace Pass

def all : List Pass := [requirements, tagClasses, rules, templates, enhancements]

theorem mem_all (p : Pass) : p ∈ all := by cases p <;> decide

def isOn (settings : Settings) : Pass → Bool
  | requirements | tagClasses => true
  | rules => settings.customRules
  | templates => settings.warningTemplates
  | enhancements => settings.enhancementSuggestions

/-- What a pass says of a selection when it runs. -/
def findings (snap : Snapshot) (s : Selection) : Pass → List Finding
  | requirements => (snap.graph.checkRequirements s).findings snap.graph
  | tagClasses => snap.graph.classFindings s
  | rules => snap.graph.ruleFindings snap.rules s
  | templates => snap.graph.templateFindings s
  | enhancements => snap.graph.enhancementFindings s

def issues : Pass → List Issue
  | requirements => [.hardRequirementViolation, .softRequirementViolation, .missingRequirementFix]
  | tagClasses => [.mutualExclusionViolation, .tagConflict, .classConflict,
      .instanceLimitExceeded, .instanceLimitNotMet, .instanceLimitMismatch, .missingRequiredTag,
      .missingRequiredMetadata, .missingRequiredClass, .excludedCategory, .invalidCategory,
      .missingRequiredPlotBlock, .missingRequiredDependency, .tagEnhancement, .featureUnlock]
  | rules => [.customRuleViolation, .customRuleWarning, .customRuleSuggestion, .ruleExecutionError]
  | templates => [.templateWarning, .templateGuidance]
  | enhancements => [.plotEnhancement, .tagEnhancement, .featureUnlock]

end Pass

theorem Snapshot.passFindings_eq (snap : Snapshot) (settings : Settings) (s : Selection) :
    snap.passFindings settings s =
      Pass.all.flatMap fun p => if p.isOn settings then p.findings snap s else [] := by
  simp only [passFindings, Pass.all, List.flatMap_cons, List.flatMap_nil, List.append_nil,
    List.append_assoc]
  rfl

theorem Snapshot.mem_passFindings {snap : Snapshot} {settings : Settings} {s : Selection}
    {f : Finding} : f ∈ snap.passFindings settings s ↔
      ∃ p : Pass, p.isOn settings = true ∧ f ∈ p.findings snap s := by
  rw [passFindings_eq, List.mem_flatMap]
  constructor
  · rintro ⟨p, -, hf⟩
    by_cases hOn : p.isOn settings = true
    · exact ⟨p, hOn, by simpa [hOn] using hf⟩
    · simp [hOn] at hf
  · rintro ⟨p, hOn, hf⟩
    exact ⟨p, p.mem_all, by simpa [hOn] using hf⟩

theorem Missing.issue_finding (m : Missing) (g : Graph) :
    (m.finding g).issue ∈ Pass.requirements.issues := by
  rw [Missing.finding]
  cases m.strength <;> simp [Finding.issue, Pass.issues]

theorem RequirementCheck.issue_mem {c : RequirementCheck} {g : Graph} {f : Finding}
    (hf : f ∈ c.findings g) : f.issue ∈ Pass.requirements.issues := by
  rw [findings, List.mem_append, List.mem_map, List.mem_map] at hf
  rcases hf with ⟨m, -, rfl⟩ | ⟨m, hm, rfl⟩
  · exact m.issue_finding g
  · rw [suggestions, List.mem_map] at hm
    obtain ⟨m, -, rfl⟩ := hm
    simp [Finding.issue, Pass.issues]

theorem AppliedClass.issue_mem {c : AppliedClass} {f : Finding} (hf : f ∈ c.findings) :
    f.issue ∈ Pass.tagClasses.issues := by
  rw [mem_findings] at hf
  rcases hf with ⟨rule, -, hf⟩ | ⟨rule, -, hf⟩ | ⟨rule, -, hf⟩ | ⟨rule, -, hf⟩ | ⟨rule, -, hf⟩
  · rw [exclusionFindings, List.append_assoc, List.mem_append, List.mem_append] at hf
    rcases hf with hf | hf | hf
    · simp [issue_withinClass hf, Pass.issues]
    · simp [issue_conflictingTags hf, Pass.issues]
    · simp [issue_conflictingClasses hf, Pass.issues]
  · exact (show _ ⊆ Pass.tagClasses.issues by decide) (issue_limitFindings hf)
  · exact (show _ ⊆ Pass.tagClasses.issues by decide) (issue_contextFindings hf)
  · rcases List.mem_append.1 hf with hf | hf
    · exact (show _ ⊆ Pass.tagClasses.issues by decide) (issue_categoryFindings hf)
    · simp [issue_plotBlockFindings hf, Pass.issues]
  · exact (show _ ⊆ Pass.tagClasses.issues by decide) (issue_dependencyFindings hf)

theorem Graph.issue_classFindings {g : Graph} {s : Selection} {f : Finding}
    (hf : f ∈ g.classFindings s) : f.issue ∈ Pass.tagClasses.issues := by
  obtain ⟨c, -, -, hc⟩ := mem_classFindings.1 hf
  exact AppliedClass.issue_mem hc

theorem Finding.IsEffect.issue_mem {f : Finding} (h : f.IsEffect) :
    f.issue ∈ Pass.rules.issues := by
  cases f with
  | problem p => simp [Finding.issue, h.1, Pass.issues]
  | warning w => simp [Finding.issue, show w.issue = _ from h, Pass.issues]
  | suggestion m => simp [Finding.issue, show m.issue = _ from h, Pass.issues]

theorem CompiledRule.issue_mem {r : CompiledRule} {g : Graph} {s : Selection} {f : Finding}
    (hf : f ∈ r.findings g s) : f.issue ∈ Pass.rules.issues := by
  rcases (r.fares g s).isEffect_or hf with hEffect | ⟨fault, rfl⟩
  · exact hEffect.issue_mem
  · simp [faultProblem, Finding.issue, Pass.issues]

theorem Graph.mem_templateFindings {g : Graph} {s : Selection} {f : Finding} :
    f ∈ g.templateFindings s ↔
      ∃ t ∈ g.templates, ∃ matched, t.match? g s = some matched ∧ t.finding matched = f := by
  simp only [templateFindings, List.mem_filterMap, Option.map_eq_some_iff]

theorem Template.issue_finding (t : Template) (matched : List Ident) :
    (t.finding matched).issue ∈ Pass.templates.issues := by
  rw [finding]
  cases t.severity <;> simp [Finding.issue, Pass.issues]

theorem Graph.issue_enhancementFindings {g : Graph} {s : Selection} {f : Finding}
    (hf : f ∈ g.enhancementFindings s) : f.issue ∈ Pass.enhancements.issues := by
  simp only [enhancementFindings, unlocks, List.map_append, List.map_map, List.mem_append,
    List.mem_map] at hf
  rcases hf with ⟨e, -, rfl⟩ | ⟨pair, -, rfl⟩ | ⟨pair, -, rfl⟩ <;>
    simp [Enhancement.suggestion, tagUnlock, conditionUnlock, Finding.issue, Pass.issues]

/-- Each pass speaks about its own issues only. -/
theorem Pass.issue_mem {p : Pass} {snap : Snapshot} {s : Selection} {f : Finding}
    (hf : f ∈ p.findings snap s) : f.issue ∈ p.issues := by
  cases p with
  | requirements => exact RequirementCheck.issue_mem hf
  | tagClasses => exact Graph.issue_classFindings hf
  | rules =>
    obtain ⟨r, -, hr⟩ := List.mem_flatMap.1 hf
    exact CompiledRule.issue_mem hr
  | templates =>
    obtain ⟨t, -, matched, -, rfl⟩ := Graph.mem_templateFindings.1 hf
    exact t.issue_finding matched
  | enhancements => exact Graph.issue_enhancementFindings hf

theorem Graph.enhancementFindings_eq (g : Graph) (s : Selection) :
    g.enhancementFindings s =
      ((g.enhancements s).map Enhancement.suggestion ++ g.unlocks s).map .suggestion := by
  rw [enhancementFindings, List.map_append, List.map_map]
  rfl

/-- Where one pass only speaks about an issue, the suggestions about it are those of that pass. -/
theorem Snapshot.suggestionsAbout_of_only (snap : Snapshot) (settings : Settings) (s : Selection)
    (p : Pass) {issue : Issue} (hOnly : Pass.all.filter (issue ∈ ·.issues) = [p]) :
    (Report.ofFindings (snap.passFindings settings s)).suggestionsAbout issue =
      if p.isOn settings then (Report.ofFindings (p.findings snap s)).suggestionsAbout issue
      else [] := by
  let said (q : Pass) : Report := .ofFindings (if q.isOn settings then q.findings snap s else [])
  have hOther {q : Pass} (hq : q ≠ p) : (said q).suggestionsAbout issue = [] := by
    refine Report.suggestionsAbout_eq_nil fun f hf hIssue => hq ?_
    split at hf
    · have hSpeaks : q ∈ Pass.all.filter (issue ∈ ·.issues) :=
        List.mem_filter.2 ⟨q.mem_all, decide_eq_true (hIssue ▸ q.issue_mem hf)⟩
      simpa [hOnly] using hSpeaks
    · simp at hf
  have hOwn : (said p).suggestionsAbout issue =
      if p.isOn settings then (Report.ofFindings (p.findings snap s)).suggestionsAbout issue
      else [] := by
    simp only [said]
    split <;> rfl
  rw [passFindings_eq, Pass.all, ← hOwn]
  simp only [List.flatMap_cons, List.flatMap_nil, List.append_nil, Report.suggestionsAbout_append]
  cases p <;> simp [said, hOther]

theorem Graph.suggestionsAbout_plotEnhancement (g : Graph) (s : Selection) :
    (Report.ofFindings (g.enhancementFindings s)).suggestionsAbout .plotEnhancement =
      (g.enhancements s).map Enhancement.suggestion := by
  have hUnlocks : (g.unlocks s).filter (·.issue = .plotEnhancement) = [] := by
    refine List.filter_eq_nil_iff.2 fun m hm => ?_
    rw [unlocks, List.mem_append, List.mem_map, List.mem_map] at hm
    rcases hm with ⟨pair, -, rfl⟩ | ⟨pair, -, rfl⟩ <;> simp [tagUnlock, conditionUnlock]
  rw [enhancementFindings_eq, Report.suggestionsAbout_map, List.filter_append, hUnlocks,
    List.append_nil]
  refine List.filter_eq_self.2 fun m hm => ?_
  obtain ⟨e, -, rfl⟩ := List.mem_map.1 hm
  rfl

/-- The suggested plot blocks can be told from the report of a validation. -/
theorem Snapshot.suggestionsAbout_plotEnhancement (snap : Snapshot) {settings : Settings}
    (hOn : settings.enhancementSuggestions = true) (s : Selection) :
    (Report.ofFindings (snap.passFindings settings s)).suggestionsAbout .plotEnhancement =
      (snap.graph.enhancements s).map Enhancement.suggestion := by
  have hRuns : Pass.enhancements.isOn settings = true := hOn
  rw [snap.suggestionsAbout_of_only settings s .enhancements (by decide), if_pos hRuns]
  exact snap.graph.suggestionsAbout_plotEnhancement s

end StoryRules
