import StoryRules.Proofs.Enhancement.Exact
import StoryRules.Proofs.Requirement.Repair
import StoryRules.Proofs.Snapshot.Switch

/-! What a validation suggests to add. Apart from the rules, three passes do: that of requirements
what would repair the selection, that of tag classes what a class enables, and that of enhancements
what a chosen entity goes with. All of it is known, is not chosen yet, and can be added under a kind
that the issue of the suggestion gives (`validate_additions`). -/

namespace StoryRules

/-- The kinds of entities that suggestions about an issue name, apart from those of rules. -/
def Issue.addedKinds : Issue → List Kind
  | .plotEnhancement => [.plotBlock]
  | .tagEnhancement => [.tag]
  | .featureUnlock => [.tag, .condition]
  | .missingRequirementFix => [.tag, .plotBlock, .condition]
  | _ => []

namespace Graph

/-- An entity can be added to a selection as a suggestion about an issue says. -/
structure Addition (g : Graph) (s : Selection) (issue : Issue) (item : Item) : Prop where
  kind : item.kind ∈ issue.addedKinds
  known : item.id ∈ g.ids item.kind
  unselected : item.id ∉ s.ids item.kind
  required : issue = .missingRequirementFix →
    ∃ source ∈ s.ids item.kind, source ∈ g.ids item.kind ∧ item.id ∈ g.requires item.kind source

/-- A suggestion names an entity that can be added as it says. -/
def CanFollow (g : Graph) (s : Selection) (m : Suggestion) : Prop :=
  ∃ item : Item, m.target = some item.id ∧ g.Addition s m.issue item

/-- An entity is known and not chosen. -/
def CanAdd (g : Graph) (s : Selection) (kind : Kind) (id : Ident) : Prop :=
  g.contains kind id = true ∧ s.has kind id = false

variable {g : Graph} {s : Selection} {kind : Kind} {id : Ident} {m : Suggestion}

theorem canAdd_of_filter (h : (!s.has kind id && g.contains kind id) = true) :
    g.CanAdd s kind id := by
  rw [Bool.and_eq_true, Bool.not_eq_true'] at h
  exact ⟨h.2, h.1⟩

theorem CanAdd.canFollow (h : g.CanAdd s kind id) (hTarget : m.target = some id)
    (hKind : kind ∈ m.issue.addedKinds) (hIssue : m.issue ≠ .missingRequirementFix) :
    g.CanFollow s m := by
  refine ⟨⟨kind, id⟩, hTarget, hKind, mem_ids.2 h.1, fun hChosen => ?_, fun hFix => ?_⟩
  · exact Bool.eq_false_iff.1 h.2 (Selection.has_iff.2 hChosen)
  · exact absurd hFix hIssue

/-! ### Requirements -/

theorem addition_of_fixable {lack : Missing} (h : lack ∈ g.fixable s) :
    g.Addition s .missingRequirementFix ⟨lack.kind, lack.required⟩ := by
  obtain ⟨⟨source, hSource, hNeeds⟩, hAbsent⟩ := exists_fixable.1 ⟨lack, h, rfl, rfl⟩
  obtain ⟨hChosen, hKnown⟩ := isPresent_iff.1 hSource
  refine ⟨?_, mem_ids.2 hNeeds.target, fun hTarget => ?_,
    fun _ => ⟨source, hChosen, mem_ids.2 hKnown, hNeeds.listed⟩⟩
  · cases lack.kind <;> simp [Issue.addedKinds]
  · simp [isPresent_iff.2 ⟨hTarget, hNeeds.target⟩] at hAbsent

/-- The requirements that are suggested to be added. -/
def fixes (g : Graph) (s : Selection) : List Item :=
  ((g.checkRequirements s).addable g).map fun lack => ⟨lack.kind, lack.required⟩

theorem nodup_fixes (g : Graph) (s : Selection) : (g.fixes s).Nodup := nodup_map_distinctOn _ _

theorem addition_of_mem_fixes {item : Item} (h : item ∈ g.fixes s) :
    g.Addition s .missingRequirementFix item := by
  obtain ⟨lack, hLack, rfl⟩ := List.mem_map.1 h
  exact addition_of_fixable (mem_of_mem_distinctOn hLack)

/-- The suggestions of the pass of requirements are those to add what is required. -/
theorem suggestions_requirements (g : Graph) (s : Selection) :
    (Report.ofFindings ((g.checkRequirements s).findings g)).suggestions =
      (g.checkRequirements s).suggestions g := by
  have hNone : (Report.ofFindings
      ((g.checkRequirements s).missing.map (·.finding g))).suggestions = [] := by
    refine List.eq_nil_iff_forall_not_mem.2 fun m hm => ?_
    obtain ⟨lack, -, hLack⟩ := List.mem_map.1 (Report.mem_suggestions_ofFindings.1 hm)
    rw [Missing.finding] at hLack
    split at hLack <;> cases hLack
  rw [RequirementCheck.findings, Report.ofFindings_append, Report.ofFindings_map_suggestion,
    Report.merge, hNone, List.nil_append]

theorem issue_of_mem_fixSuggestions (hm : m ∈ (g.checkRequirements s).suggestions g) :
    m.issue = .missingRequirementFix := by
  obtain ⟨lack, -, rfl⟩ := List.mem_map.1 hm
  rfl

theorem suggestionsAbout_fix (g : Graph) (s : Selection) :
    (Report.ofFindings ((g.checkRequirements s).findings g)).suggestionsAbout
      .missingRequirementFix = (g.checkRequirements s).suggestions g := by
  rw [Report.suggestionsAbout, suggestions_requirements]
  exact List.filter_eq_self.2 fun m hm => decide_eq_true (issue_of_mem_fixSuggestions hm)

theorem targets_fixSuggestions (g : Graph) (s : Selection) :
    ((g.checkRequirements s).suggestions g).map (·.target) =
      (g.fixes s).map fun item => some item.id := by
  simp [RequirementCheck.suggestions, fixes]

theorem canFollow_of_mem_requirements (hm : .suggestion m ∈ (g.checkRequirements s).findings g) :
    g.CanFollow s m := by
  rw [← Report.mem_suggestions_ofFindings, suggestions_requirements] at hm
  have hTarget : m.target ∈ (g.fixes s).map fun item => some item.id :=
    targets_fixSuggestions g s ▸ List.mem_map_of_mem hm
  obtain ⟨item, hItem, hSame⟩ := List.mem_map.1 hTarget
  exact ⟨item, hSame.symm, issue_of_mem_fixSuggestions hm ▸ addition_of_mem_fixes hItem⟩

/-! ### Tag classes -/

/-- Of the rules of a class, only that of dependencies suggests to add something: what the class
enables. -/
theorem canAdd_of_mem_findings {c : AppliedClass} (hm : .suggestion m ∈ c.findings)
    (hAdd : m.action = .add) : m.issue = .featureUnlock ∧ ∃ id, m.target = some id ∧
      c.graph.CanAdd c.selection .tag id := by
  rcases AppliedClass.suggestion_mem_findings hm with ⟨rule, -, hm⟩ | ⟨rule, -, hm⟩
  · obtain ⟨-, hRemove, -⟩ := AppliedClass.suggestion_mem_withinClass hm
    rw [hRemove] at hAdd
    cases hAdd
  · rcases AppliedClass.suggestion_mem_dependencyFindings hm with
      hKeep | ⟨-, hIssue, id, hTarget, hFree⟩
    · rw [hKeep] at hAdd
      cases hAdd
    · exact ⟨hIssue, id, hTarget, canAdd_of_filter hFree⟩

theorem canFollow_of_mem_classFindings (hm : .suggestion m ∈ g.classFindings s)
    (hAdd : m.action = .add) : g.CanFollow s m := by
  obtain ⟨c, -, -, hc⟩ := mem_classFindings.1 hm
  obtain ⟨hIssue, id, hTarget, hFree⟩ := canAdd_of_mem_findings hc hAdd
  exact hFree.canFollow hTarget (by simp [hIssue, Issue.addedKinds]) (by simp [hIssue])

/-! ### Enhancements -/

theorem canAdd_iff : g.CanAdd s kind id ↔ id ∈ g.ids kind ∧ id ∉ s.ids kind := by
  unfold CanAdd
  rw [mem_ids, ← Selection.has_iff, Bool.not_eq_true]

theorem canAdd_of_mem_enhancements {e : Enhancement} (he : e ∈ g.enhancements s) :
    g.CanAdd s .plotBlock e.id := by
  obtain ⟨block, hBlock, hUnchosen, impact, source, -, rfl⟩ := mem_enhancements.1 he
  exact canAdd_iff.2 ⟨List.mem_map_of_mem hBlock, hUnchosen⟩

theorem canAdd_of_mem_unlocked {list : Entity → List Ident} {pair : Ident × Ident}
    (h : pair ∈ g.unlocked s kind list) : g.CanAdd s kind pair.2 := by
  obtain ⟨hKnown, hUnchosen, -⟩ := mem_unlocked.1 h
  exact canAdd_iff.2 ⟨hKnown, hUnchosen⟩

theorem canFollow_of_mem_enhancementFindings (hm : .suggestion m ∈ g.enhancementFindings s) :
    g.CanFollow s m := by
  rw [← Report.mem_suggestions_ofFindings, enhancementFindings_eq,
    Report.ofFindings_map_suggestion, unlocks, List.mem_append, List.mem_append, List.mem_map,
    List.mem_map, List.mem_map] at hm
  rcases hm with ⟨e, he, rfl⟩ | ⟨pair, hPair, rfl⟩ | ⟨pair, hPair, rfl⟩
  · exact (canAdd_of_mem_enhancements he).canFollow rfl
      (by simp [Enhancement.suggestion, Issue.addedKinds]) (by simp [Enhancement.suggestion])
  · exact (canAdd_of_mem_unlocked hPair).canFollow rfl
      (by simp [tagUnlock, Issue.addedKinds]) (by simp [tagUnlock])
  · exact (canAdd_of_mem_unlocked hPair).canFollow rfl
      (by simp [conditionUnlock, Issue.addedKinds]) (by simp [conditionUnlock])

end Graph

/-- What a pass suggests to add can be added, but for the suggestions of rules. -/
theorem Pass.canFollow_of_mem {p : Pass} {snap : Snapshot} {s : Selection} {m : Suggestion}
    (hm : .suggestion m ∈ p.findings snap s) (hAdd : m.action = .add)
    (hIssue : m.issue ≠ .customRuleSuggestion) : snap.graph.CanFollow s m := by
  cases p with
  | requirements => exact Graph.canFollow_of_mem_requirements hm
  | tagClasses => exact Graph.canFollow_of_mem_classFindings hm hAdd
  | rules =>
    obtain ⟨r, -, hr⟩ := List.mem_flatMap.1 hm
    rcases (r.fares snap.graph s).isEffect_or hr with hEffect | ⟨fault, hFault⟩
    · exact absurd hEffect hIssue
    · cases hFault
  | templates =>
    obtain ⟨t, -, matched, -, hSame⟩ := Graph.mem_templateFindings.1 hm
    rw [Template.finding] at hSame
    split at hSame
    · cases hSame
    · obtain rfl := Finding.suggestion.inj hSame
      simp at hAdd
  | enhancements => exact Graph.canFollow_of_mem_enhancementFindings hm

namespace Snapshot

variable {snap : Snapshot} {settings : Settings} {s : Selection}

/-- Where one pass only speaks about an issue, a validation suggests what that pass does. -/
theorem suggestionsAbout_validate (p : Pass) {issue : Issue}
    (hOnly : Pass.all.filter (issue ∈ ·.issues) = [p]) :
    (snap.validate settings s).suggestionsAbout issue =
      if s.fandomId = snap.fandomId ∧ p.isOn settings = true then
        (Report.ofFindings (p.findings snap s)).suggestionsAbout issue
      else [] := by
  by_cases hOwn : s.fandomId = snap.fandomId
  · simp [validate, findings, hOwn, snap.suggestionsAbout_of_only settings s p hOnly]
  · simp [validate_other hOwn, hOwn, Report.suggestionsAbout]

theorem mem_suggestions_validate {m : Suggestion}
    (hm : m ∈ (snap.validate settings s).suggestions) :
    ∃ p : Pass, .suggestion m ∈ p.findings snap s := by
  by_cases hOwn : s.fandomId = snap.fandomId
  · rw [validate, findings, if_pos hOwn, Report.mem_suggestions_ofFindings] at hm
    obtain ⟨p, -, hp⟩ := mem_passFindings.1 hm
    exact ⟨p, hp⟩
  · simp [validate_other hOwn] at hm

/-- Whatever a validation suggests to add, but for the suggestions of rules, can be added. No plot
block is suggested twice as an enhancement, and nothing twice under one kind to meet a
requirement. -/
theorem validate_additions (snap : Snapshot) (settings : Settings) (s : Selection) :
    (∀ m ∈ (snap.validate settings s).suggestions, m.action = .add →
      m.issue ≠ .customRuleSuggestion → snap.graph.CanFollow s m) ∧
    (((snap.validate settings s).suggestionsAbout .plotEnhancement).map (·.target)).Nodup ∧
    ∃ fixes : List Item, fixes.Nodup ∧
      ((snap.validate settings s).suggestionsAbout .missingRequirementFix).map (·.target) =
        (fixes.map fun item => some item.id) ∧
      ∀ item ∈ fixes, snap.graph.Addition s .missingRequirementFix item := by
  refine ⟨fun m hm hAdd hIssue => ?_, ?_, ?_⟩
  · obtain ⟨p, hp⟩ := mem_suggestions_validate hm
    exact p.canFollow_of_mem hp hAdd hIssue
  · rw [suggestionsAbout_validate .enhancements (by decide)]
    split
    · rw [Pass.findings, Graph.suggestionsAbout_plotEnhancement, List.map_map]
      have hNodup : ((snap.graph.enhancements s).map Enhancement.id).Nodup :=
        nodup_map_distinctOn _ _
      simpa [Function.comp_def, Enhancement.suggestion] using
        hNodup.map (Option.some_injective Ident)
    · exact List.nodup_nil
  · rw [suggestionsAbout_validate .requirements (by decide)]
    split
    · refine ⟨snap.graph.fixes s, snap.graph.nodup_fixes s, ?_,
        fun item hItem => Graph.addition_of_mem_fixes hItem⟩
      rw [Pass.findings, Graph.suggestionsAbout_fix, Graph.targets_fixSuggestions]
    · exact ⟨[], List.nodup_nil, rfl, by simp⟩

/-- Everything that can be suggested to add: a tag and a plot block that are required, both with
the same id, and what a class, a block, a tag and a condition make available. -/
def inviting : Snapshot where
  graph := {
    fandomId := 1
    tags := ((((Table.empty.insert
      { id := 1, name := "first", category := "mood", fandomId := 1, classId := some 5,
        requires := [2], enhances := [3] : Tag }).insert
      { id := 2, name := "second", category := "mood", fandomId := 1 }).insert
      { id := 3, name := "third", category := "mood", fandomId := 1 }).insert
      { id := 4, name := "fourth", category := "mood", fandomId := 1 })
    tagClasses := Table.empty.insert
      { id := 5, name := "moods", rules.dependencies := some { enables := [4, 404] } : TagClass }
    plotBlocks := ((Table.empty.insert
      { id := 1, name := "start", category := "plot", fandomId := 1, requires := [2],
        enhances := [3, 1] : PlotBlock }).insert
      { id := 2, name := "middle", category := "plot", fandomId := 1, enabledBy := [1] }).insert
      { id := 3, name := "end", category := "plot", fandomId := 1, enabledBy := [1] }
    conditions := (Table.empty.insert
      { id := 1, plotBlockId := 1, name := "open", enables := [2] : Condition }).insert
      { id := 2, plotBlockId := 1, name := "closed" } }
  rules := []

/-- The first entity of each kind. -/
def firsts : Selection := { fandomId := 1, tags := [1], plotBlocks := [1], conditions := [1] }

theorem inviting_additions :
    (inviting.validate {} firsts).suggestions.map (fun m => (m.issue, m.target)) =
      [(.missingRequirementFix, some 2), (.missingRequirementFix, some 2),
        (.featureUnlock, some 4), (.plotEnhancement, some 3), (.plotEnhancement, some 2),
        (.tagEnhancement, some 3), (.featureUnlock, some 2)] ∧
    (∀ m ∈ (inviting.validate {} firsts).suggestions, inviting.graph.CanFollow firsts m) ∧
    inviting.graph.fixes firsts = [⟨.plotBlock, 2⟩, ⟨.tag, 2⟩] := by
  have hAdd : ∀ m ∈ (inviting.validate {} firsts).suggestions,
      m.action = .add ∧ m.issue ≠ .customRuleSuggestion := by decide +kernel
  exact ⟨by decide +kernel, fun m hm =>
    (validate_additions inviting {} firsts).1 m hm (hAdd m hm).1 (hAdd m hm).2, by decide +kernel⟩

end Snapshot

end StoryRules
