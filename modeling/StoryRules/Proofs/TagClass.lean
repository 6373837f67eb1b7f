import StoryRules.Proofs.Distinct
import StoryRules.Proofs.Report
import StoryRules.TagClass.Check

/-! What the rules of a tag class say of a selection: which findings there are, and what each rule
speaks about. -/

namespace StoryRules

/-- The issues that a rule of mutual exclusion can be reported as. -/
def MutualExclusion.issues : List Issue :=
  [.mutualExclusionViolation, .tagConflict, .classConflict]

namespace AppliedClass

variable {c : AppliedClass} {f : Finding} {id : Ident}

theorem issue_withinClass {rule : MutualExclusion} (hf : f ∈ c.withinClass rule) :
    f.issue = .mutualExclusionViolation := by
  rw [withinClass] at hf
  split at hf
  · split at hf
    · simp only [List.mem_cons, List.not_mem_nil, or_false] at hf
      rcases hf with rfl | rfl <;> rfl
    · simp at hf
  · simp at hf

theorem issue_conflictingTags {rule : MutualExclusion} (hf : f ∈ c.conflictingTags rule) :
    f.issue = .tagConflict := by
  obtain ⟨id, -, rfl⟩ := List.mem_map.1 hf
  rfl

theorem issue_conflictingClasses {rule : MutualExclusion} (hf : f ∈ c.conflictingClasses rule) :
    f.issue = .classConflict := by
  obtain ⟨id, -, hId⟩ := List.mem_filterMap.1 hf
  dsimp only at hId
  split at hId
  · simp at hId
  · obtain rfl := Option.some.inj hId
    rfl

theorem issue_limitFindings {rule : InstanceLimits} (hf : f ∈ c.limitFindings rule) :
    f.issue ∈ [Issue.instanceLimitExceeded, .instanceLimitNotMet, .instanceLimitMismatch] := by
  simp only [limitFindings, List.mem_append, List.mem_map] at hf
  rcases hf with (⟨limit, -, rfl⟩ | ⟨limit, -, rfl⟩) | ⟨limit, -, rfl⟩ <;>
    simp [limitProblem, Finding.tagProblem, Finding.issue]

theorem issue_contextFindings {rule : RequiredContext} (hf : f ∈ c.contextFindings rule) :
    f.issue ∈ [Issue.missingRequiredTag, .missingRequiredMetadata, .missingRequiredClass] := by
  simp only [contextFindings, List.mem_append, List.mem_map] at hf
  rcases hf with (⟨id, -, rfl⟩ | ⟨key, -, rfl⟩) | ⟨id, -, rfl⟩ <;>
    simp [Finding.tagProblem, Finding.issue]

theorem issue_categoryFindings {rule : CategoryRestrictions} (hf : f ∈ c.categoryFindings rule) :
    f.issue ∈ [Issue.excludedCategory, .invalidCategory] := by
  obtain ⟨tag, -, hTag⟩ := List.mem_flatMap.1 hf
  rcases List.mem_append.1 hTag with hTag | hTag
  all_goals
    split at hTag
    · obtain rfl := List.mem_singleton.1 hTag
      simp [Finding.tagProblem, Finding.issue]
    · simp at hTag

theorem issue_plotBlockFindings {rule : CategoryRestrictions}
    (hf : f ∈ c.plotBlockFindings rule) : f.issue = .missingRequiredPlotBlock := by
  rw [plotBlockFindings] at hf
  split at hf
  · obtain rfl := List.mem_singleton.1 hf
    rfl
  · simp at hf

theorem issue_dependencyFindings {rule : ClassDependencies} (hf : f ∈ c.dependencyFindings rule) :
    f.issue ∈ [Issue.missingRequiredDependency, .tagEnhancement, .featureUnlock] := by
  simp only [dependencyFindings, List.mem_append, List.mem_map] at hf
  rcases hf with (⟨id, -, rfl⟩ | ⟨id, -, rfl⟩) | ⟨id, -, rfl⟩ <;>
    simp [Finding.tagProblem, Finding.issue]

theorem mem_findings : f ∈ c.findings ↔
    (∃ rule, c.tagClass.rules.exclusion = some rule ∧ f ∈ c.exclusionFindings rule) ∨
    (∃ rule, c.tagClass.rules.limits = some rule ∧ f ∈ c.limitFindings rule) ∨
    (∃ rule, c.tagClass.rules.context = some rule ∧ f ∈ c.contextFindings rule) ∨
    (∃ rule, c.tagClass.rules.categories = some rule ∧
      f ∈ c.categoryFindings rule ++ c.plotBlockFindings rule) ∨
    ∃ rule, c.tagClass.rules.dependencies = some rule ∧ f ∈ c.dependencyFindings rule := by
  have hElim {α : Type} (o : Option α) (say : α → List Finding) :
      f ∈ o.elim [] say ↔ ∃ rule, o = some rule ∧ f ∈ say rule := by
    cases o <;> simp
  simp only [findings, List.mem_append, hElim, or_assoc]

def conflict (c : AppliedClass) (id : Ident) : Finding :=
  .tagProblem .tagConflict
    s!"\"{c.graph.nameOf .tag id}\" conflicts with tags from \"{c.name}\"" none (id :: c.ids)

def classConflict (c : AppliedClass) (id : Ident) : Finding :=
  .tagProblem .classConflict
    s!"Tags from \"{c.name}\" cannot be combined with tags from \"{c.graph.className id}\""
    (some (.obj [("class_id", c.tagClass.id.toJson), ("conflicting_class_id", id.toJson)]))
    (c.ids ++ (c.graph.members c.selection id).map (·.id))

def enhancement (c : AppliedClass) (id : Ident) : Finding :=
  .suggestion {
    issue := .tagEnhancement
    message := s!"\"{c.graph.nameOf .tag id}\" works well with \"{c.name}\""
    action := .keep
    target := some id }

theorem mem_conflictingTags {rule : MutualExclusion} : f ∈ c.conflictingTags rule ↔
    ∃ id ∈ rule.conflictingTags, id ∉ c.ids ∧ c.selection.has .tag id = true ∧
      c.conflict id = f := by
  simp only [conflictingTags, conflict, List.mem_map, List.mem_filter, Bool.and_eq_true,
    decide_eq_true_eq, and_assoc]

theorem mem_conflictingClasses {rule : MutualExclusion} : f ∈ c.conflictingClasses rule ↔
    ∃ id ∈ rule.conflictingClasses, id ≠ c.tagClass.id ∧
      c.graph.members c.selection id ≠ [] ∧ c.classConflict id = f := by
  rw [conflictingClasses, List.mem_filterMap]
  refine exists_congr fun id => and_congr_right fun _ => ?_
  by_cases hOther : id = c.tagClass.id
  · simp [hOther]
  · by_cases hMembers : c.graph.members c.selection id = []
    · simp [hMembers]
    · simp [hOther, hMembers, classConflict]

theorem conflict_mem {rule : MutualExclusion} (hRule : rule ∈ c.tagClass.rules.exclusion)
    (hId : id ∈ rule.conflictingTags) (hOther : id ∉ c.ids)
    (hHas : c.selection.has .tag id = true) : c.conflict id ∈ c.findings := by
  have hConflict := mem_conflictingTags.2 ⟨id, hId, hOther, hHas, rfl⟩
  refine mem_findings.2 (.inl ⟨rule, hRule, ?_⟩)
  exact List.mem_append_left _ (List.mem_append_right _ hConflict)

/-- What a rule of mutual exclusion forbids, by the issue that it is reported as. -/
def Breaks (c : AppliedClass) (rule : MutualExclusion) : Issue → Prop
  | .mutualExclusionViolation => rule.withinClass = true ∧ 1 < c.members.length
  | .tagConflict => ∃ id ∈ rule.conflictingTags, id ∉ c.ids ∧ c.selection.has .tag id = true
  | .classConflict => ∃ id ∈ rule.conflictingClasses,
      id ≠ c.tagClass.id ∧ c.graph.members c.selection id ≠ []
  | _ => False

theorem exists_mem_withinClass {rule : MutualExclusion} :
    (∃ p, .problem p ∈ c.withinClass rule) ↔ c.Breaks rule .mutualExclusionViolation := by
  rcases hMembers : c.members with _ | ⟨first, _ | ⟨second, rest⟩⟩
  · simp [withinClass, Breaks, hMembers]
  · simp [withinClass, Breaks, hMembers]
  · cases hWithin : rule.withinClass <;>
      simp [withinClass, Breaks, hMembers, hWithin, Finding.tagProblem]

theorem exists_mem_conflictingTags {rule : MutualExclusion} :
    (∃ p, .problem p ∈ c.conflictingTags rule) ↔ c.Breaks rule .tagConflict := by
  simp only [mem_conflictingTags, Breaks]
  constructor
  · rintro ⟨p, id, hId, hOther, hHas, -⟩
    exact ⟨id, hId, hOther, hHas⟩
  · rintro ⟨id, hId, hOther, hHas⟩
    exact ⟨_, id, hId, hOther, hHas, rfl⟩

theorem exists_mem_conflictingClasses {rule : MutualExclusion} :
    (∃ p, .problem p ∈ c.conflictingClasses rule) ↔ c.Breaks rule .classConflict := by
  simp only [mem_conflictingClasses, Breaks]
  constructor
  · rintro ⟨p, id, hId, hOther, hMembers, -⟩
    exact ⟨id, hId, hOther, hMembers⟩
  · rintro ⟨id, hId, hOther, hMembers⟩
    exact ⟨_, id, hId, hOther, hMembers, rfl⟩

theorem exists_mem_exclusionFindings {rule : MutualExclusion} {issue : Issue} :
    (∃ p, .problem p ∈ c.exclusionFindings rule ∧ p.issue = issue) ↔ c.Breaks rule issue := by
  simp only [exclusionFindings, List.append_assoc, List.mem_append]
  constructor
  · rintro ⟨p, hp | hp | hp, rfl⟩
    · rw [show p.issue = _ from issue_withinClass hp]
      exact exists_mem_withinClass.1 ⟨p, hp⟩
    · rw [show p.issue = _ from issue_conflictingTags hp]
      exact exists_mem_conflictingTags.1 ⟨p, hp⟩
    · rw [show p.issue = _ from issue_conflictingClasses hp]
      exact exists_mem_conflictingClasses.1 ⟨p, hp⟩
  · intro h
    cases issue with
    | mutualExclusionViolation =>
      obtain ⟨p, hp⟩ := exists_mem_withinClass.2 h
      exact ⟨p, .inl hp, issue_withinClass hp⟩
    | tagConflict =>
      obtain ⟨p, hp⟩ := exists_mem_conflictingTags.2 h
      exact ⟨p, .inr (.inl hp), issue_conflictingTags hp⟩
    | classConflict =>
      obtain ⟨p, hp⟩ := exists_mem_conflictingClasses.2 h
      exact ⟨p, .inr (.inr hp), issue_conflictingClasses hp⟩
    | _ => exact h.elim

/-- Of the rules of a class, only that of mutual exclusion speaks about mutual exclusion. -/
theorem exists_exclusion_of_mem (hf : f ∈ c.findings) (hIssue : f.issue ∈ MutualExclusion.issues) :
    ∃ rule ∈ c.tagClass.rules.exclusion, f ∈ c.exclusionFindings rule := by
  have hNone {issues : List Issue} (hOther : f.issue ∈ issues)
      (hDisjoint : ∀ issue ∈ issues, issue ∉ MutualExclusion.issues) : False :=
    hDisjoint _ hOther hIssue
  rcases mem_findings.1 hf with
    ⟨rule, hRule, hf⟩ | ⟨rule, -, hf⟩ | ⟨rule, -, hf⟩ | ⟨rule, -, hf⟩ | ⟨rule, -, hf⟩
  · exact ⟨rule, hRule, hf⟩
  · exact (hNone (issue_limitFindings hf) (by decide)).elim
  · exact (hNone (issue_contextFindings hf) (by decide)).elim
  · rcases List.mem_append.1 hf with hf | hf
    · exact (hNone (issue_categoryFindings hf) (by decide)).elim
    · rw [issue_plotBlockFindings hf] at hIssue
      exact absurd hIssue (by decide)
  · exact (hNone (issue_dependencyFindings hf) (by decide)).elim

/-- A class reports about mutual exclusion what its rule forbids and the selection does. -/
theorem exists_problem_iff {issue : Issue} (hIssue : issue ∈ MutualExclusion.issues) :
    (∃ p, .problem p ∈ c.findings ∧ p.issue = issue) ↔
      ∃ rule ∈ c.tagClass.rules.exclusion, c.Breaks rule issue := by
  constructor
  · rintro ⟨p, hp, rfl⟩
    obtain ⟨rule, hRule, hp⟩ := exists_exclusion_of_mem hp hIssue
    exact ⟨rule, hRule, exists_mem_exclusionFindings.1 ⟨p, hp, rfl⟩⟩
  · rintro ⟨rule, hRule, hBreaks⟩
    obtain ⟨p, hp, hAbout⟩ := exists_mem_exclusionFindings.2 hBreaks
    exact ⟨p, mem_findings.2 (.inl ⟨rule, hRule, hp⟩), hAbout⟩

/-- Of the rules of a class, only those of mutual exclusion and of dependencies suggest something,
the former what to remove. -/
theorem suggestion_mem_findings {m : Suggestion} (hm : .suggestion m ∈ c.findings) :
    (∃ rule ∈ c.tagClass.rules.exclusion, .suggestion m ∈ c.withinClass rule) ∨
    ∃ rule ∈ c.tagClass.rules.dependencies, .suggestion m ∈ c.dependencyFindings rule := by
  rcases mem_findings.1 hm with
    ⟨rule, hRule, hm⟩ | ⟨rule, -, hm⟩ | ⟨rule, -, hm⟩ | ⟨rule, -, hm⟩ | ⟨rule, hRule, hm⟩
  · rw [exclusionFindings, List.append_assoc, List.mem_append, List.mem_append] at hm
    rcases hm with hm | hm | hm
    · exact .inl ⟨rule, hRule, hm⟩
    · obtain ⟨id, -, -, -, hSame⟩ := mem_conflictingTags.1 hm
      cases hSame
    · obtain ⟨id, -, -, -, hSame⟩ := mem_conflictingClasses.1 hm
      cases hSame
  · simp [limitFindings, limitProblem, Finding.tagProblem] at hm
  · simp [contextFindings, Finding.tagProblem] at hm
  · simp [categoryFindings, plotBlockFindings, Finding.tagProblem] at hm
  · exact .inr ⟨rule, hRule, hm⟩

/-- Where a class has too many tags, all but the first one are suggested to be removed. -/
theorem suggestion_mem_withinClass {rule : MutualExclusion} {m : Suggestion}
    (hm : .suggestion m ∈ c.withinClass rule) : c.Breaks rule .mutualExclusionViolation ∧
      m.action = .remove ∧ m.alternatives = c.ids.tail := by
  rcases hMembers : c.members with _ | ⟨first, _ | ⟨second, rest⟩⟩
  · simp [withinClass, hMembers] at hm
  · simp [withinClass, hMembers] at hm
  · cases hWithin : rule.withinClass with
    | false => simp [withinClass, hMembers, hWithin] at hm
    | true =>
      simp only [withinClass, hMembers, hWithin, if_true, Finding.tagProblem, List.mem_cons,
        List.not_mem_nil, or_false, reduceCtorEq, false_or, Finding.suggestion.injEq] at hm
      simp [hm, Breaks, ids, hMembers, hWithin]

theorem exists_suggestion_mem_withinClass {rule : MutualExclusion}
    (h : c.Breaks rule .mutualExclusionViolation) : ∃ m, .suggestion m ∈ c.withinClass rule := by
  obtain ⟨hWithin, hMany⟩ := h
  rcases hMembers : c.members with _ | ⟨first, _ | ⟨second, rest⟩⟩
  · simp [hMembers] at hMany
  · simp [hMembers] at hMany
  · simp only [withinClass, hMembers, hWithin, if_true]
    exact ⟨_, .tail _ (.head _)⟩

/-- The rule of dependencies suggests what to keep and what to add. -/
theorem suggestion_mem_dependencyFindings {rule : ClassDependencies} {m : Suggestion}
    (hm : .suggestion m ∈ c.dependencyFindings rule) : m.action = .keep ∨
      m.action = .add ∧ m.issue = .featureUnlock ∧ ∃ id, m.target = some id ∧
        (!c.selection.has .tag id && c.graph.contains .tag id) = true := by
  simp only [dependencyFindings, Finding.tagProblem, List.mem_append, List.mem_map, reduceCtorEq,
    and_false, exists_false, false_or, Finding.suggestion.injEq] at hm
  rcases hm with ⟨id, -, rfl⟩ | ⟨id, hId, rfl⟩
  · exact .inl rfl
  · exact .inr ⟨rfl, rfl, id, rfl, (List.mem_filter.1 hId).2⟩

theorem enhancement_mem {rule : ClassDependencies}
    (hRule : rule ∈ c.tagClass.rules.dependencies) (hId : id ∈ rule.enhances)
    (hHas : c.selection.has .tag id = true) : c.enhancement id ∈ c.findings := by
  have hKept : c.enhancement id ∈ (rule.enhances.filter (c.selection.has .tag)).map c.enhancement :=
    List.mem_map_of_mem (List.mem_filter.2 ⟨hId, hHas⟩)
  refine mem_findings.2 (.inr (.inr (.inr (.inr ⟨rule, hRule, ?_⟩))))
  exact List.mem_append_left _ (List.mem_append_right _ hKept)

end AppliedClass

namespace Graph

variable {g : Graph} {s : Selection} {f : Finding}

def applied (g : Graph) (s : Selection) (c : TagClass) : AppliedClass :=
  ⟨g, s, c, g.members s c.id⟩

theorem mem_classFindings : f ∈ g.classFindings s ↔
    ∃ c ∈ g.tagClasses.values, g.members s c.id ≠ [] ∧ f ∈ (g.applied s c).findings := by
  rw [classFindings, List.mem_flatMap]
  refine exists_congr fun c => and_congr_right fun _ => ?_
  by_cases hEmpty : g.members s c.id = []
  · simp [hEmpty]
  · simp [hEmpty, applied]

/-- The report of the rules of all classes with applied members. -/
def classReport (g : Graph) (s : Selection) : Report := .ofFindings (g.classFindings s)

theorem hasProblem_classReport {issue : Issue} (hIssue : issue ∈ MutualExclusion.issues) :
    (g.classReport s).HasProblem issue ↔ ∃ c ∈ g.tagClasses.values, g.members s c.id ≠ [] ∧
      ∃ rule ∈ c.rules.exclusion, (g.applied s c).Breaks rule issue := by
  simp only [classReport, Report.hasProblem_ofFindings, mem_classFindings]
  constructor
  · rintro ⟨p, ⟨c, hc, hMembers, hp⟩, hAbout⟩
    exact ⟨c, hc, hMembers, (AppliedClass.exists_problem_iff hIssue).1 ⟨p, hp, hAbout⟩⟩
  · rintro ⟨c, hc, hMembers, hBreaks⟩
    obtain ⟨p, hp, hAbout⟩ :=
      (AppliedClass.exists_problem_iff (c := g.applied s c) hIssue).2 hBreaks
    exact ⟨p, ⟨c, hc, hMembers, hp⟩, hAbout⟩

theorem contains_tag {tag : Tag} (h : tag ∈ g.tags.values) : g.contains .tag tag.id = true :=
  mem_ids.1 (show tag.id ∈ g.ids .tag from List.mem_map_of_mem h)

theorem mem_members {tag : Tag} {classId : Ident} : tag ∈ g.members s classId ↔
    tag ∈ g.tags.values ∧ s.has .tag tag.id = true ∧ tag.classId = some classId := by
  have hGet (tag : Tag) (id : Ident) :
      g.tags.get? id = some tag ↔ tag ∈ g.tags.values ∧ tag.id = id := Table.get?_eq_some
  simp only [members, List.mem_filter, List.mem_filterMap, hGet, beq_iff_eq, mem_present,
    isPresent, Bool.and_eq_true]
  constructor
  · rintro ⟨⟨id, ⟨hHas, -⟩, hTag, rfl⟩, hClass⟩
    exact ⟨hTag, hHas, hClass⟩
  · rintro ⟨hTag, hHas, hClass⟩
    exact ⟨⟨tag.id, ⟨hHas, contains_tag hTag⟩, hTag, rfl⟩, hClass⟩

theorem nodup_present (g : Graph) (s : Selection) (kind : Kind) : (g.present s kind).Nodup :=
  (nodup_eraseDups _).filter _

theorem nodup_members (g : Graph) (s : Selection) (classId : Ident) :
    ((g.members s classId).map Tag.id).Nodup := by
  have hPresent : ((g.present s .tag).map id).Nodup := by
    rw [List.map_id]
    exact g.nodup_present s .tag
  refine hPresent.sublist (List.Sublist.trans (List.filter_sublist.map _) ?_)
  exact map_filterMap_sublist (fun id tag hTag => (Table.get?_eq_some.1 hTag).2) _

theorem contains_of_mem_members {tag : Tag} {classId : Ident} (h : tag ∈ g.members s classId) :
    g.contains .tag tag.id = true :=
  contains_tag (mem_members.1 h).1

end Graph

end StoryRules
