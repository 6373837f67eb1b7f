import StoryRules.Proofs.Item
import StoryRules.Proofs.TagClass

/-! When a selection keeps the rules of the tag classes. What each rule asks is said of the tags of
the graph, of the chosen ids as a set and of the metadata, and the report of the classes is valid
exactly if every class with applied tags has what its rules ask. -/

namespace StoryRules

/-- The tags of a class that are applied. -/
def Graph.appliedTags (g : Graph) (s : Selection) (classId : Ident) : List Tag :=
  g.tags.values.filter fun tag => tag.id ∈ s.tags ∧ tag.classId = some classId

/-- A tag is applied that the graph knows. -/
def Graph.HasTag (g : Graph) (s : Selection) (id : Ident) : Prop := id ∈ s.tags ∧ id ∈ g.tags.ids

/-- A plot block that the graph knows is chosen, or is an entry of the array `plot_blocks` of the
metadata. -/
def Graph.HasPlotBlock (g : Graph) (s : Selection) (id : Ident) : Prop :=
  id ∈ g.plotBlocks.ids ∧ (id ∈ s.plotBlocks ∨
    ∃ entries, s.metadata.get? "plot_blocks" = some (.arr entries) ∧ .int id.toInt ∈ entries)

structure MutualExclusion.Kept (rule : MutualExclusion) (g : Graph) (s : Selection)
    (classId : Ident) : Prop where
  within : ¬(rule.withinClass = true ∧ 1 < (g.appliedTags s classId).length)
  tags : ∀ id ∈ rule.conflictingTags, id ∈ s.tags → id ∈ (g.appliedTags s classId).map Tag.id
  classes : ∀ id ∈ rule.conflictingClasses, id ≠ classId → g.appliedTags s id = []

structure InstanceLimits.Kept (rule : InstanceLimits) (count : Nat) : Prop where
  max : ∀ max ∈ rule.max, count ≤ max.toNat
  min : ∀ min ∈ rule.min, min.toNat ≤ count
  exact : ∀ exact ∈ rule.exact, count = exact.toNat

structure RequiredContext.Kept (rule : RequiredContext) (g : Graph) (s : Selection) : Prop where
  tags : ∀ id ∈ rule.tags, g.HasTag s id
  metadata : ∀ key ∈ rule.metadata, ∃ value, s.metadata.get? key = some value ∧ value ≠ .null
  classes : ∀ id ∈ rule.classes, g.appliedTags s id ≠ []

structure CategoryRestrictions.Kept (rule : CategoryRestrictions) (g : Graph) (s : Selection)
    (classId : Ident) : Prop where
  excluded : ∀ tag ∈ g.appliedTags s classId, tag.category ∉ rule.excluded
  applicable : rule.applicable ≠ [] →
    ∀ tag ∈ g.appliedTags s classId, tag.category ∈ rule.applicable
  plotBlocks : rule.plotBlocks ≠ [] → ∃ id ∈ rule.plotBlocks, g.HasPlotBlock s id

structure ClassDependencies.Kept (rule : ClassDependencies) (g : Graph) (s : Selection) :
    Prop where
  requires : ∀ id ∈ rule.requires, g.HasTag s id

/-- A selection keeps those of the five rules of a class that are set. -/
structure TagClass.Kept (c : TagClass) (g : Graph) (s : Selection) : Prop where
  exclusion : ∀ rule ∈ c.rules.exclusion, rule.Kept g s c.id
  limits : ∀ rule ∈ c.rules.limits, rule.Kept (g.appliedTags s c.id).length
  context : ∀ rule ∈ c.rules.context, rule.Kept g s
  categories : ∀ rule ∈ c.rules.categories, rule.Kept g s c.id
  dependencies : ∀ rule ∈ c.rules.dependencies, rule.Kept g s

/-! ### What is looked up -/

namespace Selection

variable {s : Selection}

theorem hasMetadata_iff {key : String} : s.hasMetadata key = true ↔
    ∃ value, s.metadata.get? key = some value ∧ value ≠ .null := by
  unfold hasMetadata
  cases s.metadata.get? key with
  | none => simp
  | some value => cases value <;> simp [Json.isNull]

theorem mem_listedPlotBlocks {id : Ident} : id ∈ s.listedPlotBlocks ↔
    ∃ entries, s.metadata.get? "plot_blocks" = some (.arr entries) ∧ .int id.toInt ∈ entries := by
  unfold listedPlotBlocks
  simp only [List.mem_filterMap, Ident.ofJson?_eq_some, exists_eq_right]
  cases s.metadata.get? "plot_blocks" with
  | none => simp
  | some value => cases value <;> simp [Json.elements]

end Selection

namespace Graph

variable {g : Graph} {s : Selection} {c : TagClass} {id classId : Ident}

theorem hasTag_iff : g.HasTag s id ↔ g.isPresent s .tag id = true := by
  unfold HasTag isPresent
  rw [Bool.and_eq_true, Selection.has_iff, ← mem_ids]
  rfl

theorem hasPlotBlock_iff : g.HasPlotBlock s id ↔ g.mentionsKnown s id = true := by
  unfold HasPlotBlock mentionsKnown Selection.mentions
  rw [Bool.and_eq_true, Bool.or_eq_true, Selection.has_iff, List.contains_iff_mem,
    Selection.mem_listedPlotBlocks, ← mem_ids, and_comm]
  rfl

theorem members_perm (g : Graph) (s : Selection) (classId : Ident) :
    (g.members s classId).Perm (g.appliedTags s classId) := by
  have hTags : g.tags.values.Nodup := g.tags.nodup_ids.of_map _
  unfold appliedTags
  rw [List.perm_ext_iff_of_nodup (g.nodup_members s classId).of_map (hTags.filter _)]
  intro tag
  rw [mem_members, List.mem_filter, Selection.has_iff, decide_eq_true_iff]
  rfl

theorem members_eq_nil_iff : g.members s classId = [] ↔ g.appliedTags s classId = [] := by
  rw [← List.length_eq_zero_iff, (g.members_perm s classId).length_eq, List.length_eq_zero_iff]

theorem mem_ids_applied :
    id ∈ (g.applied s c).ids ↔ id ∈ (g.appliedTags s c.id).map Tag.id :=
  ((g.members_perm s c.id).map Tag.id).mem_iff

theorem length_members_applied :
    (g.applied s c).members.length = (g.appliedTags s c.id).length :=
  (g.members_perm s c.id).length_eq

/-! ### What the rules ask -/

theorem noProblem_exclusionFindings {rule : MutualExclusion} :
    NoProblem ((g.applied s c).exclusionFindings rule) ↔ rule.Kept g s c.id := by
  have hNone : NoProblem ((g.applied s c).exclusionFindings rule) ↔
      ∀ issue, ¬(g.applied s c).Breaks rule issue := by
    simp only [← AppliedClass.exists_mem_exclusionFindings, not_exists, not_and]
    exact ⟨fun h issue p hp => absurd hp (h p), fun h p hp => h p.issue p hp rfl⟩
  rw [hNone]
  constructor
  · intro h
    refine ⟨?_, fun id hId hApplied => ?_, fun id hId hOther => ?_⟩
    · rw [← length_members_applied]
      exact h .mutualExclusionViolation
    · by_contra hOther
      rw [← mem_ids_applied] at hOther
      exact h .tagConflict ⟨id, hId, hOther, Selection.has_iff.2 hApplied⟩
    · by_contra hMembers
      rw [← members_eq_nil_iff] at hMembers
      exact h .classConflict ⟨id, hId, hOther, hMembers⟩
  · intro h issue hBreaks
    cases issue with
    | mutualExclusionViolation =>
      rw [AppliedClass.Breaks, length_members_applied] at hBreaks
      exact h.within hBreaks
    | tagConflict =>
      obtain ⟨id, hId, hOther, hHas⟩ := hBreaks
      exact hOther (mem_ids_applied.2 (h.tags id hId (Selection.has_iff.1 hHas)))
    | classConflict =>
      obtain ⟨id, hId, hOther, hMembers⟩ := hBreaks
      exact hMembers (members_eq_nil_iff.2 (h.classes id hId hOther))
    | _ => exact hBreaks

theorem noProblem_limitFindings {rule : InstanceLimits} :
    NoProblem ((g.applied s c).limitFindings rule) ↔
      rule.Kept (g.appliedTags s c.id).length := by
  unfold AppliedClass.limitFindings AppliedClass.limitProblem Finding.tagProblem
  simp only [noProblem_append, noProblem_map_problem, Option.toList_eq_nil_iff,
    Option.filter_eq_none_iff, decide_eq_true_eq, length_members_applied, Nat.not_lt, ne_eq,
    not_not]
  exact ⟨fun ⟨⟨hMax, hMin⟩, hExact⟩ => ⟨hMax, hMin, hExact⟩,
    fun ⟨hMax, hMin, hExact⟩ => ⟨⟨hMax, hMin⟩, hExact⟩⟩

theorem absent_eq_nil_iff {ids : List Ident} :
    (g.applied s c).absent ids = [] ↔ ∀ id ∈ ids, g.HasTag s id := by
  unfold AppliedClass.absent
  simp only [List.filter_eq_nil_iff, hasTag_iff, Bool.not_eq_true', Bool.not_eq_false]
  rfl

theorem noProblem_contextFindings {rule : RequiredContext} :
    NoProblem ((g.applied s c).contextFindings rule) ↔ rule.Kept g s := by
  unfold AppliedClass.contextFindings Finding.tagProblem
  simp only [noProblem_append, noProblem_map_problem, absent_eq_nil_iff, List.filter_eq_nil_iff,
    Bool.not_eq_true', Bool.not_eq_false, List.isEmpty_iff]
  constructor
  · rintro ⟨⟨hTags, hMetadata⟩, hClasses⟩
    refine ⟨hTags, fun key hKey => Selection.hasMetadata_iff.1 (hMetadata key hKey), ?_⟩
    exact fun id hId hNone => hClasses id hId (members_eq_nil_iff.2 hNone)
  · rintro ⟨hTags, hMetadata, hClasses⟩
    refine ⟨⟨hTags, fun key hKey => Selection.hasMetadata_iff.2 (hMetadata key hKey)⟩, ?_⟩
    exact fun id hId hNone => hClasses id hId (members_eq_nil_iff.1 hNone)

theorem noProblem_categoryFindings {rule : CategoryRestrictions} :
    NoProblem ((g.applied s c).categoryFindings rule) ↔
      ∀ tag ∈ g.appliedTags s c.id, tag.category ∉ rule.excluded ∧
        (rule.applicable ≠ [] → tag.category ∈ rule.applicable) := by
  unfold AppliedClass.categoryFindings Finding.tagProblem
  simp only [noProblem_flatMap, noProblem_append, noProblem_ite, List.contains_iff_mem,
    Bool.and_eq_true, Bool.not_eq_true', List.isEmpty_eq_false_iff, not_and, Bool.not_eq_false]
  exact forall_congr' fun tag => imp_congr_left (g.members_perm s c.id).mem_iff

theorem noProblem_plotBlockFindings {rule : CategoryRestrictions} :
    NoProblem ((g.applied s c).plotBlockFindings rule) ↔
      (rule.plotBlocks ≠ [] → ∃ id ∈ rule.plotBlocks, g.HasPlotBlock s id) := by
  unfold AppliedClass.plotBlockFindings
  simp only [noProblem_ite, Bool.and_eq_true, Bool.not_eq_true', List.isEmpty_eq_false_iff,
    not_and, Bool.not_eq_false, List.any_eq_true, hasPlotBlock_iff]
  rfl

theorem noProblem_dependencyFindings {rule : ClassDependencies} :
    NoProblem ((g.applied s c).dependencyFindings rule) ↔ rule.Kept g s := by
  unfold AppliedClass.dependencyFindings Finding.tagProblem
  simp only [noProblem_append, noProblem_map_problem, noProblem_map_suggestion, and_true,
    absent_eq_nil_iff]
  exact ⟨fun h => ⟨h⟩, fun h => h.requires⟩

/-- A class finds no problem exactly if those of its rules that are set are kept. -/
theorem noProblem_findings : NoProblem (g.applied s c).findings ↔ c.Kept g s := by
  unfold AppliedClass.findings
  simp only [noProblem_append, noProblem_elim, noProblem_exclusionFindings,
    noProblem_limitFindings, noProblem_contextFindings, noProblem_categoryFindings,
    noProblem_plotBlockFindings, noProblem_dependencyFindings]
  constructor
  · rintro ⟨⟨⟨⟨hExclusion, hLimits⟩, hContext⟩, hCategories⟩, hDependencies⟩
    refine ⟨hExclusion, hLimits, hContext, fun rule hRule => ?_, hDependencies⟩
    obtain ⟨hTags, hBlocks⟩ := hCategories rule hRule
    exact ⟨fun tag hTag => (hTags tag hTag).1, fun hSome tag hTag => (hTags tag hTag).2 hSome,
      hBlocks⟩
  · intro h
    refine ⟨⟨⟨⟨h.exclusion, h.limits⟩, h.context⟩, fun rule hRule => ?_⟩, h.dependencies⟩
    have hKept := h.categories rule hRule
    exact ⟨fun tag hTag => ⟨hKept.excluded tag hTag, fun hSome => hKept.applicable hSome tag hTag⟩,
      hKept.plotBlocks⟩

/-- A selection has a valid report of the tag classes exactly if it keeps the rules of every class
of which it applies tags. -/
theorem isValid_classReport (g : Graph) (s : Selection) :
    (g.classReport s).isValid = true ↔
      ∀ c ∈ g.tagClasses.values, g.appliedTags s c.id ≠ [] → c.Kept g s := by
  rw [classReport, Report.isValid_ofFindings_iff, classFindings, noProblem_flatMap]
  refine forall₂_congr fun c _ => ?_
  rw [ne_eq, ← members_eq_nil_iff, ← noProblem_findings]
  by_cases hEmpty : g.members s c.id = []
  · simp [hEmpty, NoProblem]
  · simp [hEmpty, applied]

end Graph

end StoryRules
