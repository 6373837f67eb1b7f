import StoryRules.Proofs.TagClass.Verdict

/-! What it takes to repair a selection with too many tags of a class. The report of the tag classes
suggests to remove tags only from crowded classes: those that admit one tag and have more. Without
all the tags that are suggested to be removed, wherever a selection lists them, no class is crowded;
each class that was keeps its tag of first choice, and every other class keeps all its tags
(`classReport_repaired`). -/

namespace StoryRules.Graph

variable {g : Graph} {s : Selection} {tag : Tag} {id classId : Ident}

/-- The ids of the tags that the report of the classes suggests to remove. -/
def removals (g : Graph) (s : Selection) : List Ident :=
  ((g.classReport s).suggestions.filter (·.action = .remove)).flatMap (·.alternatives)

/-- The selection without the tags that are suggested to be removed. -/
def repaired (g : Graph) (s : Selection) : Selection :=
  { s with tags := s.tags.filter (· ∉ g.removals s) }

/-- A class admits one tag at most, and more are applied. -/
def Crowded (g : Graph) (s : Selection) (classId : Ident) : Prop :=
  (∃ c ∈ g.tagClasses.values, c.id = classId ∧
    ∃ rule ∈ c.rules.exclusion, rule.withinClass = true) ∧
  1 < (g.appliedTags s classId).length

instance (g : Graph) (s : Selection) (classId : Ident) : Decidable (g.Crowded s classId) :=
  inferInstanceAs (Decidable (_ ∧ _))

/-- The tag of a class that is applied first. -/
def firstTag? (g : Graph) (s : Selection) (classId : Ident) : Option Tag :=
  (s.tags.filterMap g.tags.get?).find? (·.classId == some classId)

/-! ### Members -/

theorem mem_appliedTags : tag ∈ g.appliedTags s classId ↔ tag ∈ g.members s classId :=
  (g.members_perm s classId).mem_iff.symm

theorem classId_of_mem_members (h : tag ∈ g.members s classId) : tag.classId = some classId :=
  (mem_members.1 h).2.2

/-- A tag is a member of one class only. -/
theorem eq_of_mem_members {tag' : Tag} {classId' : Ident} (h : tag ∈ g.members s classId)
    (h' : tag' ∈ g.members s classId') (hId : tag'.id = tag.id) : classId' = classId := by
  have hTag : tag' = tag := g.tags.eq_of_key_eq (mem_members.1 h').1 (mem_members.1 h).1 hId
  have hClass := classId_of_mem_members h'
  rw [hTag, classId_of_mem_members h] at hClass
  exact (Option.some.inj hClass).symm

/-- The tag of a class that is applied first is its first member. -/
theorem firstTag?_eq (g : Graph) (s : Selection) (classId : Ident) :
    g.firstTag? s classId = (g.members s classId).head? := by
  have hKnown : (g.present s .tag).filterMap g.tags.get? =
      s.tags.eraseDups.filterMap g.tags.get? := by
    unfold present
    rw [List.filterMap_filter]
    apply List.filterMap_congr
    intro id _
    cases hGet : g.tags.get? id <;> simp [contains, entity?, hGet]
  unfold firstTag? members
  rw [List.head?_filter, hKnown, List.find?_filterMap, List.find?_filterMap, find?_eraseDups]

/-- The members that are left are those that are not suggested to be removed. -/
theorem members_repaired (g : Graph) (s : Selection) (classId : Ident) :
    g.members (g.repaired s) classId =
      (g.members s classId).filter fun tag => tag.id ∉ g.removals s := by
  have hPresent : g.present (g.repaired s) .tag =
      (g.present s .tag).filter (· ∉ g.removals s) := by
    show (s.tags.filter (· ∉ g.removals s)).eraseDups.filter _ =
      (s.tags.eraseDups.filter _).filter _
    rw [eraseDups_filter, List.filter_filter, List.filter_filter]
    exact List.filter_congr fun id _ => Bool.and_comm _ _
  unfold members
  rw [hPresent, List.filter_filter, List.filterMap_filter, List.filter_filterMap,
    List.filter_filterMap]
  apply List.filterMap_congr
  intro id _
  cases hGet : g.tags.get? id with
  | none => simp
  | some tag =>
    have hId : tag.id = id := (Table.get?_eq_some.1 hGet).2
    by_cases hRemoved : id ∈ g.removals s <;> simp [Option.filter_some, hId, hRemoved]

/-! ### Removals -/

/-- The report suggests to remove the members of crowded classes but the first ones. -/
theorem removal_of_mem_findings {c : TagClass} {m : Suggestion} (hc : c ∈ g.tagClasses.values)
    (hm : .suggestion m ∈ (g.applied s c).findings) (hRemove : m.action = .remove) :
    g.Crowded s c.id ∧ m.alternatives = ((g.members s c.id).map Tag.id).tail := by
  rcases AppliedClass.suggestion_mem_findings hm with ⟨rule, hRule, hm⟩ | ⟨rule, -, hm⟩
  · obtain ⟨⟨hWithin, hMany⟩, -, hLater⟩ := AppliedClass.suggestion_mem_withinClass hm
    rw [length_members_applied] at hMany
    exact ⟨⟨⟨c, hc, rfl, rule, hRule, hWithin⟩, hMany⟩, hLater⟩
  · rcases AppliedClass.suggestion_mem_dependencyFindings hm with hOther | ⟨hOther, -⟩
    all_goals
      rw [hOther] at hRemove
      cases hRemove

/-- Of each crowded class the report does suggest to remove members. -/
theorem exists_removal (h : g.Crowded s classId) : ∃ m ∈ (g.classReport s).suggestions,
    m.action = .remove ∧ m.alternatives = ((g.members s classId).map Tag.id).tail := by
  obtain ⟨⟨c, hc, rfl, rule, hRule, hWithin⟩, hMany⟩ := h
  rw [← length_members_applied] at hMany
  have hMembers : g.members s c.id ≠ [] := List.ne_nil_of_length_pos (Nat.zero_lt_of_lt hMany)
  obtain ⟨m, hm⟩ := AppliedClass.exists_suggestion_mem_withinClass ⟨hWithin, hMany⟩
  have hFinding : .suggestion m ∈ (g.applied s c).findings := AppliedClass.mem_findings.2
    (.inl ⟨rule, hRule, List.mem_append_left _ (List.mem_append_left _ hm)⟩)
  exact ⟨m, Report.mem_suggestions_ofFindings.2 (mem_classFindings.2 ⟨c, hc, hMembers, hFinding⟩),
    (AppliedClass.suggestion_mem_withinClass hm).2⟩

theorem mem_removals : id ∈ g.removals s ↔
    ∃ classId, g.Crowded s classId ∧ id ∈ ((g.members s classId).map Tag.id).tail := by
  unfold removals
  simp only [List.mem_flatMap, List.mem_filter, decide_eq_true_iff]
  constructor
  · rintro ⟨m, ⟨hm, hRemove⟩, hId⟩
    obtain ⟨c, hc, -, hFinding⟩ := mem_classFindings.1 (Report.mem_suggestions_ofFindings.1 hm)
    obtain ⟨hCrowded, hLater⟩ := removal_of_mem_findings hc hFinding hRemove
    exact ⟨c.id, hCrowded, hLater ▸ hId⟩
  · rintro ⟨classId, hCrowded, hId⟩
    obtain ⟨m, hm, hRemove, hLater⟩ := exists_removal hCrowded
    exact ⟨m, ⟨hm, hRemove⟩, hLater ▸ hId⟩

/-- A member of a class is suggested to be removed if the class is crowded and another member is
applied before it. -/
theorem mem_removals_of_mem_members (h : tag ∈ g.members s classId) : tag.id ∈ g.removals s ↔
    g.Crowded s classId ∧ tag.id ∈ ((g.members s classId).map Tag.id).tail := by
  rw [mem_removals]
  constructor
  · rintro ⟨classId', hCrowded, hLater⟩
    obtain ⟨tag', hTag', hId⟩ := List.mem_map.1 (List.mem_of_mem_tail hLater)
    obtain rfl := eq_of_mem_members h hTag' hId
    exact ⟨hCrowded, hLater⟩
  · rintro ⟨hCrowded, hLater⟩
    exact ⟨classId, hCrowded, hLater⟩

/-- A crowded class is left with its first member. -/
theorem members_repaired_of_crowded (h : g.Crowded s classId) :
    ∃ first, (g.members s classId).head? = some first ∧
      g.members (g.repaired s) classId = [first] := by
  have hNodup := g.nodup_members s classId
  have hRemoved : ∀ tag ∈ g.members s classId, tag.id ∈ g.removals s ↔
      tag.id ∈ ((g.members s classId).map Tag.id).tail := by
    intro tag hTag
    rw [mem_removals_of_mem_members hTag, and_iff_right h]
  rw [members_repaired]
  cases hMembers : g.members s classId with
  | nil =>
    have hMany := h.2
    rw [← (g.members_perm s classId).length_eq, hMembers] at hMany
    exact absurd hMany (Nat.not_lt_zero 1)
  | cons first rest =>
    rw [hMembers] at hNodup hRemoved
    obtain ⟨hFirst, hRest⟩ := List.forall_mem_cons.1 hRemoved
    refine ⟨first, rfl, ?_⟩
    rw [List.filter_cons_of_pos, List.filter_eq_nil_iff.2]
    · intro tag hTag
      rw [decide_eq_true_iff, not_not, hRest tag hTag]
      exact List.mem_map_of_mem hTag
    · rw [decide_eq_true_iff, hFirst]
      exact (List.nodup_cons.1 hNodup).1

theorem members_repaired_of_not_crowded (h : ¬g.Crowded s classId) :
    g.members (g.repaired s) classId = g.members s classId := by
  rw [members_repaired]
  apply List.filter_eq_self.2
  intro tag hTag
  rw [decide_eq_true_iff, mem_removals_of_mem_members hTag]
  exact fun hLater => h hLater.1

/-- Of the applied tags of a crowded class, the one that is applied first is left. -/
theorem appliedTags_repaired_of_crowded (h : g.Crowded s classId) :
    ∃ tag, g.firstTag? s classId = some tag ∧ g.appliedTags (g.repaired s) classId = [tag] := by
  obtain ⟨first, hFirst, hLeft⟩ := members_repaired_of_crowded h
  have hPerm := g.members_perm (g.repaired s) classId
  rw [hLeft] at hPerm
  exact ⟨first, (g.firstTag?_eq s classId).trans hFirst, List.perm_singleton.1 hPerm.symm⟩

/-- All applied tags of a class that is not crowded are left. -/
theorem appliedTags_repaired_of_not_crowded (h : ¬g.Crowded s classId) :
    g.appliedTags (g.repaired s) classId = g.appliedTags s classId := by
  have hSame (tag : Tag) :
      tag ∈ g.appliedTags (g.repaired s) classId ↔ tag ∈ g.appliedTags s classId := by
    rw [mem_appliedTags, mem_appliedTags, members_repaired_of_not_crowded h]
  unfold appliedTags at hSame ⊢
  apply List.filter_congr
  intro tag hTag
  have hApplied := hSame tag
  rw [List.mem_filter, List.mem_filter, and_congr_right_iff] at hApplied
  exact Bool.eq_iff_iff.2 (hApplied hTag)

theorem not_crowded_repaired (g : Graph) (s : Selection) (classId : Ident) :
    ¬g.Crowded (g.repaired s) classId := by
  rintro ⟨hSole, hMany⟩
  by_cases hCrowded : g.Crowded s classId
  · obtain ⟨tag, -, hLeft⟩ := appliedTags_repaired_of_crowded hCrowded
    rw [hLeft] at hMany
    exact Nat.lt_irrefl 1 hMany
  · rw [appliedTags_repaired_of_not_crowded hCrowded] at hMany
    exact hCrowded ⟨hSole, hMany⟩

/-! ### Reports -/

/-- The report has a problem of mutual exclusion only if a class is crowded. -/
theorem exists_crowded_of_hasProblem
    (h : (g.classReport s).HasProblem .mutualExclusionViolation) :
    ∃ classId, g.Crowded s classId := by
  obtain ⟨c, hc, -, rule, hRule, hWithin, hMany⟩ := (hasProblem_classReport (by decide)).1 h
  rw [length_members_applied] at hMany
  exact ⟨c.id, ⟨c, hc, rfl, rule, hRule, hWithin⟩, hMany⟩

/-- The report suggests to remove something only if a class is crowded. -/
theorem exists_crowded_of_remove {m : Suggestion} (hm : m ∈ (g.classReport s).suggestions)
    (hRemove : m.action = .remove) : ∃ classId, g.Crowded s classId := by
  obtain ⟨c, hc, -, hFinding⟩ := mem_classFindings.1 (Report.mem_suggestions_ofFindings.1 hm)
  obtain ⟨hCrowded, -⟩ := removal_of_mem_findings hc hFinding hRemove
  exact ⟨c.id, hCrowded⟩

/-- Without the tags that are suggested to be removed, there is no problem of mutual exclusion and
nothing to remove any more. Every class that had applied tags still has some: if it was crowded,
the one that is applied first, and else all of them. -/
theorem classReport_repaired (g : Graph) (s : Selection) :
    ¬(g.classReport (g.repaired s)).HasProblem .mutualExclusionViolation ∧
    (∀ m ∈ (g.classReport (g.repaired s)).suggestions, m.action ≠ .remove) ∧
    ∀ classId,
      (g.appliedTags s classId ≠ [] → g.appliedTags (g.repaired s) classId ≠ []) ∧
      (g.Crowded s classId → ∃ tag, g.firstTag? s classId = some tag ∧
        g.appliedTags (g.repaired s) classId = [tag]) ∧
      (¬g.Crowded s classId →
        g.appliedTags (g.repaired s) classId = g.appliedTags s classId) := by
  refine ⟨fun hProblem => ?_, fun m hm hRemove => ?_, fun classId => ⟨fun hSome => ?_, ?_, ?_⟩⟩
  · obtain ⟨classId, hCrowded⟩ := exists_crowded_of_hasProblem hProblem
    exact not_crowded_repaired g s classId hCrowded
  · obtain ⟨classId, hCrowded⟩ := exists_crowded_of_remove hm hRemove
    exact not_crowded_repaired g s classId hCrowded
  · by_cases hCrowded : g.Crowded s classId
    · obtain ⟨tag, -, hLeft⟩ := appliedTags_repaired_of_crowded hCrowded
      rw [hLeft]
      exact List.cons_ne_nil tag []
    · rwa [appliedTags_repaired_of_not_crowded hCrowded]
  · exact appliedTags_repaired_of_crowded
  · exact appliedTags_repaired_of_not_crowded

/-- Two classes that admit one tag each, and one that admits any number. -/
def strictMoods : Graph where
  fandomId := 1
  tags := ((((Table.empty.insert
    { id := 1, name := "calm", category := "mood", fandomId := 1, classId := some 5 : Tag }).insert
    { id := 2, name := "grim", category := "mood", fandomId := 1, classId := some 5 }).insert
    { id := 3, name := "brief", category := "length", fandomId := 1, classId := some 6 }).insert
    { id := 4, name := "long", category := "length", fandomId := 1, classId := some 6 }).insert
    { id := 7, name := "open", category := "end", fandomId := 1, classId := some 8 }
  tagClasses := ((Table.empty.insert
    { id := 5, name := "moods", rules.exclusion := some { withinClass := true } : TagClass }).insert
    { id := 6, name := "lengths", rules.exclusion := some { withinClass := true } }).insert
    { id := 8, name := "ends", rules.exclusion := some {} }

/-- All of the tags, some of them twice, and an unknown one. -/
def everyTag : Selection := { fandomId := 1, tags := [404, 2, 3, 1, 7, 4, 2, 1] }

theorem strictMoods_repaired :
    (strictMoods.repaired everyTag).tags = [404, 2, 3, 7, 2] ∧
    (strictMoods.Crowded everyTag 6 ∧ ∃ tag, strictMoods.firstTag? everyTag 6 = some tag ∧
      strictMoods.appliedTags (strictMoods.repaired everyTag) 6 = [tag]) ∧
    (¬strictMoods.Crowded everyTag 8 ∧ strictMoods.appliedTags (strictMoods.repaired everyTag) 8 =
      strictMoods.appliedTags everyTag 8) ∧
    strictMoods.appliedTags everyTag 5 ≠ [] ∧
      strictMoods.appliedTags (strictMoods.repaired everyTag) 5 ≠ [] := by
  obtain ⟨-, -, hLeft⟩ := classReport_repaired strictMoods everyTag
  have hCrowded : strictMoods.Crowded everyTag 6 := by decide
  have hOther : ¬strictMoods.Crowded everyTag 8 := by decide
  have hApplied : strictMoods.appliedTags everyTag 5 ≠ [] := by decide
  exact ⟨by decide +kernel, ⟨hCrowded, (hLeft 6).2.1 hCrowded⟩, ⟨hOther, (hLeft 8).2.2 hOther⟩,
    hApplied, (hLeft 5).1 hApplied⟩

end StoryRules.Graph
