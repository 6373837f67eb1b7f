import StoryRules.Proofs.Report.Outline
import StoryRules.Proofs.Selection.Alike

/-! The order of a selection. Two selections that differ in the order of their ids have the same
present, and the members of a class and what is missing are the same up to order. The order decides
which of several ids a text names: the member to be kept, the block that recommends another one, or
the one whose parents form a loop. In outline it makes no difference to the report. -/

namespace StoryRules

/-- The same ids are chosen equally often, in whatever order, with the same metadata. -/
structure Selection.Permuted (s s' : Selection) : Prop where
  fandomId : s.fandomId = s'.fandomId
  tags : s.tags.Perm s'.tags
  plotBlocks : s.plotBlocks.Perm s'.plotBlocks
  conditions : s.conditions.Perm s'.conditions
  metadata : s.metadata = s'.metadata

namespace Selection.Permuted

variable {s s' : Selection} (h : s.Permuted s')

include h

theorem ids (kind : Kind) : (s.ids kind).Perm (s'.ids kind) := by
  cases kind with
  | tag => exact h.tags
  | plotBlock => exact h.plotBlocks
  | condition => exact h.conditions

theorem has : s.has = s'.has := by
  funext kind id
  rw [Bool.eq_iff_iff, has_iff, has_iff, (h.ids kind).mem_iff]

theorem isPresent (g : Graph) : g.isPresent s = g.isPresent s' := by
  funext kind id
  rw [Graph.isPresent, h.has, Graph.isPresent]

theorem present (g : Graph) (kind : Kind) : (g.present s kind).Perm (g.present s' kind) := by
  rw [List.perm_ext_iff_of_nodup (g.nodup_present s kind) (g.nodup_present s' kind)]
  intro id
  rw [Graph.mem_present, Graph.mem_present, h.isPresent g]

theorem members (g : Graph) (classId : Ident) :
    (g.members s classId).Perm (g.members s' classId) :=
  ((h.present g .tag).filterMap _).filter _

theorem missing (g : Graph) :
    (g.checkRequirements s).missing.Perm (g.checkRequirements s').missing := by
  have hItems : (g.presentItems s).Perm (g.presentItems s') :=
    List.Perm.flatMap_left _ fun kind _ => (h.present g kind).map _
  unfold Graph.checkRequirements
  rw [Graph.missingFor_congr (h.isPresent g)]
  exact hItems.flatMap_right _

end Selection.Permuted

/-- Requirements are reported one by one, and what to add is told from what is missing. -/
theorem RequirementCheck.sameOutlines {c c' : RequirementCheck} (h : c.missing.Perm c'.missing)
    (g : Graph) : SameOutlines (c.findings g) (c'.findings g) := by
  refine .append (.of_perm (h.map _)) ?_
  unfold suggestions
  rw [List.map_map, List.map_map]
  exact .of_keys (fun item => .suggestion (.missingRequirementFix, .add, some item.id))
    (fun _ => rfl) (fun _ => rfl) (perm_map_distinctOn _ (h.filter _))

/-- A problem about tags is the same in outline whatever its text, and in whatever order it names
them. -/
theorem Finding.outline_tagProblem {ids ids' : List Ident} (h : ids.Perm ids') {issue : Issue}
    {message message' : String} {value value' : Option Json} :
    (tagProblem issue message value ids).outline =
      (tagProblem issue message' value' ids').outline := by
  simp only [tagProblem, outline, Problem.outline, List.toFinset_eq_of_perm _ _ h]

namespace AppliedClass

variable {g : Graph} {s s' : Selection} {ms ms' : List Tag}

/-- Which member is to be kept is said in the text of a suggestion only. -/
theorem outline_withinClass (c : AppliedClass) (rule : MutualExclusion) :
    (c.withinClass rule).map Finding.outline =
      if rule.withinClass = true ∧ 1 < c.members.length then
        [.problem (.mutualExclusionViolation, some (Kind.field .tag), c.ids.toFinset),
          .suggestion (.mutualExclusionViolation, .remove, none)]
      else [] := by
  rcases hMembers : c.members with _ | ⟨first, _ | ⟨second, rest⟩⟩
  · simp [withinClass, hMembers]
  · simp [withinClass, hMembers]
  · cases hWithin : rule.withinClass with
    | false => simp [withinClass, hMembers, hWithin]
    | true => simp [withinClass, hMembers, hWithin, Finding.tagProblem, Finding.outline,
        Problem.outline, Suggestion.outline]

theorem sameOutlines_exclusion (h : s.Permuted s') (c : TagClass) (hMembers : ms.Perm ms')
    (rule : MutualExclusion) :
    SameOutlines (exclusionFindings ⟨g, s, c, ms⟩ rule)
      (exclusionFindings ⟨g, s', c, ms'⟩ rule) := by
  have hIds : (ms.map Tag.id).Perm (ms'.map Tag.id) := hMembers.map Tag.id
  refine .append (.append ?_ ?_) ?_
  · rw [SameOutlines, outline_withinClass, outline_withinClass]
    simp only [AppliedClass.ids, hMembers.length_eq, List.toFinset_eq_of_perm _ _ hIds]
    exact .refl _
  · unfold conflictingTags
    simp only [AppliedClass.ids, hIds.mem_iff, h.has]
    exact .map fun id _ => Finding.outline_tagProblem (hIds.cons id)
  · refine .filterMap fun id _ => ?_
    have hOthers := h.members g id
    dsimp only
    rw [hOthers.isEmpty_eq]
    split
    · rfl
    · exact congrArg some (Finding.outline_tagProblem (hIds.append (hOthers.map Tag.id)))

theorem sameOutlines_limits (c : TagClass) (hMembers : ms.Perm ms') (rule : InstanceLimits) :
    SameOutlines (limitFindings ⟨g, s, c, ms⟩ rule) (limitFindings ⟨g, s', c, ms'⟩ rule) := by
  have hSame (issue : Issue) (message key : String) (limit : UInt64) :
      (limitProblem ⟨g, s, c, ms⟩ issue message key limit).outline =
        (limitProblem ⟨g, s', c, ms'⟩ issue message key limit).outline :=
    Finding.outline_tagProblem (hMembers.map Tag.id)
  unfold limitFindings
  dsimp only
  rw [hMembers.length_eq]
  exact .append (.append (.map fun _ _ => hSame ..) (.map fun _ _ => hSame ..))
    (.map fun _ _ => hSame ..)

theorem sameOutlines_findings (h : s.Permuted s') (c : TagClass) (hMembers : ms.Perm ms') :
    SameOutlines (findings ⟨g, s, c, ms⟩) (findings ⟨g, s', c, ms'⟩) := by
  have hPresent := h.isPresent g
  refine .append (.append (.append (.append ?_ ?_) ?_) ?_) ?_
  · exact .elim _ fun rule => sameOutlines_exclusion h c hMembers rule
  · exact .elim _ fun rule => sameOutlines_limits c hMembers rule
  · rw [Graph.contextFindings_congr hPresent h.metadata c ms ms']
    exact .refl _
  · refine .elim _ fun rule => .append (.of_perm (hMembers.flatMap_right _)) (.of_eq ?_)
    rw [Graph.plotBlockFindings_congr hPresent h.metadata c ms ms']
  · refine .elim _ fun rule => .of_eq ?_
    exact Graph.dependencyFindings_congr hPresent c ms ms' fun _ _ => by rw [h.has]

end AppliedClass

namespace Graph

variable {g : Graph} {blocks blocks' : List Ident}

/-- Which block has no depth depends on the order, and whether one has none does not. -/
theorem foldlM_deeper_perm (h : blocks.Perm blocks') (depth : Nat) :
    (blocks.foldlM g.deeper depth).toOption = (blocks'.foldlM g.deeper depth).toOption := by
  induction h generalizing depth with
  | nil => rfl
  | cons block _ ih =>
    rw [List.foldlM_cons, List.foldlM_cons]
    exact toOption_bind rfl ih
  | swap block other blocks =>
    simp only [List.foldlM_cons, deeper]
    cases g.depthOf block with
    | error fault => cases g.depthOf other <;> rfl
    | ok found =>
      cases g.depthOf other with
      | error fault => rfl
      | ok found' =>
        show (blocks.foldlM g.deeper (max (max depth found') found)).toOption =
          (blocks.foldlM g.deeper (max (max depth found) found')).toOption
        rw [Nat.max_right_comm]
  | trans _ _ ih ih' => exact (ih depth).trans (ih' depth)

end Graph

/-- The outcome of a chain, without the number of predicates run. -/
theorem continueChain_cons (g : Graph) (s : Selection) (value : Bool) (j : Joiner) (link : Link)
    (links : List Link) (count : Nat) : (continueChain g s value j (link :: links) count).1 =
      if j.isDecidedBy value then .ok value
      else link.holds g s >>= fun next =>
        (continueChain g s (j.apply value next) link.joiner links (count + 1)).1 := by
  rw [continueChain]
  split
  · rfl
  · cases link.holds g s <;> rfl

/-- The fault of a rule is named in the text of its problem only. -/
theorem CompiledRule.sameOutlines {r : CompiledRule} {g : Graph} {s s' : Selection}
    (h : (r.attempt g s).toOption = (r.attempt g s').toOption) :
    SameOutlines (r.findings g s) (r.findings g s') := by
  unfold findings
  rcases toOption_eq h with hSame | ⟨⟨fault, hFault⟩, fault', hFault'⟩
  · rw [hSame]
    exact .refl _
  · rw [hFault, hFault']
    exact List.Perm.refl _

namespace Selection.Permuted

variable {s s' : Selection} (h : s.Permuted s')

include h

theorem classFindings (g : Graph) : SameOutlines (g.classFindings s) (g.classFindings s') := by
  refine .flatMap fun c _ => ?_
  have hMembers := h.members g c.id
  dsimp only
  rw [hMembers.isEmpty_eq]
  split
  · exact .refl _
  · exact AppliedClass.sameOutlines_findings h c hMembers

theorem holds (g : Graph) (operator : Presence) (kind : Kind) (targets : List Ident) :
    operator.holds kind targets g s = operator.holds kind targets g s' := by
  unfold Presence.holds
  rw [h.isPresent g, (h.present g kind).all_eq]

theorem test (g : Graph) (t : Test) : (t.compile g s).toOption = (t.compile g s').toOption := by
  cases t with
  | hasTag operator targets => simp only [Test.compile, h.holds g]
  | hasPlotBlock operator targets => simp only [Test.compile, h.holds g]
  | tagCount operator value targets => simp only [Test.compile, (h.present g .tag).countP_eq]
  | plotBlockDepth operator value =>
    rw [Test.compile_plotBlockDepth, Test.compile_plotBlockDepth]
    exact toOption_bind (Graph.foldlM_deeper_perm h.plotBlocks 0) fun _ => rfl
  | customExpression => rfl

theorem continueChain (g : Graph) {links : List Link}
    (hLinks : ∀ link ∈ links, ∃ t : Test, t.compile = link.holds) (value : Bool) (j : Joiner)
    (count : Nat) : (continueChain g s value j links count).1.toOption =
      (continueChain g s' value j links count).1.toOption := by
  induction links generalizing value j count with
  | nil => rfl
  | cons link links ih =>
    obtain ⟨⟨t, ht⟩, hRest⟩ := List.forall_mem_cons.1 hLinks
    rw [continueChain_cons, continueChain_cons, ← ht]
    split
    · rfl
    · exact toOption_bind (h.test g t) fun next => ih hRest ..

theorem attempt (g : Graph) {r : CompiledRule} (hr : r.IsCompiled) :
    (r.attempt g s).toOption = (r.attempt g s').toOption := by
  unfold CompiledRule.attempt
  rw [Graph.effects_congr (h.isPresent g), CompiledRule.evaluate_eq_continueChain,
    CompiledRule.evaluate_eq_continueChain]
  exact toOption_bind (h.continueChain g (fun _ hLink => hr.exists_test hLink) ..) fun _ => rfl

theorem ruleFindings (g : Graph) {rules : List CompiledRule} (hRules : ∀ r ∈ rules, r.IsCompiled) :
    SameOutlines (g.ruleFindings rules s) (g.ruleFindings rules s') := by
  refine .flatMap fun r hr => ?_
  have hCompiled := hRules r (CompiledRule.mem_ordered.1 hr)
  exact CompiledRule.sameOutlines (h.attempt g hCompiled)

theorem enhancements (g : Graph) :
    ((g.enhancements s).map Enhancement.id).Perm ((g.enhancements s').map Enhancement.id) := by
  have hRecommended : (g.recommended s).Perm (g.recommended s') := by
    rw [Graph.recommended_eq, Graph.recommended_eq, Graph.recommendedBy_congr (h.isPresent g)]
    exact (h.present g .plotBlock).flatMap_right _
  unfold Graph.enhancements
  rw [Graph.enabled_congr h.has]
  exact perm_map_distinctOn _ (hRecommended.append_right _)

theorem unlocked (g : Graph) (kind : Kind) (list : Entity → List Ident) :
    ((g.unlocked s kind list).map Prod.snd).Perm ((g.unlocked s' kind list).map Prod.snd) := by
  rw [Graph.unlocked_eq, Graph.unlocked_eq, Graph.unlockedBy_congr (h.isPresent g)]
  exact perm_map_distinctOn _ ((h.present g kind).flatMap_right _)

theorem enhancementFindings (g : Graph) :
    SameOutlines (g.enhancementFindings s) (g.enhancementFindings s') := by
  unfold Graph.enhancementFindings Graph.unlocks
  simp only [List.map_append, List.map_map]
  refine .append ?_ (.append ?_ ?_)
  · exact .of_keys (fun id => .suggestion (.plotEnhancement, .add, some id))
      (fun _ => rfl) (fun _ => rfl) (h.enhancements g)
  · exact .of_keys (fun id => .suggestion (.tagEnhancement, .add, some id))
      (fun _ => rfl) (fun _ => rfl) (h.unlocked g .tag Entity.enhances)
  · exact .of_keys (fun id => .suggestion (.featureUnlock, .add, some id))
      (fun _ => rfl) (fun _ => rfl) (h.unlocked g .condition Entity.enables)

end Selection.Permuted

namespace Snapshot

variable {snap : Snapshot} {s s' : Selection}

theorem sameOutlines_passFindings (hCompiled : snap.IsCompiled) (settings : Settings)
    (h : s.Permuted s') :
    SameOutlines (snap.passFindings settings s) (snap.passFindings settings s') := by
  refine .append (.append (.append (.append ?_ ?_) ?_) ?_) ?_
  · exact RequirementCheck.sameOutlines (h.missing snap.graph) snap.graph
  · exact h.classFindings snap.graph
  · exact .ite _ (h.ruleFindings snap.graph hCompiled)
  · exact .ite _ (.of_eq (Graph.templateFindings_congr (h.isPresent snap.graph)))
  · exact .ite _ (h.enhancementFindings snap.graph)

/-- The order in which ids are chosen makes no difference to the report of a selection in outline:
to the verdict, and to which problems, warnings and suggestions there are and how often each. -/
theorem validate_permuted (hCompiled : snap.IsCompiled) (settings : Settings)
    (h : s.Permuted s') : (snap.validate settings s).Agrees (snap.validate settings s') := by
  refine SameOutlines.report ?_
  unfold findings
  rw [h.fandomId]
  split
  · exact sameOutlines_passFindings hCompiled settings h
  · exact .refl _

/-- A fandom with a class that admits one tag, and with two plot blocks, each its own parent. -/
def tangled : Snapshot where
  graph := {
    fandomId := 1
    tags := (Table.empty.insert
      { id := 1, name := "first", category := "mood", fandomId := 1, classId := some 1 }).insert
      { id := 2, name := "second", category := "mood", fandomId := 1, classId := some 1 }
    tagClasses := Table.empty.insert
      { id := 1, name := "moods", rules.exclusion := some { withinClass := true } }
    plotBlocks := (Table.empty.insert
      { id := 1, name := "duel", category := "arc", fandomId := 1, parentId := some 1 }).insert
      { id := 2, name := "feud", category := "arc", fandomId := 1, parentId := some 2 } }
  rules := [Rule.compile {
    id := 1, name := "deep", severity := .warning
    conditions := [⟨.plotBlockDepth .greaterThan 0, .and⟩] }]

/-- Which tag is to be kept, and which block has no depth, is told differently of the two. -/
theorem validate_tangled :
    (tangled.validate {} { fandomId := 1, tags := [1, 2], plotBlocks := [2, 1] }).Agrees
      (tangled.validate {} { fandomId := 1, tags := [2, 1], plotBlocks := [1, 2] }) := by
  have hCompiled : tangled.IsCompiled := List.forall_mem_singleton.2 ⟨_, rfl⟩
  exact validate_permuted hCompiled {} ⟨rfl, .swap _ _ _, .swap _ _ _, .refl _, rfl⟩

end Snapshot

end StoryRules
