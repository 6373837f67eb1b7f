import StoryRules.Proofs.Enhancement
import StoryRules.Proofs.Except
import StoryRules.Proofs.Rule.Chain
import StoryRules.Proofs.TagClass
import StoryRules.Proofs.Template
import StoryRules.Snapshot

/-! Selections in which a graph finds the same present. Requirements, rules, templates and the
blocks that are recommended depend on nothing else of a selection, apart from the greatest depth of
a chosen plot block, which a rule can test. Of the tag classes this is true as far as the metadata
agree, and for the two lists of ids that are looked up among the chosen tags alone. -/

namespace StoryRules

namespace Graph

variable {g : Graph} {s s' : Selection} {kind : Kind}

def deeper (g : Graph) (depth : Nat) (block : Ident) : Except RuleFault Nat :=
  (g.depthOf block).map (max depth)

/-- The greatest depth of a chosen plot block, or the fault that none can be told. -/
def deepest (g : Graph) (s : Selection) : Except RuleFault Nat := s.plotBlocks.foldlM g.deeper 0

theorem foldlM_deeper (g : Graph) (depth : Nat) (blocks : List Ident) :
    blocks.foldlM g.deeper depth = (blocks.mapM g.depthOf).map (List.foldl max depth) := by
  induction blocks generalizing depth with
  | nil => rfl
  | cons block blocks ih =>
    rw [List.foldlM_cons, List.mapM_cons, deeper]
    cases g.depthOf block with
    | error fault => rfl
    | ok found =>
      show blocks.foldlM g.deeper (max depth found) = _
      rw [ih]
      cases blocks.mapM g.depthOf <;> rfl

/-- The same is present in two selections, in the same order, and equally deep. -/
structure Alike (g : Graph) (s s' : Selection) : Prop where
  present : ∀ kind, g.present s kind = g.present s' kind
  deepest : g.deepest s = g.deepest s'

theorem isPresent_congr (h : g.present s kind = g.present s' kind) :
    g.isPresent s kind = g.isPresent s' kind := by
  funext id
  rw [Bool.eq_iff_iff, ← mem_present, ← mem_present, h]

theorem has_eq_isPresent {id : Ident} (h : g.contains kind id = true) :
    s.has kind id = g.isPresent s kind id := by
  simp [isPresent, h]

theorem isPresent_imp_contains {id : Ident} (h : g.isPresent s kind id = true) :
    g.contains kind id = true := by
  simp only [isPresent, Bool.and_eq_true] at h
  exact h.2

theorem not_has_and_contains (g : Graph) (s : Selection) (kind : Kind) (id : Ident) :
    (!s.has kind id && g.contains kind id) = (!g.isPresent s kind id && g.contains kind id) := by
  simp only [isPresent]
  cases g.contains kind id <;> simp

theorem members_congr (h : g.present s .tag = g.present s' .tag) (classId : Ident) :
    g.members s classId = g.members s' classId := by
  rw [members, members, h]

/-- Whether a known block is mentioned, told from what is present and the metadata. -/
theorem mentionsKnown_eq (g : Graph) (s : Selection) (block : Ident) :
    g.mentionsKnown s block =
      (g.isPresent s .plotBlock block
        || s.listedPlotBlocks.contains block && g.contains .plotBlock block) := by
  simp only [mentionsKnown, Selection.mentions, isPresent]
  cases g.contains .plotBlock block <;> simp

theorem mem_members_iff_isPresent {tag : Tag} {classId : Ident} : tag ∈ g.members s classId ↔
    tag ∈ g.tags.values ∧ g.isPresent s .tag tag.id = true ∧ tag.classId = some classId := by
  rw [mem_members]
  refine and_congr_right fun hTag => and_congr_left fun _ => ?_
  rw [has_eq_isPresent (contains_tag hTag)]

/-! ### What follows from the same being present, in whatever order -/

section Presence

variable (h : g.isPresent s = g.isPresent s')

include h

theorem missingFor_congr : g.missingFor s = g.missingFor s' := by
  funext kind id
  simp only [missingFor, isMet, h]

theorem templateFindings_congr : g.templateFindings s = g.templateFindings s' :=
  templateFindings_eq fun _ => by rw [h]

theorem effects_congr (r : CompiledRule) : r.effects g s = r.effects g s' := by
  have hEffect : r.effect g s = r.effect g s' := by
    funext action
    cases action <;> simp only [CompiledRule.effect, CompiledRule.require, CompiledRule.forbid, h]
  rw [CompiledRule.effects, hEffect, CompiledRule.effects]

theorem recommendedBy_congr : g.recommendedBy s = g.recommendedBy s' := by
  have hTarget (id : Ident) (make : PlotBlock → Enhancement) :
      (if s.has .plotBlock id then none else (g.plotBlocks.get? id).map make) =
        if s'.has .plotBlock id then none else (g.plotBlocks.get? id).map make := by
    cases hGet : g.plotBlocks.get? id with
    | none => simp
    | some block =>
      have hKnown : g.contains .plotBlock id = true := by simp [contains, entity?, hGet]
      rw [has_eq_isPresent hKnown, h, ← has_eq_isPresent hKnown]
  funext source
  simp only [recommendedBy, hTarget]

theorem unlockedBy_congr (kind : Kind) (list : Entity → List Ident) :
    g.unlockedBy s kind list = g.unlockedBy s' kind list := by
  funext source
  simp only [unlockedBy, not_has_and_contains, h]

theorem isEmpty_members_congr (classId : Ident) :
    (g.members s classId).isEmpty = (g.members s' classId).isEmpty := by
  rw [Bool.eq_iff_iff, List.isEmpty_iff, List.isEmpty_iff, List.eq_nil_iff_forall_not_mem,
    List.eq_nil_iff_forall_not_mem]
  simp only [mem_members_iff_isPresent, h]

theorem contextFindings_congr (hMetadata : s.metadata = s'.metadata) (c : TagClass)
    (members members' : List Tag) :
    AppliedClass.contextFindings ⟨g, s, c, members⟩ =
      AppliedClass.contextFindings ⟨g, s', c, members'⟩ := by
  funext rule
  simp only [AppliedClass.contextFindings, AppliedClass.absent, Selection.hasMetadata, hMetadata,
    isEmpty_members_congr h, h, AppliedClass.name]

theorem plotBlockFindings_congr (hMetadata : s.metadata = s'.metadata) (c : TagClass)
    (members members' : List Tag) :
    AppliedClass.plotBlockFindings ⟨g, s, c, members⟩ =
      AppliedClass.plotBlockFindings ⟨g, s', c, members'⟩ := by
  have hMentions : g.mentionsKnown s = g.mentionsKnown s' := by
    funext block
    rw [mentionsKnown_eq, mentionsKnown_eq, h, Selection.listedPlotBlocks,
      Selection.listedPlotBlocks, hMetadata]
  funext rule
  simp only [AppliedClass.plotBlockFindings, hMentions, AppliedClass.name]

theorem dependencyFindings_congr (c : TagClass) (members members' : List Tag)
    {rule : ClassDependencies}
    (hHas : ∀ id ∈ rule.enhances, s.has .tag id = s'.has .tag id) :
    AppliedClass.dependencyFindings ⟨g, s, c, members⟩ rule =
      AppliedClass.dependencyFindings ⟨g, s', c, members'⟩ rule := by
  simp only [AppliedClass.dependencyFindings, AppliedClass.absent, h, not_has_and_contains,
    AppliedClass.name]
  rw [List.filter_congr fun id hid => hHas id hid]

end Presence

/-! ### What follows from the same being present in the same order -/

namespace Alike

variable (h : g.Alike s s')

include h

theorem isPresent : g.isPresent s = g.isPresent s' :=
  funext fun kind => isPresent_congr (h.present kind)

theorem members : g.members s = g.members s' :=
  funext (members_congr (h.present .tag))

theorem checkRequirements : g.checkRequirements s = g.checkRequirements s' := by
  have hItems : g.presentItems s = g.presentItems s' := by
    simp only [presentItems, h.present]
  rw [Graph.checkRequirements, hItems, missingFor_congr h.isPresent, Graph.checkRequirements]

theorem recommended : g.recommended s = g.recommended s' := by
  rw [recommended_eq, recommended_eq, h.present, recommendedBy_congr h.isPresent]

theorem unlocks : g.unlocks s = g.unlocks s' := by
  have hUnlocked (kind : Kind) (list : Entity → List Ident) :
      g.unlocked s kind list = g.unlocked s' kind list := by
    rw [unlocked_eq, unlocked_eq, h.present, unlockedBy_congr h.isPresent]
  rw [Graph.unlocks, hUnlocked, hUnlocked, Graph.unlocks]

end Alike

end Graph

/-! Rules compiled from conditions test a selection only for what is present and how deep. -/

theorem CompiledRule.mem_ordered {r : CompiledRule} {rules : List CompiledRule} :
    r ∈ CompiledRule.ordered rules ↔ r ∈ rules :=
  (List.mergeSort_perm rules _).mem_iff

/-- A compiled rule that comes from a rule as it is written. -/
def CompiledRule.IsCompiled (r : CompiledRule) : Prop := ∃ rule : Rule, rule.compile = r

def Snapshot.IsCompiled (snap : Snapshot) : Prop := ∀ r ∈ snap.rules, r.IsCompiled

theorem Snapshot.isCompiled_ofContent {content : Content} {rules : List Rule} {snap : Snapshot}
    (h : Snapshot.ofContent content rules = .ok snap) : snap.IsCompiled := by
  simp only [ofContent, bind_eq_ok, pure_eq_ok] at h
  obtain ⟨g, -, rfl⟩ := h
  intro r hr
  obtain ⟨rule, -, rfl⟩ := List.mem_map.1 (CompiledRule.mem_ordered.1 hr)
  exact ⟨rule, rfl⟩

theorem CompiledRule.IsCompiled.exists_test {r : CompiledRule} (h : r.IsCompiled) {link : Link}
    (hLink : link ∈ r.conditions) : ∃ t : Test, t.compile = link.holds := by
  obtain ⟨rule, rfl⟩ := h
  obtain ⟨c, -, rfl⟩ := List.mem_map.1 hLink
  exact ⟨c.test, rfl⟩

theorem Test.compile_plotBlockDepth (operator : Comparison) (value : Int64) (g : Graph)
    (s : Selection) : (Test.plotBlockDepth operator value).compile g s =
      (g.deepest s).map fun depth => operator.holds (depth : Nat) value.toInt := by
  simp only [Graph.deepest, Graph.foldlM_deeper, Test.compile]
  cases s.plotBlocks.mapM g.depthOf <;> rfl

namespace Graph.Alike

variable {g : Graph} {s s' : Selection} (h : g.Alike s s')

include h

theorem test (t : Test) : t.compile g s = t.compile g s' := by
  cases t with
  | hasTag operator targets =>
    cases operator <;> simp only [Test.compile, Presence.holds, h.present, h.isPresent]
  | hasPlotBlock operator targets =>
    cases operator <;> simp only [Test.compile, Presence.holds, h.present, h.isPresent]
  | tagCount operator value targets => simp only [Test.compile, h.present]
  | plotBlockDepth operator value =>
    rw [Test.compile_plotBlockDepth, Test.compile_plotBlockDepth, h.deepest]
  | customExpression => rfl

theorem continueChain {links : List Link}
    (hLinks : ∀ link ∈ links, ∃ t : Test, t.compile = link.holds) (value : Bool) (j : Joiner)
    (count : Nat) :
    continueChain g s value j links count = continueChain g s' value j links count := by
  induction links generalizing value j count with
  | nil => rfl
  | cons link links ih =>
    obtain ⟨⟨t, ht⟩, hRest⟩ := List.forall_mem_cons.1 hLinks
    have hHolds : link.holds g s = link.holds g s' := by rw [← ht, h.test t]
    simp only [StoryRules.continueChain, hHolds, ih hRest]

theorem evaluate {r : CompiledRule} (hr : r.IsCompiled) (count : Nat) :
    r.evaluate g s count = r.evaluate g s' count := by
  rw [CompiledRule.evaluate_eq_continueChain, CompiledRule.evaluate_eq_continueChain]
  exact h.continueChain (fun _ hLink => hr.exists_test hLink) true .and count

theorem ruleFindings {rules : List CompiledRule} (hRules : ∀ r ∈ rules, r.IsCompiled) :
    g.ruleFindings rules s = g.ruleFindings rules s' := by
  refine List.flatMap_congr fun r hr => ?_
  have hCompiled := hRules r (CompiledRule.mem_ordered.1 hr)
  simp only [CompiledRule.findings, CompiledRule.attempt, h.evaluate hCompiled,
    effects_congr h.isPresent]

end Graph.Alike

/-! A tag class looks among the chosen tags themselves, known or not, for those that its members
exclude or that go well with it. -/

/-- Whether the class says the same of two selections about the tags it excludes and those that go
well with it. -/
structure TagClass.Indifferent (c : TagClass) (s s' : Selection) : Prop where
  conflicting : ∀ rule ∈ c.rules.exclusion, ∀ id ∈ rule.conflictingTags,
    s.has .tag id = s'.has .tag id
  enhances : ∀ rule ∈ c.rules.dependencies, ∀ id ∈ rule.enhances, s.has .tag id = s'.has .tag id

namespace Graph.Alike

variable {g : Graph} {s s' : Selection} (h : g.Alike s s')

include h

theorem exclusionFindings (c : TagClass) (members : List Tag) {rule : MutualExclusion}
    (hHas : ∀ id ∈ rule.conflictingTags, s.has .tag id = s'.has .tag id) :
    AppliedClass.exclusionFindings ⟨g, s, c, members⟩ rule =
      AppliedClass.exclusionFindings ⟨g, s', c, members⟩ rule := by
  have hTags : AppliedClass.conflictingTags ⟨g, s, c, members⟩ rule =
      AppliedClass.conflictingTags ⟨g, s', c, members⟩ rule := by
    simp only [AppliedClass.conflictingTags]
    rw [List.filter_congr fun id hid => by rw [hHas id hid]]
    rfl
  have hClasses : AppliedClass.conflictingClasses ⟨g, s, c, members⟩ rule =
      AppliedClass.conflictingClasses ⟨g, s', c, members⟩ rule := by
    simp only [AppliedClass.conflictingClasses, h.members]
    rfl
  rw [AppliedClass.exclusionFindings, hTags, hClasses]
  rfl

theorem appliedFindings (hMetadata : s.metadata = s'.metadata) {c : TagClass}
    (hClass : c.Indifferent s s') (members : List Tag) :
    AppliedClass.findings ⟨g, s, c, members⟩ = AppliedClass.findings ⟨g, s', c, members⟩ := by
  have hExclusion : c.rules.exclusion.elim [] (AppliedClass.exclusionFindings ⟨g, s, c, members⟩) =
      c.rules.exclusion.elim [] (AppliedClass.exclusionFindings ⟨g, s', c, members⟩) := by
    cases hRule : c.rules.exclusion with
    | none => rfl
    | some rule => exact h.exclusionFindings c members (hClass.conflicting rule hRule)
  have hDependencies :
      c.rules.dependencies.elim [] (AppliedClass.dependencyFindings ⟨g, s, c, members⟩) =
        c.rules.dependencies.elim [] (AppliedClass.dependencyFindings ⟨g, s', c, members⟩) := by
    cases hRule : c.rules.dependencies with
    | none => rfl
    | some rule =>
      exact dependencyFindings_congr h.isPresent c members members (hClass.enhances rule hRule)
  simp only [AppliedClass.findings, hExclusion, hDependencies,
    contextFindings_congr h.isPresent hMetadata c members members,
    plotBlockFindings_congr h.isPresent hMetadata c members members]
  rfl

theorem classFindings (hMetadata : s.metadata = s'.metadata)
    (hClasses : ∀ c ∈ g.tagClasses.values, g.members s c.id ≠ [] → c.Indifferent s s') :
    g.classFindings s = g.classFindings s' := by
  refine List.flatMap_congr fun c hc => ?_
  rw [← h.members]
  by_cases hEmpty : g.members s c.id = []
  · simp [hEmpty]
  · simp only [h.appliedFindings hMetadata (hClasses c hc hEmpty)]

end Graph.Alike

end StoryRules
