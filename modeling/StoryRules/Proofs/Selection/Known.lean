import StoryRules.Proofs.Enhancement
import StoryRules.Proofs.Graph.Depth
import StoryRules.Proofs.Selection.Alike
import StoryRules.Proofs.Snapshot.Pass

/-! Unknown ids in a selection. A graph finds the same present with and without them, and nearly all
of a validation is about what is present. The exceptions are the tags that a class excludes or goes
well with, and the blocks that enable another one: these are looked up among the chosen ids. A
selection has the report of its known part exactly when no unknown id is found there. -/

namespace StoryRules

/-- The selection without the ids that a graph does not know. -/
def Selection.known (s : Selection) (g : Graph) : Selection :=
  { s with
    tags := s.tags.filter (g.contains .tag)
    plotBlocks := s.plotBlocks.filter (g.contains .plotBlock)
    conditions := s.conditions.filter (g.contains .condition) }

namespace Graph

variable {g : Graph} {s : Selection} {kind : Kind} {id : Ident}

theorem ids_known (g : Graph) (s : Selection) (kind : Kind) :
    (s.known g).ids kind = (s.ids kind).filter (g.contains kind) := by
  cases kind <;> rfl

theorem has_known (g : Graph) (s : Selection) (kind : Kind) (id : Ident) :
    (s.known g).has kind id = g.isPresent s kind id := by
  rw [Bool.eq_iff_iff]
  simp [Selection.has, ids_known, isPresent]

theorem present_known (g : Graph) (s : Selection) (kind : Kind) :
    g.present (s.known g) kind = g.present s kind := by
  rw [present, ids_known, eraseDups_filter, List.filter_filter, present]
  simp only [Bool.and_self]

theorem depthOf_unknown (h : ¬g.contains .plotBlock id = true) : g.depthOf id = .ok 0 := by
  rw [depthOf, depth?_of_top (parent?_unknown (mt mem_ids.1 h))]

theorem deepest_known (g : Graph) (s : Selection) : g.deepest (s.known g) = g.deepest s := by
  show (s.plotBlocks.filter (g.contains .plotBlock)).foldlM g.deeper 0 = _
  rw [List.foldlM_filter, deepest]
  congr 1
  funext depth block
  -- an unknown block has depth 0, which is never the greater one
  split
  · rfl
  · rw [deeper, depthOf_unknown ‹_›]
    simp [Except.map, pure, Except.pure]

theorem alike_known (g : Graph) (s : Selection) : g.Alike (s.known g) s :=
  ⟨present_known g s, deepest_known g s⟩

end Graph

/-- Of the tags that a class excludes or goes well with, the chosen ones are known. -/
structure TagClass.KnownTo (c : TagClass) (g : Graph) (s : Selection) : Prop where
  conflicting : ∀ rule ∈ c.rules.exclusion, ∀ id ∈ rule.conflictingTags,
    s.has .tag id = true → g.contains .tag id = true
  enhances : ∀ rule ∈ c.rules.dependencies, ∀ id ∈ rule.enhances,
    s.has .tag id = true → g.contains .tag id = true

theorem TagClass.KnownTo.indifferent {c : TagClass} {g : Graph} {s : Selection}
    (h : c.KnownTo g s) : c.Indifferent (s.known g) s := by
  have hHas {id : Ident} (hKnown : s.has .tag id = true → g.contains .tag id = true) :
      (s.known g).has .tag id = s.has .tag id := by
    rw [Graph.has_known, Graph.isPresent]
    cases hId : s.has .tag id with
    | false => rfl
    | true => exact hKnown hId
  exact ⟨fun rule hRule id hId => hHas (h.conflicting rule hRule id hId),
    fun rule hRule id hId => hHas (h.enhances rule hRule id hId)⟩

namespace Graph

variable {g : Graph} {s s' : Selection}

/-- Unknown ids do not enable a block: for one that is neither chosen nor recommended, the first
chosen and the first present of its enabling blocks go by the same name. -/
def EnablersKnown (g : Graph) (s : Selection) : Prop :=
  ∀ block ∈ g.plotBlocks.values, s.has .plotBlock block.id = false →
    block.id ∉ (g.recommended s).map Enhancement.id →
      block.enabler g (s.has .plotBlock) = block.enabler g (g.isPresent s .plotBlock)

theorem unlock?_known {block : PlotBlock} (hBlock : block ∈ g.plotBlocks.values) :
    g.unlock? (s.known g) block = g.unlock? s block ↔
      (s.has .plotBlock block.id = false → block.id ∉ (g.recommended s).map Enhancement.id →
        block.enabler g (s.has .plotBlock) = block.enabler g (g.isPresent s .plotBlock)) := by
  have hKnown : g.contains .plotBlock block.id = true :=
    mem_ids.1 (show block.id ∈ g.plotBlocks.ids from List.mem_map_of_mem hBlock)
  have hFun : (s.known g).has .plotBlock = g.isPresent s .plotBlock :=
    funext (has_known g s .plotBlock)
  rw [unlock?, unlock?, (alike_known g s).recommended, hFun, ← has_eq_isPresent hKnown]
  cases hChosen : s.has .plotBlock block.id with
  | true => simp
  | false =>
    by_cases hRecommended : block.id ∈ (g.recommended s).map Enhancement.id
    · simp only [List.contains_eq_mem, hRecommended, decide_true, Bool.or_true, ite_true,
        not_true_eq_false, false_imp_iff, implies_true]
    · simp only [List.contains_eq_mem, hRecommended, decide_false, Bool.or_false,
        Bool.false_eq_true, ite_false, not_false_eq_true, true_imp_iff]
      rw [(Option.map_injective block.unlock_injective).eq_iff]
      exact eq_comm

theorem enhancements_known_iff (g : Graph) (s : Selection) :
    (g.enhancements (s.known g)).map Enhancement.suggestion =
      (g.enhancements s).map Enhancement.suggestion ↔ g.EnablersKnown s := by
  rw [enhancements_suggestions, enhancements_suggestions, (alike_known g s).recommended,
    List.append_cancel_left_eq]
  have hNodup : (g.plotBlocks.values.map fun block => some block.id).Nodup := by
    have hIds := g.plotBlocks.nodup_ids.map fun _ _ => Option.some.inj
    rwa [Table.ids, List.map_map] at hIds
  rw [filterMap_inj (fun block m h => unlock?_target h) (fun block m h => unlock?_target h) hNodup]
  exact forall₂_congr fun block hBlock => unlock?_known hBlock

end Graph

/-! A report that names an unknown tag as a conflicting one, or asks to keep it, is not the report
of a known selection: what is named so is chosen. -/

/-- The tag that a finding takes to be chosen: the first affected one of a conflict, and the target
of a suggestion to keep what goes well with a class. -/
def Finding.chosenTag? : Finding → Option Ident
  | problem p => if p.issue = .tagConflict then p.affected.head? else none
  | suggestion m => if m.issue = .tagEnhancement ∧ m.action = .keep then m.target else none
  | warning _ => none

theorem Finding.chosenTag?_eq_none {f : Finding} (hConflict : f.issue ≠ .tagConflict)
    (hEnhancement : f.issue ≠ .tagEnhancement) : f.chosenTag? = none := by
  cases f with
  | problem p => exact if_neg hConflict
  | suggestion m => exact if_neg fun h => hEnhancement h.1
  | warning => rfl

namespace AppliedClass

variable {c : AppliedClass} {f : Finding} {id : Ident}

theorem chosenTag?_conflict (c : AppliedClass) (id : Ident) :
    (c.conflict id).chosenTag? = some id := by
  simp [conflict, Finding.tagProblem, Finding.chosenTag?]

theorem chosenTag?_enhancement (c : AppliedClass) (id : Ident) :
    (c.enhancement id).chosenTag? = some id := by
  simp [enhancement, Finding.chosenTag?]

theorem has_of_chosenTag? (hf : f ∈ c.findings) (hId : f.chosenTag? = some id) :
    c.selection.has .tag id = true := by
  have hIssue : f.issue = .tagConflict ∨ f.issue = .tagEnhancement := by
    by_contra hOther
    rw [not_or] at hOther
    simp [Finding.chosenTag?_eq_none hOther.1 hOther.2] at hId
  rw [mem_findings] at hf
  rcases hf with ⟨rule, -, hf⟩ | ⟨rule, -, hf⟩ | ⟨rule, -, hf⟩ | ⟨rule, -, hf⟩ | ⟨rule, -, hf⟩
  · rw [exclusionFindings, List.append_assoc, List.mem_append, List.mem_append] at hf
    rcases hf with hf | hf | hf
    · simp [issue_withinClass hf] at hIssue
    · obtain ⟨other, -, -, hHas, rfl⟩ := mem_conflictingTags.1 hf
      obtain rfl : other = id := Option.some.inj ((c.chosenTag?_conflict other).symm.trans hId)
      exact hHas
    · simp [issue_conflictingClasses hf] at hIssue
  · have hOther := issue_limitFindings hf
    rcases hIssue with h | h <;> simp [h] at hOther
  · have hOther := issue_contextFindings hf
    rcases hIssue with h | h <;> simp [h] at hOther
  · rcases List.mem_append.1 hf with hf | hf
    · have hOther := issue_categoryFindings hf
      rcases hIssue with h | h <;> simp [h] at hOther
    · simp [issue_plotBlockFindings hf] at hIssue
  · simp only [dependencyFindings, List.mem_append, List.mem_map, List.mem_filter] at hf
    rcases hf with (⟨other, -, rfl⟩ | ⟨other, ⟨-, hHas⟩, rfl⟩) | ⟨other, -, rfl⟩
    · simp [Finding.chosenTag?, Finding.tagProblem] at hId
    · obtain rfl : other = id := Option.some.inj ((c.chosenTag?_enhancement other).symm.trans hId)
      exact hHas
    · simp [Finding.chosenTag?] at hId

end AppliedClass

theorem Pass.has_of_chosenTag? {p : Pass} {snap : Snapshot} {s : Selection} {f : Finding}
    {id : Ident} (hf : f ∈ p.findings snap s) (hId : f.chosenTag? = some id) :
    s.has .tag id = true := by
  have hIssues := p.issue_mem hf
  have hSilent (hOther : .tagConflict ∉ p.issues ∧ .tagEnhancement ∉ p.issues) :
      s.has .tag id = true := by
    rw [Finding.chosenTag?_eq_none (fun h => hOther.1 (h ▸ hIssues))
      (fun h => hOther.2 (h ▸ hIssues))] at hId
    simp at hId
  cases p with
  | requirements => exact hSilent (by decide)
  | tagClasses =>
    obtain ⟨c, -, -, hc⟩ := Graph.mem_classFindings.1 hf
    exact AppliedClass.has_of_chosenTag? hc hId
  | rules => exact hSilent (by decide)
  | templates => exact hSilent (by decide)
  | enhancements =>
    simp only [findings, Graph.enhancementFindings, Graph.unlocks, List.map_append, List.map_map,
      List.mem_append, List.mem_map] at hf
    rcases hf with ⟨e, -, rfl⟩ | ⟨pair, -, rfl⟩ | ⟨pair, -, rfl⟩ <;>
      simp [Finding.chosenTag?, Enhancement.suggestion, Graph.tagUnlock,
        Graph.conditionUnlock] at hId

namespace Snapshot

/-- The parts of a fandom that could find an unknown id in a selection find none. -/
structure KnowsOf (snap : Snapshot) (settings : Settings) (s : Selection) : Prop where
  classes : ∀ c ∈ snap.graph.tagClasses.values, snap.graph.members s c.id ≠ [] →
    c.KnownTo snap.graph s
  blocks : settings.enhancementSuggestions = true → snap.graph.EnablersKnown s

variable {snap : Snapshot} {settings : Settings} {s : Selection}

theorem passFindings_known (hCompiled : snap.IsCompiled) (h : snap.KnowsOf settings s) :
    snap.passFindings settings (s.known snap.graph) = snap.passFindings settings s := by
  have hAlike := snap.graph.alike_known s
  have hClasses : snap.graph.classFindings (s.known snap.graph) = snap.graph.classFindings s := by
    refine hAlike.classFindings rfl fun c hc hMembers => ?_
    rw [hAlike.members] at hMembers
    exact (h.classes c hc hMembers).indifferent
  have hEnhancements (hOn : settings.enhancementSuggestions = true) :
      snap.graph.enhancementFindings (s.known snap.graph) = snap.graph.enhancementFindings s := by
    rw [Graph.enhancementFindings_eq, Graph.enhancementFindings_eq, hAlike.unlocks,
      (snap.graph.enhancements_known_iff s).2 (h.blocks hOn)]
  simp only [passFindings, hAlike.checkRequirements, hClasses, hAlike.ruleFindings hCompiled,
    Graph.templateFindings_congr hAlike.isPresent]
  by_cases hOn : settings.enhancementSuggestions = true
  · rw [hEnhancements hOn]
  · rw [if_neg hOn, if_neg hOn]

/-- What an applied class takes to be chosen is known if the report says it of the known part. -/
theorem contains_of_chosenTag? {c : TagClass} (hc : c ∈ snap.graph.tagClasses.values)
    (hMembers : snap.graph.members s c.id ≠ []) {f : Finding} {id : Ident}
    (hf : f ∈ (snap.graph.applied s c).findings) (hId : f.chosenTag? = some id)
    (h : Report.ofFindings (snap.passFindings settings (s.known snap.graph)) =
      Report.ofFindings (snap.passFindings settings s)) : snap.graph.contains .tag id = true := by
  have hClass : f ∈ snap.graph.classFindings s :=
    Graph.mem_classFindings.2 ⟨c, hc, hMembers, hf⟩
  have hAll : f ∈ snap.passFindings settings s := mem_passFindings.2 ⟨.tagClasses, rfl, hClass⟩
  obtain ⟨p, -, hKnown⟩ := mem_passFindings.1 (Report.mem_of_ofFindings_eq h.symm hAll)
  have hPresent := Pass.has_of_chosenTag? hKnown hId
  rw [Graph.has_known] at hPresent
  exact Graph.isPresent_imp_contains hPresent

theorem knowsOf_of_report_eq
    (h : Report.ofFindings (snap.passFindings settings (s.known snap.graph)) =
      Report.ofFindings (snap.passFindings settings s)) : snap.KnowsOf settings s where
  classes c hc hMembers := {
    conflicting := fun rule hRule id hId hHas => by
      -- the rule is silent about members of the class, but these are known
      by_cases hMember : id ∈ (snap.graph.applied s c).ids
      · obtain ⟨tag, hTag, rfl⟩ := List.mem_map.1 hMember
        exact Graph.contains_of_mem_members hTag
      · have hConflict := AppliedClass.conflict_mem hRule hId hMember hHas
        exact contains_of_chosenTag? hc hMembers hConflict (AppliedClass.chosenTag?_conflict _ _) h
    enhances := fun rule hRule id hId hHas => by
      have hKept := AppliedClass.enhancement_mem (c := snap.graph.applied s c) hRule hId hHas
      exact contains_of_chosenTag? hc hMembers hKept (AppliedClass.chosenTag?_enhancement _ _) h }
  blocks hOn := by
    have hSuggested := congrArg (Report.suggestionsAbout · .plotEnhancement) h
    rw [snap.suggestionsAbout_plotEnhancement hOn,
      snap.suggestionsAbout_plotEnhancement hOn] at hSuggested
    exact (snap.graph.enhancements_known_iff s).1 hSuggested

theorem validate_eq (hFandom : s.fandomId = snap.fandomId) :
    snap.validate settings s = .ofFindings (snap.passFindings settings s) := by
  rw [validate, findings, if_pos hFandom]

/-- Unknown ids count for nothing in the report of a selection exactly when no unknown tag is
chosen that an applied class excludes or goes well with, and no unknown block that would enable one
which is to be suggested. -/
theorem validate_known_iff (hCompiled : snap.IsCompiled) (hFandom : s.fandomId = snap.fandomId) :
    snap.validate settings (s.known snap.graph) = snap.validate settings s ↔
      snap.KnowsOf settings s := by
  have hFandom' : (s.known snap.graph).fandomId = snap.fandomId := hFandom
  rw [validate_eq hFandom, validate_eq hFandom']
  exact ⟨knowsOf_of_report_eq, fun h => by rw [passFindings_known hCompiled h]⟩

/-- A fandom with a class that excludes tag 404, which does not exist, and with a block that another
one enables. -/
def withStrayTag : Snapshot where
  graph := {
    fandomId := 1
    tags := Table.empty.insert
      { id := 1, name := "first", category := "mood", fandomId := 1, classId := some 1 }
    tagClasses := Table.empty.insert
      { id := 1, name := "moods", rules.exclusion := some { conflictingTags := [404] } }
    plotBlocks := (Table.empty.insert
      { id := 1, name := "duel", category := "arc", fandomId := 1, enabledBy := [2] }).insert
      { id := 2, name := "feud", category := "arc", fandomId := 1 } }
  rules := [Rule.compile {
    id := 1, name := "calm", severity := .warning, conditions := [⟨.hasTag .noneOf [1], .and⟩] }]

def strangers : Selection := { fandomId := 1, tags := [1, 405], plotBlocks := [2, 77] }

theorem validate_strangers :
    withStrayTag.validate {} (strangers.known withStrayTag.graph) =
      withStrayTag.validate {} strangers := by
  have hCompiled : withStrayTag.IsCompiled := List.forall_mem_singleton.2 ⟨_, rfl⟩
  refine (validate_known_iff hCompiled rfl).2 ⟨fun c hc _ => ?_, fun _ block hBlock _ _ => ?_⟩
  · obtain rfl := List.mem_singleton.1 hc
    refine ⟨fun rule hRule id hId hHas => ?_, fun rule hRule => by cases hRule⟩
    obtain rfl := Option.mem_some.1 hRule
    obtain rfl := List.mem_singleton.1 hId
    exact absurd hHas (by decide)
  · have hBlocks : block = _ ∨ block = _ := List.mem_pair.1 hBlock
    rcases hBlocks with rfl | rfl <;> rfl

/-- The tag that the class excludes and that does not exist. -/
def stray : Selection := { fandomId := 1, tags := [1, 404] }

/-- The report of the whole selection objects to tag 404, and that of its known part does not. -/
theorem validate_stray :
    withStrayTag.validate {} (stray.known withStrayTag.graph) ≠ withStrayTag.validate {} stray := by
  intro h
  rw [validate_eq rfl, validate_eq rfl] at h
  have hClass := (knowsOf_of_report_eq h).classes _ List.mem_cons_self (by decide)
  exact absurd (hClass.conflicting _ rfl 404 List.mem_cons_self (by decide)) (by decide)

end Snapshot

end StoryRules
