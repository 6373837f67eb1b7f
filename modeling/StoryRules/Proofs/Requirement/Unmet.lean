import StoryRules.Proofs.Distinct
import StoryRules.Proofs.Report
import StoryRules.Proofs.Requirement.Repair

/-! What a check of requirements reports: of each entity that is present, in the order of choice,
every place of its lists that names something unmet, and nothing else (`checkRequirements_exact`).
What is reported as soft is what is listed as soft, unless an entity lists itself. The check is valid
if nothing that is reported is hard, and then its report has no error. -/

namespace StoryRules

/-- Some ids are those of a kind that are chosen and known, in the order in which each is first
chosen. -/
structure Graph.ListsChosen (g : Graph) (s : Selection) (kind : Kind) (ids : List Ident) : Prop where
  mem_iff : ∀ id, id ∈ ids ↔ id ∈ s.ids kind ∧ id ∈ g.ids kind
  ordered : ids.Pairwise fun id id' => (s.ids kind).idxOf id < (s.ids kind).idxOf id'

/-- A missing requirement without its text: the entity, what it requires, and how strongly. -/
abbrev Lack := Item × Ident × Strength × Severity

def Missing.lack (m : Missing) : Lack := (⟨m.kind, m.source⟩, m.required, m.strength, m.severity)

def ChainEntry.item (e : ChainEntry) : Item := ⟨e.kind, e.id⟩

namespace Graph

/-- An entity lacks what it requires if that is the entity itself, unknown or not chosen. -/
def Unmet (g : Graph) (s : Selection) (item : Item) (required : Ident) : Prop :=
  required = item.id ∨ required ∉ g.ids item.kind ∨ required ∉ s.ids item.kind

instance (g : Graph) (s : Selection) (item : Item) (required : Ident) :
    Decidable (g.Unmet s item required) :=
  inferInstanceAs (Decidable (_ ∨ _ ∨ _))

/-- The soft requirements of a plot block; entities of other kinds have none. -/
def softRequires (g : Graph) (item : Item) : List Ident :=
  match item.kind with
  | .plotBlock => ((g.plotBlocks.get? item.id).map PlotBlock.softRequires).getD []
  | .condition | .tag => []

/-- What an entity lacks, once for each place where it is listed: first what it requires, and then
what it requires softly. Nothing softens a requirement that an entity has of itself. -/
def shortfall (g : Graph) (s : Selection) (item : Item) : List Lack :=
  let unmet := List.filter fun required => g.Unmet s item required
  (unmet (g.requires item.kind item.id)).map (fun required => (item, required, .hard, .error)) ++
    (unmet (g.softRequires item)).map fun required =>
      if required = item.id then (item, required, .hard, .error)
      else (item, required, .soft, .warning)

variable {g : Graph} {s : Selection} {kind : Kind} {x y : Ident}

theorem listsChosen_present (g : Graph) (s : Selection) (kind : Kind) :
    g.ListsChosen s kind (g.present s kind) where
  mem_iff id := by rw [mem_present, isPresent_iff, mem_ids]
  ordered := (pairwise_idxOf_eraseDups _).filter _

theorem isMet_eq_false_iff : g.isMet s kind x y = false ↔ g.Unmet s ⟨kind, x⟩ y := by
  rw [← Bool.not_eq_true, isMet, Bool.and_eq_true, bne_iff_ne, isPresent_iff, ← mem_ids, Unmet]
  tauto

theorem listed_softRequires (item : Item) :
    g.listed item.kind item.id Entity.softRequires = g.softRequires item := by
  obtain ⟨kind, id⟩ := item
  cases kind with
  | plotBlock => simp [listed, entity?, softRequires, Entity.softRequires, Function.comp_def]
  | tag => cases hTag : g.tags.get? id <;> simp [listed, entity?, softRequires, hTag,
      Entity.softRequires]
  | condition => cases hCondition : g.conditions.get? id <;> simp [listed, entity?, softRequires,
      hCondition, Entity.softRequires]

theorem lack_missing_hard : (g.missing kind x y .hard).lack = (⟨kind, x⟩, y, .hard, .error) := by
  by_cases hSelf : x = y <;> simp [missing, Missing.lack, hSelf]

theorem lack_missing_soft : (g.missing kind x y .soft).lack =
    if y = x then (⟨kind, x⟩, y, .hard, .error) else (⟨kind, x⟩, y, .soft, .warning) := by
  by_cases hSelf : y = x <;> simp [missing, Missing.lack, hSelf, Ne.symm]

theorem map_lack_missingFor (g : Graph) (s : Selection) (item : Item) :
    (g.missingFor s item.kind item.id).map Missing.lack = g.shortfall s item := by
  have hUnmet : (fun required => !g.isMet s item.kind item.id required) =
      fun required => decide (g.Unmet s item required) := by
    funext required
    rw [Bool.eq_iff_iff, decide_eq_true_iff, Bool.not_eq_true', isMet_eq_false_iff]
  simp only [missingFor, shortfall, hUnmet, listed_softRequires, List.map_append, List.map_map,
    Function.comp_def, lack_missing_hard, lack_missing_soft]

/-! ### The verdict -/

theorem severity_missing {strength : Strength} : (g.missing kind x y strength).severity = .error ↔
    (g.missing kind x y strength).strength = .hard := by
  by_cases hSelf : x = y <;> cases strength <;> simp [missing, hSelf]

theorem isValid_checkRequirements : (g.checkRequirements s).isValid = true ↔
    ∀ m ∈ (g.checkRequirements s).missing, m.strength ≠ .hard := by
  rw [show (g.checkRequirements s).isValid =
    (g.checkRequirements s).missing.all (·.severity != .error) from rfl, List.all_eq_true]
  refine forall₂_congr fun m hm => ?_
  obtain ⟨kind, x, strength, -, y, -, -, rfl⟩ := mem_missing.1 hm
  rw [bne_iff_ne, ne_eq, severity_missing]

end Graph

/-- Of a check, only hard requirements are reported as errors. -/
theorem RequirementCheck.noProblem_findings {c : RequirementCheck} {g : Graph} :
    NoProblem (c.findings g) ↔ ∀ m ∈ c.missing, m.strength ≠ .hard := by
  have hMissing (m : Missing) : (∀ p, Finding.problem p ≠ m.finding g) ↔ m.strength ≠ .hard := by
    rw [Missing.finding]
    cases m.strength <;> simp
  rw [findings, noProblem_append, and_iff_left noProblem_map_suggestion, NoProblem]
  simp only [List.mem_map, not_exists, not_and]
  exact ⟨fun h m hm => (hMissing m).1 fun p hp => h p m hm hp.symm,
    fun h p m hm hp => (hMissing m).2 (h m hm) p hp.symm⟩

namespace Graph

/-- A check of requirements lists, of each entity that is present, all that it lacks and nothing
else, and has one entry for each such entity. It is valid if nothing that it lists is hard, which is
to say that its report has no errors. -/
theorem checkRequirements_exact (g : Graph) (s : Selection) :
    (∀ kind, g.ListsChosen s kind (g.present s kind)) ∧
    (g.checkRequirements s).chain.map ChainEntry.item =
      ([.plotBlock, .condition, .tag] : List Kind).flatMap (fun kind =>
        (g.present s kind).map (Item.mk kind)) ∧
    (g.checkRequirements s).missing.map Missing.lack =
      ((g.checkRequirements s).chain.map ChainEntry.item).flatMap (g.shortfall s) ∧
    ((g.checkRequirements s).isValid = true ↔
      ∀ m ∈ (g.checkRequirements s).missing, m.strength ≠ .hard) ∧
    ((g.checkRequirements s).isValid = true ↔
      (Report.ofFindings ((g.checkRequirements s).findings g)).errors = []) := by
  have hChain : (g.checkRequirements s).chain.map ChainEntry.item = g.presentItems s := by
    simp [checkRequirements, chainEntry, ChainEntry.item, Function.comp_def]
  refine ⟨g.listsChosen_present s, hChain, ?_, isValid_checkRequirements, ?_⟩
  · rw [hChain, checkRequirements, List.map_flatMap]
    exact List.flatMap_congr fun item _ => g.map_lack_missingFor s item
  · rw [isValid_checkRequirements, ← RequirementCheck.noProblem_findings,
      ← Report.isValid_ofFindings_iff, Report.isValid_ofFindings, List.isEmpty_iff]

/-- A block that requires another one twice, and softly itself and a third one that is chosen under
another kind only. -/
example : ((Graph.checkRequirements {
      fandomId := 1
      plotBlocks := (Table.empty.insert
        { id := 1, name := "feud", category := "arc", fandomId := 1, requires := [2, 2],
          softRequires := [1, 3] }).insert
        { id := 3, name := "duel", category := "arc", fandomId := 1 } }
    { fandomId := 1, tags := [3], plotBlocks := [404, 1, 1] }).missing.map Missing.lack) =
      [(⟨.plotBlock, 1⟩, 2, .hard, .error), (⟨.plotBlock, 1⟩, 2, .hard, .error),
        (⟨.plotBlock, 1⟩, 1, .hard, .error), (⟨.plotBlock, 1⟩, 3, .soft, .warning)] := by decide

end Graph

end StoryRules
