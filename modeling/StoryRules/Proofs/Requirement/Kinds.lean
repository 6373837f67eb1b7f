import StoryRules.Proofs.Content
import StoryRules.Proofs.Requirement.CycleReport
import StoryRules.Proofs.Requirement.Repair

/-! The kinds of entity are kept apart. Each kind has its own ids, and what a graph says about the
requirements of one kind, of a selection or of itself, it reads from the entities of that kind and
the ids chosen of it. So it says the same whatever else there is, under the same ids or others. -/

namespace StoryRules

/-- Of what is said about each kind in turn, the part about one kind. -/
theorem filter_flatMap_reported {α : Type} {say : Kind → List α} {kindOf : α → Kind}
    (h : ∀ kind, ∀ a ∈ say kind, kindOf a = kind) (kind : Kind) :
    (Kind.reported.flatMap say).filter (fun a => kindOf a = kind) = say kind := by
  have hPart (kind' : Kind) :
      (say kind').filter (fun a => kindOf a = kind) = if kind' = kind then say kind else [] := by
    split
    · subst kind'
      exact List.filter_eq_self.2 fun a ha => decide_eq_true (h kind a ha)
    · refine List.filter_eq_nil_iff.2 fun a ha hKind => ?_
      exact absurd ((h kind' a ha).symm.trans (of_decide_eq_true hKind)) ‹_›
  rw [List.filter_flatMap]
  simp only [hPart, Kind.reported, List.flatMap_cons, List.flatMap_nil]
  cases kind <;> simp

namespace Graph

/-- Two graphs have the same entities of a kind. -/
def AgreesOn (kind : Kind) (g g' : Graph) : Prop := ∀ id, g.entity? kind id = g'.entity? kind id

namespace AgreesOn

variable {g g' : Graph} {kind : Kind} (h : AgreesOn kind g g')

include h

theorem contains : g.contains kind = g'.contains kind := by
  funext id
  rw [Graph.contains, h, Graph.contains]

theorem nameOf : g.nameOf kind = g'.nameOf kind := by
  funext id
  rw [Graph.nameOf, h, Graph.nameOf]

theorem listed : g.listed kind = g'.listed kind := by
  funext id list
  rw [Graph.listed, h, Graph.listed]

theorem requires : g.requires kind = g'.requires kind := by
  funext id
  rw [Graph.requires, h.listed, Graph.requires]

theorem ids : g.ids kind = g'.ids kind :=
  eq_of_ascending (g.pairwise_ids kind) (g'.pairwise_ids kind) fun id => by
    rw [mem_ids, mem_ids, h.contains]

theorem levelWithin (unseen : List Ident) (id : Ident) :
    g.levelWithin kind unseen id = g'.levelWithin kind unseen id := by
  fun_induction Graph.levelWithin g kind unseen id with
  | case1 unseen id hUnseen ih =>
    rw [Graph.levelWithin, dif_pos hUnseen, h.requires]
    congr 3
    exact List.map_congr_left fun required _ => ih required
  | case2 unseen id hSeen => rw [Graph.levelWithin, dif_neg hSeen]

/-! ### The search for cycles -/

theorem step (s : CycleSearch) : CycleSearch.step g kind s = CycleSearch.step g' kind s := by
  simp only [CycleSearch.step, h.requires, h.contains]

theorem run (s : CycleSearch) : CycleSearch.run g kind s = CycleSearch.run g' kind s := by
  fun_induction CycleSearch.run g kind s with
  | case1 s hIdle => rw [CycleSearch.run, dif_pos hIdle]
  | case2 s hOpen ih =>
    rw [ih, h.step]
    exact ((CycleSearch.run.eq_def ..).trans (dif_neg hOpen)).symm

theorem cycles : g.cycles kind = g'.cycles kind := by
  have hExplore : CycleSearch.explore g kind = CycleSearch.explore g' kind := by
    funext s root
    simp only [CycleSearch.explore, h.run]
  rw [Graph.cycles, h.ids, hExplore, Graph.cycles]

theorem cycleProblem : g.cycleProblem kind = g'.cycleProblem kind := by
  funext cycle
  rw [Graph.cycleProblem, h.nameOf, Graph.cycleProblem]

/-! ### The requirements of a selection -/

theorem missing : g.missing kind = g'.missing kind := by
  funext source required strength
  simp only [Graph.missing, h.nameOf]

theorem chainEntry : g.chainEntry kind = g'.chainEntry kind := by
  funext id
  simp only [Graph.chainEntry, Graph.level, h.nameOf, h.requires, h.ids, h.levelWithin]

variable {s s' : Selection} (hIds : s.ids kind = s'.ids kind)

include hIds

theorem isPresent : g.isPresent s kind = g'.isPresent s' kind := by
  funext id
  rw [Graph.isPresent, Selection.has, hIds, h.contains, Graph.isPresent, Selection.has]

theorem present : g.present s kind = g'.present s' kind := by
  rw [Graph.present, hIds, h.contains, Graph.present]

theorem missingFor : g.missingFor s kind = g'.missingFor s' kind := by
  funext id
  simp only [Graph.missingFor, Graph.isMet, h.isPresent hIds, h.requires, h.listed, h.missing]

end AgreesOn

end Graph

/-! ### The parts of a check about one kind -/

namespace RequirementCheck

/-- What a check finds missing of one kind. -/
def missingOf (c : RequirementCheck) (kind : Kind) : List Missing :=
  c.missing.filter (·.kind = kind)

/-- The present entities of one kind in the chain of a check. -/
def chainOf (c : RequirementCheck) (kind : Kind) : List ChainEntry :=
  c.chain.filter (·.kind = kind)

end RequirementCheck

namespace Graph

theorem kind_of_mem_missingFor {g : Graph} {s : Selection} {kind : Kind} {id : Ident} {m : Missing}
    (h : m ∈ g.missingFor s kind id) : m.kind = kind := by
  obtain h | h := List.mem_append.1 h <;>
    obtain ⟨required, -, rfl⟩ := List.mem_map.1 h <;> exact missing_kind

theorem missingOf_checkRequirements (g : Graph) (s : Selection) (kind : Kind) :
    (g.checkRequirements s).missingOf kind
      = (g.present s kind).flatMap (g.missingFor s kind) := by
  rw [RequirementCheck.missingOf, checkRequirements, presentItems, List.flatMap_assoc]
  simp only [List.flatMap_map]
  refine filter_flatMap_reported (fun kind m hm => ?_) kind
  obtain ⟨id, -, hm⟩ := List.mem_flatMap.1 hm
  exact kind_of_mem_missingFor hm

theorem chainOf_checkRequirements (g : Graph) (s : Selection) (kind : Kind) :
    (g.checkRequirements s).chainOf kind = (g.present s kind).map (g.chainEntry kind) := by
  rw [RequirementCheck.chainOf, checkRequirements, presentItems, List.map_flatMap]
  simp only [List.map_map, Function.comp_def]
  refine filter_flatMap_reported (fun kind entry hEntry => ?_) kind
  obtain ⟨id, -, rfl⟩ := List.mem_map.1 hEntry
  rfl

/-- What is missing of a kind, the chain of its present entities and the cycles of its requirements
depend on the entities of that kind and on the ids chosen of it alone. -/
theorem checkRequirements_apart {g g' : Graph} {s s' : Selection} {kind : Kind}
    (hGraph : AgreesOn kind g g') (hIds : s.ids kind = s'.ids kind) :
    (g.checkRequirements s).missingOf kind = (g'.checkRequirements s').missingOf kind ∧
      (g.checkRequirements s).chainOf kind = (g'.checkRequirements s').chainOf kind ∧
      g.cycleReport.errorsIn kind = g'.cycleReport.errorsIn kind := by
  refine ⟨?_, ?_, ?_⟩
  · simp only [missingOf_checkRequirements, hGraph.present hIds, hGraph.missingFor hIds]
  · simp only [chainOf_checkRequirements, hGraph.present hIds, hGraph.chainEntry]
  · rw [errorsIn_cycleReport, errorsIn_cycleReport, hGraph.cycles, hGraph.cycleProblem]

/-- Two tags that require each other, and a plot block and a condition under the ids of the tags. -/
def sharedIds : Graph :=
  { mutualTags with
    plotBlocks := Table.empty.insert
      { id := 2, name := "feud", category := "arc", fandomId := 1, requires := [2] }
    conditions := Table.empty.insert { id := 1, plotBlockId := 2, name := "eve" } }

theorem sharedIds_apart :
    let s : Selection := { fandomId := 1, tags := [1] }
    let s' : Selection := { s with plotBlocks := [2], conditions := [1, 2] }
    AgreesOn .tag mutualTags sharedIds ∧ s.ids .tag = s'.ids .tag ∧
      (mutualTags.checkRequirements s).missingOf .tag ≠ [] ∧
      (mutualTags.checkRequirements s).missingOf .tag
        = (sharedIds.checkRequirements s').missingOf .tag ∧
      (mutualTags.checkRequirements s).chainOf .tag
        = (sharedIds.checkRequirements s').chainOf .tag ∧
      mutualTags.cycleReport.errorsIn .tag = sharedIds.cycleReport.errorsIn .tag := by
  have hGraph : AgreesOn .tag mutualTags sharedIds := fun _ => rfl
  refine ⟨hGraph, rfl, ?_, checkRequirements_apart hGraph rfl⟩
  rw [missingOf_checkRequirements]
  decide

end Graph

end StoryRules
