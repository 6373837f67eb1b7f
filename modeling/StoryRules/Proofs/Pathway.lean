import StoryRules.Proofs.Requirement.Level
import StoryRules.Proofs.Snapshot.Pass

/-! The order of a pathway. There is a warning about it exactly if the pathway reaches an item
before one of the item's hard requirements (`hasWarning_pathwayOrder`). On a graph without cycles
levels fall along requirements, so a pathway in ascending order of levels is never warned about.
Along a cycle the places of a pathway cannot fall all the way round, so a pathway through all of it
always is (`pathwayOrder_fits_levels`). -/

namespace StoryRules

/-- Of two members of a list in ascending order of ranks, the later one has no lower rank. -/
theorem rank_le_of_idxOf_lt {α : Type} [DecidableEq α] (rank : α → Nat) {as : List α} {a b : α}
    (hSorted : as.Pairwise fun a b => rank a ≤ rank b) (hb : b ∈ as)
    (h : as.idxOf a < as.idxOf b) : rank a ≤ rank b := by
  have hLast : as.idxOf b < as.length := List.idxOf_lt_length_of_mem hb
  have hRanks := List.pairwise_iff_getElem.1 hSorted _ _ (h.trans hLast) hLast h
  rwa [List.getElem_idxOf, List.getElem_idxOf] at hRanks

theorem Kind.field_injective : Function.Injective Kind.field := by
  intro kind kind' h
  cases kind <;> cases kind' <;> first | rfl | exact absurd h (by decide)

namespace Graph

variable {g : Graph} {kind : Kind} {x y : Ident} {path : List Ident}

/-- Places that never rise along a cycle are the same for all of its members. -/
theorem IsCycle.place_eq {place : Ident → Nat} (h : g.IsCycle kind path)
    (hFalls : path.IsChain fun x y => place y ≤ place x) (hx : x ∈ path) (hy : y ∈ path) :
    place x = place y := by
  have hChain : (path.map place).IsChain (· ≥ ·) := (List.isChain_map place).2 hFalls
  have hOrdered : path.Pairwise fun x y => place y ≤ place x := List.pairwise_map.1 hChain.pairwise
  obtain ⟨first, hFirst⟩ : ∃ first, path.head? = some first :=
    Option.isSome_iff_exists.1 (List.isSome_head?.2 (List.ne_nil_of_mem hx))
  have hTop : ∀ z ∈ path, place z ≤ place first := by
    obtain ⟨rest, rfl⟩ := List.head?_eq_some_iff.1 hFirst
    exact List.forall_mem_cons.2 ⟨le_rfl, (List.pairwise_cons.1 hOrdered).1⟩
  have hBottom : ∀ z ∈ path, place first ≤ place z := by
    obtain ⟨front, rfl⟩ := List.getLast?_eq_some_iff.1 (h.returns.symm.trans hFirst)
    intro z hz
    rcases List.mem_append.1 hz with hz | hz
    · exact (List.pairwise_append.1 hOrdered).2.2 z hz first (List.mem_singleton_self first)
    · rw [List.mem_singleton.1 hz]
  have hSame : ∀ z ∈ path, place z = place first := fun z hz =>
    le_antisymm (hTop z hz) (hBottom z hz)
  rw [hSame x hx, hSame y hy]

theorem isCycle_of_reportsCycle {p : Problem} (hp : p ∈ g.cycleReport.errors)
    (hPath : p.ReportsCycle kind path) : g.IsCycle kind path := by
  obtain ⟨kind', path', hFound, rfl⟩ := mem_errors_cycleReport.1 hp
  have hField : kind'.field = kind.field := Option.some.inj hPath.field
  obtain rfl := Kind.field_injective hField
  rw [hPath.unique (reportsCycle_cycleProblem kind' path')]
  exact (isCycle_of_mem_cycles hFound).1

/-! ### Warnings about the order -/

/-- A pathway holds `x` and its hard requirement `y` and reaches `x` first. -/
structure Late (g : Graph) (pathway : List Item) (kind : Kind) (x y : Ident) : Prop where
  listed : y ∈ g.requires kind x
  source : ⟨kind, x⟩ ∈ pathway
  required : ⟨kind, y⟩ ∈ pathway
  later : pathway.idxOf ⟨kind, x⟩ < pathway.idxOf ⟨kind, y⟩

variable {s : Selection} {f : Finding} {pathway earlier rest : List Item}

theorem issue_placeFindings {item : Item} (hf : f ∈ g.placeFindings s earlier item) :
    f.issue ∈ [Issue.duplicatePathwayItem, .pathwayItemNotSelected] := by
  rw [placeFindings] at hf
  split at hf
  · obtain rfl := List.mem_singleton.1 hf
    simp [Finding.pathwayWarning, Finding.issue]
  · split at hf
    · simp at hf
    · obtain rfl := List.mem_singleton.1 hf
      simp [Finding.pathwayWarning, Finding.issue]

theorem issue_placesFindings (hf : f ∈ g.placesFindings s earlier rest) :
    f.issue ∈ [Issue.duplicatePathwayItem, .pathwayItemNotSelected] := by
  induction rest generalizing earlier with
  | nil => simp [placesFindings] at hf
  | cons item rest ih =>
    rw [placesFindings, List.mem_append] at hf
    rcases hf with hf | hf
    · exact issue_placeFindings hf
    · exact ih hf

theorem mem_lateRequirements {item required : Item} (hItem : item ∈ pathway) :
    required ∈ g.lateRequirements pathway item ↔
      required.kind = item.kind ∧ g.Late pathway item.kind item.id required.id := by
  simp only [lateRequirements, List.mem_filter, List.mem_map, Bool.and_eq_true,
    List.contains_eq_mem, decide_eq_true_eq]
  constructor
  · rintro ⟨⟨y, hy, rfl⟩, hRequired, hLater⟩
    exact ⟨rfl, hy, hItem, hRequired, hLater⟩
  · obtain ⟨kind, y⟩ := required
    rintro ⟨rfl, hLate⟩
    exact ⟨⟨y, hLate.listed, rfl⟩, hLate.required, hLate.later⟩

theorem exists_late_iff :
    (∃ w, .warning w ∈ g.pathwayFindings s pathway ∧ w.issue = .pathwayOrder) ↔
      ∃ kind x y, g.Late pathway kind x y := by
  simp only [pathwayFindings, List.mem_append, List.mem_flatMap, List.mem_eraseDups, List.mem_map]
  constructor
  · rintro ⟨w, hw | ⟨item, hItem, required, hRequired, -⟩, hIssue⟩
    · have hOther : w.issue ∈ _ := issue_placesFindings hw
      simp [hIssue] at hOther
    · exact ⟨item.kind, item.id, required.id, ((mem_lateRequirements hItem).1 hRequired).2⟩
  · rintro ⟨kind, x, y, hLate⟩
    have hRequired : ⟨kind, y⟩ ∈ g.lateRequirements pathway ⟨kind, x⟩ :=
      (mem_lateRequirements hLate.source).2 ⟨rfl, hLate⟩
    exact ⟨_, .inr ⟨⟨kind, x⟩, hLate.source, ⟨kind, y⟩, hRequired, rfl⟩, rfl⟩

end Graph

namespace Snapshot

variable {snap : Snapshot} {settings : Settings} {s : Selection} {f : Finding}
  {tags plotBlocks : List Ident} {pathway : List Item}

/-- No validation of a selection speaks about the order of a pathway. -/
theorem issue_ne_pathwayOrder (hf : f ∈ snap.findings settings s) : f.issue ≠ .pathwayOrder := by
  rw [findings] at hf
  split at hf
  · obtain ⟨p, -, hp⟩ := mem_passFindings.1 hf
    have hIssue := p.issue_mem hp
    intro hOrder
    rw [hOrder] at hIssue
    cases p <;> exact absurd hIssue (by decide)
  · obtain rfl := List.mem_singleton.1 hf
    exact Issue.noConfusion

/-- The order of a pathway is warned about exactly if an item comes before a requirement of it. -/
theorem hasWarning_pathwayOrder :
    (snap.validatePathway settings snap.fandomId tags plotBlocks pathway).HasWarning .pathwayOrder ↔
      ∃ kind x y, snap.graph.Late pathway kind x y := by
  rw [validatePathway, if_pos rfl, Report.hasWarning_ofFindings]
  simp only [List.mem_append]
  rw [← Graph.exists_late_iff (s := { fandomId := snap.fandomId, tags, plotBlocks })]
  refine exists_congr fun w => and_congr_left fun hIssue => or_iff_right fun hw => ?_
  exact issue_ne_pathwayOrder hw hIssue

/-- If no cycle is reported of a fandom, there is no warning about the order of a pathway whose
items ascend in their levels. If a cycle of two members or more is reported, there is one about
every pathway that holds all of them, in whatever order, with whatever other items, and whatever is
selected. -/
theorem pathwayOrder_fits_levels (snap : Snapshot) (settings : Settings)
    (tags plotBlocks : List Ident) :
    (snap.checkGraph.errors = [] → ∀ pathway : List Item,
      pathway.Pairwise (fun a b => snap.graph.level a.kind a.id ≤ snap.graph.level b.kind b.id) →
        ¬(snap.validatePathway settings snap.fandomId tags plotBlocks pathway).HasWarning
          .pathwayOrder) ∧
    ∀ p ∈ snap.checkGraph.errors, ∀ kind path, p.ReportsCycle kind path →
      (∃ x ∈ path, ∃ y ∈ path, x ≠ y) →
        ∀ pathway : List Item, (∀ x ∈ path, ⟨kind, x⟩ ∈ pathway) →
          (snap.validatePathway settings snap.fandomId tags plotBlocks pathway).HasWarning
            .pathwayOrder := by
  refine ⟨fun hNone pathway hSorted => ?_, fun p hp kind path hPath hApart pathway hAll => ?_⟩
  · rw [hasWarning_pathwayOrder]
    rintro ⟨kind, x, y, hLate⟩
    have hFalls : snap.graph.level kind y < snap.graph.level kind x :=
      Graph.level_lt (Graph.errors_eq_nil_iff_acyclic.1 hNone kind) hLate.listed
    have hRises : snap.graph.level kind x ≤ snap.graph.level kind y :=
      rank_le_of_idxOf_lt (fun item => snap.graph.level item.kind item.id) hSorted hLate.required
        hLate.later
    omega
  · rw [hasWarning_pathwayOrder]
    by_contra hNever
    have hCycle := Graph.isCycle_of_reportsCycle hp hPath
    have hFalls : path.IsChain fun x y =>
        pathway.idxOf (Item.mk kind y) ≤ pathway.idxOf (Item.mk kind x) := by
      refine hCycle.walk.imp_of_mem_imp fun x y hx hy hNeeds => ?_
      by_contra hLater
      exact hNever ⟨kind, x, y, hNeeds.listed, hAll x hx, hAll y hy, Nat.not_le.1 hLater⟩
    obtain ⟨x, hx, y, hy, hNe⟩ := hApart
    have hPlace := hCycle.place_eq hFalls hx hy
    have hSame : Item.mk kind x = Item.mk kind y := (List.idxOf_inj (hAll x hx)).1 hPlace
    exact hNe (Item.mk.inj hSame).2

/-- Two tags and two plot blocks with the same ids, of which the tags and the blocks require each
other in opposite ways. -/
def crossed : Snapshot where
  graph := {
    fandomId := 1
    tags := (Table.empty.insert
      { id := 1, name := "first", category := "mood", fandomId := 1 }).insert
      { id := 2, name := "second", category := "mood", fandomId := 1, requires := [1, 404] }
    plotBlocks := (Table.empty.insert
      { id := 1, name := "duel", category := "arc", fandomId := 1, requires := [2] }).insert
      { id := 2, name := "feud", category := "arc", fandomId := 1 } }
  rules := []

def circular : Snapshot := { graph := .mutualTags, rules := [] }

/-- Items of both kinds in ascending order of levels, one of them unknown and one repeated. -/
def ascending : List Item :=
  [⟨.tag, 404⟩, ⟨.plotBlock, 2⟩, ⟨.tag, 1⟩, ⟨.plotBlock, 1⟩, ⟨.tag, 2⟩, ⟨.plotBlock, 1⟩]

theorem pathwayOrder_crossed :
    (crossed.checkGraph.errors = [] ∧
      ¬(crossed.validatePathway {} 1 [1] [2] ascending).HasWarning .pathwayOrder) ∧
    ∃ p ∈ circular.checkGraph.errors, p.ReportsCycle .tag [1, 2, 1] ∧
      (circular.validatePathway {} 1 [] []
        [⟨.tag, 2⟩, ⟨.condition, 2⟩, ⟨.tag, 1⟩, ⟨.tag, 2⟩]).HasWarning .pathwayOrder := by
  have hNone : crossed.checkGraph.errors = [] := by cbv
  have hLevels : ascending.map (fun item => crossed.graph.level item.kind item.id) =
      [0, 0, 0, 1, 1, 1] := by cbv
  have hSorted : (ascending.map fun item => crossed.graph.level item.kind item.id).Pairwise
      (· ≤ ·) := by
    rw [hLevels]
    decide
  have hFound : Graph.mutualTags.cycles .tag = [[1, 2, 1]] := by cbv
  have hReports := Graph.reportsCycle_cycleProblem (g := .mutualTags) .tag [1, 2, 1]
  have hError := Graph.mem_errors_cycleReport.2
    ⟨.tag, [1, 2, 1], hFound ▸ List.mem_singleton_self _, rfl⟩
  have hBoth : ∀ x ∈ [1, 2, 1], ⟨.tag, x⟩ ∈
      ([⟨.tag, 2⟩, ⟨.condition, 2⟩, ⟨.tag, 1⟩, ⟨.tag, 2⟩] : List Item) := by simp
  have hSilent := (pathwayOrder_fits_levels crossed {} [1] [2]).1 hNone ascending
    (List.pairwise_map.1 hSorted)
  have hWarned := (pathwayOrder_fits_levels circular {} [] []).2 _ hError .tag _ hReports
    ⟨1, by decide, 2, by decide, by decide⟩ _ hBoth
  exact ⟨⟨hNone, hSilent⟩, _, hError, hReports, hWarned⟩

end Snapshot

end StoryRules
