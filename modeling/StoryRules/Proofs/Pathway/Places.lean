import Mathlib.Data.List.FinRange
import StoryRules.Proofs.Distinct
import StoryRules.Proofs.Report
import StoryRules.Snapshot

/-! What a pathway adds to the validation of a selection: warnings, and nothing else. They are told
here from the places of the pathway alone. A place is warned about if an earlier one holds the same
item, or if it is the first to hold an item that is not selected; after that, a first place is
warned about for each hard requirement of its item that has its own first place further on
(`validatePathway_eq`). -/

namespace StoryRules

section Places

variable {α : Type} {as : List α} {a : α}

/-- No earlier place of a list holds what this one holds. -/
def IsFirst (as : List α) (i : Fin as.length) : Prop := ∀ j < i, as[j] ≠ as[i]

instance [DecidableEq α] (as : List α) (i : Fin as.length) : Decidable (IsFirst as i) :=
  inferInstanceAs (Decidable (∀ j < i, as[j] ≠ as[i]))

/-- The first places of a list, in ascending order. -/
def firstPlaces [DecidableEq α] (as : List α) : List (Fin as.length) :=
  (List.finRange as.length).filter (IsFirst as)

theorem isFirst_zero : IsFirst (a :: as) 0 := by
  intro j hj
  exact absurd hj (Fin.not_lt_zero j)

theorem isFirst_succ {i : Fin as.length} :
    IsFirst (a :: as) i.succ ↔ as[i] ≠ a ∧ IsFirst as i := by
  constructor
  · intro h
    refine ⟨(h 0 (Fin.succ_pos i)).symm, fun j hj => ?_⟩
    exact h j.succ (Fin.succ_lt_succ_iff.2 hj)
  · rintro ⟨hHead, hTail⟩ j hj
    cases j using Fin.cases with
    | zero => exact hHead.symm
    | succ j => exact hTail j (Fin.succ_lt_succ_iff.1 hj)

theorem isFirst_iff_not_mem_take {i : Fin as.length} : IsFirst as i ↔ as[i] ∉ as.take i := by
  rw [List.mem_take_iff_getElem]
  constructor
  · rintro h ⟨j, hj, hSame⟩
    exact h ⟨j, by omega⟩ (by show j < i.1; omega) hSame
  · intro h j hj hSame
    exact h ⟨j, by have := i.2; omega, hSame⟩

variable [DecidableEq α]

theorem isFirst_iff_idxOf {i : Fin as.length} : IsFirst as i ↔ as.idxOf as[i] = i := by
  have hMem : as[i] ∈ as := List.getElem_mem i.2
  have hTaken : as[i] ∈ as.take (i + 1) := by
    rw [List.mem_take_iff_getElem]
    exact ⟨i, by have := i.2; omega, rfl⟩
  rw [List.mem_take_iff_idxOf_lt hMem] at hTaken
  rw [isFirst_iff_not_mem_take, List.mem_take_iff_idxOf_lt hMem]
  omega

/-- A list without its repetitions is what its first places hold. -/
theorem eraseDups_eq_map_firstPlaces (as : List α) :
    as.eraseDups = (firstPlaces as).map fun i => as[i] := by
  induction as with
  | nil => rfl
  | cons a as ih =>
    -- The head is at a first place, and what it repeats further on is not.
    have hPlaces : firstPlaces (a :: as) =
        0 :: ((firstPlaces as).filter fun i => as[i] != a).map Fin.succ := by
      unfold firstPlaces
      show (List.finRange (as.length + 1)).filter _ = _
      rw [List.finRange_succ, List.filter_cons_of_pos (by simpa using isFirst_zero),
        List.filter_map, List.filter_filter]
      refine congrArg _ (congrArg _ (List.filter_congr fun i _ => ?_))
      rw [Bool.eq_iff_iff]
      simp [isFirst_succ]
    rw [hPlaces, List.eraseDups_cons, eraseDups_filter, ih, List.filter_map, List.map_cons,
      List.map_map]
    rfl

/-- What stands after a first place for the first time is what is first found further on. -/
theorem exists_isFirst_iff {i : Fin as.length} (hFirst : IsFirst as i) {a : α} :
    (∃ j, i < j ∧ IsFirst as j ∧ as[j] = a) ↔ a ∈ as ∧ as.idxOf as[i] < as.idxOf a := by
  rw [isFirst_iff_idxOf.1 hFirst]
  constructor
  · rintro ⟨j, hLater, hj, rfl⟩
    rw [isFirst_iff_idxOf.1 hj]
    exact ⟨List.getElem_mem j.2, hLater⟩
  · rintro ⟨ha, hLater⟩
    have hPlace : as.idxOf a < as.length := List.idxOf_lt_length_of_mem ha
    have hHolds : as[as.idxOf a] = a := List.getElem_idxOf hPlace
    refine ⟨⟨as.idxOf a, hPlace⟩, hLater, ?_, hHolds⟩
    rw [isFirst_iff_idxOf]
    show as.idxOf as[as.idxOf a] = as.idxOf a
    rw [hHolds]

end Places

namespace Graph

variable (g : Graph) (s : Selection)

/-! ### The warnings about a pathway -/

/-- An item is in a pathway again. -/
def repeatWarning (item : Item) : Warning :=
  let name := g.nameOf item.kind item.id
  { issue := .duplicatePathwayItem
    message := s!"\"{name}\" appears more than once in the pathway"
    field := some "pathway"
    affected := [item.id] }

/-- An item is in a pathway but not in the selection. -/
def strayWarning (item : Item) : Warning :=
  let name := g.nameOf item.kind item.id
  { issue := .pathwayItemNotSelected
    message := s!"\"{name}\" is in the pathway but not in the selection"
    field := some "pathway"
    suggestion := some s!"Select \"{name}\" or remove it from the pathway"
    affected := [item.id] }

/-- An item is in a pathway before one that it requires. -/
def lateWarning (item required : Item) : Warning :=
  let name := g.nameOf item.kind item.id
  let other := g.nameOf required.kind required.id
  { issue := .pathwayOrder
    message := s!"\"{name}\" comes before its requirement \"{other}\""
    field := some "pathway"
    suggestion := some s!"Move \"{other}\" earlier in the pathway"
    affected := [item.id, required.id] }

/-- What is wrong with the item at a place, if anything is. -/
def placeWarning? (pathway : List Item) (i : Fin pathway.length) : Option Warning :=
  let item := pathway[i]
  if IsFirst pathway i then
    if item.id ∈ s.ids item.kind then none else some (g.strayWarning item)
  else some (g.repeatWarning item)

/-- What is wrong with the order of a pathway after a first place: one warning for each place in the
list of its item's requirements whose entry is found only further on. -/
def orderWarnings (pathway : List Item) (i : Fin pathway.length) : List Warning :=
  let item := pathway[i]
  let late := ((g.requires item.kind item.id).map (Item.mk item.kind)).filter fun required =>
    ∃ j, i < j ∧ IsFirst pathway j ∧ pathway[j] = required
  late.map (g.lateWarning item)

/-- The warnings about a pathway: of each place in turn, and then of the first places in turn. -/
def pathwayWarnings (pathway : List Item) : List Warning :=
  (List.finRange pathway.length).filterMap (g.placeWarning? s pathway) ++
    (firstPlaces pathway).flatMap (g.orderWarnings pathway)

variable {g s} {pathway : List Item}

theorem placeFindings_take (i : Fin pathway.length) :
    g.placeFindings s (pathway.take i) pathway[i] =
      ((g.placeWarning? s pathway i).map .warning).toList := by
  unfold placeFindings placeWarning?
  by_cases hFirst : IsFirst pathway i
  · have hNew : pathway[i] ∉ pathway.take i := isFirst_iff_not_mem_take.1 hFirst
    rw [if_neg hNew, if_pos hFirst]
    by_cases hSelected : pathway[i].id ∈ s.ids pathway[i].kind
    · rw [if_pos (Selection.has_iff.2 hSelected), if_pos hSelected]
      rfl
    · rw [if_neg (fun h => hSelected (Selection.has_iff.1 h)), if_neg hSelected]
      rfl
  · have hOld : pathway[i] ∈ pathway.take i := by
      by_contra hNew
      exact hFirst (isFirst_iff_not_mem_take.2 hNew)
    rw [if_pos hOld, if_neg hFirst]
    rfl

/-- The items of a pathway are looked at one by one, each beside those before it. -/
theorem placesFindings_eq (earlier rest : List Item) :
    g.placesFindings s earlier rest = (List.finRange rest.length).flatMap fun i : Fin rest.length =>
      g.placeFindings s (earlier ++ rest.take i) rest[i] := by
  induction rest generalizing earlier with
  | nil => rfl
  | cons item rest ih =>
    show _ = (List.finRange (rest.length + 1)).flatMap _
    rw [placesFindings, ih, List.finRange_succ, List.flatMap_cons, List.flatMap_map]
    simp

theorem map_orderWarning {i : Fin pathway.length} (hFirst : IsFirst pathway i) :
    (g.lateRequirements pathway pathway[i]).map (g.orderWarning pathway[i]) =
      (g.orderWarnings pathway i).map .warning := by
  have hLate (required : Item) :
      (pathway.contains required && pathway.idxOf pathway[i] < pathway.idxOf required : Bool) =
        decide (∃ j, i < j ∧ IsFirst pathway j ∧ pathway[j] = required) := by
    rw [Bool.eq_iff_iff, decide_eq_true_iff, exists_isFirst_iff hFirst]
    simp
  unfold lateRequirements orderWarnings
  simp only [hLate, List.map_map]
  rfl

theorem pathwayFindings_eq (pathway : List Item) :
    g.pathwayFindings s pathway = (g.pathwayWarnings s pathway).map .warning := by
  unfold pathwayFindings pathwayWarnings
  rw [placesFindings_eq, eraseDups_eq_map_firstPlaces, List.map_append, List.map_filterMap,
    List.filterMap_eq_flatMap_toList, List.flatMap_map, List.map_flatMap]
  congr 1
  · exact List.flatMap_congr fun i _ => placeFindings_take i
  · apply List.flatMap_congr
    intro i hi
    exact map_orderWarning (of_decide_eq_true (List.mem_filter.1 hi).2)

end Graph

namespace Snapshot

/-- The validation of a pathway is that of the selection with warnings about the pathway after its
own: the verdict, the problems and the suggestions are the same. -/
theorem validatePathway_eq (snap : Snapshot) (settings : Settings) (tags plotBlocks : List Ident)
    (pathway : List Item) :
    let s : Selection := { fandomId := snap.fandomId, tags, plotBlocks }
    let own := snap.validate settings s
    snap.validatePathway settings snap.fandomId tags plotBlocks pathway =
      { own with warnings := own.warnings ++ snap.graph.pathwayWarnings s pathway } := by
  intro s own
  have hAdded (ws : List Warning) : own.merge { Report.valid with warnings := ws } =
      { own with warnings := own.warnings ++ ws } := by
    simp [Report.merge, Report.valid]
  rw [validatePathway, if_pos rfl, Report.ofFindings_append, Graph.pathwayFindings_eq,
    Report.ofFindings_map_warning]
  exact hAdded _

/-- A block stands twice before another one that it requires twice, beside itself and a block that
is not there; the tag with the same id is not selected. -/
example : (Graph.pathwayWarnings {
      fandomId := 1
      plotBlocks := (Table.empty.insert
        { id := 1, name := "duel", category := "arc", fandomId := 1,
          requires := [2, 1, 2, 404] }).insert
        { id := 2, name := "feud", category := "arc", fandomId := 1 } }
    { fandomId := 1, plotBlocks := [2, 1] }
    [⟨.plotBlock, 1⟩, ⟨.tag, 1⟩, ⟨.plotBlock, 1⟩, ⟨.plotBlock, 2⟩, ⟨.tag, 1⟩]).map
      (fun w => (w.issue, w.affected)) =
    [(.pathwayItemNotSelected, [1]), (.duplicatePathwayItem, [1]), (.duplicatePathwayItem, [1]),
      (.pathwayOrder, [1, 2]), (.pathwayOrder, [1, 2])] := by decide

end Snapshot

end StoryRules
