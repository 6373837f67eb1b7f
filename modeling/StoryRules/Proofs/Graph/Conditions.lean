import StoryRules.Proofs.Content

/-! The conditions of the plot blocks of a graph. Content is refused if a condition has no plot
block or an id that another one has, so the lists of the plot blocks share the conditions of the
graph out among them: each condition is in one list, once (`conditionsOf_partition`). -/

namespace StoryRules

/-- The place of a condition among those of its plot block: by its order and then by its id. -/
def Condition.Before (d d' : Condition) : Prop :=
  d.order < d'.order ∨ d.order = d'.order ∧ d.id < d'.id

/-- The comparison by which the conditions of a plot block are sorted. -/
def Condition.upTo (d d' : Condition) : Bool :=
  d.order < d'.order || (d.order == d'.order && d.id ≤ d'.id)

namespace Condition

variable {d d' : Condition}

theorem upTo_iff : d.upTo d' = true ↔
    d.order.toInt < d'.order.toInt ∨ d.order.toInt = d'.order.toInt ∧ d.id.toInt ≤ d'.id.toInt := by
  simp [upTo, Int32.lt_iff_toInt_lt, Int64.le_iff_toInt_le, Int32.toInt_inj]

/-- Different ids leave no ties. -/
theorem before_of_upTo (h : d.upTo d' = true) (hNe : d.id ≠ d'.id) : d.Before d' := by
  have hIds : d.id.toInt ≠ d'.id.toInt := mt Int64.toInt_inj.1 hNe
  rw [upTo_iff] at h
  rw [Before, Int32.lt_iff_toInt_lt, Int64.lt_iff_toInt_lt, ← Int32.toInt_inj]
  omega

end Condition

namespace Graph

variable {g : Graph} {c : Content} {d : Condition} {b : Ident}

theorem perm_conditionsOf (g : Graph) (b : Ident) :
    (g.conditionsOf b).Perm (g.conditions.values.filter (·.plotBlockId == b)) :=
  List.mergeSort_perm _ _

theorem mem_conditionsOf :
    d ∈ g.conditionsOf b ↔ d ∈ g.conditions.values ∧ d.plotBlockId = b := by
  rw [(g.perm_conditionsOf b).mem_iff, List.mem_filter, beq_iff_eq]

theorem nodup_ids_conditionsOf (g : Graph) (b : Ident) :
    ((g.conditionsOf b).map (·.id)).Nodup := by
  have hIds : (g.conditions.values.map (·.id)).Nodup := g.conditions.nodup_ids
  have hSub := (List.filter_sublist (l := g.conditions.values)
    (p := (·.plotBlockId == b))).map (·.id)
  exact ((g.perm_conditionsOf b).map (·.id)).nodup_iff.2 (hIds.sublist hSub)

theorem pairwise_conditionsOf (g : Graph) (b : Ident) :
    (g.conditionsOf b).Pairwise Condition.Before := by
  have hTrans (d d' d'' : Condition) (h : d.upTo d' = true) (h' : d'.upTo d'' = true) :
      d.upTo d'' = true := by
    rw [Condition.upTo_iff] at *
    omega
  have hTotal (d d' : Condition) : (d.upTo d' || d'.upTo d) = true := by
    rw [Bool.or_eq_true, Condition.upTo_iff, Condition.upTo_iff]
    omega
  have hSorted : (g.conditionsOf b).Pairwise fun d d' => d.upTo d' = true :=
    List.pairwise_mergeSort hTrans hTotal _
  have hDistinct : (g.conditionsOf b).Pairwise fun d d' => d.id ≠ d'.id :=
    List.pairwise_map.1 (g.nodup_ids_conditionsOf b)
  exact (hSorted.and hDistinct).imp fun h => Condition.before_of_upTo h.1 h.2

theorem count_conditionsOf (hd : d ∈ g.conditions.values) :
    (g.conditionsOf b).count d = if b = d.plotBlockId then 1 else 0 := by
  have hNodup : (g.conditionsOf b).Nodup := (g.nodup_ids_conditionsOf b).of_map _
  split
  · rename_i hOwn
    exact List.count_eq_one_of_mem hNodup (mem_conditionsOf.2 ⟨hd, hOwn.symm⟩)
  · rename_i hOther
    exact List.count_eq_zero_of_not_mem fun hMem => hOther (mem_conditionsOf.1 hMem).2.symm

/-- In a graph made of content every condition has its plot block. -/
theorem placed_of_ofContent (h : ofContent c = .ok g) (hd : d ∈ g.conditions.values) :
    d.plotBlockId ∈ g.ids .plotBlock := by
  obtain ⟨hWellFormed, hHolds⟩ := ofContent_eq_ok.1 h
  have hListed := (hHolds.condition d.id d).1 (Table.mem_values_iff_get?.1 hd)
  exact (hHolds.ids .plotBlock d.plotBlockId).2 (hWellFormed.conditionsPlaced d hListed.1)

theorem perm_conditions (h : ofContent c = .ok g) : g.conditions.values.Perm c.conditions := by
  obtain ⟨hWellFormed, hHolds⟩ := ofContent_eq_ok.1 h
  have hOwn : g.conditions.values.Nodup := g.conditions.nodup_ids.of_map _
  have hGiven : c.conditions.Nodup := (hWellFormed.ids .condition).of_map _
  refine (List.perm_ext_iff_of_nodup hOwn hGiven).2 fun d => ?_
  rw [Table.mem_values_iff_get?, hHolds.condition]
  exact and_iff_left rfl

/-- The lists of the plot blocks, one after another, are the conditions in another order. -/
theorem perm_flatMap_conditionsOf
    (hPlaced : ∀ d ∈ g.conditions.values, d.plotBlockId ∈ g.ids .plotBlock) :
    ((g.ids .plotBlock).flatMap g.conditionsOf).Perm g.conditions.values := by
  have hNodup : ((g.ids .plotBlock).flatMap g.conditionsOf).Nodup := by
    refine List.nodup_flatMap.2 ⟨fun b _ => (g.nodup_ids_conditionsOf b).of_map _, ?_⟩
    refine (List.nodup_iff_pairwise_ne.1 g.plotBlocks.nodup_ids).imp fun hNe d hd hd' => hNe ?_
    exact (mem_conditionsOf.1 hd).2.symm.trans (mem_conditionsOf.1 hd').2
  refine (List.perm_ext_iff_of_nodup hNodup (g.conditions.nodup_ids.of_map _)).2 fun d => ?_
  rw [List.mem_flatMap]
  constructor
  · rintro ⟨b, -, hd⟩
    exact (mem_conditionsOf.1 hd).1
  · intro hd
    exact ⟨d.plotBlockId, hPlaced d hd, mem_conditionsOf.2 ⟨hd, rfl⟩⟩

/-- Each condition of a graph made of content is listed once, for its own plot block, which is one
of the graph. Every list is strictly ascending by order and id, and together they hold the
conditions of the content and nothing else. -/
theorem conditionsOf_partition (h : ofContent c = .ok g) :
    (∀ d ∈ g.conditions.values, d.plotBlockId ∈ g.ids .plotBlock ∧
      ∀ b, (g.conditionsOf b).count d = if b = d.plotBlockId then 1 else 0) ∧
    (∀ b ∉ g.ids .plotBlock, g.conditionsOf b = []) ∧
    (∀ b, (g.conditionsOf b).Pairwise Condition.Before) ∧
    ((g.ids .plotBlock).flatMap g.conditionsOf).Perm g.conditions.values ∧
    g.conditions.values.Perm c.conditions := by
  have hPlaced : ∀ d ∈ g.conditions.values, d.plotBlockId ∈ g.ids .plotBlock := fun d hd =>
    placed_of_ofContent h hd
  refine ⟨fun d hd => ⟨hPlaced d hd, fun b => count_conditionsOf hd⟩, fun b hb => ?_,
    g.pairwise_conditionsOf, perm_flatMap_conditionsOf hPlaced, perm_conditions h⟩
  refine List.eq_nil_iff_forall_not_mem.2 fun d hd => hb ?_
  obtain ⟨hMem, rfl⟩ := mem_conditionsOf.1 hd
  exact hPlaced d hMem

/-- Two plot blocks and one without conditions. The conditions are written out of order, two of them
share their order and one has a negative one. -/
def scenes : Content where
  fandomId := 1
  plotBlocks := [
    { id := 20, name := "heist", category := "arc", fandomId := 1 },
    { id := 10, name := "feud", category := "arc", fandomId := 1 },
    { id := 30, name := "epilogue", category := "arc", fandomId := 1 }]
  conditions := [
    { id := 4, plotBlockId := 20, name := "escape", order := 2 },
    { id := 2, plotBlockId := 20, name := "alarm", order := 2 },
    { id := 3, plotBlockId := 10, name := "duel" },
    { id := 5, plotBlockId := 20, name := "plan", order := -1 }]

theorem scenes_partition : ∃ g, ofContent scenes = .ok g ∧
    (∀ d ∈ g.conditions.values, ∀ b,
      (g.conditionsOf b).count d = if b = d.plotBlockId then 1 else 0) ∧
    g.conditionsOf 99 = [] ∧
    ((g.ids .plotBlock).flatMap g.conditionsOf).Perm scenes.conditions := by
  obtain ⟨g, hg⟩ : ∃ g, ofContent scenes = .ok g := ⟨_, rfl⟩
  obtain ⟨hOnce, hNone, -, hShared, hAll⟩ := conditionsOf_partition hg
  have hUnknown : 99 ∉ g.ids .plotBlock := by
    rw [(ofContent_eq_ok.1 hg).2.ids]
    decide
  exact ⟨g, hg, fun d hd => (hOnce d hd).2, hNone 99 hUnknown, hShared.trans hAll⟩

example : (ofContent scenes).map (fun g => (g.conditionsOf 20).map (·.id)) = .ok [5, 2, 4] := by
  cbv

end Graph

end StoryRules
