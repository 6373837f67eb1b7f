import Mathlib.Logic.Relation
import StoryRules.Graph.Depth

/-! Which plot blocks have a depth. Each block has at most one parent, so there is one way up from
it, and the walk up either ends or comes to blocks that are ancestors of themselves. The depth of a
block is missing in the second case only (`depth?_eq_none_iff`), and is otherwise one more than that
of its parent, or 0 without one (`depth?_eq_parent`). -/

namespace StoryRules.Graph

open Relation

variable {g : Graph} {unseen : List Ident} {id parent x : Ident}

/-- A plot block of the graph has a parent in the graph. -/
def HasParent (g : Graph) (id parent : Ident) : Prop :=
  ∃ block, g.plotBlocks.get? id = some block ∧ block.parentId = some parent ∧
    parent ∈ g.ids .plotBlock

/-- The way up from a plot block comes to a block that is an ancestor of itself. -/
def Loops (g : Graph) (id : Ident) : Prop :=
  ∃ x, ReflTransGen g.HasParent id x ∧ TransGen g.HasParent x x

theorem parent?_eq_some : g.parent? id = some parent ↔ g.HasParent id parent := by
  simp only [parent?, Option.filter_eq_some_iff, Option.bind_eq_some_iff, ← Table.mem_ids]
  constructor
  · rintro ⟨⟨block, hBlock, hParent⟩, hKnown⟩
    exact ⟨block, hBlock, hParent, hKnown⟩
  · rintro ⟨block, hBlock, hParent, hKnown⟩
    exact ⟨⟨block, hBlock, hParent⟩, hKnown⟩

theorem HasParent.unique {parent' : Ident} (h : g.HasParent id parent)
    (h' : g.HasParent id parent') : parent = parent' :=
  Option.some.inj ((parent?_eq_some.2 h).symm.trans (parent?_eq_some.2 h'))

theorem not_loops (h : g.parent? id = none) : ¬g.Loops id := by
  have hNoParent (p : Ident) : ¬g.HasParent id p := fun hParent => by
    simp [parent?_eq_some.2 hParent] at h
  rintro ⟨x, hReach, hLoop⟩
  rcases ReflTransGen.cases_head hReach with rfl | ⟨p, hStep, -⟩
  · obtain ⟨p, hStep, -⟩ := TransGen.head'_iff.1 hLoop
    exact hNoParent p hStep
  · exact hNoParent p hStep

theorem parent?_unknown (h : id ∉ g.ids .plotBlock) : g.parent? id = none := by
  rw [mem_ids] at h
  have hGet : g.plotBlocks.get? id = none := by simpa [contains, entity?] using h
  simp [parent?, hGet]

theorem mem_ids_of_loops (h : g.Loops id) : id ∈ g.ids .plotBlock :=
  Decidable.not_imp_not.1 (fun hUnknown => not_loops (parent?_unknown hUnknown)) h

theorem loops_iff_of_hasParent (h : g.HasParent id parent) : g.Loops id ↔ g.Loops parent := by
  refine ⟨?_, fun ⟨x, hReach, hLoop⟩ => ⟨x, .head h hReach, hLoop⟩⟩
  rintro ⟨x, hReach, hLoop⟩
  rcases ReflTransGen.cases_head hReach with rfl | ⟨p, hStep, hRest⟩
  -- the loop goes through `id`, and so through its parent
  · obtain ⟨p, hStep, hBack⟩ := TransGen.head'_iff.1 hLoop
    obtain rfl := h.unique hStep
    exact ⟨parent, .refl, .tail' hBack h⟩
  · obtain rfl := h.unique hStep
    exact ⟨x, hRest, hLoop⟩

theorem not_loops_of_depthWithin {d : Nat} (h : g.depthWithin unseen id = some d) :
    ¬g.Loops id := by
  fun_induction depthWithin g unseen id generalizing d with
  | case1 unseen id hTop => exact not_loops hTop
  | case2 unseen id parent hParent hUnseen ih =>
    obtain ⟨above, hAbove, -⟩ := Option.map_eq_some_iff.1 h
    rw [loops_iff_of_hasParent (parent?_eq_some.1 hParent)]
    exact ih hAbove
  | case3 => cases h

/-- A way up that has no loop keeps to the unseen blocks if all ancestors are among them. -/
theorem exists_depthWithin (hLoops : ¬g.Loops id)
    (h : ∀ x, TransGen g.HasParent id x → x ∈ unseen) :
    ∃ d, g.depthWithin unseen id = some d := by
  fun_induction depthWithin g unseen id with
  | case1 unseen id hTop => exact ⟨0, rfl⟩
  | case2 unseen id parent hParent hUnseen ih =>
    have hStep := parent?_eq_some.1 hParent
    have hAbove : ¬g.Loops parent := mt (loops_iff_of_hasParent hStep).2 hLoops
    obtain ⟨d, hd⟩ := ih hAbove fun x hx => by
      have hNe : x ≠ parent := by
        rintro rfl
        exact hAbove ⟨x, .refl, hx⟩
      exact (List.mem_erase_of_ne hNe).2 (h x (.head hStep hx))
    exact ⟨d + 1, by rw [hd, Option.map_some]⟩
  | case3 unseen id parent hParent hSeen =>
    exact absurd (h parent (.single (parent?_eq_some.1 hParent))) hSeen

theorem exists_depth? (hLoops : ¬g.Loops id) : ∃ d, g.depth? id = some d := by
  refine exists_depthWithin hLoops fun x hx => ?_
  have hNe : x ≠ id := by
    rintro rfl
    exact hLoops ⟨x, .refl, hx⟩
  obtain ⟨p, -, -, -, -, hKnown⟩ := TransGen.tail'_iff.1 hx
  exact (List.mem_erase_of_ne hNe).2 hKnown

/-- A plot block has no depth exactly if the way up from it runs into a loop. -/
theorem depth?_eq_none_iff : g.depth? id = none ↔ g.Loops id := by
  by_cases hLoops : g.Loops id
  · refine iff_of_true (Option.eq_none_iff_forall_ne_some.2 fun d hDepth => ?_) hLoops
    exact not_loops_of_depthWithin hDepth hLoops
  · obtain ⟨d, hDepth⟩ := exists_depth? hLoops
    simp [hDepth, hLoops]

instance (g : Graph) (id : Ident) : Decidable (g.Loops id) :=
  decidable_of_iff _ depth?_eq_none_iff

/-! ### The depth of a block and that of its parent -/

theorem depth?_of_top (h : g.parent? id = none) : g.depth? id = some 0 := by
  rw [depth?, depthWithin, h]

theorem exists_above {d : Nat} (h : g.HasParent id parent)
    (hDepth : g.depthWithin unseen id = some d) :
    parent ∈ unseen ∧
      ∃ above, g.depthWithin (unseen.erase parent) parent = some above ∧ above + 1 = d := by
  rw [depthWithin, parent?_eq_some.2 h] at hDepth
  dsimp only at hDepth
  split at hDepth
  · exact ⟨‹_›, Option.map_eq_some_iff.1 hDepth⟩
  · cases hDepth

/-- A depth does not depend on which blocks are left to be seen. -/
theorem depthWithin_unique {unseen' : List Ident} {d d' : Nat}
    (h : g.depthWithin unseen id = some d) (h' : g.depthWithin unseen' id = some d') : d = d' := by
  fun_induction depthWithin g unseen id generalizing unseen' d d' with
  | case1 unseen id hTop =>
    rw [depthWithin, hTop] at h'
    exact Option.some.inj (h.symm.trans h')
  | case2 unseen id parent hParent hUnseen ih =>
    obtain ⟨above, hAbove, rfl⟩ := Option.map_eq_some_iff.1 h
    obtain ⟨-, above', hAbove', rfl⟩ := exists_above (parent?_eq_some.1 hParent) h'
    rw [ih hAbove hAbove']
  | case3 => cases h

theorem depth?_of_hasParent (h : g.HasParent id parent) :
    g.depth? id = (g.depth? parent).map (· + 1) := by
  by_cases hLoops : g.Loops parent
  · rw [depth?_eq_none_iff.2 hLoops, depth?_eq_none_iff.2 ((loops_iff_of_hasParent h).2 hLoops),
      Option.map_none]
  · obtain ⟨d, hDepth⟩ := exists_depth? (mt (loops_iff_of_hasParent h).1 hLoops)
    obtain ⟨above, hAbove⟩ := exists_depth? hLoops
    obtain ⟨-, above', hAbove', rfl⟩ := exists_above h hDepth
    rw [hDepth, hAbove, Option.map_some, depthWithin_unique hAbove hAbove']

/-- The way up has no more blocks than are left to be seen. -/
theorem depthWithin_le {d : Nat} (h : g.depthWithin unseen id = some d) : d ≤ unseen.length := by
  induction d generalizing unseen id with
  | zero => exact Nat.zero_le _
  | succ d ih =>
    cases hParent : g.parent? id with
    | none => simp [depthWithin, hParent] at h
    | some parent =>
      obtain ⟨hUnseen, above, hAbove, hd⟩ := exists_above (parent?_eq_some.1 hParent) h
      obtain rfl : above = d := Nat.succ.inj hd
      have hLess : above ≤ (unseen.erase parent).length := ih hAbove
      have := List.length_pos_of_mem hUnseen
      rw [List.length_erase_of_mem hUnseen] at hLess
      omega

/-- A plot block without a parent in the graph has depth 0, and one with a parent is one deeper than
the parent. There is no depth exactly if the way up runs into a loop, and else it is less than the
number of plot blocks. -/
theorem depth?_eq_parent (g : Graph) (id : Ident) :
    (g.depth? id = match (g.plotBlocks.get? id).bind PlotBlock.parentId with
      | none => some 0
      | some parent =>
        if parent ∈ g.ids .plotBlock then (g.depth? parent).map (· + 1) else some 0) ∧
    (g.depth? id = none ↔ g.Loops id) ∧
    ∀ d, g.depth? id = some d → id ∈ g.ids .plotBlock → d < (g.ids .plotBlock).length := by
  refine ⟨?_, depth?_eq_none_iff, fun d hDepth hKnown => ?_⟩
  · cases hParent : (g.plotBlocks.get? id).bind PlotBlock.parentId with
    | none => exact depth?_of_top (by rw [parent?, hParent, Option.filter_none])
    | some parent =>
      dsimp only
      split
      · rename_i hKnown
        refine depth?_of_hasParent (parent?_eq_some.1 ?_)
        rw [parent?, hParent, Option.filter_some, if_pos (Table.mem_ids.1 hKnown)]
      · rename_i hUnknown
        refine depth?_of_top ?_
        rw [parent?, hParent, Option.filter_some, if_neg (mt Table.mem_ids.2 hUnknown)]
  · have hLe : d ≤ ((g.ids .plotBlock).erase id).length := depthWithin_le hDepth
    have := List.length_pos_of_mem hKnown
    rw [List.length_erase_of_mem hKnown] at hLe
    omega

/-- Block 3 is below block 2 and that below block 1, whose parent is unknown. -/
def lineage : Graph where
  fandomId := 1
  plotBlocks := ((Table.empty.insert
    { id := 1, name := "first", category := "arc", fandomId := 1, parentId := some 404 }).insert
    { id := 2, name := "second", category := "arc", fandomId := 1, parentId := some 1 }).insert
    { id := 3, name := "third", category := "arc", fandomId := 1, parentId := some 2 }

theorem lineage_depth : lineage.depth? 3 = some 2 ∧ 3 ∈ lineage.ids .plotBlock ∧
    2 < (lineage.ids .plotBlock).length := by
  have hFirst : lineage.depth? 1 = some 0 := (depth?_eq_parent lineage 1).1
  have hSecond : lineage.depth? 2 = some 1 :=
    (depth?_eq_parent lineage 2).1.trans (congrArg (Option.map (· + 1)) hFirst)
  have hThird : lineage.depth? 3 = some 2 :=
    (depth?_eq_parent lineage 3).1.trans (congrArg (Option.map (· + 1)) hSecond)
  have hKnown : 3 ∈ lineage.ids .plotBlock := by decide
  exact ⟨hThird, hKnown, (depth?_eq_parent lineage 3).2.2 2 hThird hKnown⟩

end StoryRules.Graph
