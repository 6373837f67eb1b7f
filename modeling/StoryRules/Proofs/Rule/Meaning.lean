import Mathlib.Data.Finset.Lattice.Fold
import Mathlib.Order.Lattice.Nat
import StoryRules.Proofs.Rule.Fault
import StoryRules.Proofs.Selection.Alike

/-! What the tests of rules ask. A test on tags or plot blocks compares the set of its targets with
the set of the ids that are present, a test on the number of tags counts a set, and a test on depth
looks for the greatest depth of a chosen plot block. All of these are sets of known ids, so that a
test answers the same, or fails as before, in whatever order ids are listed and chosen, however
often each, and whatever unknown ones are chosen besides (`Test.compile_asks`). -/

namespace StoryRules

/-- How the set of the targets stands to the set of the present ids. -/
def Presence.Relates (targets present : Finset Ident) : Presence → Prop
  | equals => targets = present
  | contains => targets ⊆ present
  | notContains => ¬targets ⊆ present
  | someOf => (targets ∩ present).Nonempty
  | noneOf => Disjoint targets present

instance (targets present : Finset Ident) (operator : Presence) :
    Decidable (operator.Relates targets present) := by
  cases operator <;> unfold Presence.Relates <;> infer_instance

def Comparison.Relates (actual expected : Int) : Comparison → Prop
  | equals => actual = expected
  | greaterThan => expected < actual
  | lessThan => actual < expected

instance (actual expected : Int) (operator : Comparison) :
    Decidable (operator.Relates actual expected) := by
  cases operator <;> unfold Comparison.Relates <;> infer_instance

theorem Comparison.holds_eq (operator : Comparison) (actual expected : Int) :
    operator.holds actual expected = decide (operator.Relates actual expected) := by
  cases operator <;> simp [holds, Relates]

namespace Graph

variable {g : Graph} {s s' : Selection} {kind : Kind} {id : Ident}

/-- The ids of a kind that are chosen and known. -/
def presentIds (g : Graph) (s : Selection) (kind : Kind) : Finset Ident :=
  (s.ids kind).toFinset ∩ (g.ids kind).toFinset

theorem mem_presentIds : id ∈ g.presentIds s kind ↔ g.isPresent s kind id = true := by
  unfold presentIds isPresent
  rw [Finset.mem_inter, List.mem_toFinset, List.mem_toFinset, Bool.and_eq_true, Selection.has_iff,
    mem_ids]

/-- The greatest depth of some plot blocks, where one below a loop counts as a block without a
parent; 0 if there are none. -/
def greatestDepth (g : Graph) (blocks : Finset Ident) : Nat :=
  blocks.sup fun block => (g.depth? block).getD 0

/-- Where no block is below a loop, the search for the deepest one finds the greatest depth. -/
theorem foldlM_deeper_eq_ok {blocks : List Ident} (h : ∀ block ∈ blocks, ¬g.Loops block)
    (depth : Nat) :
    blocks.foldlM g.deeper depth = .ok (max depth (g.greatestDepth blocks.toFinset)) := by
  induction blocks generalizing depth with
  | nil => simp [greatestDepth, pure, Except.pure]
  | cons block blocks ih =>
    obtain ⟨hBlock, hRest⟩ := List.forall_mem_cons.1 h
    obtain ⟨found, hFound⟩ := exists_depth? hBlock
    have hStep : g.deeper depth block = .ok (max depth found) := by
      unfold deeper depthOf
      rw [hFound]
      rfl
    have hGreatest : g.greatestDepth (block :: blocks).toFinset =
        max found (g.greatestDepth blocks.toFinset) := by
      unfold greatestDepth
      rw [List.toFinset_cons, Finset.sup_insert, hFound]
      rfl
    rw [List.foldlM_cons, hStep, hGreatest, ← max_assoc]
    exact ih hRest (max depth found)

/-! ### Known ids -/

/-- Two selections choose the same known ids, in whatever order and however often each, and
whatever unknown ones besides. -/
def SameKnown (g : Graph) (s s' : Selection) : Prop :=
  ∀ kind, ∀ id ∈ g.ids kind, id ∈ s.ids kind ↔ id ∈ s'.ids kind

namespace SameKnown

variable (h : g.SameKnown s s')

include h

theorem presentIds_eq (kind : Kind) : g.presentIds s kind = g.presentIds s' kind := by
  ext id
  unfold presentIds
  simp only [Finset.mem_inter, List.mem_toFinset]
  exact and_congr_left (h kind id)

theorem exists_loops_iff :
    (∃ block ∈ s.plotBlocks, g.Loops block) ↔ ∃ block ∈ s'.plotBlocks, g.Loops block := by
  apply exists_congr
  intro block
  apply and_congr_left
  intro hLoops
  exact h .plotBlock block (mem_ids_of_loops hLoops)

end SameKnown

/-- An unknown block has the depth 0, which is never the greater one. -/
theorem greatestDepth_presentIds (g : Graph) (s : Selection) :
    g.greatestDepth (g.presentIds s .plotBlock) = g.greatestDepth s.plotBlocks.toFinset := by
  apply le_antisymm
  · exact Finset.sup_mono Finset.inter_subset_left
  · apply Finset.sup_le
    intro block hBlock
    by_cases hKnown : block ∈ g.ids .plotBlock
    · have hPresent : block ∈ g.presentIds s .plotBlock :=
        Finset.mem_inter.2 ⟨hBlock, List.mem_toFinset.2 hKnown⟩
      exact Finset.le_sup (f := fun block => (g.depth? block).getD 0) hPresent
    · rw [depth?_of_top (parent?_unknown hKnown)]
      exact Nat.zero_le _

end Graph

theorem Presence.holds_eq (operator : Presence) (kind : Kind) (targets : List Ident) (g : Graph)
    (s : Selection) : operator.holds kind targets g s =
      decide (operator.Relates targets.toFinset (g.presentIds s kind)) := by
  have hAll : targets.all (g.isPresent s kind) = true ↔
      targets.toFinset ⊆ g.presentIds s kind := by
    simp only [List.all_eq_true, Finset.subset_iff, List.mem_toFinset, Graph.mem_presentIds]
  have hListed : (g.present s kind).all targets.contains = true ↔
      g.presentIds s kind ⊆ targets.toFinset := by
    simp only [List.all_eq_true, Finset.subset_iff, List.mem_toFinset, Graph.mem_presentIds,
      Graph.mem_present, List.contains_iff_mem]
  have hAny : targets.any (g.isPresent s kind) = true ↔
      (targets.toFinset ∩ g.presentIds s kind).Nonempty := by
    simp only [List.any_eq_true, Finset.Nonempty, Finset.mem_inter, List.mem_toFinset,
      Graph.mem_presentIds]
  rw [Bool.eq_iff_iff, decide_eq_true_iff]
  cases operator with
  | equals =>
    show (_ && _) = true ↔ _ = _
    rw [Bool.and_eq_true, hListed, hAll, and_comm]
    exact subset_antisymm_iff.symm
  | contains => exact hAll
  | notContains =>
    show (!_) = true ↔ ¬_
    rw [Bool.not_eq_true', ← Bool.not_eq_true, hAll]
  | someOf => exact hAny
  | noneOf =>
    show (!_) = true ↔ Disjoint _ _
    rw [Bool.not_eq_true', ← Bool.not_eq_true, hAny, Finset.disjoint_iff_inter_eq_empty,
      Finset.not_nonempty_iff_eq_empty]

namespace Test

variable {g : Graph} {s s' : Selection}

/-- The tags that are counted: the present ones, and only those among the targets if there are
any. -/
def counted (g : Graph) (s : Selection) (targets : List Ident) : Finset Ident :=
  if targets = [] then g.presentIds s .tag else g.presentIds s .tag ∩ targets.toFinset

/-- What a test asks of a selection, if no chosen plot block is below a loop. -/
def Asks (g : Graph) (s : Selection) : Test → Prop
  | hasTag operator targets => operator.Relates targets.toFinset (g.presentIds s .tag)
  | hasPlotBlock operator targets => operator.Relates targets.toFinset (g.presentIds s .plotBlock)
  | tagCount operator value targets => operator.Relates (counted g s targets).card value.toInt
  | plotBlockDepth operator value =>
    operator.Relates (g.greatestDepth s.plotBlocks.toFinset) value.toInt
  | customExpression _ => True

instance (g : Graph) (s : Selection) (t : Test) : Decidable (t.Asks g s) := by
  cases t <;> unfold Asks <;> infer_instance

/-- A test asks for a depth that some chosen plot block does not have. -/
def Fails (t : Test) (g : Graph) (s : Selection) : Prop :=
  t.isOnDepth = true ∧ ∃ block ∈ s.plotBlocks, g.Loops block

instance (t : Test) (g : Graph) (s : Selection) : Decidable (t.Fails g s) :=
  inferInstanceAs (Decidable (_ ∧ _))

theorem countP_present (g : Graph) (s : Selection) (targets : List Ident) :
    (g.present s .tag).countP (fun id => targets.isEmpty || targets.contains id) =
      (counted g s targets).card := by
  have hNodup := (g.nodup_present s .tag).filter fun id => targets.isEmpty || targets.contains id
  rw [List.countP_eq_length_filter, ← List.toFinset_card_of_nodup hNodup]
  congr 1
  ext id
  unfold counted
  rw [List.mem_toFinset, List.mem_filter, Graph.mem_present, ← Graph.mem_presentIds]
  by_cases hNone : targets = []
  · simp [hNone]
  · simp [hNone]

theorem compile_of_fails {t : Test} (h : t.Fails g s) : ∃ fault, t.compile g s = .error fault := by
  obtain ⟨hDepth, hLoops⟩ := h
  have hFound : (s.plotBlocks.find? fun block => g.Loops block).isSome = true := by
    rw [List.find?_isSome]
    simpa using hLoops
  obtain ⟨block, hBlock⟩ := Option.isSome_iff_exists.1 hFound
  exact ⟨_, compile_eq_error.2 ⟨hDepth, block, hBlock, rfl⟩⟩

theorem compile_of_not_fails {t : Test} (h : ¬t.Fails g s) :
    t.compile g s = .ok (decide (t.Asks g s)) := by
  cases t with
  | hasTag operator targets | hasPlotBlock operator targets =>
    exact congrArg Except.ok (operator.holds_eq _ targets g s)
  | tagCount operator value targets =>
    unfold compile
    dsimp only
    rw [countP_present, operator.holds_eq]
    rfl
  | plotBlockDepth operator value =>
    have hSound : ∀ block ∈ s.plotBlocks, ¬g.Loops block := by
      intro block hBlock hLoops
      exact h ⟨rfl, block, hBlock, hLoops⟩
    have hDeepest : g.deepest s = .ok (g.greatestDepth s.plotBlocks.toFinset) := by
      unfold Graph.deepest
      rw [Graph.foldlM_deeper_eq_ok hSound, Nat.zero_max]
    rw [compile_plotBlockDepth, hDeepest]
    exact congrArg Except.ok (operator.holds_eq _ _)
  | customExpression => rfl

theorem toOption_compile (t : Test) (g : Graph) (s : Selection) :
    (t.compile g s).toOption = if t.Fails g s then none else some (decide (t.Asks g s)) := by
  by_cases hFails : t.Fails g s
  · obtain ⟨fault, hFault⟩ := compile_of_fails hFails
    rw [if_pos hFails, hFault]
    rfl
  · rw [if_neg hFails, compile_of_not_fails hFails]
    rfl

/-! ### Other lists of the same ids -/

def targets : Test → List Ident
  | hasTag _ targets | hasPlotBlock _ targets | tagCount _ _ targets => targets
  | plotBlockDepth .. | customExpression _ => []

/-- The test with another list of targets, if it has one. -/
def withTargets (targets : List Ident) : Test → Test
  | hasTag operator _ => hasTag operator targets
  | hasPlotBlock operator _ => hasPlotBlock operator targets
  | tagCount operator value _ => tagCount operator value targets
  | plotBlockDepth operator value => plotBlockDepth operator value
  | customExpression expression => customExpression expression

theorem fails_withTargets {t : Test} {targets : List Ident} (h : g.SameKnown s s') :
    (t.withTargets targets).Fails g s' ↔ t.Fails g s := by
  have hDepth : (t.withTargets targets).isOnDepth = t.isOnDepth := by cases t <;> rfl
  unfold Fails
  rw [hDepth, h.exists_loops_iff]

theorem counted_congr {listed targets : List Ident} (hSet : listed.toFinset = targets.toFinset)
    (h : g.SameKnown s s') : counted g s' targets = counted g s listed := by
  have hNone : targets = [] ↔ listed = [] := by
    rw [← List.toFinset_eq_empty_iff, ← hSet, List.toFinset_eq_empty_iff]
  unfold counted
  rw [h.presentIds_eq, hSet]
  exact if_congr hNone rfl rfl

theorem asks_withTargets {t : Test} {targets : List Ident}
    (hTargets : ∀ id, id ∈ t.targets ↔ id ∈ targets) (h : g.SameKnown s s') :
    (t.withTargets targets).Asks g s' ↔ t.Asks g s := by
  have hSet : t.targets.toFinset = targets.toFinset := List.toFinset.ext hTargets
  cases t with
  | hasTag operator listed =>
    show operator.Relates targets.toFinset (g.presentIds s' .tag) ↔
      operator.Relates listed.toFinset (g.presentIds s .tag)
    rw [h.presentIds_eq, ← hSet]
    rfl
  | hasPlotBlock operator listed =>
    show operator.Relates targets.toFinset (g.presentIds s' .plotBlock) ↔
      operator.Relates listed.toFinset (g.presentIds s .plotBlock)
    rw [h.presentIds_eq, ← hSet]
    rfl
  | tagCount operator value listed =>
    show operator.Relates (counted g s' targets).card value.toInt ↔
      operator.Relates (counted g s listed).card value.toInt
    rw [counted_congr hSet h]
    rfl
  | plotBlockDepth operator value =>
    show operator.Relates (g.greatestDepth s'.plotBlocks.toFinset) value.toInt ↔
      operator.Relates (g.greatestDepth s.plotBlocks.toFinset) value.toInt
    rw [← g.greatestDepth_presentIds s', ← g.greatestDepth_presentIds s, h.presentIds_eq]
  | customExpression => exact Iff.rfl

/-- A test fails exactly if it is on depth and some chosen plot block is below a loop, and it holds
else exactly if the selection is as it asks. Neither depends on the order in which targets are
listed and ids are chosen, on how often each is, or on which unknown ids are chosen. -/
theorem compile_asks (t : Test) (g : Graph) (s : Selection) :
    (t.compile g s).toOption = (if t.Fails g s then none else some (decide (t.Asks g s))) ∧
    ∀ targets s', (∀ id, id ∈ t.targets ↔ id ∈ targets) → g.SameKnown s s' →
      ((t.withTargets targets).compile g s').toOption = (t.compile g s).toOption := by
  refine ⟨toOption_compile t g s, ?_⟩
  intro targets s' hTargets hKnown
  rw [toOption_compile, toOption_compile]
  simp only [fails_withTargets hKnown, asks_withTargets hTargets hKnown]

open StoryRules.Graph (lineage)

/-- The first and the last block of a lineage. -/
def ends : Selection := { fandomId := 1, plotBlocks := [1, 3] }

/-- The same in another order, one of them twice, and with ids that are unknown. -/
def strayEnds : Selection := { fandomId := 1, tags := [7], plotBlocks := [3, 404, 1, 3] }

theorem lineage_asks :
    lineage.SameKnown ends strayEnds ∧
    ((hasPlotBlock .equals [3, 1, 3]).compile lineage strayEnds).toOption =
      ((hasPlotBlock .equals [1, 3]).compile lineage ends).toOption ∧
    ((hasPlotBlock .equals [1, 3]).compile lineage ends).toOption = some true ∧
    ((plotBlockDepth .equals 2).compile lineage strayEnds).toOption =
      ((plotBlockDepth .equals 2).compile lineage ends).toOption := by
  have hKnown : lineage.SameKnown ends strayEnds := by
    intro kind id hId
    have hAll : (lineage.ids kind).all fun id =>
        decide (id ∈ ends.ids kind ↔ id ∈ strayEnds.ids kind) := by
      cases kind <;> decide
    exact of_decide_eq_true (List.all_eq_true.1 hAll id hId)
  have hListed : ∀ id : Ident, id ∈ [1, 3] ↔ id ∈ [3, 1, 3] := by
    intro id
    simp only [List.mem_cons, List.not_mem_nil, or_false]
    exact ⟨.inr, fun h => h.elim .inr fun h => h⟩
  exact ⟨hKnown, (compile_asks (hasPlotBlock .equals [1, 3]) lineage ends).2 _ _ hListed hKnown,
    rfl, (compile_asks (plotBlockDepth .equals 2) lineage ends).2 [] _ (fun _ => Iff.rfl) hKnown⟩

end Test

end StoryRules
