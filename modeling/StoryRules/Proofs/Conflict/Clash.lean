import Mathlib.Data.List.Sym
import StoryRules.Proofs.Conflict
import StoryRules.Proofs.Item

/-! The conflicts of some items, without their texts and without the order in each pair: clashes.
Two items clash the same way whichever comes first (`issues_staticConflicts_comm`), and the report
of some items has each clash of two of them once (`mem_clashes`, `nodup_clashes`). So the clashes
depend on the set of the items, and a larger set has no fewer. -/

namespace StoryRules

variable {α : Type}

/-- Mathlib's unordered pairs of a list are these and those of each member with itself. -/
theorem map_pairs_sublist_sym2 (as : List α) :
    ((pairs as).map fun pair => s(pair.1, pair.2)).Sublist as.sym2 := by
  induction as with
  | nil => exact .slnil
  | cons a as ih =>
    rw [pairs, List.map_append, List.map_map, List.sym2, List.map_cons, List.cons_append]
    exact (List.Sublist.append (.refl _) ih).cons _

theorem mem_of_mem_pairs_eraseDups [DecidableEq α] {as : List α} {a b : α}
    (h : (a, b) ∈ pairs as.eraseDups) : a ∈ as ∧ b ∈ as ∧ a ≠ b := by
  have hListed := mem_pairs.1 h
  refine ⟨List.mem_eraseDups.1 (hListed.subset List.mem_cons_self),
    List.mem_eraseDups.1 (hListed.subset (.tail _ List.mem_cons_self)), ?_⟩
  simpa using (nodup_eraseDups as).sublist hListed

/-- The items that a problem about a pair names in its value. -/
def Problem.items? (p : Problem) : Option (Sym2 Item) := do
  let fields ← (← p.value).fields?
  match ← fields.required "items" (Json.list? Item.ofJson?) with
  | [a, b] => some s(a, b)
  | _ => none

def Problem.clash (p : Problem) : Issue × Option (Sym2 Item) := (p.issue, p.items?)

/-- What a report says about which pairs, as often as it does. -/
def Report.clashes (r : Report) : Multiset (Issue × Option (Sym2 Item)) :=
  r.errors.map Problem.clash

/-- The item that selects an entity. -/
def Entity.item : Entity → Item
  | tag t => ⟨.tag, t.id⟩
  | plotBlock b => ⟨.plotBlock, b.id⟩
  | condition c => ⟨.condition, c.id⟩

namespace Graph

variable {g : Graph} {a b : Item} {f : Finding}

theorem items?_pairProblem {issue : Issue} {message : String} {field : Option String}
    {p : Problem} (h : pairProblem issue message field a b = .problem p) :
    p.items? = some s(a, b) := by
  obtain rfl := Finding.problem.inj h
  simp [Problem.items?, Json.fields?, Json.Fields.required, Json.Fields.get?, Json.list?,
    Item.ofJson?_toJson]

/-! ### The conflicts of a pair -/

theorem item_of_entity? {item : Item} {entity : Entity}
    (h : g.entity? item.kind item.id = some entity) : entity.item = item := by
  obtain ⟨kind, id⟩ := item
  cases kind with
  | tag =>
    obtain ⟨t, ht, rfl⟩ := Option.map_eq_some_iff.1 h
    exact congrArg (Item.mk .tag) (Table.get?_eq_some.1 ht).2
  | plotBlock =>
    obtain ⟨b, hb, rfl⟩ := Option.map_eq_some_iff.1 h
    exact congrArg (Item.mk .plotBlock) (Table.get?_eq_some.1 hb).2
  | condition =>
    obtain ⟨c, hc, rfl⟩ := Option.map_eq_some_iff.1 h
    exact congrArg (Item.mk .condition) (Table.get?_eq_some.1 hc).2

theorem eq_pairProblem_of_mem_tagConflicts {x y : Tag} (hf : f ∈ g.tagConflicts x y) :
    ∃ issue message, f = tagPairProblem issue message x y := by
  simp only [tagConflicts, List.mem_append, List.mem_ite_nil_right, List.mem_singleton] at hf
  rcases hf with (⟨-, rfl⟩ | ⟨-, rfl⟩) | ⟨-, rfl⟩ <;> exact ⟨_, _, rfl⟩

/-- Items that can be in conflict by what a graph says: both of them known, and both tags or both
plot blocks. -/
structure Comparable (g : Graph) (a b : Item) : Prop where
  kind : a.kind = b.kind
  not_condition : a.kind ≠ .condition
  left : g.contains a.kind a.id = true
  right : g.contains b.kind b.id = true

/-- A conflict of two items is a problem about the pair of them. -/
theorem comparable_of_mem_staticConflicts (hf : f ∈ g.staticConflicts a b) :
    g.Comparable a b ∧ ∃ issue message field, f = pairProblem issue message field a b := by
  rw [staticConflicts] at hf
  split at hf
  · rename_i x y hx hy
    have hKnown : g.contains a.kind a.id = true ∧ g.contains b.kind b.id = true := by
      simp [contains, hx, hy]
    obtain ⟨issue, message, rfl⟩ := eq_pairProblem_of_mem_tagConflicts hf
    obtain rfl := item_of_entity? hx
    obtain rfl := item_of_entity? hy
    exact ⟨⟨rfl, Kind.noConfusion, hKnown.1, hKnown.2⟩, issue, message, _, rfl⟩
  · rename_i x y hx hy
    have hKnown : g.contains a.kind a.id = true ∧ g.contains b.kind b.id = true := by
      simp [contains, hx, hy]
    obtain ⟨-, hEq⟩ := List.mem_ite_nil_right.1 hf
    obtain rfl := List.mem_singleton.1 hEq
    obtain rfl := item_of_entity? hx
    obtain rfl := item_of_entity? hy
    exact ⟨⟨rfl, Kind.noConfusion, hKnown.1, hKnown.2⟩, _, _, _, rfl⟩
  · cases hf

theorem shareExclusiveClass_comm (g : Graph) (x y : Tag) :
    g.shareExclusiveClass x y = g.shareExclusiveClass y x := by
  rw [Bool.eq_iff_iff, ← excludes_within, ← excludes_within]
  exact ⟨Excludes.symm_within, Excludes.symm_within⟩

theorem issues_tagConflicts (g : Graph) (x y : Tag) :
    (g.tagConflicts x y).map Finding.issue =
      (if g.shareExclusiveClass x y then [.mutualExclusionViolation] else [])
        ++ (if g.excludesTag x y || g.excludesTag y x then [.tagConflict] else [])
        ++ if g.excludesClass x y || g.excludesClass y x then [.classConflict] else [] := by
  simp only [tagConflicts, List.map_append, apply_ite (List.map Finding.issue)]
  rfl

theorem issues_plotBlockConflicts (x y : PlotBlock) :
    (plotBlockConflicts x y).map Finding.issue =
      if x.conflictsWith.contains y.id || y.conflictsWith.contains x.id then [.plotBlockConflict]
      else [] := by
  rw [plotBlockConflicts, apply_ite (List.map Finding.issue)]
  rfl

/-- Which of two items comes first makes no difference to what is in conflict. -/
theorem issues_staticConflicts_comm (g : Graph) (a b : Item) :
    (g.staticConflicts a b).map Finding.issue = (g.staticConflicts b a).map Finding.issue := by
  rw [staticConflicts]
  split
  · rename_i x y hx hy
    rw [staticConflicts, hx, hy, issues_tagConflicts, issues_tagConflicts,
      g.shareExclusiveClass_comm, Bool.or_comm (g.excludesTag x y),
      Bool.or_comm (g.excludesClass x y)]
  · rename_i x y hx hy
    rw [staticConflicts, hx, hy, issues_plotBlockConflicts, issues_plotBlockConflicts, Bool.or_comm]
  · rename_i hNotTags hNotBlocks
    rw [staticConflicts]
    split
    · rename_i y x hy hx
      exact (hNotTags x y hx hy).elim
    · rename_i y x hy hx
      exact (hNotBlocks x y hx hy).elim
    · rfl

theorem nodup_issues_staticConflicts (g : Graph) (a b : Item) :
    ((g.staticConflicts a b).map Finding.issue).Nodup := by
  rw [staticConflicts]
  split
  · rw [issues_tagConflicts]
    split <;> split <;> split <;> decide
  · rw [issues_plotBlockConflicts]
    split <;> decide
  · exact List.nodup_nil

/-! ### The conflicts of some items -/

def pairClashes (g : Graph) (pair : Item × Item) : List (Issue × Option (Sym2 Item)) :=
  (g.staticConflicts pair.1 pair.2).map fun f => (f.issue, some s(pair.1, pair.2))

theorem pairClashes_comm (g : Graph) (a b : Item) :
    g.pairClashes (a, b) = g.pairClashes (b, a) := by
  have hTell (a b : Item) : g.pairClashes (a, b) =
      ((g.staticConflicts a b).map Finding.issue).map fun issue => (issue, some s(a, b)) := by
    rw [pairClashes, List.map_map]
    rfl
  rw [hTell, hTell, issues_staticConflicts_comm, Sym2.eq_swap]

theorem clash_problem? (hf : f ∈ g.staticConflicts a b) :
    f.problem?.map Problem.clash = some (f.issue, some s(a, b)) := by
  obtain ⟨-, issue, message, field, rfl⟩ := comparable_of_mem_staticConflicts hf
  rw [pairProblem, Finding.problem?, Option.map_some, Problem.clash, items?_pairProblem rfl]
  rfl

/-- Without an outside source there are the conflicts that the graph knows of, pair by pair. -/
theorem errors_conflictReport (g : Graph) (items : List Item) : (g.conflictReport items).errors =
    (pairs items.eraseDups).flatMap fun pair =>
      (g.staticConflicts pair.1 pair.2).filterMap Finding.problem? := by
  have hFound : Id.run (g.conflictFindings (fun _ _ => pure none) items) =
      (pairs items.eraseDups).flatMap fun pair => g.staticConflicts pair.1 pair.2 := by
    simp [conflictFindings, List.flatMap]
  rw [conflictReport, hFound, Report.ofFindings, List.filterMap_flatMap]

theorem clashes_conflictReport (g : Graph) (items : List Item) :
    (g.conflictReport items).clashes = (pairs items.eraseDups).flatMap g.pairClashes := by
  have hPair (pair : Item × Item) :
      (g.staticConflicts pair.1 pair.2).filterMap (fun f => f.problem?.map Problem.clash) =
        g.pairClashes pair := by
    rw [pairClashes, ← List.filterMap_eq_map]
    exact List.filterMap_congr fun f hf => clash_problem? hf
  rw [Report.clashes, errors_conflictReport, List.map_flatMap]
  simp only [List.map_filterMap, hPair]

theorem nodup_clashes (g : Graph) (items : List Item) : (g.conflictReport items).clashes.Nodup := by
  have hPairs : (pairs items.eraseDups).Pairwise fun pair other =>
      s(pair.1, pair.2) ≠ s(other.1, other.2) :=
    List.pairwise_map.1 ((nodup_eraseDups items).sym2.sublist (map_pairs_sublist_sym2 _))
  rw [clashes_conflictReport, Multiset.coe_nodup]
  refine List.nodup_flatMap.2 ⟨fun pair _ => ?_, hPairs.imp fun {pair other} hNe c hc hc' => ?_⟩
  · refine List.Nodup.of_map Prod.fst ?_
    rw [pairClashes, List.map_map]
    exact g.nodup_issues_staticConflicts pair.1 pair.2
  · obtain ⟨f, -, rfl⟩ := List.mem_map.1 hc
    obtain ⟨f', -, hSame⟩ := List.mem_map.1 hc'
    exact hNe (Option.some.inj (Prod.mk.inj hSame).2).symm

theorem mem_clashes {items : List Item} {c : Issue × Option (Sym2 Item)} :
    c ∈ (g.conflictReport items).clashes ↔
      ∃ a ∈ items, ∃ b ∈ items, a ≠ b ∧ c ∈ g.pairClashes (a, b) := by
  rw [clashes_conflictReport, Multiset.mem_coe, List.mem_flatMap]
  constructor
  · rintro ⟨⟨a, b⟩, hPair, hc⟩
    obtain ⟨ha, hb, hNe⟩ := mem_of_mem_pairs_eraseDups hPair
    exact ⟨a, ha, b, hb, hNe, hc⟩
  · rintro ⟨a, ha, b, hb, hNe, hc⟩
    rcases pair_sublist (List.mem_eraseDups.2 ha) (List.mem_eraseDups.2 hb) hNe with hPair | hPair
    · exact ⟨(a, b), mem_pairs.2 hPair, hc⟩
    · exact ⟨(b, a), mem_pairs.2 hPair, g.pairClashes_comm a b ▸ hc⟩

theorem mem_clashes_mono {items items' : List Item} (h : items ⊆ items')
    {c : Issue × Option (Sym2 Item)} (hc : c ∈ (g.conflictReport items).clashes) :
    c ∈ (g.conflictReport items').clashes := by
  obtain ⟨a, ha, b, hb, hClash⟩ := mem_clashes.1 hc
  exact mem_clashes.2 ⟨a, h ha, b, h hb, hClash⟩

/-- The clashes of some items depend on the set of the items only, whatever the order and however
often one is listed. Among more items each of them is still reported, once. They are between known
items of one kind, tags or plot blocks. -/
theorem conflictReport_clashes (g : Graph) (items items' : List Item) :
    ((∀ item, item ∈ items ↔ item ∈ items') →
      (g.conflictReport items).clashes = (g.conflictReport items').clashes) ∧
    (items ⊆ items' → ∀ c ∈ (g.conflictReport items).clashes,
      (g.conflictReport items').clashes.count c = 1) ∧
    ∀ p ∈ (g.conflictReport items).errors, ∃ a ∈ items, ∃ b ∈ items, a ≠ b ∧
      p.items? = some s(a, b) ∧ g.Comparable a b := by
  refine ⟨fun hSame => ?_, fun hMore c hc => ?_, fun p hp => ?_⟩
  · refine (Multiset.Nodup.ext (g.nodup_clashes items) (g.nodup_clashes items')).2 fun c => ?_
    exact ⟨mem_clashes_mono fun item => (hSame item).1, mem_clashes_mono fun item => (hSame item).2⟩
  · exact Multiset.count_eq_one_of_mem (g.nodup_clashes items') (mem_clashes_mono hMore hc)
  · obtain ⟨a, b, hPair, hp⟩ := mem_errors_conflictReport.1 hp
    obtain ⟨hComparable, issue, message, field, hEq⟩ := comparable_of_mem_staticConflicts hp
    obtain ⟨ha, hb, hNe⟩ := mem_of_mem_pairs_eraseDups (mem_pairs.2 hPair)
    exact ⟨a, ha, b, hb, hNe, items?_pairProblem hEq.symm, hComparable⟩

/-- The two tags of the exclusive class clash when they are alone, and once when the tag that both
exclude is there too and one of them is listed again. -/
theorem rivalMoods_clashes :
    ((.mutualExclusionViolation, some s(⟨.tag, 1⟩, ⟨.tag, 2⟩)) ∈
        (rivalMoods.conflictReport [⟨.tag, 1⟩, ⟨.tag, 2⟩]).clashes ∧
      (rivalMoods.conflictReport [⟨.tag, 2⟩, ⟨.tag, 3⟩, ⟨.tag, 1⟩, ⟨.tag, 2⟩]).clashes.count
        (.mutualExclusionViolation, some s(⟨.tag, 1⟩, ⟨.tag, 2⟩)) = 1) ∧
    (rivalMoods.conflictReport [⟨.tag, 2⟩, ⟨.tag, 3⟩, ⟨.tag, 1⟩, ⟨.tag, 2⟩]).clashes =
      (rivalMoods.conflictReport [⟨.tag, 1⟩, ⟨.tag, 2⟩, ⟨.tag, 3⟩]).clashes := by
  have hAlone : (.mutualExclusionViolation, some s(⟨.tag, 1⟩, ⟨.tag, 2⟩)) ∈
      (rivalMoods.conflictReport [⟨.tag, 1⟩, ⟨.tag, 2⟩]).clashes := by decide
  refine ⟨⟨hAlone, (conflictReport_clashes rivalMoods _ _).2.1 (by decide) _ hAlone⟩,
    (conflictReport_clashes rivalMoods _ _).1 fun item => ?_⟩
  simp only [List.mem_cons, List.not_mem_nil, or_false]
  grind

end Graph

end StoryRules
