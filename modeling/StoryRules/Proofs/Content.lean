import StoryRules.Graph
import StoryRules.Proofs.Except
import StoryRules.Proofs.Table

/-! What content makes a graph. The entries of some content are checked one by one, tags before tag
classes, these before plot blocks and conditions last. An entry is at fault if it is out of place or
if an earlier one has its id. Content is refused for the first of its faults, and makes the graph
that holds its entries if it has none (`ends_ofContent`). -/

namespace StoryRules

/-- What an entry of some content says for the checks. -/
structure Entry where
  /-- The kind with which it shares the id space; tag classes have one of their own. -/
  kind? : Option Kind
  id : Ident
  /-- Why it is out of place, whatever the other ids are. -/
  refusal? : Option ContentError
  deriving DecidableEq

namespace Entry

def slot (e : Entry) : Option Kind × Ident := (e.kind?, e.id)

def duplicate (e : Entry) : ContentError :=
  match e.kind? with
  | some kind => .duplicate kind e.id
  | none => .duplicateClass e.id

/-- What is wrong with an entry after some others; that it is out of place comes first. -/
def fault? (earlier : List Entry) (e : Entry) : Option ContentError :=
  e.refusal?.or (if e.slot ∈ earlier.map slot then some e.duplicate else none)

/-- What is wrong with the entries that come after some others, in order. -/
def faults : (earlier rest : List Entry) → List ContentError
  | _, [] => []
  | earlier, e :: rest => (e.fault? earlier).toList ++ faults (earlier ++ [e]) rest

variable {e : Entry} {earlier rest : List Entry}

theorem faults_append (earlier as bs : List Entry) :
    faults earlier (as ++ bs) = faults earlier as ++ faults (earlier ++ as) bs := by
  induction as generalizing earlier with
  | nil => simp [faults]
  | cons e as ih => simp [faults, ih]

theorem fault?_eq_none :
    e.fault? earlier = none ↔ e.refusal? = none ∧ e.slot ∉ earlier.map slot := by
  rw [fault?, Option.or_eq_none_iff, ite_eq_right_iff]
  simp

theorem faults_eq_nil : faults earlier rest = [] ↔
    (∀ e ∈ rest, e.refusal? = none) ∧ (rest.map slot).Nodup ∧
      ∀ e ∈ rest, e.slot ∉ earlier.map slot := by
  induction rest generalizing earlier with
  | nil => simp [faults]
  | cons e rest ih =>
    have hNew : (∀ other ∈ rest, other.slot ≠ e.slot) ↔ e.slot ∉ rest.map slot := by
      simp [List.mem_map, eq_comm]
    rw [faults, List.append_eq_nil_iff, Option.toList_eq_nil_iff, fault?_eq_none, ih]
    simp only [List.forall_mem_cons, List.map_cons, List.nodup_cons, List.map_append,
      List.map_nil, List.mem_append, List.mem_singleton, not_or, forall_and]
    tauto

end Entry

/-! ### Tables that are filled entry by entry -/

namespace Entry

variable {α : Type} [Keyed α] {space : Option Kind} {entry : α → Entry}
  {add : Table α → α → Except ContentError (Table α)} {t t' : Table α} {earlier : List Entry}

/-- The ids in a table are those that earlier entries have taken in its id space. -/
def Reflects (space : Option Kind) (earlier : List Entry) (t : Table α) : Prop :=
  ∀ id, id ∈ t.ids ↔ (space, id) ∈ earlier.map slot

/-- `add` puts a value into a table unless its entry is out of place or its id is taken. -/
structure AddsTo (space : Option Kind) (entry : α → Entry)
    (add : Table α → α → Except ContentError (Table α)) : Prop where
  slot : ∀ a, (entry a).slot = (space, key a)
  refused : ∀ t a, ∀ error ∈ (entry a).refusal?, add t a = .error error
  admitted : ∀ t a, (entry a).refusal? = none →
    add t a = Graph.addNew (fun _ => (entry a).duplicate) t a

theorem AddsTo.step (h : AddsTo space entry add) (ht : Reflects space earlier t) (a : α) :
    Ends (fun t' => t'.values.Perm (a :: t.values)) ((entry a).fault? earlier).toList
      (add t a) := by
  rw [fault?, h.slot]
  cases hRefusal : (entry a).refusal? with
  | some error =>
    rw [h.refused t a error hRefusal]
    exact .error error []
  | none =>
    rw [h.admitted t a hRefusal, Graph.addNew, Option.none_or]
    by_cases hTaken : key a ∈ t.ids
    · rw [if_pos (Table.mem_ids.1 hTaken), if_pos ((ht _).1 hTaken)]
      exact .error _ []
    · rw [if_neg (mt Table.mem_ids.2 hTaken), if_neg (mt (ht _).2 hTaken)]
      exact .ok (Table.perm_insert hTaken)

theorem Reflects.snoc {a : α} (ht : Reflects space earlier t)
    (hSlot : (entry a).slot = (space, key a)) (h : t'.values.Perm (a :: t.values)) :
    Reflects space (earlier ++ [entry a]) t' := by
  intro id
  have hIds : t'.ids.Perm (key a :: t.ids) := h.map key
  rw [hIds.mem_iff, List.mem_cons, ht id, List.map_append, List.mem_append, List.map_singleton,
    List.mem_singleton, hSlot, Prod.mk.injEq, or_comm]
  simp

/-- What comes of adding values one after another. -/
theorem AddsTo.run (h : AddsTo space entry add) (ht : Reflects space earlier t) (as : List α) :
    Ends (fun t' => t'.values.Perm (t.values ++ as)) (faults earlier (as.map entry))
      (as.foldlM add t) := by
  induction as generalizing t earlier with
  | nil => exact .ok (by simp)
  | cons a as ih =>
    rw [List.foldlM_cons, List.map_cons, faults]
    refine (h.step ht a).bind fun t' hFirst => ?_
    refine (ih (ht.snoc (h.slot a) hFirst)).mono fun t'' hRest => hRest.trans ?_
    exact (hFirst.append_right as).trans List.perm_middle.symm

/-- What comes of filling a new table, when no earlier entry is in its id space. -/
theorem AddsTo.fill (h : AddsTo space entry add) (hNew : ∀ e ∈ earlier, e.kind? ≠ space)
    (as : List α) :
    Ends (·.values.Perm as) (faults earlier (as.map entry)) (as.foldlM add .empty) := by
  refine h.run (t := .empty) (fun id => ?_) as
  simp only [Table.ids, Table.empty, List.map_nil, List.not_mem_nil, false_iff, List.mem_map,
    not_exists, not_and]
  exact fun e he hSlot => hNew e he (congrArg Prod.fst hSlot)

end Entry

/-! ### Well-formed content -/

namespace Content

variable (c : Content)

def ids : Kind → List Ident
  | .tag => c.tags.map (·.id)
  | .plotBlock => c.plotBlocks.map (·.id)
  | .condition => c.conditions.map (·.id)

/-- Each id is given once in its id space, tags and plot blocks belong to the fandom, and conditions
to plot blocks of the content. -/
structure WellFormed : Prop where
  tagsOwned : ∀ t ∈ c.tags, t.fandomId = c.fandomId
  plotBlocksOwned : ∀ b ∈ c.plotBlocks, b.fandomId = c.fandomId
  conditionsPlaced : ∀ d ∈ c.conditions, d.plotBlockId ∈ c.ids .plotBlock
  ids : ∀ kind, (c.ids kind).Nodup
  classIds : (c.tagClasses.map (·.id)).Nodup

def ownedEntry (kind : Kind) (id owner : Ident) : Entry where
  kind? := some kind
  id := id
  refusal? := if owner = c.fandomId then none else some (.foreign kind id owner c.fandomId)

def tagEntry (t : Tag) : Entry := c.ownedEntry .tag t.id t.fandomId

def classEntry (k : TagClass) : Entry := ⟨none, k.id, none⟩

def plotBlockEntry (b : PlotBlock) : Entry := c.ownedEntry .plotBlock b.id b.fandomId

def conditionEntry (d : Condition) : Entry where
  kind? := some .condition
  id := d.id
  refusal? :=
    if d.plotBlockId ∈ c.ids .plotBlock then none else some (.unknownPlotBlock d.plotBlockId)

/-- The entries of some content, in the order in which they are checked. -/
def entries : List Entry :=
  c.tags.map c.tagEntry ++ (c.tagClasses.map classEntry
    ++ (c.plotBlocks.map c.plotBlockEntry ++ c.conditions.map c.conditionEntry))

/-- What is wrong with each entry at fault, in their order. -/
def faults : List ContentError := Entry.faults [] c.entries

variable {c}

theorem slots_entries : c.entries.map Entry.slot =
    (c.ids .tag).map (Prod.mk (some .tag)) ++ ((c.tagClasses.map (·.id)).map (Prod.mk none)
      ++ ((c.ids .plotBlock).map (Prod.mk (some .plotBlock))
        ++ (c.ids .condition).map (Prod.mk (some .condition)))) := by
  simp only [entries, ids, List.map_append, List.map_map]
  rfl

/-- In different id spaces even the same ids do not clash. -/
theorem disjoint_slots {space space' : Option Kind} (h : space ≠ space') (ids ids' : List Ident) :
    (ids.map (Prod.mk space)).Disjoint (ids'.map (Prod.mk space')) := by
  intro slot hMem hMem'
  obtain ⟨id, -, rfl⟩ := List.mem_map.1 hMem
  obtain ⟨id', -, hSlot⟩ := List.mem_map.1 hMem'
  exact h (congrArg Prod.fst hSlot).symm

theorem nodup_slots_entries : (c.entries.map Entry.slot).Nodup ↔
    (∀ kind, (c.ids kind).Nodup) ∧ (c.tagClasses.map (·.id)).Nodup := by
  have hSpace (space : Option Kind) : Function.Injective (Prod.mk (β := Ident) space) :=
    fun _ _ h => congrArg Prod.snd h
  have hKinds : (∀ kind, (c.ids kind).Nodup) ↔
      (c.ids .tag).Nodup ∧ (c.ids .plotBlock).Nodup ∧ (c.ids .condition).Nodup :=
    ⟨fun h => ⟨h _, h _, h _⟩, fun ⟨h, h', h''⟩ kind => by cases kind <;> assumption⟩
  rw [slots_entries, hKinds]
  simp only [List.nodup_append', List.disjoint_append_right, List.nodup_map_iff (hSpace _),
    disjoint_slots, ne_eq, reduceCtorEq, Option.some.injEq, not_false_eq_true, and_true]
  tauto

theorem faults_eq_nil_iff : c.faults = [] ↔ c.WellFormed := by
  have hPlaced : (∀ e ∈ c.entries, e.refusal? = none) ↔
      (∀ t ∈ c.tags, t.fandomId = c.fandomId) ∧ (∀ b ∈ c.plotBlocks, b.fandomId = c.fandomId) ∧
        ∀ d ∈ c.conditions, d.plotBlockId ∈ c.ids .plotBlock := by
    simp [entries, tagEntry, plotBlockEntry, ownedEntry, classEntry, conditionEntry, or_imp,
      forall_and]
  rw [faults, Entry.faults_eq_nil, nodup_slots_entries, hPlaced]
  constructor
  · rintro ⟨⟨hTags, hBlocks, hConditions⟩, ⟨hIds, hClasses⟩, -⟩
    exact ⟨hTags, hBlocks, hConditions, hIds, hClasses⟩
  · intro h
    exact ⟨⟨h.tagsOwned, h.plotBlocksOwned, h.conditionsPlaced⟩, ⟨h.ids, h.classIds⟩, by simp⟩

end Content

/-! ### The graph of some content -/

namespace Graph

variable {g g' : Graph} {c : Content}

theorem pairwise_ids (g : Graph) (kind : Kind) : (g.ids kind).Pairwise (· < ·) := by
  cases kind with
  | tag => exact g.tags.pairwise_ids
  | plotBlock => exact g.plotBlocks.pairwise_ids
  | condition => exact g.conditions.pairwise_ids

/-- The graph holds what is written in some content and nothing else. -/
structure Holds (g : Graph) (c : Content) : Prop where
  fandomId : g.fandomId = c.fandomId
  tag : ∀ id t, g.tags.get? id = some t ↔ t ∈ c.tags ∧ t.id = id
  tagClass : ∀ id k, g.tagClasses.get? id = some k ↔ k ∈ c.tagClasses ∧ k.id = id
  plotBlock : ∀ id b, g.plotBlocks.get? id = some b ↔ b ∈ c.plotBlocks ∧ b.id = id
  condition : ∀ id d, g.conditions.get? id = some d ↔ d ∈ c.conditions ∧ d.id = id
  ascending : ∀ kind, (g.ids kind).Pairwise (· < ·)
  ids : ∀ kind id, id ∈ g.ids kind ↔ id ∈ c.ids kind
  templates : g.templates = c.templates

theorem Holds.unique (h : g.Holds c) (h' : g'.Holds c) : g = g' := by
  have hTags : g.tags = g'.tags := Table.eq_of_get?_eq fun id =>
    Option.ext fun t => (h.tag id t).trans (h'.tag id t).symm
  have hClasses : g.tagClasses = g'.tagClasses := Table.eq_of_get?_eq fun id =>
    Option.ext fun k => (h.tagClass id k).trans (h'.tagClass id k).symm
  have hBlocks : g.plotBlocks = g'.plotBlocks := Table.eq_of_get?_eq fun id =>
    Option.ext fun b => (h.plotBlock id b).trans (h'.plotBlock id b).symm
  have hConditions : g.conditions = g'.conditions := Table.eq_of_get?_eq fun id =>
    Option.ext fun d => (h.condition id d).trans (h'.condition id d).symm
  cases g
  cases g'
  simp only [mk.injEq]
  exact ⟨h.fandomId.trans h'.fandomId.symm, hTags, hClasses, hBlocks, hConditions,
    h.templates.trans h'.templates.symm⟩

theorem addsTo_owned {α : Type} [Keyed α] (c : Content) (kind : Kind) (owner : α → Ident) :
    Entry.AddsTo (some kind) (fun a : α => c.ownedEntry kind (key a) (owner a)) fun t a => do
      checkOwner kind (key a) (owner a) c.fandomId
      addNew (.duplicate kind) t a where
  slot _ := rfl
  refused t a error hError := by
    obtain ⟨hOther, hForeign⟩ := Option.mem_ite_none_left.1 hError
    obtain rfl := Option.mem_some.1 hForeign
    rw [checkOwner, if_neg hOther]
    rfl
  admitted t a hOwn := by
    have hOwner : owner a = c.fandomId := by simpa [Content.ownedEntry] using hOwn
    rw [checkOwner, if_pos hOwner]
    rfl

theorem addsTo_tag (c : Content) : Entry.AddsTo (some .tag) c.tagEntry (addTag c.fandomId) :=
  addsTo_owned c .tag Tag.fandomId

theorem addsTo_plotBlock (c : Content) :
    Entry.AddsTo (some .plotBlock) c.plotBlockEntry (addPlotBlock c.fandomId) :=
  addsTo_owned c .plotBlock PlotBlock.fandomId

theorem addsTo_class : Entry.AddsTo none Content.classEntry (addNew .duplicateClass) where
  slot _ := rfl
  refused _ _ _ hError := by cases hError
  admitted _ _ _ := rfl

theorem addsTo_condition {blocks : Table PlotBlock} (h : blocks.values.Perm c.plotBlocks) :
    Entry.AddsTo (some .condition) c.conditionEntry (addCondition blocks) where
  slot _ := rfl
  refused t d error hError := by
    obtain ⟨hUnknown, hOrphan⟩ := Option.mem_ite_none_left.1 hError
    obtain rfl := Option.mem_some.1 hOrphan
    have hMissing : ¬blocks.contains d.plotBlockId = true := fun hKnown =>
      hUnknown ((h.map key).mem_iff.1 (Table.mem_ids.2 hKnown))
    rw [addCondition, if_neg hMissing]
  admitted t d hPlaced := by
    have hListed : d.plotBlockId ∈ c.ids .plotBlock := by
      simpa [Content.conditionEntry] using hPlaced
    have hKnown : blocks.contains d.plotBlockId = true :=
      Table.mem_ids.1 ((h.map key).mem_iff.2 hListed)
    rw [addCondition, if_pos hKnown]
    rfl

/-- Content is refused for the first of its faults, and without faults makes the graph that holds
it. -/
theorem ends_ofContent (c : Content) : Ends (Holds · c) c.faults (ofContent c) := by
  rw [Content.faults, Content.entries, Entry.faults_append, Entry.faults_append,
    Entry.faults_append, ofContent]
  -- before each list there are entries of other id spaces only
  refine ((addsTo_tag c).fill ?_ c.tags).bind fun tags hTags => ?_
  · simp
  refine (addsTo_class.fill ?_ c.tagClasses).bind fun tagClasses hClasses => ?_
  · simp [Content.tagEntry, Content.ownedEntry]
  refine ((addsTo_plotBlock c).fill ?_ c.plotBlocks).bind fun plotBlocks hBlocks => ?_
  · simp [Content.tagEntry, Content.ownedEntry, Content.classEntry, or_imp, forall_and]
  refine ((addsTo_condition hBlocks).fill ?_ c.conditions).map fun conditions hConditions => ?_
  · simp [Content.tagEntry, Content.plotBlockEntry, Content.ownedEntry, Content.classEntry,
      or_imp, forall_and]
  exact {
    fandomId := rfl
    tag := fun _ _ => Table.get?_of_perm hTags
    tagClass := fun _ _ => Table.get?_of_perm hClasses
    plotBlock := fun _ _ => Table.get?_of_perm hBlocks
    condition := fun _ _ => Table.get?_of_perm hConditions
    ascending := pairwise_ids _
    ids := fun
      | .tag, _ => (hTags.map key).mem_iff
      | .plotBlock, _ => (hBlocks.map key).mem_iff
      | .condition, _ => (hConditions.map key).mem_iff
    templates := rfl }

theorem exists_ofContent_iff : (∃ g, ofContent c = .ok g) ↔ c.WellFormed :=
  (ends_ofContent c).exists_ok_iff.trans Content.faults_eq_nil_iff

theorem ofContent_eq_ok : ofContent c = .ok g ↔ c.WellFormed ∧ g.Holds c := by
  constructor
  · intro h
    exact ⟨exists_ofContent_iff.1 ⟨g, h⟩, (ends_ofContent c).of_eq_ok h⟩
  · rintro ⟨hWellFormed, hHolds⟩
    obtain ⟨g', hg'⟩ := exists_ofContent_iff.2 hWellFormed
    rw [hg', ((ends_ofContent c).of_eq_ok hg').unique hHolds]

/-- Content makes a graph exactly if it is well formed, and the graph is then the one that holds it.
Other content is refused for what is wrong with its first entry at fault. -/
theorem ofContent_lossless (c : Content) :
    ((∃ g, ofContent c = .ok g) ↔ c.WellFormed) ∧
    (∀ g, ofContent c = .ok g ↔ c.WellFormed ∧ g.Holds c) ∧
    ∀ error, ofContent c = .error error ↔ c.faults.head? = some error :=
  ⟨exists_ofContent_iff, fun _ => ofContent_eq_ok, fun _ => (ends_ofContent c).eq_error_iff⟩

/-- A condition without a plot block and a repeated tag of another fandom: that it is foreign is
found first, and that it is repeated not at all. -/
example : Content.faults {
    fandomId := 1
    tags := [
      { id := 1, name := "first", category := "mood", fandomId := 1 },
      { id := 1, name := "second", category := "mood", fandomId := 2 }]
    conditions := [{ id := 1, plotBlockId := 9, name := "eve" }] } =
      [.foreign .tag 1 2 1, .unknownPlotBlock 9] := by decide

end Graph

end StoryRules
