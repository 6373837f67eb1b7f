import Mathlib.Data.Option.Basic
import StoryRules.Proofs.Enhancement

/-! Exactly what is suggested to enrich a selection. A known plot block that is not chosen is
suggested once if a chosen block lists it among those it enhances, and else if it lists a chosen
id among those that enable it; the source is the first chosen block in the one case, and the first
listed id in the other. Tags and conditions are suggested once if a chosen one lists them. So
nothing takes the place of anything else: neither an unknown id, nor one that is chosen, nor what
comes earlier (`enhancements_exact`). -/

namespace StoryRules

/-- A block as it is suggested. -/
def PlotBlock.suggested (block : PlotBlock) (g : Graph) (impact : Impact) (source : Ident) :
    Enhancement :=
  let name := g.nameOf .plotBlock source
  { id := block.id, name := block.name, impact, source
    reason := match impact with
      | .recommended => s!"\"{name}\" is enhanced by \"{block.name}\""
      | .enhancement => s!"\"{block.name}\" is unlocked by \"{name}\"" }

namespace Graph

variable {g : Graph} {s : Selection} {kind : Kind} {list : Entity → List Ident} {target : Ident}

/-- The first chosen id that lists a target; an unknown one lists nothing. -/
def lister? (g : Graph) (s : Selection) (kind : Kind) (list : Entity → List Ident)
    (target : Ident) : Option Ident :=
  (s.ids kind).find? fun source => target ∈ g.listed kind source list

/-- Why a block would enrich a selection: the first chosen block that lists it as enhanced, or else
the first chosen id that it lists as enabling. -/
def inspiration? (g : Graph) (s : Selection) (block : PlotBlock) : Option (Impact × Ident) :=
  match g.lister? s .plotBlock Entity.enhances block.id with
  | some source => some (.recommended, source)
  | none => (block.enabledBy.find? (· ∈ s.plotBlocks)).map (.enhancement, ·)

/-- The target is known and not chosen, and the source is the first chosen id that lists it. -/
def Offers (g : Graph) (s : Selection) (kind : Kind) (list : Entity → List Ident)
    (source target : Ident) : Prop :=
  target ∈ g.ids kind ∧ target ∉ s.ids kind ∧ g.lister? s kind list target = some source

/-- Only what is known lists anything, so that the first id to list a target is present. -/
theorem lister?_eq (g : Graph) (s : Selection) (kind : Kind) (list : Entity → List Ident)
    (target : Ident) : g.lister? s kind list target =
      (g.present s kind).find? fun source => target ∈ g.listed kind source list := by
  unfold lister? present
  rw [List.find?_filter, find?_eraseDups]
  congr 1
  funext source
  unfold listed contains
  cases g.entity? kind source <;> simp

/-- What the first source that lists a target gives, if there is anything to give. -/
theorem findSome?_lister {α β : Type} (o : Option α) (give : α → Ident → β) :
    ((g.present s kind).findSome? fun source =>
      if target ∈ g.listed kind source list then o.map (give · source) else none) =
        o.bind fun a => (g.lister? s kind list target).map (give a) := by
  rw [lister?_eq]
  cases o with
  | none => simp
  | some a =>
    induction g.present s kind with
    | nil => rfl
    | cons source sources ih =>
      rw [List.findSome?_cons, List.find?_cons]
      by_cases hListed : target ∈ g.listed kind source list
      · rw [if_pos hListed, decide_eq_true hListed]
        rfl
      · rw [if_neg hListed, decide_eq_false hListed]
        exact ih

/-- What is read off a list of ids, when it keeps the ids. -/
theorem find?_filterMap_id {β : Type} {f : Ident → Option β} {key : β → Ident}
    (hKey : ∀ id b, f id = some b → key b = id) (ids : List Ident) (target : Ident) :
    ((ids.filterMap f).find? fun b => key b = target) =
      if target ∈ ids then f target else none := by
  have hId : ∀ listed b, f listed = some b → key b = id listed := hKey
  rw [find?_filterMap_key hId fun _ _ _ _ hSame => hSame]
  cases hFound : ids.find? fun listed => id listed = target with
  | none =>
    have hAbsent : target ∉ ids := by
      intro hListed
      simpa using List.find?_eq_none.1 hFound target hListed
    rw [if_neg hAbsent]
    rfl
  | some listed =>
    obtain rfl : listed = target := by simpa using List.find?_some hFound
    rw [if_pos (List.mem_of_find?_eq_some hFound)]
    rfl

/-! ### Plot blocks -/

/-- The block with an id, if it is known and not chosen. -/
def unchosen? (g : Graph) (s : Selection) (id : Ident) : Option PlotBlock :=
  if s.has .plotBlock id then none else g.plotBlocks.get? id

theorem unchosen?_eq_some {id : Ident} {block : PlotBlock} : g.unchosen? s id = some block ↔
    block ∈ g.plotBlocks.values ∧ block.id ∉ s.plotBlocks ∧ block.id = id := by
  unfold unchosen?
  rw [Option.ite_none_left_eq_some, Table.get?_eq_some, Selection.has_iff]
  constructor
  · rintro ⟨hUnchosen, hBlock, rfl⟩
    exact ⟨hBlock, hUnchosen, rfl⟩
  · rintro ⟨hBlock, hUnchosen, rfl⟩
    exact ⟨hUnchosen, hBlock, rfl⟩

theorem recommendedBy_eq (g : Graph) (s : Selection) (source : Ident) :
    g.recommendedBy s source =
      (g.listed .plotBlock source Entity.enhances).filterMap fun id =>
        (g.unchosen? s id).map fun block => block.suggested g .recommended source := by
  unfold recommendedBy
  apply List.filterMap_congr
  intro id _
  unfold unchosen?
  split
  · rfl
  · cases hGet : g.plotBlocks.get? id with
    | none => rfl
    | some block =>
      obtain rfl : block.id = id := (Table.get?_eq_some.1 hGet).2
      rfl

theorem find?_recommendedBy (g : Graph) (s : Selection) (source target : Ident) :
    ((g.recommendedBy s source).find? fun e => e.id = target) =
      if target ∈ g.listed .plotBlock source Entity.enhances then
        (g.unchosen? s target).map fun block => block.suggested g .recommended source
      else none := by
  rw [recommendedBy_eq]
  apply find?_filterMap_id
  intro id e he
  obtain ⟨block, hBlock, rfl⟩ := Option.map_eq_some_iff.1 he
  exact (unchosen?_eq_some.1 hBlock).2.2

theorem find?_recommended (g : Graph) (s : Selection) (target : Ident) :
    ((g.recommended s).find? fun e => e.id = target) =
      (g.unchosen? s target).bind fun block =>
        (g.lister? s .plotBlock Entity.enhances target).map (block.suggested g .recommended) := by
  rw [recommended_eq, List.find?_flatMap]
  simp only [find?_recommendedBy]
  exact findSome?_lister (g.unchosen? s target) fun block => block.suggested g .recommended

theorem has_plotBlock_eq (s : Selection) :
    s.has .plotBlock = fun id => decide (id ∈ s.plotBlocks) := by
  funext id
  rw [Bool.eq_iff_iff, Selection.has_iff, decide_eq_true_iff]
  rfl

theorem find?_enabled (g : Graph) (s : Selection) (target : Ident) :
    ((g.enabled s).find? fun e => e.id = target) =
      (g.unchosen? s target).bind fun block =>
        (block.enabledBy.find? (s.has .plotBlock)).map (block.suggested g .enhancement) := by
  have hKey : ∀ block e, g.enabled? s block = some e → e.id = key block :=
    fun block e h => enabled?_id h
  have hFound : ((g.enabled s).find? fun e => e.id = target) =
      (g.plotBlocks.get? target).bind (g.enabled? s) := by
    apply find?_filterMap_key hKey
    intro block hBlock block' hBlock' hSame
    exact g.plotBlocks.eq_of_key_eq hBlock hBlock' hSame
  rw [hFound]
  unfold unchosen?
  cases hGet : g.plotBlocks.get? target with
  | none => simp
  | some block =>
    obtain rfl : block.id = target := (Table.get?_eq_some.1 hGet).2
    rw [Option.bind_some, enabled?]
    split <;> rfl

theorem mem_enhancements {e : Enhancement} : e ∈ g.enhancements s ↔
    ∃ block ∈ g.plotBlocks.values, block.id ∉ s.plotBlocks ∧
      ∃ impact source, g.inspiration? s block = some (impact, source) ∧
        block.suggested g impact source = e := by
  have hFound : ((g.recommended s ++ g.enabled s).find? fun other => other.id = e.id) =
      (g.unchosen? s e.id).bind fun block =>
        (g.inspiration? s block).map fun inspired => block.suggested g inspired.1 inspired.2 := by
    rw [List.find?_append, find?_recommended, find?_enabled]
    cases hBlock : g.unchosen? s e.id with
    | none => rfl
    | some block =>
      rw [Option.bind_some, Option.bind_some, Option.bind_some, inspiration?,
        (unchosen?_eq_some.1 hBlock).2.2]
      cases g.lister? s .plotBlock Entity.enhances e.id with
      | some source => rfl
      | none =>
        rw [has_plotBlock_eq, Option.map_none, Option.none_or, Option.map_map]
        rfl
  unfold enhancements
  rw [mem_distinctOn, hFound]
  simp only [Option.bind_eq_some_iff, Option.map_eq_some_iff, unchosen?_eq_some, Prod.exists]
  constructor
  · rintro ⟨block, ⟨hBlock, hUnchosen, -⟩, hInspired⟩
    exact ⟨block, hBlock, hUnchosen, hInspired⟩
  · rintro ⟨block, hBlock, hUnchosen, impact, source, hInspired, rfl⟩
    exact ⟨block, ⟨hBlock, hUnchosen, rfl⟩, impact, source, hInspired, rfl⟩

/-! ### Tags and conditions -/

theorem find?_unlockedBy (g : Graph) (s : Selection) (kind : Kind) (list : Entity → List Ident)
    (source target : Ident) :
    ((g.unlockedBy s kind list source).find? fun pair => pair.2 = target) =
      if target ∈ g.listed kind source list then
        (Option.guard (fun id => !s.has kind id && g.contains kind id) target).map (Prod.mk source)
      else none := by
  have hPairs : g.unlockedBy s kind list source = (g.listed kind source list).filterMap fun id =>
      (Option.guard (fun id => !s.has kind id && g.contains kind id) id).map (Prod.mk source) := by
    unfold unlockedBy
    rw [← List.filterMap_eq_filter, List.map_filterMap]
  rw [hPairs]
  apply find?_filterMap_id
  intro id pair hPair
  obtain ⟨id', hId, rfl⟩ := Option.map_eq_some_iff.1 hPair
  exact (Option.guard_eq_some_iff.1 hId).1.symm

theorem mem_unlocked {source : Ident} :
    (source, target) ∈ g.unlocked s kind list ↔ g.Offers s kind list source target := by
  rw [unlocked_eq, mem_distinctOn, List.find?_flatMap]
  simp only [find?_unlockedBy]
  rw [findSome?_lister _ fun id source => (source, id), Option.bind_eq_some_iff]
  have hFree : (!s.has kind target && g.contains kind target) = true ↔
      target ∈ g.ids kind ∧ target ∉ s.ids kind := by
    rw [Bool.and_eq_true, Bool.not_eq_true', ← Bool.not_eq_true, Selection.has_iff, ← mem_ids,
      and_comm]
  constructor
  · rintro ⟨id, hId, hPair⟩
    obtain ⟨source', hSource, hSame⟩ := Option.map_eq_some_iff.1 hPair
    cases hSame
    obtain ⟨hKnown, hUnchosen⟩ := hFree.1 (Option.guard_eq_some_iff.1 hId).2
    exact ⟨hKnown, hUnchosen, hSource⟩
  · rintro ⟨hKnown, hUnchosen, hSource⟩
    refine ⟨target, Option.guard_eq_some_iff.2 ⟨rfl, hFree.2 ⟨hKnown, hUnchosen⟩⟩, ?_⟩
    rw [hSource]
    rfl

/-- Some suggestions are those to add what is offered, each once. -/
structure Unlocks (g : Graph) (s : Selection) (kind : Kind) (list : Entity → List Ident)
    (say : Ident → Ident → Suggestion) (ms : List Suggestion) : Prop where
  once : (ms.map (·.target)).Nodup
  exact : ∀ m, m ∈ ms ↔ ∃ source target, g.Offers s kind list source target ∧ say source target = m

theorem unlocks_unlocked {say : Ident → Ident → Suggestion}
    (hTarget : ∀ source target, (say source target).target = some target) :
    g.Unlocks s kind list say
      ((g.unlocked s kind list).map fun (source, target) => say source target) := by
  constructor
  · rw [List.map_map]
    have hNodup : ((g.unlocked s kind list).map Prod.snd).Nodup := nodup_map_distinctOn _ _
    have hTargets := hNodup.map (Option.some_injective Ident)
    rw [List.map_map] at hTargets
    convert hTargets using 2
    funext pair
    exact hTarget pair.1 pair.2
  · intro m
    simp only [List.mem_map, Prod.exists, mem_unlocked]

/-! ### The order of blocks -/

theorem impact_of_mem_recommended {e : Enhancement} (he : e ∈ g.recommended s) :
    e.impact = .recommended := by
  rw [recommended_eq, List.mem_flatMap] at he
  obtain ⟨source, -, he⟩ := he
  rw [recommendedBy_eq, List.mem_filterMap] at he
  obtain ⟨id, -, he⟩ := he
  obtain ⟨block, -, rfl⟩ := Option.map_eq_some_iff.1 he
  rfl

theorem impact_of_mem_enabled {e : Enhancement} (he : e ∈ g.enabled s) :
    e.impact = .enhancement := by
  rw [enabled_eq, List.mem_filterMap] at he
  obtain ⟨block, -, he⟩ := he
  rw [enabled?, Option.ite_none_left_eq_some] at he
  obtain ⟨source, -, rfl⟩ := Option.map_eq_some_iff.1 he.2
  rfl

theorem pairwise_enabled (g : Graph) (s : Selection) :
    (g.enabled s).Pairwise fun e e' => e.id < e'.id := by
  rw [enabled_eq, List.pairwise_filterMap]
  apply g.plotBlocks.ascending.imp
  intro block block' hLt e he e' he'
  rw [enabled?_id he, enabled?_id he']
  exact hLt

/-- The enhancements are those known plot blocks that are not chosen and have an inspiration, each
once; the recommended ones come before the others, and the others in ascending order. The other
suggestions are those known tags that are not chosen and that a chosen tag enhances, each once, and
then those conditions that a chosen one enables. -/
theorem enhancements_exact (g : Graph) (s : Selection) :
    (∃ recommended others, g.enhancements s = recommended ++ others ∧
      (∀ e ∈ recommended, e.impact = .recommended) ∧ (∀ e ∈ others, e.impact = .enhancement) ∧
      others.Pairwise fun e e' => e.id < e'.id) ∧
    ((g.enhancements s).map Enhancement.id).Nodup ∧
    (∀ e, e ∈ g.enhancements s ↔ ∃ block ∈ g.plotBlocks.values, block.id ∉ s.plotBlocks ∧
      ∃ impact source, g.inspiration? s block = some (impact, source) ∧
        block.suggested g impact source = e) ∧
    ∃ tags conditions, g.unlocks s = tags ++ conditions ∧
      g.Unlocks s .tag Entity.enhances g.tagUnlock tags ∧
      g.Unlocks s .condition Entity.enables g.conditionUnlock conditions := by
  refine ⟨⟨_, _, g.enhancements_eq s, ?_, ?_, ?_⟩, nodup_map_distinctOn _ _,
    fun e => mem_enhancements, _, _, rfl, ?_, ?_⟩
  · intro e he
    exact impact_of_mem_recommended (mem_of_mem_distinctOn he)
  · intro e he
    exact impact_of_mem_enabled (List.mem_filter.1 he).1
  · exact (g.pairwise_enabled s).filter _
  · exact unlocks_unlocked fun source target => rfl
  · exact unlocks_unlocked fun source target => rfl

/-- A block that two others enhance and one of them enables, one that a chosen block enables after
one that is not chosen, and one that only an unknown block enables; what is chosen, or unknown, is
listed too. -/
def crossing : Graph where
  fandomId := 1
  tags := (Table.empty.insert
    { id := 1, name := "calm", category := "mood", fandomId := 1,
      enhances := [2, 1, 404] : Tag }).insert
    { id := 2, name := "grim", category := "mood", fandomId := 1 }
  plotBlocks := ((((Table.empty.insert
    { id := 1, name := "arrival", category := "plot", fandomId := 1,
      enhances := [2, 3, 404] : PlotBlock }).insert
    { id := 2, name := "storm", category := "plot", fandomId := 1, enhances := [3, 3] }).insert
    { id := 3, name := "rescue", category := "plot", fandomId := 1, enabledBy := [1] }).insert
    { id := 5, name := "wreck", category := "plot", fandomId := 1, enabledBy := [404] }).insert
    { id := 4, name := "escape", category := "plot", fandomId := 1, enabledBy := [5, 1, 2] }
  conditions := (Table.empty.insert
    { id := 1, plotBlockId := 1, name := "open", enables := [2, 1] : Condition }).insert
    { id := 2, plotBlockId := 1, name := "closed", enables := [1] }

/-- Two blocks, one of them twice, a tag and a condition, and an unknown block. -/
def arrivals : Selection :=
  { fandomId := 1, tags := [1], plotBlocks := [404, 2, 1, 2], conditions := [1] }

theorem crossing_exact :
    (crossing.enhancements arrivals).map (fun e => (e.id, e.impact, e.source)) =
      [(3, .recommended, 2), (4, .enhancement, 1), (5, .enhancement, 404)] ∧
    (crossing.unlocks arrivals).map (fun m => (m.issue, m.target)) =
      [(.tagEnhancement, some 2), (.featureUnlock, some 2)] ∧
    ∃ recommended others, crossing.enhancements arrivals = recommended ++ others ∧
      (∀ e ∈ recommended, e.impact = .recommended) ∧ (∀ e ∈ others, e.impact = .enhancement) ∧
      others.Pairwise fun e e' => e.id < e'.id :=
  ⟨by decide +kernel, by decide +kernel, (enhancements_exact crossing arrivals).1⟩

end Graph

end StoryRules
