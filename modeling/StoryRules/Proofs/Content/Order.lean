import StoryRules.Proofs.Content
import StoryRules.Snapshot

/-! The order in which content is written. A graph keeps its entities by their ids, so the order of
tags, tag classes, plot blocks and conditions does not matter: content that lists the same ones in
another order makes the same graph, or is refused too (`ofContent_eq_ok_iff`). -/

namespace StoryRules

namespace Content

/-- The same is written for the same fandom, in whatever order; only templates keep theirs. -/
structure Reorders (c c' : Content) : Prop where
  fandomId : c.fandomId = c'.fandomId
  tags : c.tags.Perm c'.tags
  tagClasses : c.tagClasses.Perm c'.tagClasses
  plotBlocks : c.plotBlocks.Perm c'.plotBlocks
  conditions : c.conditions.Perm c'.conditions
  templates : c.templates = c'.templates

namespace Reorders

variable {c c' : Content} (h : c.Reorders c')

include h

theorem symm : c'.Reorders c :=
  ⟨h.fandomId.symm, h.tags.symm, h.tagClasses.symm, h.plotBlocks.symm, h.conditions.symm,
    h.templates.symm⟩

theorem ids (kind : Kind) : (c.ids kind).Perm (c'.ids kind) := by
  cases kind with
  | tag => exact h.tags.map Tag.id
  | plotBlock => exact h.plotBlocks.map PlotBlock.id
  | condition => exact h.conditions.map Condition.id

theorem wellFormed (hc : c.WellFormed) : c'.WellFormed where
  tagsOwned t ht := (hc.tagsOwned t (h.tags.mem_iff.2 ht)).trans h.fandomId
  plotBlocksOwned b hb := (hc.plotBlocksOwned b (h.plotBlocks.mem_iff.2 hb)).trans h.fandomId
  conditionsPlaced d hd :=
    (h.ids .plotBlock).mem_iff.1 (hc.conditionsPlaced d (h.conditions.mem_iff.2 hd))
  ids kind := (h.ids kind).nodup (hc.ids kind)
  classIds := (h.tagClasses.map TagClass.id).nodup hc.classIds

theorem holds {g : Graph} (hg : g.Holds c) : g.Holds c' where
  fandomId := hg.fandomId.trans h.fandomId
  tag id t := by rw [hg.tag, h.tags.mem_iff]
  tagClass id k := by rw [hg.tagClass, h.tagClasses.mem_iff]
  plotBlock id b := by rw [hg.plotBlock, h.plotBlocks.mem_iff]
  condition id d := by rw [hg.condition, h.conditions.mem_iff]
  ascending := hg.ascending
  ids kind id := by rw [hg.ids, (h.ids kind).mem_iff]
  templates := hg.templates.trans h.templates

end Reorders

end Content

theorem Graph.ofContent_eq_ok_iff {c c' : Content} (h : c.Reorders c') {g : Graph} :
    ofContent c = .ok g ↔ ofContent c' = .ok g := by
  rw [ofContent_eq_ok, ofContent_eq_ok]
  exact ⟨fun ⟨hc, hg⟩ => ⟨h.wellFormed hc, h.holds hg⟩,
    fun ⟨hc, hg⟩ => ⟨h.symm.wellFormed hc, h.symm.holds hg⟩⟩

namespace Snapshot

variable {c c' : Content} {rules : List Rule} {snap snap' : Snapshot}

theorem ofContent_eq_ok_iff (h : c.Reorders c') :
    ofContent c rules = .ok snap ↔ ofContent c' rules = .ok snap := by
  simp only [ofContent, bind_eq_ok, Graph.ofContent_eq_ok_iff h]

/-- Two snapshots answer every question alike. -/
structure SameAnswers (snap snap' : Snapshot) : Prop where
  validate : ∀ settings s, snap.validate settings s = snap'.validate settings s
  checkGraph : snap.checkGraph = snap'.checkGraph
  validatePathway : ∀ settings fandom tags plotBlocks pathway,
    snap.validatePathway settings fandom tags plotBlocks pathway =
      snap'.validatePathway settings fandom tags plotBlocks pathway
  checkConflicts : ∀ (m : Type → Type) [Monad m] (ask : Item → Item → m (Option String)) fandom
    items, snap.checkConflicts ask fandom items = snap'.checkConflicts ask fandom items

theorem SameAnswers.refl (snap : Snapshot) : snap.SameAnswers snap :=
  ⟨fun _ _ => rfl, rfl, fun _ _ _ _ _ => rfl, fun _ _ _ _ _ => rfl⟩

/-- Content in another order is accepted or refused alike, and the snapshots that it makes with the
same rules answer alike. -/
theorem ofContent_reordered (h : c.Reorders c') (rules : List Rule) :
    ((∃ g, Graph.ofContent c = .ok g) ↔ ∃ g, Graph.ofContent c' = .ok g) ∧
    ∀ snap snap', ofContent c rules = .ok snap → ofContent c' rules = .ok snap' →
      snap.SameAnswers snap' := by
  refine ⟨exists_congr fun g => Graph.ofContent_eq_ok_iff h, fun snap snap' hSnap hSnap' => ?_⟩
  rw [ofContent_eq_ok_iff h, hSnap'] at hSnap
  obtain rfl := Except.ok.inj hSnap
  exact .refl snap'

/-- A class with two tags that require each other and conflict, and two nested plot blocks. -/
def tangledContent : Content where
  fandomId := 1
  tags := [
    { id := 2, name := "second", category := "mood", fandomId := 1, classId := some 1,
      requires := [1] },
    { id := 1, name := "first", category := "mood", fandomId := 1, classId := some 1,
      requires := [2] }]
  tagClasses := [{ id := 1, name := "moods", rules.exclusion := some { withinClass := true } }]
  plotBlocks := [
    { id := 1, name := "duel", category := "arc", fandomId := 1, parentId := some 2 },
    { id := 2, name := "feud", category := "arc", fandomId := 1 }]
  conditions := [{ id := 1, plotBlockId := 2, name := "eve" }]

def sortedContent : Content :=
  { tangledContent with
    tags := tangledContent.tags.reverse
    plotBlocks := tangledContent.plotBlocks.reverse }

theorem tangledContent_sorted : tangledContent.Reorders sortedContent ∧
    ∃ snap snap', ofContent tangledContent [] = .ok snap ∧ ofContent sortedContent [] = .ok snap' ∧
      snap.SameAnswers snap' := by
  have hOrder : tangledContent.Reorders sortedContent :=
    ⟨rfl, (List.reverse_perm _).symm, .refl _, (List.reverse_perm _).symm, .refl _, rfl⟩
  refine ⟨hOrder, _, _, rfl, rfl, ?_⟩
  exact (ofContent_reordered hOrder []).2 _ _ rfl rfl

end Snapshot

end StoryRules
