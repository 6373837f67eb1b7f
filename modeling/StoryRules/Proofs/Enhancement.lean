import StoryRules.Enhancement
import StoryRules.Proofs.Distinct

/-! The plot blocks that are suggested for a selection: those that a chosen block enhances, each
once, and then those that a chosen one enables. Blocks, tags and conditions are suggested source by
source. -/

namespace StoryRules

def PlotBlock.enabler (block : PlotBlock) (g : Graph) (chosen : Ident → Bool) : Option String :=
  (block.enabledBy.find? chosen).map (g.nameOf .plotBlock)

def PlotBlock.unlock (block : PlotBlock) (enabler : String) : Suggestion where
  issue := .plotEnhancement
  message := s!"\"{block.name}\" is unlocked by \"{enabler}\""
  action := .add
  target := some block.id

theorem PlotBlock.unlock_injective (block : PlotBlock) : Function.Injective block.unlock := by
  intro name name' h
  show toString name = toString name'
  simpa [unlock] using congrArg Suggestion.message h

namespace Graph

variable {g : Graph} {s s' : Selection}

/-- What a present block recommends. -/
def recommendedBy (g : Graph) (s : Selection) (source : Ident) : List Enhancement :=
  (g.listed .plotBlock source Entity.enhances).filterMap fun id =>
    if s.has .plotBlock id then none
    else (g.plotBlocks.get? id).map fun target =>
      let name := g.nameOf .plotBlock source
      { id, name := target.name, impact := .recommended, source
        reason := s!"\"{name}\" is enhanced by \"{target.name}\"" }

theorem recommended_eq (g : Graph) (s : Selection) :
    g.recommended s = (g.present s .plotBlock).flatMap (g.recommendedBy s) := rfl

/-- What a present entity makes available, with the entity itself. -/
def unlockedBy (g : Graph) (s : Selection) (kind : Kind) (list : Entity → List Ident)
    (source : Ident) : List (Ident × Ident) :=
  ((g.listed kind source list).filter fun target =>
    !s.has kind target && g.contains kind target).map (Prod.mk source)

theorem unlocked_eq (g : Graph) (s : Selection) (kind : Kind) (list : Entity → List Ident) :
    g.unlocked s kind list =
      distinctOn Prod.snd ((g.present s kind).flatMap (g.unlockedBy s kind list)) := rfl

/-- The suggestion to add a block because a chosen one enables it, unless it is recommended. -/
def unlock? (g : Graph) (s : Selection) (block : PlotBlock) : Option Suggestion :=
  if s.has .plotBlock block.id || ((g.recommended s).map Enhancement.id).contains block.id then none
  else (block.enabler g (s.has .plotBlock)).map block.unlock

def enabled? (g : Graph) (s : Selection) (block : PlotBlock) : Option Enhancement :=
  if s.has .plotBlock block.id then none
  else (block.enabledBy.find? (s.has .plotBlock)).map fun source =>
    let name := g.nameOf .plotBlock source
    { id := block.id, name := block.name, impact := .enhancement, source
      reason := s!"\"{block.name}\" is unlocked by \"{name}\"" }

theorem enabled_eq (g : Graph) (s : Selection) :
    g.enabled s = g.plotBlocks.values.filterMap (g.enabled? s) := rfl

theorem enabled_congr (h : s.has = s'.has) : g.enabled s = g.enabled s' := by
  simp only [enabled, h]

theorem enabled?_id {block : PlotBlock} {e : Enhancement} (h : g.enabled? s block = some e) :
    e.id = block.id := by
  rw [enabled?] at h
  split at h
  · simp at h
  · obtain ⟨source, -, rfl⟩ := Option.map_eq_some_iff.1 h
    rfl

/-- The enhancements are the recommended blocks, each once, and then the other ones that are
enabled. -/
theorem enhancements_eq (g : Graph) (s : Selection) :
    g.enhancements s = distinctOn Enhancement.id (g.recommended s) ++
      (g.enabled s).filter fun e => e.id ∉ (g.recommended s).map Enhancement.id := by
  have hEnabled : ((g.enabled s).map Enhancement.id).Nodup :=
    (map_filterMap_sublist (fun block e h => enabled?_id h) _).nodup g.plotBlocks.nodup_ids
  rw [enhancements, distinctOn_append, distinctOn_of_nodup hEnabled]

/-- The suggested blocks: the recommended ones, then the others that are enabled. -/
theorem enhancements_suggestions (g : Graph) (s : Selection) :
    (g.enhancements s).map Enhancement.suggestion =
      (distinctOn Enhancement.id (g.recommended s)).map Enhancement.suggestion
        ++ g.plotBlocks.values.filterMap (g.unlock? s) := by
  rw [enhancements_eq, List.map_append, enabled_eq, List.filter_filterMap, List.map_filterMap]
  congr 1
  refine List.filterMap_congr fun block _ => ?_
  rw [unlock?, enabled?]
  cases hChosen : s.has .plotBlock block.id with
  | true => rfl
  | false =>
    cases hEnabler : block.enabledBy.find? (s.has .plotBlock) with
    | none => simp [PlotBlock.enabler, hEnabler]
    | some source =>
      -- a suggestion keeps the name of the enabling block and not its id
      rw [if_neg Bool.false_ne_true, Option.map_some, Option.filter_some, PlotBlock.enabler,
        hEnabler]
      by_cases hRecommended : block.id ∈ (g.recommended s).map Enhancement.id
      · rw [if_neg (by simpa using hRecommended), if_pos (by simpa using hRecommended)]
        rfl
      · rw [if_pos (by simpa using hRecommended), if_neg (by simpa using hRecommended)]
        rfl

theorem unlock?_target {block : PlotBlock} {m : Suggestion} (h : g.unlock? s block = some m) :
    m.target = some block.id := by
  rw [unlock?] at h
  split at h
  · simp at h
  · obtain ⟨name, -, rfl⟩ := Option.map_eq_some_iff.1 h
    rfl

end Graph

end StoryRules
