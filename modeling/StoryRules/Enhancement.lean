import StoryRules.Report
import StoryRules.Selection
import StoryRules.Distinct

/-! Enhancements: plot blocks that would enrich a selection, and tags and conditions that the
selected ones unlock. Only known entities that are not selected are suggested, each once. -/

namespace StoryRules

inductive Impact where
  /-- A selected block lists it among those it enhances. -/
  | recommended
  /-- A selected block is among those that enable it. -/
  | enhancement
  deriving DecidableEq, Repr

/-- A plot block worth adding, and the selected id that made it so. -/
structure Enhancement where
  id : Ident
  name : String
  impact : Impact
  source : Ident
  reason : String
  deriving DecidableEq, Repr

namespace Graph

/-- What the present blocks list as enhanced, block after block. -/
def recommended (g : Graph) (s : Selection) : List Enhancement :=
  (g.present s .plotBlock).flatMap fun source =>
    (g.listed .plotBlock source Entity.enhances).filterMap fun id =>
      if s.has .plotBlock id then none
      else (g.plotBlocks.get? id).map fun target =>
        let name := g.nameOf .plotBlock source
        { id, name := target.name, impact := .recommended, source
          reason := s!"\"{name}\" is enhanced by \"{target.name}\"" }

/-- The blocks that are enabled by a selected id, ascending, each with the first such id. -/
def enabled (g : Graph) (s : Selection) : List Enhancement :=
  g.plotBlocks.values.filterMap fun block =>
    if s.has .plotBlock block.id then none
    else (block.enabledBy.find? (s.has .plotBlock)).map fun source =>
      let name := g.nameOf .plotBlock source
      { id := block.id, name := block.name, impact := .enhancement, source
        reason := s!"\"{block.name}\" is unlocked by \"{name}\"" }

/-- All enhancements of a selection; a block that is both recommended and enabled is recommended. -/
def enhancements (g : Graph) (s : Selection) : List Enhancement :=
  distinctOn Enhancement.id (g.recommended s ++ g.enabled s)

/-- The known entities of a kind that `list` names for the present ones and that are not selected,
each with the entity that names it first. -/
def unlocked (g : Graph) (s : Selection) (kind : Kind) (list : Entity → List Ident) :
    List (Ident × Ident) :=
  distinctOn Prod.snd <| (g.present s kind).flatMap fun source =>
    ((g.listed kind source list).filter fun target =>
      !s.has kind target && g.contains kind target).map (Prod.mk source)

def tagUnlock (g : Graph) (source target : Ident) : Suggestion :=
  let name := g.nameOf .tag target
  let other := g.nameOf .tag source
  { issue := .tagEnhancement
    message := s!"\"{name}\" pairs well with \"{other}\""
    action := .add
    target := some target }

def conditionUnlock (g : Graph) (source target : Ident) : Suggestion :=
  let name := g.nameOf .condition target
  let other := g.nameOf .condition source
  { issue := .featureUnlock
    message := s!"\"{name}\" is unlocked by \"{other}\""
    action := .add
    target := some target }

def unlocks (g : Graph) (s : Selection) : List Suggestion :=
  (g.unlocked s .tag Entity.enhances).map (fun (source, target) => g.tagUnlock source target)
    ++ (g.unlocked s .condition Entity.enables).map
      fun (source, target) => g.conditionUnlock source target

end Graph

def Enhancement.suggestion (e : Enhancement) : Suggestion where
  issue := .plotEnhancement
  message := e.reason
  action := .add
  target := some e.id

def Graph.enhancementFindings (g : Graph) (s : Selection) : List Finding :=
  (g.enhancements s).map (.suggestion ·.suggestion) ++ (g.unlocks s).map .suggestion

namespace Impact

def name : Impact → String
  | recommended => "recommended"
  | enhancement => "enhancement"

def toJson (i : Impact) : Json := .str i.name

def ofJson? (j : Json) : Option Impact := j.oneOf? name [recommended, enhancement]

end Impact

namespace Enhancement

def toJson (e : Enhancement) : Json :=
  .obj [("id", e.id.toJson), ("name", .str e.name), ("impact", e.impact.toJson),
    ("source_id", e.source.toJson), ("reason", .str e.reason)]

def ofJson? (j : Json) : Option Enhancement := do
  let fields ← j.fields?
  return {
    id := ← fields.required "id" Ident.ofJson?
    name := ← fields.required "name" Json.str?
    impact := ← fields.required "impact" Impact.ofJson?
    source := ← fields.required "source_id" Ident.ofJson?
    reason := ← fields.required "reason" Json.str? }

end Enhancement

end StoryRules
