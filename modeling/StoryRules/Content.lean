import StoryRules.Entity
import StoryRules.TagClass
import StoryRules.Template

/-! Everything that is known about one fandom, as lists in the order in which it was written. -/

namespace StoryRules

structure Content where
  fandomId : Ident
  tags : List Tag := []
  tagClasses : List TagClass := []
  plotBlocks : List PlotBlock := []
  conditions : List Condition := []
  templates : List Template := []
  deriving DecidableEq, Repr

namespace Content

def toJson (c : Content) : Json :=
  .obj [("fandom_id", c.fandomId.toJson), ("tags", Json.ofList Tag.toJson c.tags),
    ("tag_classes", Json.ofList TagClass.toJson c.tagClasses),
    ("plot_blocks", Json.ofList PlotBlock.toJson c.plotBlocks),
    ("conditions", Json.ofList Condition.toJson c.conditions),
    ("warning_templates", Json.ofList Template.toJson c.templates)]

def ofJson? (j : Json) : Option Content := do
  let fields ← j.fields?
  return {
    fandomId := ← fields.required "fandom_id" Ident.ofJson?
    tags := ← fields.optional "tags" (Json.list? Tag.ofJson?) []
    tagClasses := ← fields.optional "tag_classes" (Json.list? TagClass.ofJson?) []
    plotBlocks := ← fields.optional "plot_blocks" (Json.list? PlotBlock.ofJson?) []
    conditions := ← fields.optional "conditions" (Json.list? Condition.ofJson?) []
    templates := ← fields.optional "warning_templates" (Json.list? Template.ofJson?) [] }

end Content

end StoryRules
