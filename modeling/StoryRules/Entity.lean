import StoryRules.Table

/-! The entities that can be selected: tags, plot blocks and the conditions of plot blocks. Each has
a name and a list of hard requirements, ids of its own kind that a selection of it must contain. -/

namespace StoryRules

structure Tag where
  id : Ident
  name : String
  category : String
  fandomId : Ident
  classId : Option Ident := none
  requires : List Ident := []
  /-- Tags suggested beside this one. -/
  enhances : List Ident := []
  deriving DecidableEq, Repr

structure PlotBlock where
  id : Ident
  name : String
  category : String
  fandomId : Ident
  parentId : Option Ident := none
  requires : List Ident := []
  /-- Requirements whose absence is only a warning. -/
  softRequires : List Ident := []
  enhances : List Ident := []
  enabledBy : List Ident := []
  conflictsWith : List Ident := []
  deriving DecidableEq, Repr

structure Condition where
  id : Ident
  plotBlockId : Ident
  name : String
  order : Int32 := 0
  /-- Nesting for display; no check reads it. -/
  parentId : Option Ident := none
  requires : List Ident := []
  /-- Conditions suggested once this one is selected. -/
  enables : List Ident := []
  deriving DecidableEq, Repr

instance : Keyed Tag := ⟨Tag.id⟩

instance : Keyed PlotBlock := ⟨PlotBlock.id⟩

instance : Keyed Condition := ⟨Condition.id⟩

namespace Tag

def toJson (t : Tag) : Json :=
  .obj [("id", t.id.toJson), ("name", .str t.name), ("category", .str t.category),
    ("fandom_id", t.fandomId.toJson), ("tag_class_id", Json.ofOption Ident.toJson t.classId),
    ("requires", Ident.listToJson t.requires), ("enhances", Ident.listToJson t.enhances)]

def ofJson? (j : Json) : Option Tag := do
  let fields ← j.fields?
  return {
    id := ← fields.required "id" Ident.ofJson?
    name := ← fields.required "name" Json.str?
    category := ← fields.required "category" Json.str?
    fandomId := ← fields.required "fandom_id" Ident.ofJson?
    classId := ← fields.nullable "tag_class_id" Ident.ofJson?
    requires := ← fields.optional "requires" Ident.listOfJson? []
    enhances := ← fields.optional "enhances" Ident.listOfJson? [] }

end Tag

namespace PlotBlock

def toJson (b : PlotBlock) : Json :=
  .obj [("id", b.id.toJson), ("name", .str b.name), ("category", .str b.category),
    ("fandom_id", b.fandomId.toJson), ("parent_id", Json.ofOption Ident.toJson b.parentId),
    ("requires", Ident.listToJson b.requires),
    ("soft_requires", Ident.listToJson b.softRequires),
    ("enhances", Ident.listToJson b.enhances), ("enabled_by", Ident.listToJson b.enabledBy),
    ("conflicts_with", Ident.listToJson b.conflictsWith)]

def ofJson? (j : Json) : Option PlotBlock := do
  let fields ← j.fields?
  return {
    id := ← fields.required "id" Ident.ofJson?
    name := ← fields.required "name" Json.str?
    category := ← fields.required "category" Json.str?
    fandomId := ← fields.required "fandom_id" Ident.ofJson?
    parentId := ← fields.nullable "parent_id" Ident.ofJson?
    requires := ← fields.optional "requires" Ident.listOfJson? []
    softRequires := ← fields.optional "soft_requires" Ident.listOfJson? []
    enhances := ← fields.optional "enhances" Ident.listOfJson? []
    enabledBy := ← fields.optional "enabled_by" Ident.listOfJson? []
    conflictsWith := ← fields.optional "conflicts_with" Ident.listOfJson? [] }

end PlotBlock

namespace Condition

def toJson (c : Condition) : Json :=
  .obj [("id", c.id.toJson), ("plot_block_id", c.plotBlockId.toJson), ("name", .str c.name),
    ("order", Json.ofInt32 c.order), ("parent_id", Json.ofOption Ident.toJson c.parentId),
    ("requires", Ident.listToJson c.requires), ("enables", Ident.listToJson c.enables)]

def ofJson? (j : Json) : Option Condition := do
  let fields ← j.fields?
  return {
    id := ← fields.required "id" Ident.ofJson?
    plotBlockId := ← fields.required "plot_block_id" Ident.ofJson?
    name := ← fields.required "name" Json.str?
    order := ← fields.optional "order" Json.int32? 0
    parentId := ← fields.nullable "parent_id" Ident.ofJson?
    requires := ← fields.optional "requires" Ident.listOfJson? []
    enables := ← fields.optional "enables" Ident.listOfJson? [] }

end Condition

inductive Entity where
  | tag (t : Tag)
  | plotBlock (b : PlotBlock)
  | condition (c : Condition)
  deriving DecidableEq, Repr

namespace Entity

def name : Entity → String
  | tag t => t.name
  | plotBlock b => b.name
  | condition c => c.name

def requires : Entity → List Ident
  | tag t => t.requires
  | plotBlock b => b.requires
  | condition c => c.requires

/-- The soft requirements of an entity; only plot blocks have any. -/
def softRequires : Entity → List Ident
  | plotBlock b => b.softRequires
  | _ => []

/-- What an entity goes well with; conditions list nothing. -/
def enhances : Entity → List Ident
  | tag t => t.enhances
  | plotBlock b => b.enhances
  | condition _ => []

/-- What an entity makes available; only conditions list anything. -/
def enables : Entity → List Ident
  | condition c => c.enables
  | _ => []

def toJson : Entity → Json
  | tag t => t.toJson
  | plotBlock b => b.toJson
  | condition c => c.toJson

end Entity

end StoryRules
