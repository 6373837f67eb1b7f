import StoryRules.Content

/-! The rule graph of a fandom: its content as tables by id, checked once. `Graph.ofContent` refuses
content in which an id is given twice, an entity belongs to another fandom, or a condition has no
plot block. References to entities that do not exist are kept; nothing satisfies them. -/

namespace StoryRules

structure Graph where
  fandomId : Ident
  tags : Table Tag := .empty
  tagClasses : Table TagClass := .empty
  plotBlocks : Table PlotBlock := .empty
  conditions : Table Condition := .empty
  templates : List Template := []

/-- Why content is refused. -/
inductive ContentError where
  /-- The entity belongs to the fandom `owner`, not to the content's `fandom`. -/
  | foreign (kind : Kind) (id owner fandom : Ident)
  | duplicate (kind : Kind) (id : Ident)
  | duplicateClass (id : Ident)
  /-- A condition names a plot block that is not in the content. -/
  | unknownPlotBlock (id : Ident)
  deriving DecidableEq, Repr

def ContentError.message : ContentError → String
  | foreign kind id owner fandom =>
    s!"Validation failed: {kind.name} {id} belongs to fandom {owner}, not {fandom}"
  | duplicate kind id => s!"Conflict: duplicate {kind.name} id {id}"
  | duplicateClass id => s!"Validation failed: duplicate tag class id {id}"
  | unknownPlotBlock id => s!"Entity not found: PlotBlock with id {id}"

namespace Graph

def addNew {α : Type} [Keyed α] (taken : Ident → ContentError) (t : Table α) (a : α) :
    Except ContentError (Table α) :=
  if t.contains (key a) then .error (taken (key a)) else .ok (t.insert a)

def checkOwner (kind : Kind) (id owner fandom : Ident) : Except ContentError Unit :=
  if owner = fandom then .ok () else .error (.foreign kind id owner fandom)

def addTag (fandom : Ident) (t : Table Tag) (tag : Tag) : Except ContentError (Table Tag) := do
  checkOwner .tag tag.id tag.fandomId fandom
  addNew (.duplicate .tag) t tag

def addPlotBlock (fandom : Ident) (t : Table PlotBlock) (block : PlotBlock) :
    Except ContentError (Table PlotBlock) := do
  checkOwner .plotBlock block.id block.fandomId fandom
  addNew (.duplicate .plotBlock) t block

def addCondition (blocks : Table PlotBlock) (t : Table Condition) (condition : Condition) :
    Except ContentError (Table Condition) :=
  if blocks.contains condition.plotBlockId then addNew (.duplicate .condition) t condition
  else .error (.unknownPlotBlock condition.plotBlockId)

/-- The graph of some content, or the first thing wrong with it: tags are checked before tag
classes, these before plot blocks, and conditions come last. -/
def ofContent (c : Content) : Except ContentError Graph := do
  let tags ← c.tags.foldlM (addTag c.fandomId) .empty
  let tagClasses ← c.tagClasses.foldlM (addNew .duplicateClass) .empty
  let plotBlocks ← c.plotBlocks.foldlM (addPlotBlock c.fandomId) .empty
  let conditions ← c.conditions.foldlM (addCondition plotBlocks) .empty
  return { fandomId := c.fandomId, tags, tagClasses, plotBlocks, conditions,
           templates := c.templates }

def entity? (g : Graph) (kind : Kind) (id : Ident) : Option Entity :=
  match kind with
  | .tag => (g.tags.get? id).map .tag
  | .plotBlock => (g.plotBlocks.get? id).map .plotBlock
  | .condition => (g.conditions.get? id).map .condition

def contains (g : Graph) (kind : Kind) (id : Ident) : Bool := (g.entity? kind id).isSome

def ids (g : Graph) : Kind → List Ident
  | .tag => g.tags.ids
  | .plotBlock => g.plotBlocks.ids
  | .condition => g.conditions.ids

/-- The name of an entity; one that is not in the graph goes by its kind and id. -/
def nameOf (g : Graph) (kind : Kind) (id : Ident) : String :=
  match g.entity? kind id with
  | some entity => entity.name
  | none => s!"{kind.name} {id}"

/-- One of the lists of an entity; one that is not in the graph lists nothing. -/
def listed (g : Graph) (kind : Kind) (id : Ident) (list : Entity → List Ident) : List Ident :=
  ((g.entity? kind id).map list).getD []

def requires (g : Graph) (kind : Kind) (id : Ident) : List Ident :=
  g.listed kind id Entity.requires

theorem mem_ids {g : Graph} {kind : Kind} {id : Ident} :
    id ∈ g.ids kind ↔ g.contains kind id = true := by
  cases kind <;> simp [ids, contains, entity?, Table.mem_ids, Table.contains]

/-- The conditions of a plot block, by their order and then by their id. -/
def conditionsOf (g : Graph) (block : Ident) : List Condition :=
  (g.conditions.values.filter (·.plotBlockId == block)).mergeSort fun a b =>
    a.order < b.order || (a.order == b.order && a.id ≤ b.id)

end Graph

end StoryRules
