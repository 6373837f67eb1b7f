import StoryRules.Json.Field

/-! Identifiers and the kinds of entity they name. Tags, plot blocks and conditions have separate
id spaces, so an identifier means something only together with a kind: an `Item`. -/

namespace StoryRules

/-- Identifiers are 64-bit words; they are shown and ordered as signed numbers. -/
abbrev Ident := Int64

namespace Ident

def toJson (id : Ident) : Json := Json.ofInt64 id

def ofJson? (j : Json) : Option Ident := j.int64?

def listToJson (ids : List Ident) : Json := Json.ofList toJson ids

def listOfJson? (j : Json) : Option (List Ident) := j.list? ofJson?

end Ident

inductive Kind where
  | tag
  | plotBlock
  | condition
  deriving DecidableEq, Repr

namespace Kind

/-- The kinds in the order in which findings about them are reported. -/
def reported : List Kind := [.plotBlock, .condition, .tag]

def name : Kind → String
  | tag => "tag"
  | plotBlock => "plot_block"
  | condition => "condition"

def field : Kind → String
  | tag => "tags"
  | plotBlock => "plot_blocks"
  | condition => "conditions"

def toJson (k : Kind) : Json := .str k.name

def ofJson? (j : Json) : Option Kind := j.oneOf? name [tag, plotBlock, condition]

end Kind

structure Item where
  kind : Kind
  id : Ident
  deriving DecidableEq, Repr

namespace Item

def toJson (item : Item) : Json := .obj [("kind", item.kind.toJson), ("id", item.id.toJson)]

def ofJson? (j : Json) : Option Item := do
  let fields ← j.fields?
  return {
    kind := ← fields.required "kind" Kind.ofJson?
    id := ← fields.required "id" Ident.ofJson? }

end Item

end StoryRules
