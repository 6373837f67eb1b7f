import StoryRules.Graph

/-! The level of an entity: how many hard requirements can be followed one after another from it. An
entity without requirements has level 0, and a path that comes back to one of its own entities ends
there, so levels exist on every graph. -/

namespace StoryRules.Graph

/-- The length of the longest path of requirements from `id` that goes on only from entities of
`unseen` and from none twice. -/
def levelWithin (g : Graph) (kind : Kind) (unseen : List Ident) (id : Ident) : Nat :=
  if _h : id ∈ unseen then
    (((g.requires kind id).map fun required =>
      g.levelWithin kind (unseen.erase id) required).max?.map (· + 1)).getD 0
  else 0
termination_by unseen.length
decreasing_by
  rw [List.length_erase_of_mem ‹_›]
  have := List.length_pos_of_mem ‹id ∈ unseen›
  omega

/-- The level of an entity among those of its kind. -/
def level (g : Graph) (kind : Kind) (id : Ident) : Nat := g.levelWithin kind (g.ids kind) id

end StoryRules.Graph
