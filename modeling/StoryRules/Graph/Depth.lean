import StoryRules.Graph

/-! The depth of a plot block: the length of the chain of parents above it. A parent that is not in
the graph ends the chain, and a chain that comes back to a block has no length. -/

namespace StoryRules.Graph

def parent? (g : Graph) (id : Ident) : Option Ident :=
  ((g.plotBlocks.get? id).bind (·.parentId)).filter g.plotBlocks.contains

/-- The length of the chain above `id` if it keeps to the blocks of `unseen`, no block twice. -/
def depthWithin (g : Graph) (unseen : List Ident) (id : Ident) : Option Nat :=
  match g.parent? id with
  | none => some 0
  | some parent =>
    if parent ∈ unseen then (g.depthWithin (unseen.erase parent) parent).map (· + 1) else none
termination_by unseen.length
decreasing_by
  rw [List.length_erase_of_mem ‹_›]
  have := List.length_pos_of_mem ‹parent ∈ unseen›
  omega

/-- The number of ancestors of a plot block, or none if the chain of its parents runs into a loop.
A block that is not in the graph has no ancestors. -/
def depth? (g : Graph) (id : Ident) : Option Nat :=
  g.depthWithin ((g.ids .plotBlock).erase id) id

end StoryRules.Graph
