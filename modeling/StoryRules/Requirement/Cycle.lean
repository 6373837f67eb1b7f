import StoryRules.Report
import StoryRules.Graph

/-! Cycles of hard requirements. The entities of a kind are searched depth first, in ascending order
of ids, each entered once over the whole search. An edge to an entity on the current path closes a
cycle, which is reported as the path from that entity back to itself. -/

namespace StoryRules

/-- An entity on the path of a search, with the number of its requirements already followed. -/
structure Frame where
  node : Ident
  cursor : Nat
  deriving DecidableEq, Repr

/-- The state of a search. The path is kept innermost first; `onPath` holds its nodes. -/
structure CycleSearch where
  visited : List Ident := []
  frames : List Frame := []
  onPath : List Ident := []
  cycles : List (List Ident) := []
  deriving DecidableEq, Repr

namespace CycleSearch

/-- The nodes of a path from `target` to its inner end, if `target` is on it. -/
def pathFrom? (target : Ident) : List Frame → Option (List Ident)
  | [] => none
  | frame :: outer =>
    if frame.node = target then some [target]
    else (pathFrom? target outer).map (· ++ [frame.node])

variable (g : Graph) (kind : Kind)

/-- Follows one edge from the inner end of the path, or leaves the end when it has no edge more. An
edge to an unknown entity or to one that was left before leads nowhere. -/
def step (s : CycleSearch) : CycleSearch :=
  match s.frames with
  | [] => s
  | frame :: outer =>
    match (g.requires kind frame.node)[frame.cursor]? with
    | none => { s with frames := outer, onPath := s.onPath.erase frame.node }
    | some target =>
      let frames := { frame with cursor := frame.cursor + 1 } :: outer
      if !g.contains kind target then { s with frames }
      else if target ∈ s.onPath then
        match pathFrom? target frames with
        | none => { s with frames }
        | some path => { s with frames, cycles := s.cycles ++ [path ++ [target]] }
      else if target ∈ s.visited then { s with frames }
      else
        { s with
          visited := target :: s.visited
          frames := ⟨target, 0⟩ :: frames
          onPath := target :: s.onPath }

def unvisited (s : CycleSearch) : List Ident := (g.ids kind).filter (· ∉ s.visited)

/-- The steps that the path still takes if no entity is entered. -/
def work (s : CycleSearch) : Nat :=
  s.frames.foldr (fun frame rest => (g.requires kind frame.node).length - frame.cursor + 1 + rest) 0

theorem unvisited_eq_filter {s t : CycleSearch} {x : Ident} (h : t.visited = x :: s.visited) :
    unvisited g kind t = (unvisited g kind s).filter (· ≠ x) := by
  simp [unvisited, h, List.filter_filter, not_or]

theorem length_unvisited_lt {s : CycleSearch} {target : Ident}
    (hKnown : g.contains kind target = true) (hNew : target ∉ s.visited) (frames : List Frame)
    (onPath : List Ident) :
    (unvisited g kind { s with visited := target :: s.visited, frames, onPath }).length
      < (unvisited g kind s).length := by
  rw [unvisited_eq_filter g kind rfl, List.length_filter_lt_length_iff_exists]
  exact ⟨target, by simpa [unvisited, hNew] using Graph.mem_ids.2 hKnown, by simp⟩

theorem step_decreases {s : CycleSearch} (h : s.frames ≠ []) :
    (unvisited g kind (step g kind s)).length < (unvisited g kind s).length ∨
      (unvisited g kind (step g kind s)).length = (unvisited g kind s).length ∧
        work g kind (step g kind s) < work g kind s := by
  obtain ⟨frame, outer, hFrames⟩ := List.exists_cons_of_ne_nil h
  rw [step, hFrames]
  simp only
  split
  · exact .inr ⟨rfl, by simp [work, hFrames]⟩
  · rename_i target hEdge
    have hLt := (List.getElem?_eq_some_iff.1 hEdge).1
    have hWork (t : CycleSearch)
        (ht : t.frames = { frame with cursor := frame.cursor + 1 } :: outer) :
        work g kind t < work g kind s := by
      simp only [work, hFrames, ht, List.foldr_cons]
      omega
    split
    · exact .inr ⟨rfl, hWork _ rfl⟩
    · rename_i hKnown
      split
      · split <;> exact .inr ⟨rfl, hWork _ rfl⟩
      · split
        · exact .inr ⟨rfl, hWork _ rfl⟩
        · rename_i hNew
          exact .inl (length_unvisited_lt g kind (by simpa using hKnown) hNew _ _)

def run (s : CycleSearch) : CycleSearch :=
  if _h : s.frames = [] then s else run (step g kind s)
termination_by ((unvisited g kind s).length, work g kind s)
decreasing_by
  rcases step_decreases g kind ‹_› with h | ⟨heq, h⟩
  · exact Prod.Lex.left _ _ h
  · rw [heq]; exact Prod.Lex.right _ h

def explore (s : CycleSearch) (root : Ident) : CycleSearch :=
  if root ∈ s.visited then s
  else run g kind
    { s with visited := root :: s.visited, frames := [⟨root, 0⟩], onPath := [root] }

end CycleSearch

namespace Graph

/-- The cycles found among the entities of a kind, each from an entity back to itself. -/
def cycles (g : Graph) (kind : Kind) : List (List Ident) :=
  ((g.ids kind).foldl (CycleSearch.explore g kind) {}).cycles

def cycleProblem (g : Graph) (kind : Kind) (cycle : List Ident) : Problem :=
  let path := " -> ".intercalate (cycle.map toString)
  { issue := .circularDependency
    message := s!"Circular dependency detected: {path}"
    field := some kind.field
    value := some (.obj [("path", Ident.listToJson cycle),
      ("names", Json.ofList .str (cycle.map (g.nameOf kind)))])
    affected := cycle.dropLast }

/-- One problem for each cycle of requirements, whatever is selected. -/
def cycleFindings (g : Graph) : List Finding :=
  Kind.reported.flatMap fun kind =>
    (g.cycles kind).map fun cycle => .problem (g.cycleProblem kind cycle)

end Graph

end StoryRules
