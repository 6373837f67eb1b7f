import StoryRules.Requirement.Cycle
import StoryRules.Proofs.Requirement.Walk

/-! The search for cycles, one step at a time. `Move` says what a step does, `Reachable` holds of
every state between the first root and the last step, and `Consistent` is what all of these states
have in common: the path is a walk of known entities without repetition, `onPath` holds its nodes,
and each frame was entered through the requirement just before the cursor of the frame outside
it. -/

namespace StoryRules

/-- The frame after it has followed one requirement more. -/
def Frame.next (frame : Frame) : Frame := { frame with cursor := frame.cursor + 1 }

@[simp] theorem Frame.next_node (frame : Frame) : frame.next.node = frame.node := rfl

@[simp] theorem Frame.next_cursor (frame : Frame) : frame.next.cursor = frame.cursor + 1 := rfl

namespace CycleSearch

/-- The entities on the path, innermost first. -/
def nodes (s : CycleSearch) : List Ident := s.frames.map (·.node)

theorem nodes_eq {s : CycleSearch} {frame : Frame} {outer : List Frame}
    (h : s.frames = frame :: outer) : s.nodes = frame.node :: outer.map (·.node) := by
  simp [nodes, h]

/-- A path found is the inner part of the search's path, read outwards in. -/
theorem pathFrom?_eq_some {target : Ident} {frames : List Frame} {path : List Ident}
    (h : pathFrom? target frames = some path) :
    path.head? = some target ∧ path <:+ (frames.map (·.node)).reverse := by
  induction frames generalizing path with
  | nil => simp [pathFrom?] at h
  | cons frame outer ih =>
    rw [pathFrom?] at h
    split at h
    · rename_i hNode
      obtain rfl : [target] = path := by simpa using h
      exact ⟨rfl, (outer.map (·.node)).reverse, by simp [hNode]⟩
    · obtain ⟨path', hPath', rfl⟩ := Option.map_eq_some_iff.1 h
      obtain ⟨hHead, before, hSuffix⟩ := ih hPath'
      refine ⟨by simp [List.head?_append, hHead], before, ?_⟩
      rw [List.map_cons, List.reverse_cons, ← hSuffix, List.append_assoc]

/-- The path from an entity that is on it is always found. -/
theorem pathFrom?_ne_none {target : Ident} {frames : List Frame}
    (h : target ∈ frames.map (·.node)) : pathFrom? target frames ≠ none := by
  induction frames with
  | nil => simp at h
  | cons frame outer ih =>
    rw [pathFrom?]
    split
    · simp
    · rename_i hNode
      have hOuter : target ∈ outer.map (·.node) := by
        rcases List.mem_cons.1 h with hEq | hOuter
        · exact absurd hEq.symm hNode
        · exact hOuter
      simpa using ih hOuter

variable (g : Graph) (kind : Kind)

/-- What a step does to a search whose path is not empty. -/
inductive Move (s : CycleSearch) : CycleSearch → Prop
  /-- The innermost entity has no requirement left to follow. -/
  | leave {frame : Frame} {outer : List Frame} (hFrames : s.frames = frame :: outer)
      (hDone : (g.requires kind frame.node).length ≤ frame.cursor) :
      Move s { s with frames := outer, onPath := s.onPath.erase frame.node }
  /-- The next requirement is unknown, or was entered and left before. -/
  | skip {frame : Frame} {outer : List Frame} {target : Ident}
      (hFrames : s.frames = frame :: outer)
      (hEdge : (g.requires kind frame.node)[frame.cursor]? = some target)
      (hOld : g.contains kind target = true → target ∈ s.visited ∧ target ∉ s.onPath) :
      Move s { s with frames := frame.next :: outer }
  /-- The next requirement is on the path, so it closes a cycle. -/
  | close {frame : Frame} {outer : List Frame} {target : Ident} {path : List Ident}
      (hFrames : s.frames = frame :: outer)
      (hEdge : (g.requires kind frame.node)[frame.cursor]? = some target)
      (hKnown : g.contains kind target = true)
      (hPath : pathFrom? target (frame.next :: outer) = some path) :
      Move s { s with frames := frame.next :: outer, cycles := s.cycles ++ [path ++ [target]] }
  /-- The next requirement is known and new. -/
  | enter {frame : Frame} {outer : List Frame} {target : Ident}
      (hFrames : s.frames = frame :: outer)
      (hEdge : (g.requires kind frame.node)[frame.cursor]? = some target)
      (hKnown : g.contains kind target = true) (hNew : target ∉ s.visited) :
      Move s
        { s with
          visited := target :: s.visited
          frames := ⟨target, 0⟩ :: frame.next :: outer
          onPath := target :: s.onPath }

/-- The states of a search: entities are entered as roots when the path is empty, and steps are
taken until it is empty again. -/
inductive Reachable : CycleSearch → Prop
  | initial : Reachable {}
  | root {s : CycleSearch} {x : Ident} (h : Reachable s) (hIdle : s.frames = [])
      (hKnown : g.contains kind x = true) (hNew : x ∉ s.visited) :
      Reachable { s with visited := x :: s.visited, frames := [⟨x, 0⟩], onPath := [x] }
  | step {s : CycleSearch} (h : Reachable s) (hOpen : s.frames ≠ []) : Reachable (step g kind s)

/-- `inner` was entered through the requirement just before the cursor of `outer`. -/
def Entered (inner outer : Frame) : Prop :=
  ∃ i, outer.cursor = i + 1 ∧ (g.requires kind outer.node)[i]? = some inner.node

structure Consistent (s : CycleSearch) : Prop where
  known : ∀ x ∈ s.nodes, g.contains kind x = true
  nodup : s.nodes.Nodup
  onPath : s.onPath = s.nodes
  visited : ∀ x ∈ s.nodes, x ∈ s.visited
  entered : s.frames.IsChain (Entered g kind)

variable {g kind}

/-- How a frame was entered does not depend on its own cursor. -/
theorem entered_next {frame : Frame} {outer : List Frame}
    (h : (frame :: outer).IsChain (Entered g kind)) :
    (frame.next :: outer).IsChain (Entered g kind) := by
  rw [List.isChain_cons] at h ⊢
  exact h

theorem step_move {s : CycleSearch} (h : Consistent g kind s) (hOpen : s.frames ≠ []) :
    Move g kind s (step g kind s) := by
  obtain ⟨frame, outer, hFrames⟩ := List.exists_cons_of_ne_nil hOpen
  rw [step, hFrames]
  simp only
  split
  · rename_i hNone
    exact .leave hFrames (List.getElem?_eq_none_iff.1 hNone)
  · rename_i target hEdge
    split
    · rename_i hUnknown
      exact .skip hFrames hEdge fun hKnown => by simp [hKnown] at hUnknown
    · rename_i hKnown
      rw [Bool.not_eq_true', Bool.not_eq_false] at hKnown
      split
      · rename_i hOn
        split
        · -- a target in `onPath` is a node of the path, so the search for it does not fail
          rename_i hNone
          refine absurd hNone (pathFrom?_ne_none ?_)
          rw [h.onPath, nodes_eq hFrames] at hOn
          exact hOn
        · rename_i path hPath
          exact .close hFrames hEdge hKnown hPath
      · rename_i hOff
        split
        · rename_i hVisited
          exact .skip hFrames hEdge fun _ => ⟨hVisited, hOff⟩
        · rename_i hNew
          exact .enter hFrames hEdge hKnown hNew

theorem Consistent.initial : Consistent g kind {} :=
  ⟨by simp [nodes], by simp [nodes], rfl, by simp [nodes], .nil⟩

theorem Consistent.root {s : CycleSearch} {x : Ident} (hKnown : g.contains kind x = true) :
    Consistent g kind
      { s with visited := x :: s.visited, frames := [⟨x, 0⟩], onPath := [x] } :=
  ⟨by simpa [nodes] using hKnown, by simp [nodes], rfl, by simp [nodes], .singleton _⟩

theorem Move.consistent {s t : CycleSearch} (hMove : Move g kind s t)
    (h : Consistent g kind s) : Consistent g kind t := by
  obtain ⟨hKnownNodes, hNodup, hOnPath, hVisited, hEntered⟩ := h
  cases hMove with
  | leave hFrames hDone =>
    rw [nodes_eq hFrames] at hKnownNodes hNodup hOnPath hVisited
    rw [hFrames] at hEntered
    exact ⟨fun x hx => hKnownNodes x (.tail _ hx), hNodup.of_cons,
      by simp [hOnPath, nodes], fun x hx => hVisited x (.tail _ hx), hEntered.tail⟩
  | skip hFrames hEdge hOld =>
    rw [nodes_eq hFrames] at hKnownNodes hNodup hOnPath hVisited
    rw [hFrames] at hEntered
    exact ⟨hKnownNodes, hNodup, hOnPath, hVisited, entered_next hEntered⟩
  | close hFrames hEdge hKnown hPath =>
    rw [nodes_eq hFrames] at hKnownNodes hNodup hOnPath hVisited
    rw [hFrames] at hEntered
    exact ⟨hKnownNodes, hNodup, hOnPath, hVisited, entered_next hEntered⟩
  | @enter frame outer target hFrames hEdge hKnown hNew =>
    have hOff : target ∉ s.nodes := fun hOn => hNew (hVisited target hOn)
    rw [nodes_eq hFrames] at hKnownNodes hNodup hOnPath hVisited hOff
    rw [hFrames] at hEntered
    refine ⟨?_, List.nodup_cons.2 ⟨hOff, hNodup⟩, by simp [hOnPath, nodes], ?_, ?_⟩
    · intro x hx
      rcases List.mem_cons.1 hx with rfl | hx
      · exact hKnown
      · exact hKnownNodes x hx
    · intro x hx
      rcases List.mem_cons.1 hx with rfl | hx
      · exact List.mem_cons_self
      · exact .tail _ (hVisited x hx)
    · exact List.isChain_cons_cons.2 ⟨⟨frame.cursor, rfl, hEdge⟩, entered_next hEntered⟩

theorem Reachable.consistent {s : CycleSearch} (h : Reachable g kind s) :
    Consistent g kind s := by
  induction h with
  | initial => exact .initial
  | root _ _ hKnown _ => exact .root hKnown
  | step _ hOpen ih => exact (step_move ih hOpen).consistent ih

/-- What holds before the first root and is kept by roots and moves holds of every state. -/
@[elab_as_elim]
theorem Reachable.induct {motive : CycleSearch → Prop} {s : CycleSearch}
    (h : Reachable g kind s) (initial : motive {})
    (root : ∀ (s : CycleSearch) (x : Ident), motive s → s.frames = [] → x ∉ s.visited →
      motive { s with visited := x :: s.visited, frames := [⟨x, 0⟩], onPath := [x] })
    (move : ∀ s t : CycleSearch, motive s → Consistent g kind s → Move g kind s t → motive t) :
    motive s := by
  induction h with
  | initial => exact initial
  | root _ hIdle _ hNew ih => exact root _ _ ih hIdle hNew
  | step h hOpen ih => exact move _ _ ih h.consistent (step_move h.consistent hOpen)

theorem Move.visited_subset {s t : CycleSearch} (hMove : Move g kind s t) :
    s.visited ⊆ t.visited := by
  cases hMove with
  | enter => exact List.subset_cons_self _ _
  | leave | skip | close => exact List.Subset.refl _

/-- What a search that goes from `s` to `t` leaves behind: an empty path and no entity lost. -/
structure Finished (g : Graph) (kind : Kind) (s t : CycleSearch) : Prop where
  reachable : Reachable g kind t
  idle : t.frames = []
  visited : s.visited ⊆ t.visited

theorem Reachable.run {s : CycleSearch} (h : Reachable g kind s) :
    Finished g kind s (run g kind s) := by
  fun_induction CycleSearch.run g kind s with
  | case1 s hIdle => exact ⟨h, hIdle, List.Subset.refl _⟩
  | case2 s hOpen ih =>
    obtain ⟨hEnd, hIdle, hVisited⟩ := ih (.step h hOpen)
    exact ⟨hEnd, hIdle, List.Subset.trans (step_move h.consistent hOpen).visited_subset hVisited⟩

theorem Reachable.explore {s : CycleSearch} {root : Ident} (h : Reachable g kind s)
    (hIdle : s.frames = []) (hKnown : g.contains kind root = true) :
    Finished g kind s (explore g kind s root) ∧ root ∈ (explore g kind s root).visited := by
  rw [CycleSearch.explore]
  split
  · rename_i hOld
    exact ⟨⟨h, hIdle, List.Subset.refl _⟩, hOld⟩
  · rename_i hNew
    obtain ⟨hEnd, hEmpty, hVisited⟩ := (Reachable.root h hIdle hKnown hNew).run
    exact ⟨⟨hEnd, hEmpty, List.Subset.trans (List.subset_cons_self _ _) hVisited⟩,
      hVisited List.mem_cons_self⟩

theorem Reachable.explore_all {s : CycleSearch} (h : Reachable g kind s) (hIdle : s.frames = [])
    (roots : List Ident) (hKnown : ∀ x ∈ roots, g.contains kind x = true) :
    Finished g kind s (roots.foldl (CycleSearch.explore g kind) s) ∧
      ∀ x ∈ roots, x ∈ (roots.foldl (CycleSearch.explore g kind) s).visited := by
  induction roots generalizing s with
  | nil => exact ⟨⟨h, hIdle, List.Subset.refl _⟩, by simp⟩
  | cons root rest ih =>
    obtain ⟨hFirst, hRoot⟩ := h.explore hIdle (hKnown root List.mem_cons_self)
    obtain ⟨hRest, hCovered⟩ := ih hFirst.reachable hFirst.idle fun x hx => hKnown x (.tail _ hx)
    have hVisited := List.Subset.trans hFirst.visited hRest.visited
    refine ⟨⟨hRest.reachable, hRest.idle, hVisited⟩, fun x hx => ?_⟩
    rcases List.mem_cons.1 hx with rfl | hx
    · exact hRest.visited hRoot
    · exact hCovered x hx

/-- Exploring the entities of a kind one by one leaves an empty path and visits all of them. -/
theorem explored (g : Graph) (kind : Kind) :
    Finished g kind {} ((g.ids kind).foldl (CycleSearch.explore g kind) {}) ∧
      ∀ x ∈ g.ids kind, x ∈ ((g.ids kind).foldl (CycleSearch.explore g kind) {}).visited :=
  Reachable.initial.explore_all rfl (g.ids kind) fun _ hx => Graph.mem_ids.1 hx

/-- The cycles of a graph are those of a state that a search reaches with an empty path, after it
has visited every entity. -/
theorem exists_final (g : Graph) (kind : Kind) :
    ∃ s, Reachable g kind s ∧ s.frames = [] ∧ s.cycles = g.cycles kind ∧
      ∀ x, g.contains kind x = true → x ∈ s.visited := by
  obtain ⟨hEnd, hCovered⟩ := explored g kind
  exact ⟨_, hEnd.reachable, hEnd.idle, rfl, fun x hx => hCovered x (Graph.mem_ids.2 hx)⟩

end CycleSearch

end StoryRules
