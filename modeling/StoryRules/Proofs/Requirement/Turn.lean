import StoryRules.Proofs.Requirement.Cycle

/-! The search for cycles turn by turn. In a turn the search enters a root or takes a step, and
`Searches` lists the turns it makes before it stops. It does stop (`exists_searches`), and there is
one way to make the turns (`Searches.unique`). At each of them the path, the set of its nodes and
the entities visited agree, so a requirement that is on the path closes a cycle every time
(`consistent_at_turn`). -/

namespace StoryRules.CycleSearch

/-- The search after it has entered a root. -/
def fromRoot (s : CycleSearch) (root : Ident) : CycleSearch :=
  { s with visited := root :: s.visited, frames := [⟨root, 0⟩], onPath := [root] }

structure Turn where
  before : CycleSearch
  after : CycleSearch

/-- The search of `roots` from one state to another makes these turns. A step is taken as long as
the path is not empty. When it is, the next root is entered, or passed over if it was entered
before. -/
inductive Searches (g : Graph) (kind : Kind) :
    (roots : List Ident) → CycleSearch → List Turn → CycleSearch → Prop
  | done {s : CycleSearch} (hIdle : s.frames = []) : Searches g kind [] s [] s
  | pass {s t : CycleSearch} {root : Ident} {roots : List Ident} {turns : List Turn}
      (hIdle : s.frames = []) (hOld : root ∈ s.visited)
      (hRest : Searches g kind roots s turns t) : Searches g kind (root :: roots) s turns t
  | root {s t : CycleSearch} {root : Ident} {roots : List Ident} {turns : List Turn}
      (hIdle : s.frames = []) (hNew : root ∉ s.visited)
      (hRest : Searches g kind roots (s.fromRoot root) turns t) :
      Searches g kind (root :: roots) s (⟨s, s.fromRoot root⟩ :: turns) t
  | step {s t : CycleSearch} {roots : List Ident} {turns : List Turn} (hOpen : s.frames ≠ [])
      (hRest : Searches g kind roots (step g kind s) turns t) :
      Searches g kind roots s (⟨s, CycleSearch.step g kind s⟩ :: turns) t

/-- A turn as a search makes it: from an empty path it enters a root that is new, from any other
it takes a step. -/
inductive Turn.Made (g : Graph) (kind : Kind) : Turn → Prop
  | root {s : CycleSearch} {x : Ident} (hs : Reachable g kind s) (hIdle : s.frames = [])
      (hKnown : g.contains kind x = true) (hNew : x ∉ s.visited) : Made g kind ⟨s, s.fromRoot x⟩
  | step {s : CycleSearch} (hs : Reachable g kind s) (hOpen : s.frames ≠ []) :
      Made g kind ⟨s, CycleSearch.step g kind s⟩

variable {g : Graph} {kind : Kind} {s t : CycleSearch} {roots : List Ident} {turns : List Turn}
  {turn : Turn}

/-! ### The turns of a search -/

/-- A search can make its turns in one way only. -/
theorem Searches.unique {t' : CycleSearch} {turns' : List Turn}
    (h : Searches g kind roots s turns t) (h' : Searches g kind roots s turns' t') :
    turns = turns' ∧ t = t' := by
  induction h generalizing turns' with
  | done hIdle =>
    cases h' with
    | done => exact ⟨rfl, rfl⟩
    | step hOpen => exact absurd hIdle hOpen
  | pass hIdle hOld _ ih =>
    cases h' with
    | pass _ _ hRest => exact ih hRest
    | root _ hNew => exact absurd hOld hNew
    | step hOpen => exact absurd hIdle hOpen
  | root hIdle hNew _ ih =>
    cases h' with
    | pass _ hOld => exact absurd hOld hNew
    | root _ _ hRest =>
      obtain ⟨rfl, rfl⟩ := ih hRest
      exact ⟨rfl, rfl⟩
    | step hOpen => exact absurd hIdle hOpen
  | step hOpen _ ih =>
    cases h' with
    | done hIdle | pass hIdle | root hIdle => exact absurd hIdle hOpen
    | step _ hRest =>
      obtain ⟨rfl, rfl⟩ := ih hRest
      exact ⟨rfl, rfl⟩

theorem frames_run (s : CycleSearch) : (run g kind s).frames = [] := by
  fun_induction run g kind s with
  | case1 s hIdle => exact hIdle
  | case2 s _ ih => exact ih

/-- The steps of a run come before the turns that follow it. -/
theorem exists_searches_of_run (s : CycleSearch)
    (h : Searches g kind roots (run g kind s) turns t) :
    ∃ turns', Searches g kind roots s turns' t := by
  fun_induction run g kind s with
  | case1 s _ => exact ⟨turns, h⟩
  | case2 s hOpen ih =>
    obtain ⟨turns', hRest⟩ := ih h
    exact ⟨_, .step hOpen hRest⟩

/-- The search of any roots stops, in the state that exploring them one by one leads to. -/
theorem exists_searches (hIdle : s.frames = []) (roots : List Ident) :
    ∃ turns, Searches g kind roots s turns (roots.foldl (explore g kind) s) := by
  induction roots generalizing s with
  | nil => exact ⟨[], .done hIdle⟩
  | cons root roots ih =>
    rw [List.foldl_cons, explore]
    split
    · rename_i hOld
      obtain ⟨turns, hRest⟩ := ih hIdle
      exact ⟨turns, .pass hIdle hOld hRest⟩
    · rename_i hNew
      obtain ⟨turns, hRest⟩ := ih (frames_run _)
      obtain ⟨turns', hSteps⟩ := exists_searches_of_run (s.fromRoot root) hRest
      exact ⟨_, .root hIdle hNew hSteps⟩

theorem exists_search (g : Graph) (kind : Kind) :
    ∃ turns, Searches g kind (g.ids kind) {} turns ((g.ids kind).foldl (explore g kind) {}) :=
  exists_searches rfl (g.ids kind)

/-- The search of the entities of a kind ends with an empty path and has visited all of them. -/
theorem Searches.final (h : Searches g kind (g.ids kind) {} turns t) :
    t.cycles = g.cycles kind ∧ t.frames = [] ∧ unvisited g kind t = [] := by
  obtain ⟨turns', h'⟩ := exists_search g kind
  obtain ⟨-, rfl⟩ := h.unique h'
  obtain ⟨hEnd, hVisited⟩ := explored g kind
  exact ⟨rfl, hEnd.idle, List.filter_eq_nil_iff.2 fun x hx => by simpa using hVisited x hx⟩

theorem Searches.made (h : Searches g kind roots s turns t) (hs : Reachable g kind s)
    (hKnown : ∀ x ∈ roots, g.contains kind x = true) : ∀ turn ∈ turns, turn.Made g kind := by
  induction h with
  | done => simp
  | pass _ _ _ ih => exact ih hs fun x hx => hKnown x (.tail _ hx)
  | @root s t root roots turns hIdle hNew _ ih =>
    have hRoot := hKnown root List.mem_cons_self
    refine List.forall_mem_cons.2 ⟨.root hs hIdle hRoot hNew, ?_⟩
    exact ih (.root hs hIdle hRoot hNew) fun x hx => hKnown x (.tail _ hx)
  | step hOpen _ ih =>
    exact List.forall_mem_cons.2 ⟨.step hs hOpen, ih (.step hs hOpen) hKnown⟩

theorem Searches.made_of_mem (h : Searches g kind (g.ids kind) {} turns t) (hTurn : turn ∈ turns) :
    turn.Made g kind :=
  h.made .initial (fun _ hx => Graph.mem_ids.1 hx) turn hTurn

/-! ### Consistency -/

theorem Turn.Made.consistent (h : turn.Made g kind) :
    Consistent g kind turn.before ∧ Consistent g kind turn.after := by
  cases h with
  | root hs hIdle hKnown hNew => exact ⟨hs.consistent, .root hKnown⟩
  | step hs hOpen => exact ⟨hs.consistent, (step_move hs.consistent hOpen).consistent hs.consistent⟩

/-- A requirement on the path closes a cycle: of all the moves only this one looks at such. -/
theorem Move.closes {frame : Frame} {outer : List Frame} {target : Ident}
    (hMove : Move g kind s t) (hs : Consistent g kind s) (hFrames : s.frames = frame :: outer)
    (hEdge : (g.requires kind frame.node)[frame.cursor]? = some target)
    (hOn : target ∈ s.onPath) :
    ∃ path, pathFrom? target (frame.next :: outer) = some path ∧
      t.cycles = s.cycles ++ [path ++ [target]] ∧
      g.ClosesAt kind (path ++ [target]) (frame.node, frame.cursor) := by
  have hNode : target ∈ s.nodes := hs.onPath ▸ hOn
  cases hMove with
  | leave hFrames' hDone =>
    obtain ⟨rfl, rfl⟩ := List.cons.inj (hFrames'.symm.trans hFrames)
    rw [List.getElem?_eq_none hDone] at hEdge
    cases hEdge
  | skip hFrames' hEdge' hOld =>
    obtain ⟨rfl, rfl⟩ := List.cons.inj (hFrames'.symm.trans hFrames)
    obtain rfl := Option.some.inj (hEdge.symm.trans hEdge')
    exact absurd hOn (hOld (hs.known target hNode)).2
  | @close _ _ _ path hFrames' hEdge' hKnown hPath =>
    obtain ⟨rfl, rfl⟩ := List.cons.inj (hFrames'.symm.trans hFrames)
    obtain rfl := Option.some.inj (hEdge.symm.trans hEdge')
    obtain ⟨-, -, hClosed⟩ := hs.closed hFrames hEdge hKnown hPath
    exact ⟨path, hPath, rfl, target, hClosed, hEdge⟩
  | enter hFrames' hEdge' hKnown hNew =>
    obtain ⟨rfl, rfl⟩ := List.cons.inj (hFrames'.symm.trans hFrames)
    obtain rfl := Option.some.inj (hEdge.symm.trans hEdge')
    exact absurd (hs.visited target hNode) hNew

/-- At every turn the path is a walk of different known entities, `onPath` holds exactly these, and
all of them are visited. So a requirement that is in `onPath` is found on the path, and what it
closes is reported; and `onPath` is empty when the path is. -/
theorem consistent_at_turn (h : Searches g kind (g.ids kind) {} turns t) (hTurn : turn ∈ turns) :
    Consistent g kind turn.before ∧
      (∀ frame outer target, turn.before.frames = frame :: outer →
        (g.requires kind frame.node)[frame.cursor]? = some target →
        target ∈ turn.before.onPath →
        ∃ path, pathFrom? target (frame.next :: outer) = some path ∧
          turn.after.cycles = turn.before.cycles ++ [path ++ [target]] ∧
          g.ClosesAt kind (path ++ [target]) (frame.node, frame.cursor)) ∧
      (turn.after.frames = [] → turn.after.onPath = []) := by
  have hMade := h.made_of_mem hTurn
  obtain ⟨hBefore, hAfter⟩ := hMade.consistent
  refine ⟨hBefore, fun frame outer target hFrames hEdge hOn => ?_, fun hIdle => ?_⟩
  · cases hMade with
    | root hs hIdle => cases hIdle.symm.trans hFrames
    | step hs hOpen => exact (step_move hBefore hOpen).closes hBefore hFrames hEdge hOn
  · rw [hAfter.onPath, nodes, hIdle, List.map_nil]

/-- Two cycles with an entity in common. One requirement is unknown, and one was left before. -/
def knottedTags : Graph where
  fandomId := 1
  tags := ((Table.empty.insert
    { id := 1, name := "first", category := "mood", fandomId := 1, requires := [2, 3] }).insert
    { id := 2, name := "second", category := "mood", fandomId := 1, requires := [3, 404] }).insert
    { id := 3, name := "third", category := "mood", fandomId := 1, requires := [2, 3] }

/-- The third tag is entered from the second, which it requires. -/
theorem knottedTags_turn : ∃ turns t turn,
    Searches knottedTags .tag (knottedTags.ids .tag) {} turns t ∧ turn ∈ turns ∧
      turn.before.frames = [⟨3, 0⟩, ⟨2, 1⟩, ⟨1, 1⟩] ∧ Consistent knottedTags .tag turn.before ∧
      ∃ path, pathFrom? 2 [⟨3, 1⟩, ⟨2, 1⟩, ⟨1, 1⟩] = some path ∧
        turn.after.cycles = [path ++ [2]] ∧ knottedTags.ClosesAt .tag (path ++ [2]) (3, 0) := by
  have hSearch : Searches knottedTags .tag (knottedTags.ids .tag) {} _ _ :=
    .root rfl (by decide) <|
    .step (by decide) <| .step (by decide) <| .step (by decide) <|
    .step (by decide) <| .step (by decide) <| .step (by decide) <|
    .step (by decide) <| .step (by decide) <| .step (by decide) <|
    .pass (by decide) (by decide) <| .pass (by decide) (by decide) <| .done (by decide)
  -- after the root and two steps
  obtain ⟨hBefore, hCloses, -⟩ :=
    consistent_at_turn hSearch (.tail _ (.tail _ (.tail _ (.head _))))
  exact ⟨_, _, _, hSearch, .tail _ (.tail _ (.tail _ (.head _))), rfl, hBefore,
    hCloses ⟨3, 0⟩ _ 2 rfl rfl (by decide)⟩

end StoryRules.CycleSearch
