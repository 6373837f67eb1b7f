import Mathlib.Algebra.Ring.Nat
import StoryRules.Proofs.Requirement.Longest
import StoryRules.Proofs.Requirement.Turn

/-! What the search for cycles costs. It enters every known entity once, looks once at every
requirement of it and leaves it once, so the steps it takes are counted by the entities and their
requirements (`exists_turns_each_once`). Behind this stands a balance: what the turns so far have
dealt with and what is still left are together always the same (`Searches.perm`). -/

namespace StoryRules.CycleSearch

namespace Turn

/-- Whether a step is taken, and not a root entered. -/
def isStep (turn : Turn) : Bool := !turn.before.frames.isEmpty

/-- The frame that a step works on, which is the innermost one. -/
def focus? (turn : Turn) : Option Frame := turn.before.frames.head?

/-- The entities by which the path gets longer. -/
def entered (turn : Turn) : List Ident :=
  turn.after.nodes.take (turn.after.nodes.length - turn.before.nodes.length)

theorem entered_of_nodes {s t : CycleSearch} {x : Ident} (h : t.nodes = x :: s.nodes) :
    entered ⟨s, t⟩ = [x] := by
  simp [entered, h]

end Turn

variable (g : Graph) (kind : Kind)

/-- The requirement that a step at a frame looks at, by the entity that lists it and its place in
the list. There is none if the step leaves the entity. -/
def slot? (frame : Frame) : Option (Ident × Nat) :=
  if frame.cursor < (g.requires kind frame.node).length then some (frame.node, frame.cursor)
  else none

def Turn.examined? (turn : Turn) : Option (Ident × Nat) := turn.focus?.bind (slot? g kind)

/-- The steps left at an entity, from that of a frame on: one for each requirement that is not yet
followed, and one to leave the entity. -/
def due (frame : Frame) : List Frame :=
  (List.range' frame.cursor ((g.requires kind frame.node).length + 1 - frame.cursor)).map
    (Frame.mk frame.node)

/-- The steps left in a search: all those at an entity that was not visited, and what is left at the
entities on the path. -/
def pending (s : CycleSearch) : List Frame :=
  (unvisited g kind s).flatMap (fun x => due g kind ⟨x, 0⟩) ++ s.frames.flatMap (due g kind)

variable {g kind} {s t : CycleSearch} {roots : List Ident} {turns : List Turn} {turn : Turn}
  {frame : Frame} {outer : List Frame} {x : Ident}

/-! ### One turn -/

theorem due_eq_cons (h : frame.cursor ≤ (g.requires kind frame.node).length) :
    due g kind frame = frame :: due g kind frame.next := by
  have hCount : (g.requires kind frame.node).length + 1 - frame.cursor =
      (g.requires kind frame.node).length + 1 - (frame.cursor + 1) + 1 := by omega
  rw [due, hCount, List.range'_succ, List.map_cons]
  rfl

theorem due_eq_nil (h : (g.requires kind frame.node).length < frame.cursor) :
    due g kind frame = [] := by
  rw [due, Nat.sub_eq_zero_of_le h]
  rfl

theorem mem_due {y : Ident} {i : Nat} :
    ⟨y, i⟩ ∈ due g kind ⟨x, 0⟩ ↔ x = y ∧ i ≤ (g.requires kind x).length := by
  simp only [due, List.mem_map, List.mem_range'_1, Frame.mk.injEq]
  constructor
  · rintro ⟨j, hj, rfl, rfl⟩
    exact ⟨rfl, by omega⟩
  · rintro ⟨rfl, hi⟩
    exact ⟨i, by omega, rfl, rfl⟩

theorem cursor_next_le {target : Ident}
    (hFrames : ∀ f ∈ frame :: outer, f.cursor ≤ (g.requires kind f.node).length)
    (hEdge : (g.requires kind frame.node)[frame.cursor]? = some target) :
    ∀ f ∈ frame.next :: outer, f.cursor ≤ (g.requires kind f.node).length :=
  List.forall_mem_cons.2
    ⟨(List.getElem?_eq_some_iff.1 hEdge).1, (List.forall_mem_cons.1 hFrames).2⟩

/-- No frame has followed more requirements than its entity lists. -/
theorem Reachable.cursor_le (h : Reachable g kind s) :
    ∀ f ∈ s.frames, f.cursor ≤ (g.requires kind f.node).length := by
  refine h.induct (by simp) (fun s x _ _ _ => by simp) fun s t ih _ hMove => ?_
  cases hMove with
  | leave hFrames =>
    rw [hFrames] at ih
    exact (List.forall_mem_cons.1 ih).2
  | skip hFrames hEdge | close hFrames hEdge =>
    rw [hFrames] at ih
    exact cursor_next_le ih hEdge
  | enter hFrames hEdge =>
    rw [hFrames] at ih
    exact List.forall_mem_cons.2 ⟨Nat.zero_le _, cursor_next_le ih hEdge⟩

/-- What is due on a path begins with the innermost frame. -/
theorem Reachable.flatMap_due (h : Reachable g kind s) (hFrames : s.frames = frame :: outer) :
    s.frames.flatMap (due g kind) =
      frame :: (due g kind frame.next ++ outer.flatMap (due g kind)) := by
  have hCursor := h.cursor_le frame (by simp [hFrames])
  rw [hFrames, List.flatMap_cons, due_eq_cons hCursor, List.cons_append]

/-- An entity that is visited was unvisited before, once. -/
theorem perm_unvisited (hKnown : g.contains kind x = true) (hNew : x ∉ s.visited)
    (hVisited : t.visited = x :: s.visited) :
    (unvisited g kind s).Perm (x :: unvisited g kind t) := by
  have hMem : x ∈ unvisited g kind s := by
    simpa [unvisited, hNew] using Graph.mem_ids.2 hKnown
  have hNodup : (unvisited g kind s).Nodup := (g.nodup_ids kind).filter _
  have hErase : (unvisited g kind s).erase x = unvisited g kind t := by
    rw [unvisited_eq_filter g kind hVisited, hNodup.erase_eq_filter]
    exact List.filter_congr fun y _ => by rw [bne, beq_eq_decide, decide_not]
  rw [← hErase]
  exact List.perm_cons_erase hMem

theorem perm_flatMap_due (hKnown : g.contains kind x = true) (hNew : x ∉ s.visited)
    (hVisited : t.visited = x :: s.visited) (frames : List Frame) :
    ((unvisited g kind s).flatMap (fun x => due g kind ⟨x, 0⟩) ++ frames).Perm
      ((unvisited g kind t).flatMap (fun x => due g kind ⟨x, 0⟩) ++
        (due g kind ⟨x, 0⟩ ++ frames)) := by
  have hEnter := (perm_unvisited hKnown hNew hVisited).flatMap_right fun x => due g kind ⟨x, 0⟩
  rw [List.flatMap_cons] at hEnter
  rw [← List.append_assoc]
  exact (hEnter.trans List.perm_append_comm).append_right frames

/-- A turn visits what it enters, and nothing else. -/
theorem Turn.Made.perm_unvisited (h : turn.Made g kind) :
    (unvisited g kind turn.before).Perm (turn.entered ++ unvisited g kind turn.after) := by
  cases h with
  | @root s x hs hIdle hKnown hNew =>
    have hNodes : (s.fromRoot x).nodes = x :: s.nodes := by simp [nodes, fromRoot, hIdle]
    rw [entered_of_nodes hNodes]
    exact CycleSearch.perm_unvisited hKnown hNew rfl
  | @step s hs hOpen =>
    have hMove := step_move hs.consistent hOpen
    generalize CycleSearch.step g kind s = t at hMove
    cases hMove with
    | leave hFrames | skip hFrames | close hFrames => simp [entered, nodes, hFrames, unvisited]
    | @enter frame outer target hFrames hEdge hKnown hNew =>
      rw [entered_of_nodes (x := target) (by simp [nodes, hFrames])]
      exact CycleSearch.perm_unvisited hKnown hNew rfl

/-- A step deals with the frame it works on, and a root that is entered with none. -/
theorem Turn.Made.perm_pending (h : turn.Made g kind) :
    (pending g kind turn.before).Perm (turn.focus?.toList ++ pending g kind turn.after) := by
  cases h with
  | @root s x hs hIdle hKnown hNew =>
    simpa [pending, focus?, hIdle, fromRoot] using
      perm_flatMap_due (t := s.fromRoot x) hKnown hNew rfl []
  | @step s hs hOpen =>
    have hMove := step_move hs.consistent hOpen
    generalize CycleSearch.step g kind s = t at hMove
    cases hMove with
    | leave hFrames hDone =>
      rw [pending, hs.flatMap_due hFrames, due_eq_nil (Nat.lt_succ_of_le hDone)]
      simp [focus?, hFrames, pending, unvisited]
    | skip hFrames | close hFrames =>
      rw [pending, hs.flatMap_due hFrames]
      simp [focus?, hFrames, pending, unvisited]
    | enter hFrames hEdge hKnown hNew =>
      -- what is due at the entity that is entered is no longer due as unvisited but on the path
      rw [pending, hs.flatMap_due hFrames]
      refine List.perm_middle.trans ?_
      simpa [focus?, hFrames, pending] using perm_flatMap_due hKnown hNew rfl _

/-! ### The whole search -/

/-- What every turn takes off what is left, all turns together take off it. -/
theorem Searches.perm {β : Type} {spent : Turn → List β} {left : CycleSearch → List β}
    (h : Searches g kind roots s turns t)
    (hTurn : ∀ turn ∈ turns, (left turn.before).Perm (spent turn ++ left turn.after)) :
    (left s).Perm (turns.flatMap spent ++ left t) := by
  induction h with
  | done => exact List.Perm.refl _
  | pass _ _ _ ih => exact ih hTurn
  | root _ _ _ ih | step _ _ ih =>
    obtain ⟨hFirst, hRest⟩ := List.forall_mem_cons.1 hTurn
    rw [List.flatMap_cons, List.append_assoc]
    exact hFirst.trans ((ih hRest).append_left _)

theorem unvisited_initial : unvisited g kind {} = g.ids kind := by
  simp [unvisited]

theorem Searches.perm_entered (h : Searches g kind (g.ids kind) {} turns t) :
    (g.ids kind).Perm (turns.flatMap Turn.entered) := by
  have hAll := h.perm fun turn hTurn => (h.made_of_mem hTurn).perm_unvisited
  rw [unvisited_initial, h.final.2.2, List.append_nil] at hAll
  exact hAll

theorem Searches.perm_focus (h : Searches g kind (g.ids kind) {} turns t) :
    ((g.ids kind).flatMap fun x => due g kind ⟨x, 0⟩).Perm (turns.filterMap Turn.focus?) := by
  have hAll := h.perm fun turn hTurn => (h.made_of_mem hTurn).perm_pending
  obtain ⟨-, hIdle, hVisited⟩ := h.final
  simpa [pending, unvisited_initial, hIdle, hVisited, List.filterMap_eq_flatMap_toList] using hAll

theorem nodup_due (frame : Frame) : (due g kind frame).Nodup :=
  (List.nodup_range' 1).map fun _ _ h => congrArg Frame.cursor h

theorem nodup_flatMap_due (g : Graph) (kind : Kind) :
    ((g.ids kind).flatMap fun x => due g kind ⟨x, 0⟩).Nodup := by
  refine List.nodup_flatMap.2 ⟨fun x _ => nodup_due _, (g.nodup_ids kind).imp ?_⟩
  intro x y hNe frame hx hy
  exact hNe ((mem_due.1 hx).1.trans (mem_due.1 hy).1.symm)

theorem slot?_eq_some {slot : Ident × Nat} : slot? g kind frame = some slot ↔
    frame = ⟨slot.1, slot.2⟩ ∧ slot.2 < (g.requires kind slot.1).length := by
  obtain ⟨x, i⟩ := slot
  obtain ⟨y, j⟩ := frame
  simp only [slot?, Frame.mk.injEq]
  split <;> grind

/-- The requirements that the steps of a search look at, in another order. -/
def slots (g : Graph) (kind : Kind) : List (Ident × Nat) :=
  ((g.ids kind).flatMap fun x => due g kind ⟨x, 0⟩).filterMap (slot? g kind)

theorem nodup_slots (g : Graph) (kind : Kind) : (slots g kind).Nodup :=
  (nodup_flatMap_due g kind).filterMap fun _ _ _ hSlot hSlot' =>
    (slot?_eq_some.1 hSlot).1.trans (slot?_eq_some.1 hSlot').1.symm

theorem mem_slots {i : Nat} :
    (x, i) ∈ slots g kind ↔ g.contains kind x = true ∧ i < (g.requires kind x).length := by
  simp only [slots, List.mem_filterMap, List.mem_flatMap, slot?_eq_some, Graph.mem_ids]
  constructor
  · rintro ⟨_, ⟨y, hy, hDue⟩, rfl, hi⟩
    obtain ⟨rfl, -⟩ := mem_due.1 hDue
    exact ⟨hy, hi⟩
  · rintro ⟨hx, hi⟩
    exact ⟨⟨x, i⟩, ⟨x, hx, mem_due.2 ⟨rfl, hi.le⟩⟩, rfl, hi⟩

theorem Searches.perm_examined (h : Searches g kind (g.ids kind) {} turns t) :
    (slots g kind).Perm (turns.filterMap (Turn.examined? g kind)) := by
  have hAll := h.perm_focus.filterMap (slot? g kind)
  rw [List.filterMap_filterMap] at hAll
  exact hAll

theorem Searches.countP_isStep (h : Searches g kind (g.ids kind) {} turns t) :
    turns.countP Turn.isStep = ((g.ids kind).map fun x => 1 + (g.requires kind x).length).sum := by
  have hStep : turns.countP Turn.isStep = (turns.filterMap Turn.focus?).length := by
    rw [List.length_filterMap_eq_countP]
    refine List.countP_congr fun turn _ => ?_
    rw [Turn.isStep, Turn.focus?]
    cases turn.before.frames <;> rfl
  rw [hStep, ← h.perm_focus.length_eq, List.length_flatMap]
  simp [due, Nat.add_comm]

/-- The search stops, and makes its turns in one way. In these turns every known entity is entered
once and no other is, every requirement in the list of a known entity is looked at once, and the
steps are as many as the known entities and their requirements together. -/
theorem exists_turns_each_once (g : Graph) (kind : Kind) :
    ∃ turns t, Searches g kind (g.ids kind) {} turns t ∧ t.cycles = g.cycles kind ∧
      (∀ turns' t', Searches g kind (g.ids kind) {} turns' t' → turns' = turns ∧ t' = t) ∧
      (∀ x, (turns.flatMap Turn.entered).count x = if g.contains kind x = true then 1 else 0) ∧
      (∀ x i, (turns.filterMap (Turn.examined? g kind)).count (x, i) =
        if g.contains kind x = true ∧ i < (g.requires kind x).length then 1 else 0) ∧
      turns.countP Turn.isStep =
        ((g.ids kind).map fun x => 1 + (g.requires kind x).length).sum := by
  obtain ⟨turns, h⟩ := exists_search g kind
  refine ⟨turns, _, h, h.final.1, fun turns' t' h' => h'.unique h, fun x => ?_, fun x i => ?_,
    h.countP_isStep⟩
  · rw [← h.perm_entered.count_eq x, (g.nodup_ids kind).count]
    exact if_congr Graph.mem_ids rfl rfl
  · rw [← h.perm_examined.count_eq (x, i), (nodup_slots g kind).count]
    exact if_congr mem_slots rfl rfl

end StoryRules.CycleSearch
