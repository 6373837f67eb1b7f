import StoryRules.Proofs.Requirement.Search

/-! The cycles that are reported. Each is a cycle without repetition, found through a requirement of
its own (`cycleFindings_sound`), and every cycle of the graph has a requirement that closes a
reported one (`cycleFindings_complete`). The second follows from the order in which a search leaves
the entities: `Settled` says that each needs only entities left before it, but for the requirements
that closed a cycle. -/

namespace StoryRules.CycleSearch

variable {g : Graph} {kind : Kind}

/-! ### Soundness -/

/-- Read outwards in, the path is a walk along requirements. -/
theorem Consistent.walk {s : CycleSearch} (h : Consistent g kind s) :
    s.nodes.reverse.IsChain (g.Needs kind) := by
  rw [List.isChain_reverse, nodes, List.isChain_map]
  refine h.entered.imp_of_mem_imp fun inner outer hInner hOuter hEntered => ?_
  obtain ⟨i, -, hEdge⟩ := hEntered
  exact ⟨h.known _ (List.mem_map_of_mem hOuter), h.known _ (List.mem_map_of_mem hInner),
    List.mem_of_getElem? hEdge⟩

/-- What `Move.close` adds is a cycle without repetition that the innermost entity closes. -/
theorem Consistent.closed {s : CycleSearch} {frame : Frame} {outer : List Frame} {target : Ident}
    {path : List Ident} (h : Consistent g kind s) (hFrames : s.frames = frame :: outer)
    (hEdge : (g.requires kind frame.node)[frame.cursor]? = some target)
    (hKnown : g.contains kind target = true)
    (hPath : pathFrom? target (frame.next :: outer) = some path) :
    g.IsCycle kind (path ++ [target]) ∧ path.Nodup ∧
      ClosedBy (path ++ [target]) frame.node target := by
  obtain ⟨hHead, hSuffix⟩ := pathFrom?_eq_some hPath
  have hNodes : (frame.next :: outer).map (·.node) = s.nodes := (nodes_eq hFrames).symm
  rw [hNodes] at hSuffix
  have hNonempty : path ≠ [] := by rintro rfl; simp at hHead
  have hLast : path.getLast? = some frame.node := by
    obtain ⟨before, hEq⟩ := hSuffix
    rw [← List.getLast?_append_of_ne_nil before hNonempty, hEq, nodes_eq hFrames]
    simp
  have hNeeds : g.Needs kind frame.node target :=
    ⟨h.known _ (by simp [nodes_eq hFrames]), hKnown, List.mem_of_getElem? hEdge⟩
  have hWalk : (path ++ [target]).IsChain (g.Needs kind) := by
    refine (h.walk.suffix hSuffix).append (.singleton _) fun x hx y hy => ?_
    obtain rfl : frame.node = x := by simpa [hLast] using hx
    obtain rfl : target = y := by simpa using hy
    exact hNeeds
  refine ⟨⟨?_, ?_, hWalk⟩, ?_, path, rfl, hHead, hLast⟩
  · have := List.length_pos_of_ne_nil hNonempty
    simp
    omega
  · simp [List.head?_append, hHead]
  · exact (List.nodup_reverse.2 h.nodup).sublist hSuffix.sublist

/-- Every cycle found is one, and repeats no entity but the first. -/
theorem Reachable.sound {s : CycleSearch} (h : Reachable g kind s) :
    ∀ path ∈ s.cycles, g.IsCycle kind path ∧ path.dropLast.Nodup := by
  refine h.induct (by simp) (fun s x ih _ _ => ih) fun s t ih hs hMove => ?_
  cases hMove with
  | leave | skip | enter => exact ih
  | close hFrames hEdge hKnown hPath =>
    intro path hMem
    rcases List.mem_append.1 hMem with hMem | hMem
    · exact ih path hMem
    · obtain rfl := List.mem_singleton.1 hMem
      obtain ⟨hCycle, hNodup, -⟩ := hs.closed hFrames hEdge hKnown hPath
      exact ⟨hCycle, by simpa using hNodup⟩

/-- `slots` are the places of the requirements that closed the cycles found, in order. All of them
have been followed, so a requirement that is followed next is none of them. -/
structure Recorded (g : Graph) (kind : Kind) (s : CycleSearch) (slots : List (Ident × Nat)) :
    Prop where
  closes : List.Forall₂ (g.ClosesAt kind) s.cycles slots
  nodup : slots.Nodup
  entered : ∀ slot ∈ slots, slot.1 ∈ s.visited
  followed : ∀ slot ∈ slots, ∀ frame ∈ s.frames, frame.node = slot.1 → slot.2 < frame.cursor

theorem Recorded.followed_next {s : CycleSearch} {slots : List (Ident × Nat)} {frame : Frame}
    {outer : List Frame} (h : Recorded g kind s slots) (hFrames : s.frames = frame :: outer) :
    ∀ slot ∈ slots, ∀ f ∈ frame.next :: outer, f.node = slot.1 → slot.2 < f.cursor := by
  intro slot hSlot f hf hNode
  rcases List.mem_cons.1 hf with rfl | hf
  · have := h.followed slot hSlot frame (by simp [hFrames]) hNode
    rw [Frame.next_cursor]
    omega
  · exact h.followed slot hSlot f (by simp [hFrames, hf]) hNode

theorem Move.recorded {s t : CycleSearch} {slots : List (Ident × Nat)} (hMove : Move g kind s t)
    (hs : Consistent g kind s) (h : Recorded g kind s slots) :
    ∃ slots', Recorded g kind t slots' := by
  cases hMove with
  | leave hFrames hDone =>
    exact ⟨slots, h.closes, h.nodup, h.entered, fun slot hSlot f hf =>
      h.followed slot hSlot f (by simp [hFrames, hf])⟩
  | skip hFrames hEdge hOld =>
    exact ⟨slots, h.closes, h.nodup, h.entered, h.followed_next hFrames⟩
  | @close frame outer target path hFrames hEdge hKnown hPath =>
    have hFresh : (frame.node, frame.cursor) ∉ slots := fun hOld =>
      absurd (h.followed _ hOld frame (by simp [hFrames]) rfl) (Nat.lt_irrefl _)
    refine ⟨slots ++ [(frame.node, frame.cursor)], ?_, ?_, ?_, ?_⟩
    · obtain ⟨-, -, hClosed⟩ := hs.closed hFrames hEdge hKnown hPath
      exact List.rel_append h.closes (.cons ⟨target, hClosed, hEdge⟩ .nil)
    · refine List.nodup_append.2 ⟨h.nodup, by simp, fun slot hSlot slot' hSlot' => ?_⟩
      rw [List.mem_singleton.1 hSlot']
      exact ne_of_mem_of_not_mem hSlot hFresh
    · intro slot hSlot
      rcases List.mem_append.1 hSlot with hSlot | hSlot
      · exact h.entered slot hSlot
      · obtain rfl := List.mem_singleton.1 hSlot
        exact hs.visited _ (by simp [nodes_eq hFrames])
    · intro slot hSlot f hf hNode
      rcases List.mem_append.1 hSlot with hSlot | hSlot
      · exact h.followed_next hFrames slot hSlot f hf hNode
      · obtain rfl := List.mem_singleton.1 hSlot
        rcases List.mem_cons.1 hf with rfl | hf
        · exact Nat.lt_succ_self _
        · -- no frame further out has the node of the innermost one
          have hNodup := hs.nodup
          rw [nodes_eq hFrames, List.nodup_cons] at hNodup
          have hMem : f.node ∈ outer.map (·.node) := List.mem_map_of_mem hf
          rw [hNode] at hMem
          exact absurd hMem hNodup.1
  | @enter frame outer target hFrames hEdge hKnown hNew =>
    refine ⟨slots, h.closes, h.nodup, fun slot hSlot => .tail _ (h.entered slot hSlot), ?_⟩
    intro slot hSlot f hf hNode
    rcases List.mem_cons.1 hf with rfl | hf
    · have hOld := h.entered slot hSlot
      rw [← hNode] at hOld
      exact absurd hOld hNew
    · exact h.followed_next hFrames slot hSlot f hf hNode

/-- Every cycle found was closed by a requirement of its own. -/
theorem Reachable.recorded {s : CycleSearch} (h : Reachable g kind s) :
    ∃ slots, Recorded g kind s slots := by
  refine h.induct ⟨[], .nil, by simp, by simp, by simp⟩ ?_ ?_
  · rintro s x ⟨slots, hRecorded⟩ - hNew
    refine ⟨slots, hRecorded.closes, hRecorded.nodup,
      fun slot hSlot => .tail _ (hRecorded.entered slot hSlot), ?_⟩
    intro slot hSlot f hf hNode
    have hOld := hRecorded.entered slot hSlot
    rw [← hNode, List.mem_singleton.1 hf] at hOld
    exact absurd hOld hNew
  · rintro s t ⟨slots, hRecorded⟩ hs hMove
    exact hMove.recorded hs hRecorded

/-! ### Completeness -/

/-- The requirement of `y` by `x` closed one of the cycles. -/
def Closing (cycles : List (List Ident)) (x y : Ident) : Prop := ∃ path ∈ cycles, ClosedBy path x y

theorem Closing.mono {cycles cycles' : List (List Ident)} {x y : Ident} (h : Closing cycles x y)
    (hSub : cycles ⊆ cycles') : Closing cycles' x y := by
  obtain ⟨path, hMem, hClosed⟩ := h
  exact ⟨path, hSub hMem, hClosed⟩

/-- Each of the entities that were left, the last one first, needs only such as were left before
it, but for the requirements that closed a cycle. -/
inductive Settled (g : Graph) (kind : Kind) (cycles : List (List Ident)) : List Ident → Prop
  | nil : Settled g kind cycles []
  | cons {x : Ident} {left : List Ident}
      (hNeeds : ∀ y, g.Needs kind x y → Closing cycles x y ∨ y ∈ left)
      (hLeft : Settled g kind cycles left) : Settled g kind cycles (x :: left)

theorem Settled.mono {cycles cycles' : List (List Ident)} {left : List Ident}
    (h : Settled g kind cycles left) (hSub : cycles ⊆ cycles') : Settled g kind cycles' left := by
  induction h with
  | nil => exact .nil
  | cons hNeeds _ ih => exact .cons (fun y hy => (hNeeds y hy).imp_left (·.mono hSub)) ih

theorem Settled.mem {cycles : List (List Ident)} {left : List Ident}
    (h : Settled g kind cycles left) {x y : Ident} (hx : x ∈ left) (hNeeds : g.Needs kind x y)
    (hOpen : ¬Closing cycles x y) : y ∈ left := by
  induction h with
  | nil => simp at hx
  | cons hHead _ ih =>
    rcases List.mem_cons.1 hx with rfl | hx
    · exact .tail _ ((hHead y hNeeds).resolve_left hOpen)
    · exact .tail _ (ih hx)

/-- The requirements of settled entities that closed no cycle do not lead back. -/
theorem Settled.no_loop {cycles : List (List Ident)} {left : List Ident}
    (h : Settled g kind cycles left) :
    ∀ x ∈ left, ¬Relation.TransGen (fun x y => g.Needs kind x y ∧ ¬Closing cycles x y) x x := by
  induction h with
  | nil => simp
  | @cons z left hNeeds hLeft ih =>
    intro x hx hLoop
    -- the first requirement leads to an entity left before, and so do all after it
    have hReach : ∀ y, Relation.TransGen
        (fun x y => g.Needs kind x y ∧ ¬Closing cycles x y) x y → y ∈ left := by
      intro y hy
      induction hy with
      | single hStep =>
        rcases List.mem_cons.1 hx with rfl | hx
        · exact (hNeeds _ hStep.1).resolve_left hStep.2
        · exact hLeft.mem hx hStep.1 hStep.2
      | tail _ hStep hMem => exact hLeft.mem hMem hStep.1 hStep.2
    exact ih x (hReach x hLoop) hLoop

/-- Of the requirements that the frames of a path have followed, each closed a cycle, leads to an
entity that was left, or leads further in; `inner` are the entities inside the frames. -/
def Followed (g : Graph) (kind : Kind) (cycles : List (List Ident)) (left : List Ident) :
    (inner : List Ident) → List Frame → Prop
  | _, [] => True
  | inner, frame :: outer =>
    (∀ y ∈ (g.requires kind frame.node).take frame.cursor, g.contains kind y = true →
      Closing cycles frame.node y ∨ y ∈ left ∨ y ∈ inner) ∧
    Followed g kind cycles left (frame.node :: inner) outer

theorem Followed.mono {cycles cycles' : List (List Ident)} {left left' inner inner' : List Ident}
    {frames : List Frame} (h : Followed g kind cycles left inner frames)
    (hSub : cycles ⊆ cycles') (hMem : ∀ y, y ∈ left ∨ y ∈ inner → y ∈ left' ∨ y ∈ inner') :
    Followed g kind cycles' left' inner' frames := by
  induction frames generalizing inner inner' with
  | nil => trivial
  | cons frame outer ih =>
    refine ⟨fun y hy hKnown => (h.1 y hy hKnown).imp (·.mono hSub) (hMem y), ih h.2 fun y hy => ?_⟩
    rw [List.mem_cons, or_left_comm] at hy
    rw [List.mem_cons, or_left_comm]
    exact hy.imp_right (hMem y)

/-- The innermost frame follows one requirement more. -/
theorem Followed.next {cycles cycles' : List (List Ident)} {left inner : List Ident}
    {frame : Frame} {outer : List Frame} {target : Ident}
    (h : Followed g kind cycles left [] (frame :: outer))
    (hEdge : (g.requires kind frame.node)[frame.cursor]? = some target)
    (hSub : cycles ⊆ cycles')
    (hTarget : g.contains kind target = true →
      Closing cycles' frame.node target ∨ target ∈ left ∨ target ∈ inner) :
    Followed g kind cycles' left inner (frame.next :: outer) := by
  refine ⟨fun y hy hKnown => ?_, h.2.mono hSub fun y hy => ?_⟩
  · rw [Frame.next_cursor, Frame.next_node, List.take_add_one, hEdge] at hy
    rcases List.mem_append.1 hy with hy | hy
    · have hOld := h.1 y hy hKnown
      simp only [List.not_mem_nil, or_false] at hOld
      exact hOld.imp (·.mono hSub) .inl
    · obtain rfl : y = target := by simpa using hy
      exact hTarget hKnown
  · rw [List.mem_singleton] at hy
    rcases hy with hLeft | rfl
    · exact .inl hLeft
    · exact .inr List.mem_cons_self

/-- The entities that were left account for every requirement followed so far. -/
structure Progress (g : Graph) (kind : Kind) (s : CycleSearch) (left : List Ident) : Prop where
  settled : Settled g kind s.cycles left
  followed : Followed g kind s.cycles left [] s.frames
  covered : ∀ x ∈ s.visited, x ∈ left ∨ x ∈ s.nodes

theorem Move.progress {s t : CycleSearch} {left : List Ident} (hMove : Move g kind s t)
    (hs : Consistent g kind s) (h : Progress g kind s left) :
    ∃ left', Progress g kind t left' := by
  obtain ⟨hSettled, hFollowed, hCovered⟩ := h
  cases hMove with
  | @leave frame outer hFrames hDone =>
    rw [hFrames] at hFollowed
    refine ⟨frame.node :: left, .cons (fun y hy => ?_) hSettled, ?_, fun x hx => ?_⟩
    · have hTaken := hFollowed.1 y
      rw [List.take_of_length_le hDone] at hTaken
      simpa using hTaken hy.listed hy.target
    · refine hFollowed.2.mono (List.Subset.refl _) fun y hy => ?_
      rw [List.mem_singleton] at hy
      exact .inl (List.mem_cons.2 hy.symm)
    · have hOld := hCovered x hx
      rw [nodes_eq hFrames, List.mem_cons, or_left_comm, ← or_assoc] at hOld
      exact hOld.imp_left List.mem_cons.2
  | @skip frame outer target hFrames hEdge hOld =>
    rw [hFrames] at hFollowed
    refine ⟨left, hSettled, hFollowed.next hEdge (List.Subset.refl _) fun hKnown => ?_, ?_⟩
    · obtain ⟨hVisited, hOff⟩ := hOld hKnown
      rw [hs.onPath] at hOff
      exact .inr (.inl ((hCovered target hVisited).resolve_right hOff))
    · simpa [nodes, hFrames] using hCovered
  | @close frame outer target path hFrames hEdge hKnown hPath =>
    rw [hFrames] at hFollowed
    have hSub : s.cycles ⊆ s.cycles ++ [path ++ [target]] := List.subset_append_left _ _
    obtain ⟨-, -, hClosed⟩ := hs.closed hFrames hEdge hKnown hPath
    have hClosing : Closing (s.cycles ++ [path ++ [target]]) frame.node target :=
      ⟨_, List.mem_append_right _ (List.mem_singleton_self _), hClosed⟩
    refine ⟨left, hSettled.mono hSub, hFollowed.next hEdge hSub fun _ => .inl hClosing, ?_⟩
    simpa [nodes, hFrames] using hCovered
  | @enter frame outer target hFrames hEdge hKnown hNew =>
    rw [hFrames] at hFollowed
    refine ⟨left, hSettled, ⟨by simp, ?_⟩, fun x hx => ?_⟩
    · exact hFollowed.next hEdge (List.Subset.refl _) fun _ => .inr (.inr List.mem_cons_self)
    · rcases List.mem_cons.1 hx with rfl | hx
      · exact .inr List.mem_cons_self
      · have hOld := hCovered x hx
        rw [nodes_eq hFrames] at hOld
        exact hOld.imp_right (.tail _)

theorem Reachable.progress {s : CycleSearch} (h : Reachable g kind s) :
    ∃ left, Progress g kind s left := by
  refine h.induct ⟨[], .nil, trivial, by simp⟩ ?_ ?_
  · rintro s x ⟨left, hSettled, -, hCovered⟩ hIdle -
    refine ⟨left, hSettled, ⟨by simp, trivial⟩, fun y hy => ?_⟩
    rcases List.mem_cons.1 hy with rfl | hy
    · exact .inr List.mem_cons_self
    · exact .inl ((hCovered y hy).resolve_right (by simp [nodes, hIdle]))
  · rintro s t ⟨left, hProgress⟩ hs hMove
    exact hMove.progress hs hProgress

end StoryRules.CycleSearch
