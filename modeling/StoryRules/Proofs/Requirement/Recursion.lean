import StoryRules.Proofs.Requirement.Search

/-! The search for cycles as a recursion. From an entity its requirements are followed one after
another, and what a requirement leads to is searched before the next one is followed; the path is an
argument, so there are no frames. Both searches find the same cycles in the same order
(`cycles_eq_recursiveCycles`): to run on from a frame is to follow the requirements that are left of
it and then to run on from the frames outside (`run_withFrames`). -/

namespace StoryRules

/-- What a search leaves behind: the entities it has entered, the last one first, and the cycles it
has found. -/
structure Trail where
  visited : List Ident := []
  cycles : List (List Ident) := []

namespace Trail

variable (g : Graph) (kind : Kind)

def unvisited (t : Trail) : List Ident := CycleSearch.unvisited g kind { visited := t.visited }

theorem length_unvisited_le {t t' : Trail} (h : t.visited ⊆ t'.visited) :
    (t'.unvisited g kind).length ≤ (t.unvisited g kind).length := by
  refine (List.monotone_filter_right _ fun x hx => ?_).length_le
  simp only [decide_eq_true_eq] at hx ⊢
  exact fun hOld => hx (h hOld)

theorem length_unvisited_lt {t t' : Trail} {x : Ident} (hKnown : g.contains kind x = true)
    (hNew : x ∉ t.visited) (h : x :: t.visited ⊆ t'.visited) :
    (t'.unvisited g kind).length < (t.unvisited g kind).length :=
  calc (t'.unvisited g kind).length
    _ ≤ (unvisited g kind { visited := x :: t.visited }).length := length_unvisited_le g kind h
    _ < (t.unvisited g kind).length :=
      CycleSearch.length_unvisited_lt (s := { visited := t.visited }) g kind hKnown hNew [] []

/-- The trail after the requirements `targets` have been followed, in order, from the last entity of
`path`. One that is unknown leads nowhere, and one on the path closes a cycle: the part of the path
from it on, and back to it. Any other is entered unless it was before. -/
def follow (path targets : List Ident) (t : Trail) : { t' : Trail // t.visited ⊆ t'.visited } :=
  match targets with
  | [] => ⟨t, List.Subset.refl _⟩
  | y :: rest =>
    if _hKnown : g.contains kind y = true then
      if y ∈ path then
        follow path rest { t with cycles := t.cycles ++ [path.dropWhile (· ≠ y) ++ [y]] }
      else if _hNew : y ∉ t.visited then
        match follow (path ++ [y]) (g.requires kind y) { t with visited := y :: t.visited } with
        | ⟨inner, hInner⟩ =>
          match follow path rest inner with
          | ⟨last, hLast⟩ => ⟨last, fun x hx => hLast (hInner (.tail y hx))⟩
      else follow path rest t
    else follow path rest t
termination_by ((t.unvisited g kind).length, targets.length)
decreasing_by
  · exact Prod.Lex.right _ (Nat.lt_succ_self _)
  · exact Prod.Lex.left _ _ (length_unvisited_lt g kind _hKnown _hNew (List.Subset.refl _))
  · exact Prod.Lex.left _ _ (length_unvisited_lt g kind _hKnown _hNew hInner)
  · exact Prod.Lex.right _ (Nat.lt_succ_self _)
  · exact Prod.Lex.right _ (Nat.lt_succ_self _)

/-- The trail after an entity has been entered, at the end of `path`, and its requirements have been
followed. -/
def enter (path : List Ident) (t : Trail) (x : Ident) : Trail :=
  follow g kind (path ++ [x]) (g.requires kind x) { t with visited := x :: t.visited }

/-- The trail after the search from a root, which is skipped if it was entered before. -/
def search (t : Trail) (root : Ident) : Trail :=
  if root ∈ t.visited then t else t.enter g kind [] root

/-- The state of a search on the way through some frames, with the trail it has left so far. -/
def withFrames (t : Trail) (frames : List Frame) : CycleSearch where
  visited := t.visited
  frames := frames
  onPath := frames.map (·.node)
  cycles := t.cycles

end Trail

/-- The cycles found recursively among the entities of a kind, each of them a root in its turn. -/
def Graph.recursiveCycles (g : Graph) (kind : Kind) : List (List Ident) :=
  ((g.ids kind).foldl (Trail.search g kind) {}).cycles

/-- The entities of some frames from the outermost to the innermost. -/
def Frame.path (frames : List Frame) : List Ident := (frames.map (·.node)).reverse

theorem Frame.mem_path {frames : List Frame} {x : Ident} :
    x ∈ Frame.path frames ↔ x ∈ frames.map (·.node) :=
  List.mem_reverse

theorem Frame.path_cons (frame : Frame) (frames : List Frame) :
    Frame.path (frame :: frames) = Frame.path frames ++ [frame.node] :=
  List.reverse_cons

theorem getElem?_of_cons_eq_drop {α : Type} {as rest : List α} {a : α} {n : Nat}
    (h : a :: rest = as.drop n) : as[n]? = some a ∧ rest = as.drop (n + 1) :=
  ⟨by rw [← List.head?_drop, ← h, List.head?_cons], by rw [← List.tail_drop, ← h, List.tail_cons]⟩

namespace CycleSearch

variable {g : Graph} {kind : Kind} {t : Trail} {frame : Frame} {outer : List Frame}
  {target : Ident}

/-- On a path without repetition, the part from an entity on is what comes after the others. -/
theorem pathFrom?_eq_dropWhile (frames : List Frame) (hNodup : (Frame.path frames).Nodup)
    (h : target ∈ Frame.path frames) :
    pathFrom? target frames = some ((Frame.path frames).dropWhile (· ≠ target)) := by
  obtain ⟨path, hPath⟩ :=
    Option.ne_none_iff_exists'.1 (pathFrom?_ne_none (Frame.mem_path.1 h))
  obtain ⟨hHead, before, hBefore⟩ := pathFrom?_eq_some hPath
  have hWhole : before ++ path = Frame.path frames := hBefore
  rw [← hWhole] at hNodup
  have hOthers : ∀ x ∈ before, decide (x ≠ target) = true := fun x hx =>
    decide_eq_true ((List.nodup_append.1 hNodup).2.2 x hx target (List.mem_of_head? hHead))
  rw [hPath, ← hWhole, List.dropWhile_append_of_pos hOthers]
  cases path with
  | nil => cases hHead
  | cons x path =>
    obtain rfl : x = target := by simpa using hHead
    rw [List.dropWhile_cons_of_neg (by simp)]

theorem run_cons : run g kind (t.withFrames (frame :: outer)) =
    run g kind (step g kind (t.withFrames (frame :: outer))) := by
  have hOpen : (t.withFrames (frame :: outer)).frames ≠ [] := List.cons_ne_nil _ _
  rw [run, dif_neg hOpen]

theorem run_nil : run g kind (t.withFrames []) = t.withFrames [] := by
  rw [run]
  exact dif_pos rfl

/-! ### One step, for each case of the recursion -/

theorem step_leave (h : (g.requires kind frame.node)[frame.cursor]? = none) :
    step g kind (t.withFrames (frame :: outer)) = t.withFrames outer := by
  simp [step, Trail.withFrames, h]

theorem step_unknown (hEdge : (g.requires kind frame.node)[frame.cursor]? = some target)
    (hUnknown : ¬g.contains kind target = true) :
    step g kind (t.withFrames (frame :: outer)) = t.withFrames (frame.next :: outer) := by
  simp [step, Trail.withFrames, hEdge, hUnknown, Frame.next]

theorem step_close (hEdge : (g.requires kind frame.node)[frame.cursor]? = some target)
    (hKnown : g.contains kind target = true) (hNodup : (Frame.path (frame :: outer)).Nodup)
    (hOn : target ∈ Frame.path (frame :: outer)) :
    step g kind (t.withFrames (frame :: outer)) =
      Trail.withFrames { t with cycles := t.cycles
        ++ [(Frame.path (frame :: outer)).dropWhile (· ≠ target) ++ [target]] }
        (frame.next :: outer) := by
  have hPath : pathFrom? target ({ frame with cursor := frame.cursor + 1 } :: outer) = some _ :=
    pathFrom?_eq_dropWhile (frame.next :: outer) hNodup hOn
  simp only [step, Trail.withFrames, hEdge, hKnown, Frame.mem_path.1 hOn, hPath]
  rfl

theorem step_old (hEdge : (g.requires kind frame.node)[frame.cursor]? = some target)
    (hOff : target ∉ Frame.path (frame :: outer)) (hOld : target ∈ t.visited) :
    step g kind (t.withFrames (frame :: outer)) = t.withFrames (frame.next :: outer) := by
  simp only [step, Trail.withFrames, hEdge, mt Frame.mem_path.2 hOff, hOld, if_true, if_false]
  simp [Frame.next]

theorem step_enter (hEdge : (g.requires kind frame.node)[frame.cursor]? = some target)
    (hKnown : g.contains kind target = true) (hOff : target ∉ Frame.path (frame :: outer))
    (hNew : target ∉ t.visited) :
    step g kind (t.withFrames (frame :: outer)) =
      Trail.withFrames { t with visited := target :: t.visited }
        (⟨target, 0⟩ :: frame.next :: outer) := by
  simp only [step, Trail.withFrames, hEdge, hKnown, mt Frame.mem_path.2 hOff, hNew]
  rfl

/-- To run on from a frame is to follow the requirements that are left of it and then to run on from
the frames outside. By induction on what the recursion does with these requirements: the frame that
is entered has all of its own left. -/
theorem run_withFrames {path targets : List Ident} (hPath : path = Frame.path (frame :: outer))
    (hNodup : path.Nodup) (hTargets : targets = (g.requires kind frame.node).drop frame.cursor) :
    run g kind (t.withFrames (frame :: outer)) =
      run g kind ((t.follow g kind path targets).1.withFrames outer) := by
  fun_induction Trail.follow g kind path targets t generalizing frame outer with
  | case1 path t =>
    rw [run_cons, step_leave (List.getElem?_eq_none (List.drop_eq_nil_iff.1 hTargets.symm))]
  | case2 path t y rest hKnown hOn ih =>
    subst hPath
    obtain ⟨hEdge, hRest⟩ := getElem?_of_cons_eq_drop hTargets
    rw [run_cons, step_close hEdge hKnown hNodup hOn]
    exact ih rfl hNodup hRest
  | case3 path t y rest hKnown hOff hNew inner hInner hFirst last hLast hLater ihFirst ihLater =>
    subst hPath
    obtain ⟨hEdge, hRest⟩ := getElem?_of_cons_eq_drop hTargets
    have hLonger : Frame.path (frame :: outer) ++ [y] =
        Frame.path (⟨y, 0⟩ :: frame.next :: outer) := (Frame.path_cons ⟨y, 0⟩ _).symm
    have hFresh : (Frame.path (frame :: outer) ++ [y]).Nodup :=
      List.nodup_append.2 ⟨hNodup, List.nodup_singleton y, fun x hx x' hx' => by
        rw [List.mem_singleton.1 hx']
        exact ne_of_mem_of_not_mem hx hOff⟩
    have hSearched : run g kind (Trail.withFrames { t with visited := y :: t.visited }
        (⟨y, 0⟩ :: frame.next :: outer)) = run g kind (inner.withFrames (frame.next :: outer)) := by
      rw [ihFirst hLonger hFresh rfl, hFirst]
    have hFollowed : run g kind (inner.withFrames (frame.next :: outer)) =
        run g kind (last.withFrames outer) := by
      rw [ihLater (show _ = Frame.path (frame.next :: outer) from rfl) hNodup hRest, hLater]
    rw [run_cons, step_enter hEdge hKnown hOff hNew]
    exact hSearched.trans hFollowed
  | case4 path t y rest hKnown hOff hOld ih =>
    subst hPath
    obtain ⟨hEdge, hRest⟩ := getElem?_of_cons_eq_drop hTargets
    rw [run_cons, step_old hEdge hOff (not_not.1 hOld)]
    exact ih rfl hNodup hRest
  | case5 path t y rest hUnknown ih =>
    obtain ⟨hEdge, hRest⟩ := getElem?_of_cons_eq_drop hTargets
    rw [run_cons, step_unknown hEdge hUnknown]
    exact ih hPath hNodup hRest

theorem explore_withFrames (t : Trail) (root : Ident) :
    explore g kind (t.withFrames []) root = (t.search g kind root).withFrames [] := by
  rw [explore, Trail.search]
  split
  · rename_i hOld
    rw [if_pos (show root ∈ t.visited from hOld)]
  · rename_i hNew
    rw [if_neg (show root ∉ t.visited from hNew)]
    have hRun : run g kind (Trail.withFrames { t with visited := root :: t.visited } [⟨root, 0⟩]) =
        run g kind ((t.enter g kind [] root).withFrames []) :=
      run_withFrames rfl (List.nodup_singleton root) rfl
    exact hRun.trans run_nil

end CycleSearch

/-- The search with frames finds what the recursive one finds: the same cycles in the same order. -/
theorem Graph.cycles_eq_recursiveCycles (g : Graph) (kind : Kind) :
    g.cycles kind = g.recursiveCycles kind := by
  have hRoots : (g.ids kind).foldl (CycleSearch.explore g kind) (Trail.withFrames {} []) =
      ((g.ids kind).foldl (Trail.search g kind) {}).withFrames [] :=
    List.foldl_hom (fun t : Trail => t.withFrames []) CycleSearch.explore_withFrames
  exact congrArg CycleSearch.cycles hRoots

end StoryRules
