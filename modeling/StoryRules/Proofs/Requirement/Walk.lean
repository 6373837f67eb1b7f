import Mathlib.Data.List.Chain
import Mathlib.Data.List.Forall2
import Mathlib.Data.List.Nodup
import Mathlib.Logic.Relation
import StoryRules.Graph

/-! Walks along hard requirements. The requirements of a kind are a relation on its known entities,
and a cycle is a walk of at least one requirement that ends where it began. A relation is acyclic
exactly when no such walk goes along it. -/

namespace StoryRules

/-- No walk along the relation comes back to its beginning. -/
def Acyclic {α : Type} (r : α → α → Prop) : Prop := ∀ a, ¬Relation.TransGen r a a

theorem Acyclic.mono {α : Type} {r r' : α → α → Prop} (h : Acyclic r')
    (hSub : ∀ a b, r a b → r' a b) : Acyclic r :=
  fun a hLoop => h a (Relation.TransGen.mono hSub a a hLoop)

/-- The last step of `path` goes from `x` back to the beginning `y` of the path. -/
def ClosedBy (path : List Ident) (x y : Ident) : Prop :=
  ∃ stem, path = stem ++ [y] ∧ stem.head? = some y ∧ stem.getLast? = some x

theorem ClosedBy.unique {path : List Ident} {x y x' y' : Ident} (h : ClosedBy path x y)
    (h' : ClosedBy path x' y') : x = x' ∧ y = y' := by
  obtain ⟨stem, rfl, _, hLast⟩ := h
  obtain ⟨stem', heq, _, hLast'⟩ := h'
  obtain ⟨rfl, hy⟩ := List.append_inj' heq rfl
  rw [hLast] at hLast'
  exact ⟨by simpa using hLast', by simpa using hy⟩

theorem transGen_of_isChain {α : Type} {r : α → α → Prop} {a b : α} {rest : List α}
    (h : (a :: rest).IsChain r) (hLast : rest.getLast? = some b) : Relation.TransGen r a b := by
  induction rest generalizing a with
  | nil => simp at hLast
  | cons c rest ih =>
    obtain ⟨hStep, hRest⟩ := List.isChain_cons_cons.1 h
    cases rest with
    | nil =>
      obtain rfl : c = b := by simpa using hLast
      exact .single hStep
    | cons d rest => exact .head hStep (ih hRest (by simpa using hLast))

/-- Two lists are related member by member, and each member of the first to one thing only. If the
second list has no repetition, the first has none. -/
theorem nodup_of_forall₂ {α β : Type} {r : α → β → Prop} {as : List α} {bs : List β}
    (hUnique : ∀ a b b', r a b → r a b' → b = b') (h : List.Forall₂ r as bs)
    (hNodup : bs.Nodup) : as.Nodup := by
  induction h with
  | nil => exact .nil
  | @cons a b as bs hab hRest ih =>
    obtain ⟨hFresh, hTail⟩ := List.nodup_cons.1 hNodup
    refine List.nodup_cons.2 ⟨fun hMem => hFresh ?_, ih hTail⟩
    obtain ⟨i, hi, rfl⟩ := List.getElem_of_mem hMem
    have hi' : i < bs.length := hRest.length_eq ▸ hi
    rw [hUnique _ _ _ hab (hRest.get hi hi')]
    exact List.getElem_mem hi'

namespace Graph

variable (g : Graph) (kind : Kind)

/-- Of two known entities, `x` lists `y` among its hard requirements. -/
structure Needs (x y : Ident) : Prop where
  source : g.contains kind x = true
  target : g.contains kind y = true
  listed : y ∈ g.requires kind x

/-- A walk of at least one requirement among known entities that ends where it began. -/
structure IsCycle (path : List Ident) : Prop where
  nontrivial : 2 ≤ path.length
  returns : path.head? = path.getLast?
  walk : path.IsChain (g.Needs kind)

/-- A path closes through the requirement at place `slot.2` of the list of the entity `slot.1`. -/
def ClosesAt (path : List Ident) (slot : Ident × Nat) : Prop :=
  ∃ y, ClosedBy path slot.1 y ∧ (g.requires kind slot.1)[slot.2]? = some y

variable {g kind}

/-- If no entity lists a requirement twice, a path closes at one place at most. -/
theorem ClosesAt.unique {path : List Ident} {slot slot' : Ident × Nat}
    (h : g.ClosesAt kind path slot) (hNodup : ∀ x, (g.requires kind x).Nodup)
    (h' : g.ClosesAt kind path slot') : slot = slot' := by
  obtain ⟨x, i⟩ := slot
  obtain ⟨x', i'⟩ := slot'
  obtain ⟨y, hClosed, hEdge⟩ := h
  obtain ⟨y', hClosed', hEdge'⟩ := h'
  obtain ⟨hx, hy⟩ := hClosed.unique hClosed'
  dsimp only at hx hEdge hEdge'
  subst hx hy
  have hLt : i < (g.requires kind x).length := (List.getElem?_eq_some_iff.1 hEdge).1
  have hPlace : i = i' := (List.getElem?_inj hLt (hNodup x)).1 (hEdge.trans hEdge'.symm)
  rw [hPlace]

theorem IsCycle.exists_loop {path : List Ident} (h : g.IsCycle kind path)
    {r : Ident → Ident → Prop} (hWalk : path.IsChain r) : ∃ a, Relation.TransGen r a a := by
  obtain ⟨hLength, hReturns, -⟩ := h
  match path, hLength with
  | a :: b :: rest, _ =>
    refine ⟨a, transGen_of_isChain hWalk ?_⟩
    rw [← List.getLast?_cons_cons (a := a), ← hReturns, List.head?_cons]

/-- Of every cycle, a relation without loops misses some requirement. -/
theorem IsCycle.exists_not {path : List Ident} (h : g.IsCycle kind path)
    {r : Ident → Ident → Prop} (hAcyclic : Acyclic r) : ∃ x y, [x, y] <:+: path ∧ ¬r x y := by
  by_contra hAll
  have hWalk : path.IsChain r :=
    (List.isChain_isInfix path).imp fun x y hxy => by
      by_contra hr
      exact hAll ⟨x, y, hxy, hr⟩
  obtain ⟨a, hLoop⟩ := h.exists_loop hWalk
  exact hAcyclic a hLoop

end Graph

end StoryRules
