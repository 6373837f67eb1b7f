import Mathlib.Data.List.Perm.Subperm
import Mathlib.Order.Bounds.Basic
import StoryRules.Proofs.Distinct
import StoryRules.Proofs.Requirement.Level

/-! What the level of an entity counts on any graph, with cycles or without. It is the greatest
number of hard requirements that can be followed one after another from the entity, going on from no
entity twice (`level_isGreatest`). An entity that is gone on from is known, so there are no more of
these than known entities. -/

namespace StoryRules.Graph

/-- Hard requirements followed one after another from `x`, through the entities of `rest`. None is
gone on from twice; the last may be unknown, or one that was gone on from before. -/
structure Follows (g : Graph) (kind : Kind) (x : Ident) (rest : List Ident) : Prop where
  listed : (x :: rest).IsChain fun y z => z ∈ g.requires kind y
  nodup : (x :: rest).dropLast.Nodup

variable {g : Graph} {kind : Kind} {unseen rest : List Ident} {x y : Ident}

theorem nodup_ids (g : Graph) (kind : Kind) : (g.ids kind).Nodup := by
  cases kind with
  | tag => exact g.tags.nodup_ids
  | plotBlock => exact g.plotBlocks.nodup_ids
  | condition => exact g.conditions.nodup_ids

/-- A level above 0 is that of some requirement, and one more. -/
theorem exists_levelWithin_eq {k : Nat} (h : g.levelWithin kind unseen x = k + 1) :
    x ∈ unseen ∧ ∃ y ∈ g.requires kind x, g.levelWithin kind (unseen.erase x) y = k := by
  rw [levelWithin] at h
  split at h
  · rename_i hx
    cases hMax : ((g.requires kind x).map (g.levelWithin kind (unseen.erase x))).max? with
    | none => simp [hMax] at h
    | some top =>
      obtain ⟨y, hy, hTop⟩ := List.mem_map.1 (List.max?_eq_some_iff.1 hMax).1
      obtain rfl : top = k := by simpa [hMax] using h
      exact ⟨hx, y, hy, hTop⟩
  · cases h

theorem Follows.cons (hy : y ∈ g.requires kind x) (h : g.Follows kind y rest)
    (hFresh : x ∉ (y :: rest).dropLast) : g.Follows kind x (y :: rest) where
  listed := List.isChain_cons_cons.2 ⟨hy, h.listed⟩
  nodup := by
    rw [List.dropLast_cons_cons]
    exact List.nodup_cons.2 ⟨hFresh, h.nodup⟩

theorem Follows.of_cons (h : g.Follows kind x (y :: rest)) :
    y ∈ g.requires kind x ∧ x ∉ (y :: rest).dropLast ∧ g.Follows kind y rest := by
  obtain ⟨hListed, hNodup⟩ := h
  obtain ⟨hy, hRest⟩ := List.isChain_cons_cons.1 hListed
  rw [List.dropLast_cons_cons] at hNodup
  obtain ⟨hFresh, hTail⟩ := List.nodup_cons.1 hNodup
  exact ⟨hy, hFresh, hRest, hTail⟩

/-- No more requirements can be followed than the level says. By induction on those followed: what
was gone on from is not unseen any more. -/
theorem Follows.length_le (h : g.Follows kind x rest) (hUnseen : (x :: rest).dropLast ⊆ unseen) :
    rest.length ≤ g.levelWithin kind unseen x := by
  induction rest generalizing x unseen with
  | nil => exact Nat.zero_le _
  | cons y rest ih =>
    obtain ⟨hy, hFresh, hRest⟩ := h.of_cons
    rw [List.dropLast_cons_cons, List.cons_subset] at hUnseen
    have hLess : (y :: rest).dropLast ⊆ unseen.erase x := fun z hz =>
      (List.mem_erase_of_ne (ne_of_mem_of_not_mem hz hFresh)).2 (hUnseen.2 hz)
    exact (ih hRest hLess).trans_lt (levelWithin_lt hUnseen.1 hy)

/-- As many requirements can be followed as the level says. -/
theorem exists_follows {k : Nat} (hNodup : unseen.Nodup) (h : g.levelWithin kind unseen x = k) :
    ∃ rest, g.Follows kind x rest ∧ rest.length = k ∧ (x :: rest).dropLast ⊆ unseen := by
  induction k generalizing x unseen with
  | zero => exact ⟨[], ⟨.singleton x, by simp⟩, rfl, by simp⟩
  | succ k ih =>
    obtain ⟨hx, y, hy, hLevel⟩ := exists_levelWithin_eq h
    obtain ⟨rest, hRest, hLength, hSub⟩ := ih (hNodup.erase x) hLevel
    have hFresh : x ∉ (y :: rest).dropLast := fun hMem => hNodup.not_mem_erase (hSub hMem)
    refine ⟨y :: rest, hRest.cons hy hFresh, by rw [List.length_cons, hLength], ?_⟩
    rw [List.dropLast_cons_cons]
    exact List.cons_subset.2 ⟨hx, fun z hz => List.mem_of_mem_erase (hSub hz)⟩

/-- What is gone on from has requirements, so it is known. -/
theorem Follows.dropLast_subset (h : g.Follows kind x rest) :
    (x :: rest).dropLast ⊆ g.ids kind := by
  induction rest generalizing x with
  | nil => simp
  | cons y rest ih =>
    obtain ⟨hy, -, hRest⟩ := h.of_cons
    rw [List.dropLast_cons_cons]
    exact List.cons_subset.2 ⟨mem_ids.2 (contains_of_mem_requires hy), ih hRest⟩

/-- The level of an entity is the greatest number of hard requirements that can be followed one
after another from it. It is 0 for an unknown one, and no greater than the number of known ones. -/
theorem level_isGreatest (g : Graph) (kind : Kind) (x : Ident) :
    IsGreatest {k | ∃ rest, g.Follows kind x rest ∧ rest.length = k} (g.level kind x) ∧
    (x ∉ g.ids kind → g.level kind x = 0) ∧
    g.level kind x ≤ (g.ids kind).length := by
  obtain ⟨rest, hRest, hLength, hSub⟩ := exists_follows (x := x) (g.nodup_ids kind) rfl
  refine ⟨⟨⟨rest, hRest, hLength⟩, ?_⟩, fun hUnknown => ?_, ?_⟩
  · rintro k ⟨rest', hRest', rfl⟩
    exact hRest'.length_le hRest'.dropLast_subset
  · exact levelWithin_unknown (mt mem_ids.2 hUnknown)
  · have hDistinct := (hRest.nodup.subperm hSub).length_le
    rw [List.length_dropLast, List.length_cons, Nat.add_sub_cancel, hLength] at hDistinct
    exact hDistinct

/-- Three tags in two circles, through the second of them. -/
def twoCircles : Graph where
  fandomId := 1
  tags := ((Table.empty.insert
    { id := 1, name := "first", category := "mood", fandomId := 1, requires := [2] }).insert
    { id := 2, name := "second", category := "mood", fandomId := 1, requires := [1, 3] }).insert
    { id := 3, name := "third", category := "mood", fandomId := 1, requires := [2] }

/-- From the first tag the way leads through all three, and ends at the second. -/
theorem twoCircles_level : 404 ∉ twoCircles.ids .tag ∧ twoCircles.level .tag 404 = 0 ∧
    twoCircles.level .tag 1 = 3 := by
  have hUnknown : 404 ∉ twoCircles.ids .tag := by decide
  obtain ⟨-, hZero, -⟩ := level_isGreatest twoCircles .tag 404
  obtain ⟨⟨-, hTop⟩, -, hCount⟩ := level_isGreatest twoCircles .tag 1
  have hFollows : twoCircles.Follows .tag 1 [2, 3, 2] := ⟨by decide, by decide⟩
  exact ⟨hUnknown, hZero hUnknown, le_antisymm hCount (hTop ⟨_, hFollows, rfl⟩)⟩

end StoryRules.Graph
