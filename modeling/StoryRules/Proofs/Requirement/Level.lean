import StoryRules.Proofs.Requirement.CycleReport
import StoryRules.Requirement.Level

/-! Levels of the entities of a graph. Where no requirements lead in a circle, the level of an
entity does not depend on the path on which it is reached (`levelWithin_congr`), so it is one more
than the greatest level of its requirements (`level_eq`). Levels that fall along every requirement
in turn leave no circle, so they fall on exactly the graphs for which no cycle is reported. -/

namespace StoryRules

open Relation

/-- A relation along which a rank falls is acyclic. -/
theorem acyclic_of_lt {α : Type} {r : α → α → Prop} (rank : α → Nat)
    (h : ∀ a b, r a b → rank b < rank a) : Acyclic r := by
  intro a hLoop
  have hFalls : ∀ b, TransGen r a b → rank b < rank a := by
    intro b hb
    induction hb with
    | single hStep => exact h _ _ hStep
    | tail _ hStep ih => exact (h _ _ hStep).trans ih
  exact Nat.lt_irrefl _ (hFalls a hLoop)

namespace Graph

variable {g : Graph} {kind : Kind} {x y : Ident}

theorem contains_of_mem_requires (h : y ∈ g.requires kind x) : g.contains kind x = true := by
  rw [requires, listed] at h
  rw [contains]
  cases hEntity : g.entity? kind x with
  | none => simp [hEntity] at h
  | some entity => rfl

theorem requires_eq_nil (h : g.contains kind x ≠ true) : g.requires kind x = [] :=
  List.eq_nil_iff_forall_not_mem.2 fun _ hy => h (contains_of_mem_requires hy)

theorem contains_of_reach (hx : g.contains kind x = true)
    (h : ReflTransGen (g.Needs kind) x y) : g.contains kind y = true := by
  cases h with
  | refl => exact hx
  | tail _ hStep => exact hStep.target

theorem levelWithin_unknown {unseen : List Ident} (h : g.contains kind x ≠ true) :
    g.levelWithin kind unseen x = 0 := by
  rw [levelWithin, requires_eq_nil h]
  split <;> rfl

/-- The level of an unseen entity is above those that its requirements have without it. -/
theorem levelWithin_lt {unseen : List Ident} (hx : x ∈ unseen) (hy : y ∈ g.requires kind x) :
    g.levelWithin kind (unseen.erase x) y < g.levelWithin kind unseen x := by
  rw [levelWithin.eq_def g kind unseen x, dif_pos hx]
  have hMem : g.levelWithin kind (unseen.erase x) y ∈
      (g.requires kind x).map (g.levelWithin kind (unseen.erase x)) := List.mem_map_of_mem hy
  cases hMax : ((g.requires kind x).map (g.levelWithin kind (unseen.erase x))).max? with
  | none =>
    rw [List.max?_eq_none_iff.1 hMax] at hMem
    cases hMem
  | some top => exact Nat.lt_succ_of_le ((List.max?_eq_some_iff.1 hMax).2 _ hMem)

/-- Nothing that a requirement of an entity leads to is the entity itself. -/
theorem ne_of_reach {required : Ident} (hAcyclic : Acyclic (g.Needs kind))
    (hNeeds : g.Needs kind x required) (h : ReflTransGen (g.Needs kind) required y) : y ≠ x := by
  rintro rfl
  exact hAcyclic y (.head' hNeeds h)

/-- The unseen entities matter only as far as requirements lead to them. -/
theorem levelWithin_congr (hAcyclic : Acyclic (g.Needs kind)) {unseen unseen' : List Ident}
    (h : ∀ y, ReflTransGen (g.Needs kind) x y → y ∈ unseen ∧ y ∈ unseen') :
    g.levelWithin kind unseen x = g.levelWithin kind unseen' x := by
  fun_induction levelWithin g kind unseen x generalizing unseen' with
  | case1 unseen x hUnseen ih =>
    rw [levelWithin, dif_pos (h x .refl).2]
    congr 3
    refine List.map_congr_left fun required hRequired => ?_
    by_cases hKnown : g.contains kind required = true
    · have hNeeds : g.Needs kind x required :=
        ⟨contains_of_mem_requires hRequired, hKnown, hRequired⟩
      refine ih required fun y hy => ?_
      have hNe : y ≠ x := ne_of_reach hAcyclic hNeeds hy
      obtain ⟨hLeft, hRight⟩ := h y (.head hNeeds hy)
      exact ⟨(List.mem_erase_of_ne hNe).2 hLeft, (List.mem_erase_of_ne hNe).2 hRight⟩
    · rw [levelWithin_unknown hKnown, levelWithin_unknown hKnown]
  | case2 unseen x hSeen => exact absurd (h x .refl).1 hSeen

/-- Whether an entity has been seen before makes no difference to the levels of its
requirements. -/
theorem levelWithin_erase (hAcyclic : Acyclic (g.Needs kind)) (hx : g.contains kind x = true)
    (hy : y ∈ g.requires kind x) :
    g.levelWithin kind ((g.ids kind).erase x) y = g.level kind y := by
  rw [level]
  by_cases hKnown : g.contains kind y = true
  · refine levelWithin_congr hAcyclic fun z hz => ?_
    have hMem : z ∈ g.ids kind := mem_ids.2 (contains_of_reach hKnown hz)
    have hNe : z ≠ x := ne_of_reach hAcyclic ⟨hx, hKnown, hy⟩ hz
    exact ⟨(List.mem_erase_of_ne hNe).2 hMem, hMem⟩
  · rw [levelWithin_unknown hKnown, levelWithin_unknown hKnown]

theorem level_eq (hAcyclic : Acyclic (g.Needs kind)) (x : Ident) :
    g.level kind x = ((g.requires kind x).map (g.level kind)).max?.elim 0 (1 + ·) := by
  by_cases hKnown : g.contains kind x = true
  · rw [level, levelWithin, dif_pos (mem_ids.2 hKnown),
      List.map_congr_left fun y hy => levelWithin_erase hAcyclic hKnown hy]
    cases ((g.requires kind x).map (g.level kind)).max? with
    | none => rfl
    | some top => exact Nat.add_comm top 1
  · rw [level, levelWithin_unknown hKnown, requires_eq_nil hKnown]
    rfl

theorem level_lt (hAcyclic : Acyclic (g.Needs kind)) (hy : y ∈ g.requires kind x) :
    g.level kind y < g.level kind x := by
  have hx : g.contains kind x = true := contains_of_mem_requires hy
  rw [← levelWithin_erase hAcyclic hx hy]
  exact levelWithin_lt (mem_ids.2 hx) hy

theorem errors_eq_nil_iff_acyclic :
    g.cycleReport.errors = [] ↔ ∀ kind, Acyclic (g.Needs kind) :=
  List.isEmpty_iff.symm.trans isValid_cycleReport

/-- No cycle of a graph is reported exactly when levels fall along all of its requirements, and the
level of an entity is then one more than the greatest among its requirements. -/
theorem errors_eq_nil_iff_level_lt (g : Graph) :
    (g.cycleReport.errors = [] ↔ ∀ kind x, g.contains kind x = true →
      ∀ y ∈ g.requires kind x, g.level kind y < g.level kind x) ∧
    (g.cycleReport.errors = [] → ∀ kind x,
      g.level kind x = ((g.requires kind x).map (g.level kind)).max?.elim 0 (1 + ·)) := by
  rw [errors_eq_nil_iff_acyclic]
  refine ⟨⟨fun h kind x _ y hy => level_lt (h kind) hy, fun h kind => ?_⟩, fun h kind x => ?_⟩
  · exact acyclic_of_lt (g.level kind) fun x y hNeeds => h kind x hNeeds.source y hNeeds.listed
  · exact level_eq (h kind) x

/-- Three tags, of which each requires those before it and the last one an unknown one too. -/
def ladder : Graph where
  fandomId := 1
  tags := ((Table.empty.insert
    { id := 1, name := "first", category := "mood", fandomId := 1 }).insert
    { id := 2, name := "second", category := "mood", fandomId := 1, requires := [1] }).insert
    { id := 3, name := "third", category := "mood", fandomId := 1, requires := [1, 404, 2] }

theorem ladder_level : ladder.cycleReport.errors = [] ∧ ladder.level .tag 3 =
    ((ladder.requires .tag 3).map (ladder.level .tag)).max?.elim 0 (1 + ·) := by
  have hFalls (kind : Kind) : (ladder.ids kind).all (fun x => (ladder.requires kind x).all fun y =>
      y ∈ ladder.ids kind → y.toInt.toNat < x.toInt.toNat) = true := by
    cases kind <;> decide
  have hNone : ladder.cycleReport.errors = [] := errors_eq_nil_iff_acyclic.2 fun kind => by
    refine acyclic_of_lt (fun x : Ident => x.toInt.toNat) fun x y hNeeds => ?_
    have hRow := List.all_eq_true.1 (hFalls kind) x (mem_ids.2 hNeeds.source)
    exact of_decide_eq_true (List.all_eq_true.1 hRow y hNeeds.listed) (mem_ids.2 hNeeds.target)
  exact ⟨hNone, (errors_eq_nil_iff_level_lt ladder).2 hNone .tag 3⟩

end Graph

end StoryRules
