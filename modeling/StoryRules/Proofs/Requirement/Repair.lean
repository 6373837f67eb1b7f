import Mathlib.Order.Bounds.Basic
import StoryRules.Proofs.Requirement.Walk
import StoryRules.Requirement

/-! Repairing a selection by adding what it lacks. A step adds the entity of every hard requirement
that is missing and can be added. Each step that adds something makes one more entity present, so
the steps come to rest after at most as many as there are entities, and the selection at rest is the
least one that has what its entities require (`fixStep_converges`). -/

namespace StoryRules

namespace Graph

variable {g : Graph} {s : Selection} {kind : Kind} {x y : Ident} {strength : Strength} {m : Missing}

/-! ### What is missing -/

@[simp] theorem missing_source : (g.missing kind x y strength).source = x := by
  by_cases hSelf : x = y <;> cases strength <;> simp [missing, hSelf]

@[simp] theorem missing_kind : (g.missing kind x y strength).kind = kind := by
  by_cases hSelf : x = y <;> cases strength <;> simp [missing, hSelf]

@[simp] theorem missing_required : (g.missing kind x y strength).required = y := by
  by_cases hSelf : x = y <;> cases strength <;> simp [missing, hSelf]

/-- A requirement that an entity has of itself is missing as a hard one. -/
@[simp] theorem missing_strength :
    (g.missing kind x y strength).strength = .hard ↔ x = y ∨ strength = .hard := by
  by_cases hSelf : x = y <;> cases strength <;> simp [missing, hSelf]

def requiresAs (g : Graph) (kind : Kind) (x : Ident) : Strength → List Ident
  | .hard => g.requires kind x
  | .soft => g.listed kind x Entity.softRequires

theorem mem_missing : m ∈ (g.checkRequirements s).missing ↔ ∃ kind x strength,
    g.isPresent s kind x = true ∧ ∃ y ∈ g.requiresAs kind x strength,
      g.isMet s kind x y = false ∧ g.missing kind x y strength = m := by
  have hItem {item : Item} : item ∈ g.presentItems s ↔ g.isPresent s item.kind item.id = true := by
    obtain ⟨kind, id⟩ := item
    cases kind <;> simp [presentItems, Kind.reported, mem_present]
  have hMissing {kind : Kind} {x : Ident} : m ∈ g.missingFor s kind x ↔ ∃ strength,
      ∃ y ∈ g.requiresAs kind x strength,
        g.isMet s kind x y = false ∧ g.missing kind x y strength = m := by
    simp only [missingFor, List.mem_append, List.mem_map, List.mem_filter, Bool.not_eq_true',
      and_assoc]
    constructor
    · rintro (h | h)
      · exact ⟨.hard, h⟩
      · exact ⟨.soft, h⟩
    · rintro ⟨strength, h⟩
      cases strength with
      | hard => exact .inl h
      | soft => exact .inr h
  simp only [checkRequirements, List.mem_flatMap, hItem, hMissing]
  constructor
  · rintro ⟨⟨kind, x⟩, hPresent, strength, h⟩
    exact ⟨kind, x, strength, hPresent, h⟩
  · rintro ⟨kind, x, strength, hPresent, h⟩
    exact ⟨⟨kind, x⟩, hPresent, strength, h⟩

/-- The check finds that `x` lacks its hard requirement `y`. -/
def Lacks (g : Graph) (s : Selection) (kind : Kind) (x y : Ident) : Prop :=
  ∃ m ∈ (g.checkRequirements s).missing,
    m.strength = .hard ∧ m.kind = kind ∧ m.source = x ∧ m.required = y

theorem lacks_iff : g.Lacks s kind x y ↔
    g.isPresent s kind x = true ∧ g.isMet s kind x y = false ∧
      (y ∈ g.requires kind x ∨ x = y ∧ y ∈ g.listed kind x Entity.softRequires) := by
  constructor
  · rintro ⟨m, hm, hHard, rfl, rfl, rfl⟩
    obtain ⟨kind, x, strength, hPresent, y, hy, hUnmet, rfl⟩ := mem_missing.1 hm
    rw [missing_strength] at hHard
    simp only [missing_source, missing_kind, missing_required]
    refine ⟨hPresent, hUnmet, ?_⟩
    cases strength with
    | hard => exact .inl hy
    | soft => exact .inr ⟨hHard.resolve_right (by decide), hy⟩
  · rintro ⟨hPresent, hUnmet, hy | ⟨rfl, hy⟩⟩
    · exact ⟨_, mem_missing.2 ⟨kind, x, .hard, hPresent, y, hy, hUnmet, rfl⟩, by simp⟩
    · exact ⟨_, mem_missing.2 ⟨kind, x, .soft, hPresent, x, hy, hUnmet, rfl⟩, by simp⟩

/-! ### A step of the repair -/

/-- The hard requirements that are missing and can be added: those whose entity is known and is not
the one that requires it. -/
def fixable (g : Graph) (s : Selection) : List Missing :=
  (g.checkRequirements s).missing.filter fun m =>
    m.strength == .hard && m.required != m.source && g.contains m.kind m.required

/-- Adds every requirement that can be added, each to the list of its kind. -/
def fixStep (g : Graph) (s : Selection) : Selection :=
  (g.fixable s).foldl (fun s m => s.choose m.kind [m.required]) s

theorem isPresent_iff :
    g.isPresent s kind x = true ↔ x ∈ s.ids kind ∧ g.contains kind x = true := by
  rw [isPresent, Bool.and_eq_true, Selection.has_iff]

theorem mem_ids_choose {kind' : Kind} {ids : List Ident} :
    x ∈ (s.choose kind' ids).ids kind ↔ x ∈ s.ids kind ∨ kind' = kind ∧ x ∈ ids := by
  cases kind <;> cases kind' <;> simp [Selection.choose, Selection.ids]

theorem mem_ids_addAll {ms : List Missing} :
    x ∈ (ms.foldl (fun s m => s.choose m.kind [m.required]) s).ids kind ↔
      x ∈ s.ids kind ∨ ∃ m ∈ ms, m.kind = kind ∧ m.required = x := by
  induction ms generalizing s with
  | nil => simp
  | cons m ms ih =>
    rw [List.foldl_cons, ih, mem_ids_choose, List.mem_singleton, or_assoc, eq_comm (a := x)]
    simp only [List.mem_cons, exists_eq_or_imp]

/-- What can be added is what a present entity needs and is not present itself. -/
theorem exists_fixable : (∃ m ∈ g.fixable s, m.kind = kind ∧ m.required = y) ↔
    (∃ x, g.isPresent s kind x = true ∧ g.Needs kind x y) ∧ g.isPresent s kind y = false := by
  simp only [fixable, List.mem_filter, Bool.and_eq_true, beq_iff_eq, bne_iff_ne]
  constructor
  · rintro ⟨m, ⟨hm, ⟨hHard, hOther⟩, hKnown⟩, rfl, rfl⟩
    obtain ⟨hPresent, hUnmet, hListed⟩ := lacks_iff.1 ⟨m, hm, hHard, rfl, rfl, rfl⟩
    have hRequires := hListed.resolve_right fun hSelf => hOther hSelf.1.symm
    refine ⟨⟨m.source, hPresent, (isPresent_iff.1 hPresent).2, hKnown, hRequires⟩, ?_⟩
    simpa [isMet, hOther] using hUnmet
  · rintro ⟨⟨x, hPresent, hNeeds⟩, hAbsent⟩
    have hOther : y ≠ x := by
      rintro rfl
      simp [hPresent] at hAbsent
    obtain ⟨m, hm, hHard, rfl, rfl, rfl⟩ : g.Lacks s kind x y :=
      lacks_iff.2 ⟨hPresent, by simp [isMet, hAbsent], .inl hNeeds.listed⟩
    exact ⟨m, ⟨hm, ⟨hHard, hOther⟩, hNeeds.target⟩, rfl, rfl⟩

theorem isPresent_fixStep : g.isPresent (g.fixStep s) kind y = true ↔
    g.isPresent s kind y = true ∨ ∃ x, g.isPresent s kind x = true ∧ g.Needs kind x y := by
  rw [isPresent_iff, fixStep, mem_ids_addAll, exists_fixable, isPresent_iff (s := s) (x := y)]
  constructor
  · rintro ⟨hChosen | ⟨hNeeded, -⟩, hKnown⟩
    · exact .inl ⟨hChosen, hKnown⟩
    · exact .inr hNeeded
  · rintro (⟨hChosen, hKnown⟩ | ⟨x, hPresent, hNeeds⟩)
    · exact ⟨.inl hChosen, hKnown⟩
    · refine ⟨?_, hNeeds.target⟩
      cases hy : g.isPresent s kind y with
      | true => exact .inl (isPresent_iff.1 hy).1
      | false => exact .inr ⟨⟨x, hPresent, hNeeds⟩, rfl⟩

/-! ### The repaired selection -/

/-- The entities that are present in a selection. -/
def presentSet (g : Graph) (s : Selection) : Set Item :=
  {item | g.isPresent s item.kind item.id = true}

/-- With every entity, those that it needs are in the set. -/
def NeedsClosed (g : Graph) (items : Set Item) : Prop :=
  ∀ kind x y, Item.mk kind x ∈ items → g.Needs kind x y → Item.mk kind y ∈ items

theorem fixable_eq_nil_iff : g.fixable s = [] ↔ g.NeedsClosed (g.presentSet s) := by
  constructor
  · intro hNone kind x y (hx : g.isPresent s kind x = true) hNeeds
    show g.isPresent s kind y = true
    by_contra hy
    obtain ⟨m, hm, -⟩ := exists_fixable.2 ⟨⟨x, hx, hNeeds⟩, Bool.eq_false_iff.2 hy⟩
    simp [hNone] at hm
  · intro hClosed
    refine List.eq_nil_iff_forall_not_mem.2 fun m hm => ?_
    obtain ⟨⟨x, hx, hNeeds⟩, hy⟩ := exists_fixable.1 ⟨m, hm, rfl, rfl⟩
    have hPresent : g.isPresent s m.kind m.required = true := hClosed m.kind x _ hx hNeeds
    simp [hPresent] at hy

theorem presentSet_subset_fixStep : g.presentSet s ⊆ g.presentSet (g.fixStep s) :=
  fun _ hPresent => isPresent_fixStep.2 (.inl hPresent)

theorem presentSet_fixStep_subset {items : Set Item} (hClosed : g.NeedsClosed items)
    (h : g.presentSet s ⊆ items) : g.presentSet (g.fixStep s) ⊆ items := by
  intro item hItem
  rcases isPresent_fixStep.1 hItem with hPresent | ⟨x, hPresent, hNeeds⟩
  · exact h hPresent
  · exact hClosed item.kind x item.id (h hPresent) hNeeds

/-- The entities of all kinds. -/
def items (g : Graph) : List Item :=
  Kind.reported.flatMap fun kind => (g.ids kind).map (Item.mk kind)

def entityCount (g : Graph) : Nat := g.tags.size + g.plotBlocks.size + g.conditions.size

theorem length_items (g : Graph) : g.items.length = g.entityCount := by
  simp [items, entityCount, Kind.reported, ids, Table.ids, Table.size]
  omega

def absent (g : Graph) (s : Selection) : List Item :=
  g.items.filter fun item => !g.isPresent s item.kind item.id

theorem mem_absent {item : Item} : item ∈ g.absent s ↔
    g.contains item.kind item.id = true ∧ g.isPresent s item.kind item.id = false := by
  obtain ⟨kind, id⟩ := item
  cases kind <;> simp [absent, items, Kind.reported, mem_ids]

/-- A step that adds something makes an entity present that was not. -/
theorem length_absent_lt (h : g.fixable s ≠ []) :
    (g.absent (g.fixStep s)).length < (g.absent s).length := by
  have hFilter : g.absent (g.fixStep s) =
      (g.absent s).filter fun item => !g.isPresent (g.fixStep s) item.kind item.id := by
    rw [absent, absent, List.filter_filter]
    refine List.filter_congr fun item _ => ?_
    cases hPresent : g.isPresent s item.kind item.id with
    | true => simp [isPresent_fixStep, hPresent]
    | false => simp
  obtain ⟨m, hm⟩ := List.exists_mem_of_ne_nil _ h
  obtain ⟨⟨x, hx, hNeeds⟩, hAbsent⟩ := exists_fixable.1 ⟨m, hm, rfl, rfl⟩
  rw [hFilter, List.length_filter_lt_length_iff_exists]
  refine ⟨⟨m.kind, m.required⟩, mem_absent.2 ⟨hNeeds.target, hAbsent⟩, ?_⟩
  simpa using isPresent_fixStep.2 (.inr ⟨x, hx, hNeeds⟩)

theorem exists_fixed (g : Graph) (s : Selection) :
    ∃ n ≤ (g.absent s).length, g.fixable (g.fixStep^[n] s) = [] := by
  induction hAbsent : (g.absent s).length using Nat.strongRecOn generalizing s with
  | _ count ih =>
    by_cases hDone : g.fixable s = []
    · exact ⟨0, Nat.zero_le _, hDone⟩
    · have hLess : (g.absent (g.fixStep s)).length < count := hAbsent ▸ length_absent_lt hDone
      obtain ⟨n, hn, hFixed⟩ := ih _ hLess (g.fixStep s) rfl
      exact ⟨n + 1, by omega, hFixed⟩

theorem presentSet_subset_iterate (n : Nat) : g.presentSet s ⊆ g.presentSet (g.fixStep^[n] s) := by
  induction n with
  | zero => exact Set.Subset.rfl
  | succ n ih =>
    rw [Function.iterate_succ_apply']
    exact ih.trans presentSet_subset_fixStep

theorem presentSet_iterate_subset {items : Set Item} (hClosed : g.NeedsClosed items)
    (h : g.presentSet s ⊆ items) (n : Nat) : g.presentSet (g.fixStep^[n] s) ⊆ items := by
  induction n with
  | zero => exact h
  | succ n ih =>
    rw [Function.iterate_succ_apply']
    exact presentSet_fixStep_subset hClosed ih

theorem suggestions_eq_nil (h : g.fixable s = []) : (g.checkRequirements s).suggestions g = [] := by
  have hAddable : (g.checkRequirements s).addable g =
      distinctOn (fun m => Item.mk m.kind m.required) (g.fixable s) := rfl
  rw [RequirementCheck.suggestions, hAddable, h]
  rfl

/-- What a selection at rest lacks can never be present: unknown entities, and those that require
themselves. -/
theorem lacks_of_fixed (h : g.fixable s = []) : g.Lacks s kind x y ↔
    g.isPresent s kind x = true ∧
      (y ∈ g.requires kind x ∧ (g.contains kind y = false ∨ y = x) ∨
        y = x ∧ y ∈ g.listed kind x Entity.softRequires) := by
  rw [lacks_iff]
  refine and_congr_right fun hx => ?_
  constructor
  · rintro ⟨hUnmet, hListed | ⟨rfl, hSoft⟩⟩
    · refine .inl ⟨hListed, ?_⟩
      by_contra hOther
      rw [not_or, Bool.not_eq_false] at hOther
      have hNeeds : g.Needs kind x y := ⟨(isPresent_iff.1 hx).2, hOther.1, hListed⟩
      have hy : g.isPresent s kind y = true := fixable_eq_nil_iff.1 h kind x y hx hNeeds
      simp [isMet, hOther.2, hy] at hUnmet
    · exact .inr ⟨rfl, hSoft⟩
  · rintro (⟨hListed, hUnknown | rfl⟩ | ⟨rfl, hSoft⟩)
    · exact ⟨by simp [isMet, isPresent, hUnknown], .inl hListed⟩
    · exact ⟨by simp [isMet], .inl hListed⟩
    · exact ⟨by simp [isMet], .inr ⟨rfl, hSoft⟩⟩

/-- Adding what can be added, over and over, comes to rest after at most as many steps as there are
entities. Then nothing is suggested, what is present is the least set that contains all that was
present and what its members need, and what is lacking is unknown or requires itself. -/
theorem fixStep_converges (g : Graph) (s : Selection) : ∃ n ≤ g.entityCount,
    (∀ k, g.fixStep^[n + k] s = g.fixStep^[n] s) ∧
    (g.checkRequirements (g.fixStep^[n] s)).suggestions g = [] ∧
    IsLeast {items : Set Item | g.presentSet s ⊆ items ∧ g.NeedsClosed items}
      (g.presentSet (g.fixStep^[n] s)) ∧
    ∀ kind x y, g.Lacks (g.fixStep^[n] s) kind x y ↔
      g.isPresent (g.fixStep^[n] s) kind x = true ∧
        (y ∈ g.requires kind x ∧ (g.contains kind y = false ∨ y = x) ∨
          y = x ∧ y ∈ g.listed kind x Entity.softRequires) := by
  obtain ⟨n, hn, hFixed⟩ := g.exists_fixed s
  have hCount : (g.absent s).length ≤ g.entityCount :=
    (List.length_filter_le _ _).trans_eq g.length_items
  have hRest : g.fixStep (g.fixStep^[n] s) = g.fixStep^[n] s := by rw [fixStep, hFixed]; rfl
  refine ⟨n, hn.trans hCount, fun k => ?_, suggestions_eq_nil hFixed, ⟨⟨?_, ?_⟩, ?_⟩, ?_⟩
  · rw [Nat.add_comm, Function.iterate_add_apply, Function.iterate_fixed hRest]
  · exact presentSet_subset_iterate n
  · exact fixable_eq_nil_iff.1 hFixed
  · exact fun items h => presentSet_iterate_subset h.2 h.1 n
  · exact fun kind x y => lacks_of_fixed hFixed

end Graph

end StoryRules
