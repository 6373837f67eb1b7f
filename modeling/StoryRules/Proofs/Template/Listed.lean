import Mathlib.Data.Finset.Card
import Mathlib.Data.List.Forall2
import StoryRules.Proofs.Template.Matched

/-! What templates make of the lists of their conditions. Whether a check is met depends on which
ids it lists, but one with a threshold counts its hits as often as they are listed, so that
repetitions make it easier to reach. A template whose lists are changed without a change of the ids
that are listed matches the same ids if it still fires, and it does unless a threshold is passed or
missed by repetitions (`Template.match?_relisted`). -/

namespace StoryRules

section Lists

variable {α β : Type}

/-- The same members, in whatever order and however often. -/
def SameMembers (as bs : List α) : Prop := as ⊆ bs ∧ bs ⊆ as

instance [DecidableEq α] (as bs : List α) : Decidable (SameMembers as bs) :=
  inferInstanceAs (Decidable (_ ∧ _))

theorem SameMembers.mem_iff {as bs : List α} (h : SameMembers as bs) {a : α} : a ∈ as ↔ a ∈ bs :=
  ⟨fun ha => h.1 ha, fun hb => h.2 hb⟩

theorem SameMembers.of_mem_iff {as bs : List α} (h : ∀ a, a ∈ as ↔ a ∈ bs) : SameMembers as bs :=
  ⟨fun _ => (h _).1, fun _ => (h _).2⟩

theorem SameMembers.nil_iff {as bs : List α} (h : SameMembers as bs) : as = [] ↔ bs = [] := by
  rw [List.eq_nil_iff_forall_not_mem, List.eq_nil_iff_forall_not_mem]
  exact forall_congr' fun a => not_congr h.mem_iff

theorem SameMembers.filter {as bs : List α} (h : SameMembers as bs) (p : α → Bool) :
    SameMembers (as.filter p) (bs.filter p) := by
  apply SameMembers.of_mem_iff
  intro a
  rw [List.mem_filter, List.mem_filter, h.mem_iff]

theorem SameMembers.flatMap {f : α → List β} {as bs : List α}
    (h : List.Forall₂ (fun a b => SameMembers (f a) (f b)) as bs) :
    SameMembers (as.flatMap f) (bs.flatMap f) := by
  apply SameMembers.of_mem_iff
  intro b
  induction h with
  | nil => exact Iff.rfl
  | cons hFirst _ ih =>
    rw [List.flatMap_cons, List.flatMap_cons, List.mem_append, List.mem_append, hFirst.mem_iff, ih]

end Lists

namespace TemplateCheck

/-- What a check asks for of the ids that it lists, but for their number. -/
def Met (present : Ident → Bool) : TemplateCheck → Prop
  | contains id => present id = true
  | containsAll ids => ids ≠ [] ∧ ∀ id ∈ ids, present id = true
  | containsAny ids | containsMultiple ids _ => ∃ id ∈ ids, present id = true

/-- How many hits a check asks for, if it gives a number. -/
def threshold : TemplateCheck → Nat
  | containsMultiple _ threshold => threshold.toNat
  | _ => 0

theorem holds_iff {check : TemplateCheck} {present : Ident → Bool} :
    check.holds (check.ids.filter present) = true ↔
      check.Met present ∧ check.threshold ≤ (check.ids.filter present).length := by
  have hSome (ids : List Ident) :
      (!(ids.filter present).isEmpty) = true ↔ ∃ id ∈ ids, present id = true := by simp
  cases check with
  | contains id => simp [holds, TemplateCheck.ids, Met, threshold]
  | containsAll ids => simp [holds, TemplateCheck.ids, Met, threshold]
  | containsAny ids =>
    rw [holds, TemplateCheck.ids, hSome]
    exact (and_iff_left (Nat.zero_le _)).symm
  | containsMultiple ids n =>
    rw [holds, TemplateCheck.ids, Bool.and_eq_true, hSome, decide_eq_true_iff]
    exact Iff.rfl

/-- A check that is met has a hit, whatever the number it asks for. -/
theorem Met.exists_present {check : TemplateCheck} {present : Ident → Bool}
    (h : check.Met present) : ∃ id ∈ check.ids, present id = true := by
  cases check with
  | contains id => exact ⟨id, List.mem_singleton_self id, h⟩
  | containsAll ids =>
    obtain ⟨hNonempty, hAll⟩ := h
    obtain ⟨id, hId⟩ := List.exists_mem_of_ne_nil ids hNonempty
    exact ⟨id, hId, hAll id hId⟩
  | containsAny ids | containsMultiple ids n => exact h

/-- Two checks of one kind, and with one threshold, whose lists are related. -/
inductive Relists (R : List Ident → List Ident → Prop) : TemplateCheck → TemplateCheck → Prop
  | contains {id : Ident} : Relists R (contains id) (contains id)
  | containsAll {ids ids' : List Ident} (h : R ids ids') :
    Relists R (containsAll ids) (containsAll ids')
  | containsAny {ids ids' : List Ident} (h : R ids ids') :
    Relists R (containsAny ids) (containsAny ids')
  | containsMultiple {ids ids' : List Ident} {threshold : UInt64} (h : R ids ids') :
    Relists R (containsMultiple ids threshold) (containsMultiple ids' threshold)

variable {R : List Ident → List Ident → Prop} {check check' : TemplateCheck}

theorem Relists.threshold_eq (h : check.Relists R check') : check'.threshold = check.threshold := by
  cases h <;> rfl

theorem Relists.ids (h : check.Relists R check') (hRefl : ∀ ids, R ids ids) :
    R check.ids check'.ids := by
  cases h with
  | contains => exact hRefl _
  | containsAll h | containsAny h | containsMultiple h => exact h

theorem Relists.met_iff (h : check.Relists SameMembers check') {present : Ident → Bool} :
    check.Met present ↔ check'.Met present := by
  cases h with
  | contains => exact Iff.rfl
  | containsAll h => simp only [Met, ne_eq, h.nil_iff, h.mem_iff]
  | containsAny h | containsMultiple h => simp only [Met, h.mem_iff]

end TemplateCheck

variable {g : Graph} {s : Selection}

namespace TemplateCondition

variable {R : List Ident → List Ident → Prop} {c c' : TemplateCondition}

/-- A condition is met by a selection, but for the number of hits that it may ask for. -/
def Met (c : TemplateCondition) (g : Graph) (s : Selection) : Prop :=
  c.check.Met (g.isPresent s c.field.kind)

/-- A condition has the hits that it asks for, where those listed twice count twice. -/
def Reached (c : TemplateCondition) (g : Graph) (s : Selection) : Prop :=
  c.check.threshold ≤ (c.hits g s).length

/-- The number of different hits of a condition. -/
def distinctHits (c : TemplateCondition) (g : Graph) (s : Selection) : Nat :=
  (c.hits g s).toFinset.card

/-- No hit is listed twice where more than one is asked for. -/
def Plain (c : TemplateCondition) (g : Graph) (s : Selection) : Prop :=
  1 < c.check.threshold → (c.hits g s).Nodup

instance (c : TemplateCondition) (g : Graph) (s : Selection) : Decidable (c.Plain g s) :=
  inferInstanceAs (Decidable (_ → _))

theorem holds_iff : c.Holds g s ↔ c.Met g s ∧ c.Reached g s := TemplateCheck.holds_iff

theorem Plain.reached_iff (hPlain : c.Plain g s) (hMet : c.Met g s) :
    c.Reached g s ↔ c.check.threshold ≤ c.distinctHits g s := by
  unfold Reached distinctHits
  by_cases hMany : 1 < c.check.threshold
  · rw [List.toFinset_card_of_nodup (hPlain hMany)]
  · -- One hit is enough, and there is one.
    obtain ⟨id, hListed, hPresent⟩ := TemplateCheck.Met.exists_present hMet
    have hHit : id ∈ c.hits g s := List.mem_filter.2 ⟨hListed, hPresent⟩
    have hLength : 0 < (c.hits g s).length := List.length_pos_of_mem hHit
    have hCard : 0 < (c.hits g s).toFinset.card :=
      Finset.card_pos.2 ⟨id, List.mem_toFinset.2 hHit⟩
    omega

/-- Two conditions on one part of a selection whose checks list related ids. -/
structure Relists (R : List Ident → List Ident → Prop) (c c' : TemplateCondition) : Prop where
  field : c'.field = c.field
  check : c.check.Relists R c'.check

theorem Relists.met_iff (h : c.Relists SameMembers c') : c.Met g s ↔ c'.Met g s := by
  unfold Met
  rw [h.field, h.check.met_iff]

theorem Relists.hits (h : c.Relists SameMembers c') :
    SameMembers (c.hits g s) (c'.hits g s) := by
  unfold TemplateCondition.hits
  rw [h.field]
  exact (h.check.ids fun _ => ⟨List.Subset.refl _, List.Subset.refl _⟩).filter _

theorem Relists.distinctHits_eq (h : c.Relists SameMembers c') :
    c'.distinctHits g s = c.distinctHits g s := by
  have hSame : (c.hits g s).toFinset = (c'.hits g s).toFinset :=
    List.toFinset.ext fun _ => h.hits.mem_iff
  unfold distinctHits
  rw [hSame]

theorem Relists.reached_iff (h : c.Relists List.Perm c') : c.Reached g s ↔ c'.Reached g s := by
  have hHits : (c.hits g s).Perm (c'.hits g s) := by
    unfold TemplateCondition.hits
    rw [h.field]
    exact (h.check.ids .refl).filter _
  unfold Reached
  rw [h.check.threshold_eq, hHits.length_eq]

end TemplateCondition

namespace Template

variable {R : List Ident → List Ident → Prop} {t t' : Template}

/-- The conditions of two templates list related ids and are otherwise the same. -/
def Relists (R : List Ident → List Ident → Prop) (t t' : Template) : Prop :=
  List.Forall₂ (TemplateCondition.Relists R) t.conditions t'.conditions

theorem match?_isSome_iff_reached : (t.match? g s).isSome = true ↔
    t.conditions ≠ [] ∧ (∀ c ∈ t.conditions, c.Met g s) ∧ ∀ c ∈ t.conditions, c.Reached g s := by
  rw [match?_isSome_iff, ← forall₂_and]
  simp only [TemplateCondition.holds_iff]

theorem Relists.hits (h : t.Relists SameMembers t') : SameMembers (t.hits g s) (t'.hits g s) :=
  SameMembers.flatMap (List.Forall₂.imp (fun _ _ hc => hc.hits) h)

theorem Relists.met_iff (h : t.Relists SameMembers t') :
    (∀ c ∈ t.conditions, c.Met g s) ↔ ∀ c ∈ t'.conditions, c.Met g s :=
  forall_mem_iff_of_forall₂ h fun _ _ hc => hc.met_iff

theorem Relists.nil_iff (h : t.Relists R t') : t.conditions = [] ↔ t'.conditions = [] := by
  rw [← List.length_eq_zero_iff, ← List.length_eq_zero_iff, List.Forall₂.length_eq h]

theorem Relists.isSome_eq_iff (h : t.Relists SameMembers t') :
    (t.match? g s).isSome = (t'.match? g s).isSome ↔
      ((∀ c ∈ t.conditions, c.Met g s) →
        ((∀ c ∈ t.conditions, c.Reached g s) ↔ ∀ c ∈ t'.conditions, c.Reached g s)) := by
  rw [Bool.eq_iff_iff, match?_isSome_iff_reached, match?_isSome_iff_reached, ← h.met_iff]
  by_cases hNone : t.conditions = []
  · -- Neither template has conditions, so that neither fires.
    simp [hNone, h.nil_iff.1 hNone]
  · have hSome' : t'.conditions ≠ [] := fun hNone' => hNone (h.nil_iff.2 hNone')
    rw [and_iff_right hNone, and_iff_right hSome', and_congr_right_iff]

/-- Where no hit is listed twice, it is the different hits that have to be enough. -/
theorem reached_iff (hPlain : ∀ c ∈ t.conditions, c.Plain g s)
    (hMet : ∀ c ∈ t.conditions, c.Met g s) : (∀ c ∈ t.conditions, c.Reached g s) ↔
      ∀ c ∈ t.conditions, c.check.threshold ≤ c.distinctHits g s :=
  forall₂_congr fun c hc => (hPlain c hc).reached_iff (hMet c hc)

/-- Templates whose conditions list the same ids match the same ids when both fire. All that can
make one of them fire alone is a threshold, as hits count as often as they are listed. It does not
if the lists only differ in their order, or if no hit is listed twice where more than one is asked
for: then a template fires only with as many different hits as it asks for. -/
theorem match?_relisted (h : t.Relists SameMembers t') (g : Graph) (s : Selection) :
    (∀ matched ∈ t.match? g s, ∀ matched' ∈ t'.match? g s, SameMembers matched matched') ∧
    ((t.match? g s).isSome = (t'.match? g s).isSome ↔
      ((∀ c ∈ t.conditions, c.Met g s) →
        ((∀ c ∈ t.conditions, c.Reached g s) ↔ ∀ c ∈ t'.conditions, c.Reached g s))) ∧
    (t.Relists List.Perm t' → (t.match? g s).isSome = (t'.match? g s).isSome) ∧
    ((∀ c ∈ t.conditions, c.Plain g s) → (∀ c ∈ t'.conditions, c.Plain g s) →
      (t.match? g s).isSome = (t'.match? g s).isSome) ∧
    ((t.match? g s).isSome = true → ∀ c ∈ t.conditions,
      c.Reached g s ∧ (c.Plain g s → c.check.threshold ≤ c.distinctHits g s)) := by
  refine ⟨?_, h.isSome_eq_iff, ?_, ?_, ?_⟩
  · intro matched hMatched matched' hMatched'
    obtain ⟨-, -, rfl⟩ := match?_eq_some.1 hMatched
    obtain ⟨-, -, rfl⟩ := match?_eq_some.1 hMatched'
    apply SameMembers.of_mem_iff
    intro id
    rw [List.mem_eraseDups, List.mem_eraseDups, h.hits.mem_iff]
  · intro hPerm
    rw [h.isSome_eq_iff]
    intro _
    exact forall_mem_iff_of_forall₂ hPerm fun _ _ hc => hc.reached_iff
  · intro hPlain hPlain'
    rw [h.isSome_eq_iff]
    intro hMet
    rw [reached_iff hPlain hMet, reached_iff hPlain' (h.met_iff.1 hMet)]
    apply forall_mem_iff_of_forall₂ h
    intro c c' hc
    rw [hc.check.threshold_eq, hc.distinctHits_eq]
  · intro hFires c hc
    obtain ⟨-, hMet, hReached⟩ := match?_isSome_iff_reached.1 hFires
    exact ⟨hReached c hc, fun hPlain => (hPlain.reached_iff (hMet c hc)).1 (hReached c hc)⟩

open StoryRules.Graph (watchedFeud soleMood pairedMoods)

/-- A warning about many moods, on some conditions. -/
def crowd (conditions : List TemplateCondition) : Template where
  id := 5
  name := "crowd"
  message := "Many moods"
  conditions := conditions

def listedCrowd : Template :=
  crowd [⟨.tags, .containsAll [2, 1]⟩, ⟨.tags, .containsMultiple [2, 1, 404] 2⟩]

/-- Other orders, a tag listed again by a check that asks for no number, and a stray one listed
again by one that does. -/
def relistedCrowd : Template :=
  crowd [⟨.tags, .containsAll [1, 2, 1]⟩, ⟨.tags, .containsMultiple [404, 1, 404, 2] 2⟩]

theorem crowd_relisted :
    (listedCrowd.Relists SameMembers relistedCrowd ∧
      (∀ c ∈ listedCrowd.conditions, c.Plain watchedFeud pairedMoods) ∧
      ∀ c ∈ relistedCrowd.conditions, c.Plain watchedFeud pairedMoods) ∧
    (listedCrowd.match? watchedFeud pairedMoods).isSome =
      (relistedCrowd.match? watchedFeud pairedMoods).isSome ∧
    (listedCrowd.match? watchedFeud pairedMoods = some [2, 1] ∧
      relistedCrowd.match? watchedFeud pairedMoods = some [1, 2] ∧
      SameMembers ([2, 1] : List Ident) [1, 2]) ∧
    ∀ c ∈ listedCrowd.conditions, c.check.threshold ≤ c.distinctHits watchedFeud pairedMoods := by
  have hRelists : listedCrowd.Relists SameMembers relistedCrowd :=
    .cons ⟨rfl, .containsAll (by decide)⟩ (.cons ⟨rfl, .containsMultiple (by decide)⟩ .nil)
  have hPlain : ∀ c ∈ listedCrowd.conditions, c.Plain watchedFeud pairedMoods := by decide
  have hPlain' : ∀ c ∈ relistedCrowd.conditions, c.Plain watchedFeud pairedMoods := by decide
  have hListed : listedCrowd.match? watchedFeud pairedMoods = some [2, 1] := by decide
  have hRelisted : relistedCrowd.match? watchedFeud pairedMoods = some [1, 2] := by decide
  obtain ⟨hSame, -, -, hFires, hEnough⟩ := match?_relisted hRelists watchedFeud pairedMoods
  refine ⟨⟨hRelists, hPlain, hPlain'⟩, hFires hPlain hPlain',
    ⟨hListed, hRelisted, hSame _ hListed _ hRelisted⟩, fun c hc => ?_⟩
  exact (hEnough (by rw [hListed]; rfl) c hc).2 (hPlain c hc)

/-- A single tag is enough for a warning about two, if it is listed twice. -/
theorem crowd_repeated :
    let once := crowd [⟨.tags, .containsMultiple [1] 2⟩]
    let twice := crowd [⟨.tags, .containsMultiple [1, 1] 2⟩]
    once.Relists SameMembers twice ∧
    once.match? watchedFeud soleMood = none ∧ twice.match? watchedFeud soleMood = some [1] ∧
    ∀ c ∈ twice.conditions, c.distinctHits watchedFeud soleMood < c.check.threshold :=
  ⟨.cons ⟨rfl, .containsMultiple (by decide)⟩ .nil, by decide, by decide, by decide⟩

end Template

end StoryRules
