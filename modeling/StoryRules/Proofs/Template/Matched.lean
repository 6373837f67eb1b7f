import StoryRules.Proofs.Distinct
import StoryRules.Proofs.Template

/-! Which ids a template matches. The entries of its conditions that are present, chosen and known
under the kind of the condition, are taken condition by condition, each id once, and only if every
condition holds (`Template.match?_eq_some`). A condition that holds has such an entry, so a template
that fires matches something; what it matches is what is reported (`templateReport_exact`). -/

namespace StoryRules

theorem mapM_ite_eq_some {α β : Type} {p : α → Prop} [DecidablePred p] {f : α → β} {as : List α}
    {bs : List β} : (as.mapM fun a => if p a then some (f a) else none) = some bs ↔
      (∀ a ∈ as, p a) ∧ as.map f = bs := by
  induction as generalizing bs with
  | nil => simp
  | cons a as ih =>
    rw [List.mapM_cons, List.forall_mem_cons, List.map_cons]
    by_cases ha : p a
    · simp only [if_pos ha, Option.bind_eq_bind, Option.bind_some, Option.bind_eq_some_iff, ih]
      constructor
      · rintro ⟨rest, ⟨hAll, rfl⟩, hEq⟩
        exact ⟨⟨ha, hAll⟩, Option.some.inj hEq⟩
      · rintro ⟨⟨-, hAll⟩, rfl⟩
        exact ⟨as.map f, ⟨hAll, rfl⟩, rfl⟩
    · simp [ha]

/-- No check holds of nothing, not even one with the threshold 0. -/
theorem TemplateCheck.holds_nil (check : TemplateCheck) : check.holds [] = false := by
  cases check with
  | contains | containsAny | containsMultiple => rfl
  | containsAll ids => cases ids <;> rfl

variable {g : Graph} {s : Selection}

namespace TemplateCondition

variable {c : TemplateCondition}

/-- The listed ids of a condition that are present, as often as listed, be it that the condition
holds or not. -/
def hits (c : TemplateCondition) (g : Graph) (s : Selection) : List Ident :=
  c.check.ids.filter (g.isPresent s c.field.kind)

def Holds (c : TemplateCondition) (g : Graph) (s : Selection) : Prop :=
  c.check.holds (c.hits g s) = true

instance (c : TemplateCondition) (g : Graph) (s : Selection) : Decidable (c.Holds g s) :=
  inferInstanceAs (Decidable (_ = true))

theorem mem_hits {id : Ident} : id ∈ c.hits g s ↔
    id ∈ c.check.ids ∧ id ∈ s.ids c.field.kind ∧ id ∈ g.ids c.field.kind := by
  rw [hits, List.mem_filter, Graph.isPresent, Bool.and_eq_true, Selection.has_iff, Graph.mem_ids]

theorem Holds.hits_ne_nil (h : c.Holds g s) : c.hits g s ≠ [] := by
  intro hNone
  rw [Holds, hNone, TemplateCheck.holds_nil] at h
  exact Bool.false_ne_true h

end TemplateCondition

namespace Template

variable {t : Template} {matched : List Ident}

/-- The listed ids of a template that are present, condition by condition. -/
def hits (t : Template) (g : Graph) (s : Selection) : List Ident :=
  t.conditions.flatMap (·.hits g s)

theorem mem_hits {id : Ident} : id ∈ t.hits g s ↔
    ∃ c ∈ t.conditions, id ∈ c.check.ids ∧ id ∈ s.ids c.field.kind ∧ id ∈ g.ids c.field.kind := by
  simp only [hits, List.mem_flatMap, TemplateCondition.mem_hits]

theorem match?_eq_some : t.match? g s = some matched ↔
    t.conditions ≠ [] ∧ (∀ c ∈ t.conditions, c.Holds g s) ∧ (t.hits g s).eraseDups = matched := by
  have hAll (found : List (List Ident)) :
      t.conditions.mapM (TemplateCondition.match? · g s) = some found ↔
        (∀ c ∈ t.conditions, c.Holds g s) ∧ t.conditions.map (·.hits g s) = found :=
    mapM_ite_eq_some
  rw [match?, Option.ite_none_left_eq_some, Option.map_eq_some_iff, List.isEmpty_iff]
  simp only [hAll]
  constructor
  · rintro ⟨hSome, found, ⟨hHolds, rfl⟩, rfl⟩
    exact ⟨hSome, hHolds, by rw [hits, List.flatMap_def]⟩
  · rintro ⟨hSome, hHolds, rfl⟩
    exact ⟨hSome, _, ⟨hHolds, rfl⟩, by rw [hits, List.flatMap_def]⟩

theorem match?_isSome_iff : (t.match? g s).isSome = true ↔
    t.conditions ≠ [] ∧ ∀ c ∈ t.conditions, c.Holds g s := by
  simp only [Option.isSome_iff_exists, match?_eq_some, exists_and_left, exists_eq', and_true]

/-- A template fires only for what it lists. -/
theorem hits_ne_nil (h : t.match? g s = some matched) : t.hits g s ≠ [] := by
  obtain ⟨hSome, hHolds, -⟩ := match?_eq_some.1 h
  obtain ⟨c, hc⟩ := List.exists_mem_of_ne_nil _ hSome
  obtain ⟨id, hId⟩ := List.exists_mem_of_ne_nil _ (hHolds c hc).hits_ne_nil
  exact List.ne_nil_of_mem (List.mem_flatMap.2 ⟨c, hc, hId⟩)

end Template

namespace Graph

/-- Whoever looks at the findings of templates of one severity alone sees what these match. -/
theorem map_filterMap_templateFindings {α : Type} {view : Finding → Option α} {ids : α → List Ident}
    {severity : TemplateSeverity}
    (hView : ∀ (t : Template) matched,
      (view (t.finding matched)).map ids = if t.severity = severity then some matched else none) :
    ((g.templateFindings s).filterMap view).map ids =
      (g.templates.filter (·.severity = severity)).filterMap (·.match? g s) := by
  rw [templateFindings, List.filterMap_filterMap, List.map_filterMap, List.filterMap_filter]
  apply List.filterMap_congr
  intro t _
  cases t.match? g s with
  | none => simp
  | some matched => simpa using hView t matched

/-- A template that fires has conditions, and it matches, each once and in the order of their first
hits, the ids that some condition of it lists and that are chosen and known under the kind of that
condition. There is one, so that no template fires without. What the templates match is what their
warnings are about and what their guidance offers. -/
theorem templateReport_exact (g : Graph) (s : Selection) :
    (∀ (t : Template) (matched : List Ident), t.match? g s = some matched →
      t.conditions ≠ [] ∧ matched ≠ [] ∧ matched.Nodup ∧
      (∀ id, id ∈ matched ↔ ∃ c ∈ t.conditions,
        id ∈ c.check.ids ∧ id ∈ s.ids c.field.kind ∧ id ∈ g.ids c.field.kind) ∧
      matched.Pairwise fun a b => (t.hits g s).idxOf a < (t.hits g s).idxOf b) ∧
    (∀ t : Template, (∀ c ∈ t.conditions, ∀ id ∈ c.check.ids,
      id ∉ s.ids c.field.kind ∨ id ∉ g.ids c.field.kind) → t.match? g s = none) ∧
    (g.templateReport s).warnings.map (·.affected) =
      (g.templates.filter (·.severity = .warning)).filterMap (·.match? g s) ∧
    (g.templateReport s).suggestions.map (·.alternatives) =
      (g.templates.filter (·.severity = .info)).filterMap (·.match? g s) := by
  refine ⟨?_, ?_, map_filterMap_templateFindings ?_, map_filterMap_templateFindings ?_⟩
  · intro t matched h
    obtain ⟨id, hId⟩ := List.exists_mem_of_ne_nil _ (Template.hits_ne_nil h)
    obtain ⟨hConditions, -, rfl⟩ := Template.match?_eq_some.1 h
    refine ⟨hConditions, List.ne_nil_of_mem (List.mem_eraseDups.2 hId), nodup_eraseDups _, ?_,
      pairwise_idxOf_eraseDups _⟩
    intro id
    rw [List.mem_eraseDups, Template.mem_hits]
  · intro t hAbsent
    cases h : t.match? g s with
    | none => rfl
    | some matched =>
      obtain ⟨id, hId⟩ := List.exists_mem_of_ne_nil _ (Template.hits_ne_nil h)
      obtain ⟨c, hc, hListed, hChosen, hKnown⟩ := Template.mem_hits.1 hId
      rcases hAbsent c hc id hListed with hNot | hNot
      · exact absurd hChosen hNot
      · exact absurd hKnown hNot
  · intro t matched
    unfold Template.finding
    cases t.severity <;> rfl
  · intro t matched
    unfold Template.finding
    cases t.severity <;> rfl

/-- Two tags, one of them listed twice, and the plot block that shares its id with the other. -/
def moodyScene : Template where
  id := 3
  name := "scene"
  message := "A moody feud"
  conditions := [⟨.tags, .containsMultiple [2, 404, 2, 1] 3⟩, ⟨.plotBlocks, .containsAny [404, 1]⟩]

/-- Nothing but a plot block that does not exist, and no number of these is asked for. -/
def strayScene : Template where
  id := 4
  name := "stray"
  message := "Nothing to see"
  conditions := [⟨.plotBlocks, .containsMultiple [404, 404] 0⟩, ⟨.plotBlocks, .containsAny []⟩]

theorem watchedFeud_matched :
    (moodyScene.match? watchedFeud pairedMoods = some [2, 1] ∧
      ([2, 1] : List Ident).Nodup ∧
      (∀ id, id ∈ ([2, 1] : List Ident) ↔ ∃ c ∈ moodyScene.conditions,
        id ∈ c.check.ids ∧ id ∈ pairedMoods.ids c.field.kind ∧
          id ∈ watchedFeud.ids c.field.kind) ∧
      ([2, 1] : List Ident).Pairwise fun a b =>
        (moodyScene.hits watchedFeud pairedMoods).idxOf a <
          (moodyScene.hits watchedFeud pairedMoods).idxOf b) ∧
    (404 ∈ pairedMoods.plotBlocks ∧ strayScene.match? watchedFeud pairedMoods = none) := by
  have hFires : moodyScene.match? watchedFeud pairedMoods = some [2, 1] := by decide
  obtain ⟨hMatched, hAbsent, -⟩ := templateReport_exact watchedFeud pairedMoods
  obtain ⟨-, -, hNodup, hMem, hOrder⟩ := hMatched moodyScene [2, 1] hFires
  refine ⟨⟨hFires, hNodup, hMem, hOrder⟩, by decide, hAbsent strayScene fun c hc id hId => ?_⟩
  rcases List.mem_pair.1 hc with rfl | rfl
  · obtain rfl : id = 404 := by simpa [TemplateCheck.ids] using hId
    exact .inr (by decide)
  · exact absurd hId List.not_mem_nil

end Graph

end StoryRules
