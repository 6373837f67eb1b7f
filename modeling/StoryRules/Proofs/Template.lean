import Mathlib.Data.List.Flatten
import Mathlib.Data.List.Forall2
import StoryRules.Proofs.Report
import StoryRules.Template.Match

/-! Templates and larger selections. No condition of a template asks for the absence of anything, so
a template that fires for some tags and plot blocks fires for more of them too, and matches what it
matched before (`match?_mono`). What templates say of a selection is kept in their order, with more
ids at most (`templateReport_mono`); it does not depend on how the selection is ordered. -/

namespace StoryRules

section Lists

variable {α α' β β' : Type} {R : α → α' → Prop} {R' : β → β' → Prop}

/-- What is read off a list is kept, in its order, if the list is kept and its members are not
less telling. -/
theorem sublistForall₂_filterMap {f : α → Option β} {f' : α' → Option β'} {as : List α}
    {bs : List α'} (hKept : List.SublistForall₂ R as bs)
    (h : ∀ a b, R a b → ∀ c ∈ f a, ∃ d ∈ f' b, R' c d) :
    List.SublistForall₂ R' (as.filterMap f) (bs.filterMap f') := by
  induction hKept with
  | nil => exact .nil
  | @cons a b _ _ hab _ ih =>
    cases hf : f a with
    | some c =>
      obtain ⟨d, hd, hcd⟩ := h a b hab c hf
      rw [List.filterMap_cons_some hf, List.filterMap_cons_some hd]
      exact .cons hcd ih
    | none =>
      rw [List.filterMap_cons_none hf]
      cases hf' : f' b with
      | none =>
        rw [List.filterMap_cons_none hf']
        exact ih
      | some d =>
        rw [List.filterMap_cons_some hf']
        exact .cons_right ih
  | @cons_right b _ _ _ ih =>
    cases hf' : f' b with
    | none =>
      rw [List.filterMap_cons_none hf']
      exact ih
    | some d =>
      rw [List.filterMap_cons_some hf']
      exact .cons_right ih

theorem exists_mapM {f : α → Option β} {f' : α → Option β'} {as : List α} {bs : List β}
    (h : ∀ a ∈ as, ∀ b ∈ f a, ∃ c ∈ f' a, R' b c) (hbs : as.mapM f = some bs) :
    ∃ cs, as.mapM f' = some cs ∧ List.Forall₂ R' bs cs := by
  induction as generalizing bs with
  | nil =>
    obtain rfl := Option.some.inj hbs
    exact ⟨[], rfl, .nil⟩
  | cons a as ih =>
    obtain ⟨hFirst, hRest⟩ := List.forall_mem_cons.1 h
    simp only [List.mapM_cons, Option.bind_eq_bind, Option.bind_eq_some_iff] at hbs
    obtain ⟨b, hb, bs, hbs, hEq⟩ := hbs
    obtain rfl := Option.some.inj hEq
    obtain ⟨c, hc, hbc⟩ := hFirst b hb
    obtain ⟨cs, hcs, hAll⟩ := ih hRest hbs
    refine ⟨c :: cs, ?_, .cons hbc hAll⟩
    rw [List.mapM_cons, hc, hcs]
    rfl

theorem flatten_subset {bs cs : List (List α)} (h : List.Forall₂ List.Sublist bs cs) :
    bs.flatten ⊆ cs.flatten := by
  induction h with
  | nil => exact List.Subset.refl _
  | cons hFirst _ ih =>
    rw [List.flatten_cons, List.flatten_cons]
    exact List.append_subset.2 ⟨List.subset_append_of_subset_left _ hFirst.subset,
      List.subset_append_of_subset_right _ ih⟩

end Lists

/-- The second selection has all tags and plot blocks of the first, in whatever order. -/
structure Selection.Within (s s' : Selection) : Prop where
  tags : s.tags ⊆ s'.tags
  plotBlocks : s.plotBlocks ⊆ s'.plotBlocks

/-- The same warning, but perhaps about more ids. -/
structure Warning.Widens (w w' : Warning) : Prop where
  affected : w.affected ⊆ w'.affected
  others : w' = { w with affected := w'.affected }

/-- The same suggestion, but perhaps with more ids to choose from. -/
structure Suggestion.Widens (m m' : Suggestion) : Prop where
  alternatives : m.alternatives ⊆ m'.alternatives
  others : m' = { m with alternatives := m'.alternatives }

inductive Finding.Widens : Finding → Finding → Prop
  | warning {w w' : Warning} (h : w.Widens w') : Widens (.warning w) (.warning w')
  | suggestion {m m' : Suggestion} (h : m.Widens m') : Widens (.suggestion m) (.suggestion m')

variable {g : Graph} {s s' : Selection}

theorem TemplateField.isPresent_mono (field : TemplateField) (h : s.Within s') {id : Ident}
    (hPresent : g.isPresent s field.kind id = true) : g.isPresent s' field.kind id = true := by
  have hIds : s.ids field.kind ⊆ s'.ids field.kind := by
    cases field with
    | tags => exact h.tags
    | plotBlocks => exact h.plotBlocks
  simp only [Graph.isPresent, Bool.and_eq_true, Selection.has_iff] at *
  exact ⟨hIds hPresent.1, hPresent.2⟩

/-- More entries that are present are no reason for a check to fail, as it has no more than it
lists. -/
theorem TemplateCheck.holds_mono {check : TemplateCheck} {hits hits' : List Ident}
    (h : hits.Sublist hits') (hListed : hits'.length ≤ check.ids.length)
    (hHolds : check.holds hits = true) : check.holds hits' = true := by
  have hLength := h.length_le
  have hSome (hNonempty : hits ≠ []) : hits' ≠ [] := fun hEmpty =>
    hNonempty (List.sublist_nil.1 (hEmpty ▸ h))
  cases check with
  | contains id | containsAny ids =>
    simp only [holds, Bool.not_eq_true', List.isEmpty_eq_false_iff] at *
    exact hSome hHolds
  | containsAll ids =>
    simp only [holds, TemplateCheck.ids, Bool.and_eq_true, beq_iff_eq] at *
    exact ⟨hHolds.1, by omega⟩
  | containsMultiple ids threshold =>
    simp only [holds, Bool.and_eq_true, Bool.not_eq_true', List.isEmpty_eq_false_iff,
      decide_eq_true_eq] at *
    exact ⟨hSome hHolds.1, Nat.le_trans hHolds.2 hLength⟩

theorem TemplateCondition.match?_mono {c : TemplateCondition} {hits : List Ident}
    (h : s.Within s') (hHits : c.match? g s = some hits) :
    ∃ hits', c.match? g s' = some hits' ∧ hits.Sublist hits' := by
  have hMore : (c.check.ids.filter (g.isPresent s c.field.kind)).Sublist
      (c.check.ids.filter (g.isPresent s' c.field.kind)) :=
    List.monotone_filter_right _ fun _ => c.field.isPresent_mono h
  rw [match?, Option.ite_none_right_eq_some] at hHits
  obtain ⟨hHolds, hEq⟩ := hHits
  obtain rfl := Option.some.inj hEq
  refine ⟨_, ?_, hMore⟩
  rw [match?, if_pos]
  exact TemplateCheck.holds_mono hMore (List.length_filter_le _ _) hHolds

theorem Template.match?_mono {t : Template} {matched : List Ident} (h : s.Within s')
    (hMatched : t.match? g s = some matched) :
    ∃ matched', t.match? g s' = some matched' ∧ matched ⊆ matched' := by
  rw [match?, Option.ite_none_left_eq_some] at hMatched
  obtain ⟨hConditions, hAll⟩ := hMatched
  obtain ⟨hits, hHits, rfl⟩ := Option.map_eq_some_iff.1 hAll
  obtain ⟨hits', hHits', hMore⟩ :
      ∃ hits', t.conditions.mapM (TemplateCondition.match? · g s') = some hits' ∧
        List.Forall₂ List.Sublist hits hits' :=
    exists_mapM (fun _ _ _ hc => TemplateCondition.match?_mono h hc) hHits
  refine ⟨hits'.flatten.eraseDups, by rw [match?, if_neg hConditions, hHits']; rfl, ?_⟩
  intro id hId
  exact List.mem_eraseDups.2 (flatten_subset hMore (List.mem_eraseDups.1 hId))

/-- What a template says depends on the ids it matched only in naming them. -/
theorem Template.widens_finding (t : Template) {matched matched' : List Ident}
    (h : matched ⊆ matched') : (t.finding matched).Widens (t.finding matched') := by
  rw [finding, finding]
  cases t.severity with
  | warning => exact .warning ⟨h, rfl⟩
  | info => exact .suggestion ⟨h, rfl⟩

namespace Graph

/-- The report of what the templates of a graph say of a selection. -/
def templateReport (g : Graph) (s : Selection) : Report := .ofFindings (g.templateFindings s)

/-- Templates see of a selection which tags and plot blocks are present. -/
theorem templateFindings_eq
    (h : ∀ field : TemplateField, g.isPresent s field.kind = g.isPresent s' field.kind) :
    g.templateFindings s = g.templateFindings s' := by
  have hCondition (c : TemplateCondition) : c.match? g s = c.match? g s' := by
    rw [TemplateCondition.match?, h, TemplateCondition.match?]
  simp only [templateFindings, Template.match?, hCondition]

theorem templateFindings_mono (h : s.Within s') :
    List.SublistForall₂ Finding.Widens (g.templateFindings s) (g.templateFindings s') := by
  have hTemplates : List.SublistForall₂ Eq g.templates g.templates := Std.Refl.refl _
  refine sublistForall₂_filterMap hTemplates fun t t' hSame f hf => ?_
  subst hSame
  obtain ⟨matched, hMatched, rfl⟩ := Option.map_eq_some_iff.1 hf
  obtain ⟨matched', hMatched', hMore⟩ := Template.match?_mono h hMatched
  exact ⟨_, Option.map_eq_some_iff.2 ⟨matched', hMatched', rfl⟩, t.widens_finding hMore⟩

theorem warnings_templateReport (h : s.Within s') :
    List.SublistForall₂ Warning.Widens (g.templateReport s).warnings
      (g.templateReport s').warnings := by
  refine sublistForall₂_filterMap (templateFindings_mono h) fun f f' hWidens w hw => ?_
  obtain rfl := Finding.warning?_eq_some.1 hw
  cases hWidens with
  | warning hMore => exact ⟨_, rfl, hMore⟩

theorem suggestions_templateReport (h : s.Within s') :
    List.SublistForall₂ Suggestion.Widens (g.templateReport s).suggestions
      (g.templateReport s').suggestions := by
  refine sublistForall₂_filterMap (templateFindings_mono h) fun f f' hWidens m hm => ?_
  obtain rfl := Finding.suggestion?_eq_some.1 hm
  cases hWidens with
  | suggestion hMore => exact ⟨_, rfl, hMore⟩

/-- A template that fires for a selection fires for one with more tags and plot blocks too and
matches no less. What the templates say of the first is kept in its order, with more ids at most.
Selections of the same tags and plot blocks have the same report. -/
theorem templateReport_mono (g : Graph) (h : s.Within s') :
    (∀ (t : Template) matched, t.match? g s = some matched →
      ∃ matched', t.match? g s' = some matched' ∧ matched ⊆ matched') ∧
    (List.SublistForall₂ Warning.Widens (g.templateReport s).warnings
        (g.templateReport s').warnings ∧
      List.SublistForall₂ Suggestion.Widens (g.templateReport s).suggestions
        (g.templateReport s').suggestions) ∧
    (s'.Within s → g.templateReport s = g.templateReport s') := by
  refine ⟨fun t matched hMatched => Template.match?_mono h hMatched,
    ⟨warnings_templateReport h, suggestions_templateReport h⟩, fun hBack => ?_⟩
  rw [templateReport, templateReport, templateFindings_eq fun field => ?_]
  funext id
  rw [Bool.eq_iff_iff]
  exact ⟨field.isPresent_mono h, field.isPresent_mono hBack⟩

/-- Two tags and a plot block, a warning about any two of three ids and guidance for a block with a
tag. -/
def watchedFeud : Graph where
  fandomId := 1
  tags := (Table.empty.insert
    { id := 1, name := "first", category := "mood", fandomId := 1 }).insert
    { id := 2, name := "second", category := "mood", fandomId := 1 }
  plotBlocks := Table.empty.insert { id := 1, name := "feud", category := "arc", fandomId := 1 }
  templates := [
    { id := 1, name := "crowd", message := "Many moods"
      conditions := [⟨.tags, .containsMultiple [2, 1, 1] 2⟩] },
    { id := 2, name := "scene", message := "A moody feud", severity := .info
      conditions := [⟨.plotBlocks, .contains 1⟩, ⟨.tags, .containsAny [2, 1]⟩] }]

def soleMood : Selection := { fandomId := 1, tags := [1], plotBlocks := [1] }

def pairedMoods : Selection := { fandomId := 1, tags := [2, 1, 2], plotBlocks := [404, 1] }

def shuffledMoods : Selection := { fandomId := 1, tags := [1, 2], plotBlocks := [1, 404, 1] }

theorem watchedFeud_kept :
    (soleMood.Within pairedMoods ∧
      List.SublistForall₂ Warning.Widens (watchedFeud.templateReport soleMood).warnings
        (watchedFeud.templateReport pairedMoods).warnings ∧
      List.SublistForall₂ Suggestion.Widens (watchedFeud.templateReport soleMood).suggestions
        (watchedFeud.templateReport pairedMoods).suggestions) ∧
    (pairedMoods.Within shuffledMoods ∧ shuffledMoods.Within pairedMoods) ∧
      watchedFeud.templateReport pairedMoods = watchedFeud.templateReport shuffledMoods := by
  have hMore : soleMood.Within pairedMoods := ⟨by decide, by decide⟩
  have hShuffled : pairedMoods.Within shuffledMoods := ⟨by decide, by decide⟩
  have hBack : shuffledMoods.Within pairedMoods := ⟨by decide, by decide⟩
  exact ⟨⟨hMore, (templateReport_mono watchedFeud hMore).2.1⟩, ⟨hShuffled, hBack⟩,
    (templateReport_mono watchedFeud hShuffled).2.2 hBack⟩

/-- The larger selection widens both, the warning by a tag and the guidance by a tag. -/
example : ((watchedFeud.templateReport soleMood).warnings.map (·.affected),
      (watchedFeud.templateReport pairedMoods).warnings.map (·.affected)) = ([[1]], [[2, 1]]) ∧
    ((watchedFeud.templateReport soleMood).suggestions.map (·.alternatives),
      (watchedFeud.templateReport pairedMoods).suggestions.map (·.alternatives)) =
        ([[1]], [[1, 2]]) := by decide

end Graph

end StoryRules
