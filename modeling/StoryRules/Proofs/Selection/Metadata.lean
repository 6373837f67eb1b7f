import StoryRules.Proofs.Selection.Alike

/-! The metadata of a selection. Two rules of a tag class look at them, one for keys that need a
value and one for plot blocks that may be listed there. Whatever else is said about a selection is
said without them: two selections with other metadata have the same warnings, the same suggestions
and, apart from the problems of these two rules, the same problems (`validate_metadata`). -/

namespace StoryRules

/-- The issues of the problems for which metadata are looked at. -/
def Issue.ofMetadata : List Issue := [.missingRequiredMetadata, .missingRequiredPlotBlock]

/-- The problems of a report that are not about some issues. -/
def Report.errorsBut (r : Report) (issues : List Issue) : List Problem :=
  r.errors.filter (·.issue ∉ issues)

/-- Whether a finding is a problem about one of some issues. -/
def Finding.isProblemOf (issues : List Issue) : Finding → Bool
  | problem p => p.issue ∈ issues
  | _ => false

/-- Some findings are the same as others, and come in the same order, apart from the problems about
some issues. -/
def SameBut (issues : List Issue) (fs fs' : List Finding) : Prop :=
  fs.filter (!·.isProblemOf issues) = fs'.filter (!·.isProblemOf issues)

namespace SameBut

variable {α : Type} {issues : List Issue} {fs fs' gs gs' : List Finding}

theorem of_eq (h : fs = fs') : SameBut issues fs fs' := congrArg _ h

theorem refl (fs : List Finding) : SameBut issues fs fs := .of_eq rfl

/-- Lists of nothing but problems about the issues are left out as a whole. -/
theorem of_problems (h : ∀ f ∈ fs, f.isProblemOf issues) (h' : ∀ f ∈ fs', f.isProblemOf issues) :
    SameBut issues fs fs' := by
  have hNone {fs : List Finding} (h : ∀ f ∈ fs, f.isProblemOf issues) :
      fs.filter (!·.isProblemOf issues) = [] :=
    List.filter_eq_nil_iff.2 fun f hf => by simp [h f hf]
  rw [SameBut, hNone h, hNone h']

theorem append (h : SameBut issues fs fs') (hRest : SameBut issues gs gs') :
    SameBut issues (fs ++ gs) (fs' ++ gs') := by
  rw [SameBut, List.filter_append, List.filter_append, h, hRest]

theorem flatMap {say say' : α → List Finding} {as : List α}
    (h : ∀ a ∈ as, SameBut issues (say a) (say' a)) :
    SameBut issues (as.flatMap say) (as.flatMap say') := by
  rw [SameBut, List.filter_flatMap, List.filter_flatMap]
  exact List.flatMap_congr h

theorem elim {say say' : α → List Finding} (o : Option α)
    (h : ∀ a, SameBut issues (say a) (say' a)) :
    SameBut issues (o.elim [] say) (o.elim [] say') := by
  cases o with
  | none => exact .refl _
  | some a => exact h a

/-- What is picked out of findings is the same if no problem about the issues is picked. -/
theorem filterMap_eq (h : SameBut issues fs fs') {pick : Finding → Option α}
    (hPick : ∀ p, p.issue ∈ issues → pick (.problem p) = none) :
    fs.filterMap pick = fs'.filterMap pick := by
  have hKept (fs : List Finding) :
      (fs.filter (!·.isProblemOf issues)).filterMap pick = fs.filterMap pick := by
    rw [List.filterMap_filter]
    refine List.filterMap_congr fun f _ => ite_eq_left_iff.2 fun hLeft => ?_
    cases f with
    | problem p =>
      have hIssue : p.issue ∈ issues := by simpa [Finding.isProblemOf] using hLeft
      exact (hPick p hIssue).symm
    | warning | suggestion => simp [Finding.isProblemOf] at hLeft
  rw [← hKept, h, hKept]

theorem warnings_ofFindings (h : SameBut issues fs fs') :
    (Report.ofFindings fs).warnings = (Report.ofFindings fs').warnings :=
  h.filterMap_eq fun _ _ => rfl

theorem suggestions_ofFindings (h : SameBut issues fs fs') :
    (Report.ofFindings fs).suggestions = (Report.ofFindings fs').suggestions :=
  h.filterMap_eq fun _ _ => rfl

theorem errorsBut_ofFindings (h : SameBut issues fs fs') :
    (Report.ofFindings fs).errorsBut issues = (Report.ofFindings fs').errorsBut issues := by
  simp only [Report.errorsBut, Report.ofFindings, List.filter_filterMap]
  refine h.filterMap_eq fun p hIssue => ?_
  simp [Finding.problem?, hIssue]

end SameBut

/-! ### Tag classes -/

namespace AppliedClass

variable (c : AppliedClass) (metadata : Json.Fields)

theorem sameBut_context (rule : RequiredContext) :
    SameBut Issue.ofMetadata (c.contextFindings rule)
      ({ c with selection.metadata := metadata }.contextFindings rule) := by
  refine .append (.append (.of_eq rfl) (.of_problems ?_ ?_)) (.of_eq rfl)
  all_goals
    intro f hf
    obtain ⟨key, -, rfl⟩ := List.mem_map.1 hf
    rfl

theorem sameBut_plotBlocks (rule : CategoryRestrictions) :
    SameBut Issue.ofMetadata (c.plotBlockFindings rule)
      ({ c with selection.metadata := metadata }.plotBlockFindings rule) := by
  have hProblem (c : AppliedClass) : ∀ f ∈ c.plotBlockFindings rule,
      f.isProblemOf Issue.ofMetadata := by
    intro f hf
    rw [plotBlockFindings] at hf
    split at hf
    · obtain rfl := List.mem_singleton.1 hf
      rfl
    · simp at hf
  exact .of_problems (hProblem c) (hProblem _)

/-- Mutual exclusion, limits, categories and dependencies are judged without the metadata. -/
theorem sameBut_findings :
    SameBut Issue.ofMetadata c.findings { c with selection.metadata := metadata }.findings := by
  refine .append (.append (.append (.of_eq rfl) ?_) ?_) (.of_eq rfl)
  · exact .elim _ (c.sameBut_context metadata)
  · exact .elim _ fun rule => .append (.of_eq rfl) (c.sameBut_plotBlocks metadata rule)

end AppliedClass

theorem Graph.sameBut_classFindings (g : Graph) (s : Selection) (metadata : Json.Fields) :
    SameBut Issue.ofMetadata (g.classFindings s) (g.classFindings { s with metadata }) := by
  refine .flatMap fun c _ => ?_
  have hMembers : g.members { s with metadata } c.id = g.members s c.id := rfl
  dsimp only
  rw [hMembers]
  split
  · exact .refl _
  · exact AppliedClass.sameBut_findings _ metadata

/-! ### Whole reports -/

namespace Snapshot

variable {snap : Snapshot}

theorem sameBut_passFindings (hCompiled : snap.IsCompiled) (settings : Settings) (s : Selection)
    (metadata : Json.Fields) :
    SameBut Issue.ofMetadata (snap.passFindings settings s)
      (snap.passFindings settings { s with metadata }) := by
  have hAlike : snap.graph.Alike s { s with metadata } := ⟨fun _ => rfl, rfl⟩
  refine .append (.append (.append (.append ?_ ?_) ?_) ?_) (.of_eq rfl)
  · rw [hAlike.checkRequirements]
    exact .refl _
  · exact snap.graph.sameBut_classFindings s metadata
  · rw [hAlike.ruleFindings hCompiled]
    exact .refl _
  · rw [Graph.templateFindings_congr hAlike.isPresent]
    exact .refl _

/-- Metadata make no difference to the warnings and suggestions about a selection, nor to the
problems with it apart from those of the two rules that look at them. -/
theorem validate_metadata (hCompiled : snap.IsCompiled) (settings : Settings) (s : Selection)
    (metadata : Json.Fields) :
    (snap.validate settings s).warnings = (snap.validate settings { s with metadata }).warnings ∧
      (snap.validate settings s).suggestions =
        (snap.validate settings { s with metadata }).suggestions ∧
      (snap.validate settings s).errorsBut Issue.ofMetadata =
        (snap.validate settings { s with metadata }).errorsBut Issue.ofMetadata := by
  have hSame : SameBut Issue.ofMetadata (snap.findings settings s)
      (snap.findings settings { s with metadata }) := by
    unfold findings
    split
    · exact sameBut_passFindings hCompiled settings s metadata
    · exact .refl _
  exact ⟨hSame.warnings_ofFindings, hSame.suggestions_ofFindings, hSame.errorsBut_ofFindings⟩

/-- A fandom with a class that needs a rating and a plot block, and a rule about its tag. -/
def rated : Snapshot where
  graph := {
    fandomId := 1
    tags := Table.empty.insert
      { id := 1, name := "first", category := "mood", fandomId := 1, classId := some 1 }
    tagClasses := Table.empty.insert
      { id := 1, name := "moods"
        rules.context := some { metadata := ["rating"] }
        rules.categories := some { plotBlocks := [2] } }
    plotBlocks := Table.empty.insert { id := 2, name := "feud", category := "arc", fandomId := 1 } }
  rules := [Rule.compile {
    id := 1, name := "calm", severity := .warning, conditions := [⟨.hasTag .noneOf [1], .and⟩] }]

def unrated : Selection := { fandomId := 1, tags := [1] }

def ratings : Json.Fields := [("plot_blocks", .arr [.int 2]), ("rating", .str "mild")]

/-- Without metadata both rules of the class are broken, and with these neither is. -/
theorem validate_ratings :
    (rated.graph.classFindings unrated).map Finding.issue = Issue.ofMetadata ∧
      rated.graph.classFindings { unrated with metadata := ratings } = [] ∧
      (rated.validate {} unrated).warnings =
        (rated.validate {} { unrated with metadata := ratings }).warnings ∧
      (rated.validate {} unrated).suggestions =
        (rated.validate {} { unrated with metadata := ratings }).suggestions ∧
      (rated.validate {} unrated).errorsBut Issue.ofMetadata =
        (rated.validate {} { unrated with metadata := ratings }).errorsBut Issue.ofMetadata := by
  have hCompiled : rated.IsCompiled := List.forall_mem_singleton.2 ⟨_, rfl⟩
  exact ⟨by decide, by decide, validate_metadata hCompiled {} unrated ratings⟩

end Snapshot

end StoryRules
