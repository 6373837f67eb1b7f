import StoryRules.Report

/-! What a report of findings tells about them: which there are, and in which order those are that
speak about one issue. -/

namespace StoryRules

variable {fs fs' : List Finding} {f : Finding}

namespace Finding

def issue : Finding → Issue
  | problem p => p.issue
  | warning w => w.issue
  | suggestion m => m.issue

theorem problem?_eq_some {p : Problem} : f.problem? = some p ↔ f = .problem p := by
  cases f <;> simp [problem?]

theorem warning?_eq_some {w : Warning} : f.warning? = some w ↔ f = .warning w := by
  cases f <;> simp [warning?]

theorem suggestion?_eq_some {m : Suggestion} : f.suggestion? = some m ↔ f = .suggestion m := by
  cases f <;> simp [suggestion?]

end Finding

/-- None of the findings is a problem. -/
def NoProblem (fs : List Finding) : Prop := ∀ p, Finding.problem p ∉ fs

section NoProblem

variable {α : Type} {as : List α}

theorem noProblem_append : NoProblem (fs ++ fs') ↔ NoProblem fs ∧ NoProblem fs' := by
  simp only [NoProblem, List.mem_append, not_or, forall_and]

theorem noProblem_flatMap {say : α → List Finding} :
    NoProblem (as.flatMap say) ↔ ∀ a ∈ as, NoProblem (say a) := by
  simp only [NoProblem, List.mem_flatMap, not_exists, not_and]
  exact ⟨fun h a ha p => h p a ha, fun h p a ha => h a ha p⟩

theorem noProblem_elim {o : Option α} {say : α → List Finding} :
    NoProblem (o.elim [] say) ↔ ∀ a ∈ o, NoProblem (say a) := by
  cases o <;> simp [NoProblem]

theorem noProblem_ite {c : Prop} [Decidable c] {p : Problem} :
    NoProblem (if c then [.problem p] else []) ↔ ¬c := by
  split <;> simp [NoProblem, *]

/-- Where each finding is a problem, there are none only if there is nothing to speak about. -/
theorem noProblem_map_problem {say : α → Problem} :
    NoProblem (as.map fun a => .problem (say a)) ↔ as = [] := by
  rw [List.eq_nil_iff_forall_not_mem]
  simp only [NoProblem, List.mem_map, not_exists, not_and]
  exact ⟨fun h a ha => h (say a) a ha rfl, fun h p a ha => absurd ha (h a)⟩

theorem noProblem_map_suggestion {say : α → Suggestion} :
    NoProblem (as.map fun a => .suggestion (say a)) := by
  simp [NoProblem]

end NoProblem

namespace Report

theorem mem_errors_ofFindings {p : Problem} : p ∈ (ofFindings fs).errors ↔ .problem p ∈ fs := by
  simp [ofFindings, Finding.problem?_eq_some]

theorem mem_warnings_ofFindings {w : Warning} :
    w ∈ (ofFindings fs).warnings ↔ .warning w ∈ fs := by
  simp [ofFindings, Finding.warning?_eq_some]

theorem mem_suggestions_ofFindings {m : Suggestion} :
    m ∈ (ofFindings fs).suggestions ↔ .suggestion m ∈ fs := by
  simp [ofFindings, Finding.suggestion?_eq_some]

theorem isValid_ofFindings_iff : (ofFindings fs).isValid = true ↔ NoProblem fs := by
  rw [isValid_ofFindings, List.isEmpty_iff, List.eq_nil_iff_forall_not_mem]
  exact forall_congr' fun p => not_congr mem_errors_ofFindings

/-- The report has a problem about the issue. -/
def HasProblem (r : Report) (issue : Issue) : Prop := ∃ p ∈ r.errors, p.issue = issue

instance (r : Report) (issue : Issue) : Decidable (r.HasProblem issue) :=
  inferInstanceAs (Decidable (∃ p ∈ r.errors, p.issue = issue))

theorem hasProblem_ofFindings {issue : Issue} :
    (ofFindings fs).HasProblem issue ↔ ∃ p, .problem p ∈ fs ∧ p.issue = issue := by
  simp only [HasProblem, mem_errors_ofFindings]

/-- The report has a warning about the issue. -/
def HasWarning (r : Report) (issue : Issue) : Prop := ∃ w ∈ r.warnings, w.issue = issue

theorem hasWarning_ofFindings {issue : Issue} :
    (ofFindings fs).HasWarning issue ↔ ∃ w, .warning w ∈ fs ∧ w.issue = issue := by
  simp only [HasWarning, mem_warnings_ofFindings]

/-- Equal reports are made of the same findings. -/
theorem mem_of_ofFindings_eq (h : ofFindings fs = ofFindings fs') (hf : f ∈ fs) : f ∈ fs' := by
  cases f with
  | problem p => exact mem_errors_ofFindings.1 (h ▸ mem_errors_ofFindings.2 hf)
  | warning w => exact mem_warnings_ofFindings.1 (h ▸ mem_warnings_ofFindings.2 hf)
  | suggestion m => exact mem_suggestions_ofFindings.1 (h ▸ mem_suggestions_ofFindings.2 hf)

/-! ### Reports of parts -/

theorem ofFindings_map_suggestion (ms : List Suggestion) :
    ofFindings (ms.map .suggestion) = { valid with suggestions := ms } := by
  simp [ofFindings, valid, List.filterMap_map, Function.comp_def, Finding.problem?,
    Finding.warning?, Finding.suggestion?]

theorem ofFindings_map_warning (ws : List Warning) :
    ofFindings (ws.map .warning) = { valid with warnings := ws } := by
  simp [ofFindings, valid, List.filterMap_map, Function.comp_def, Finding.problem?,
    Finding.warning?, Finding.suggestion?]

/-- Some reports one after another; all of them have to be valid. -/
def concat (rs : List Report) : Report where
  isValid := rs.all (·.isValid)
  errors := rs.flatMap (·.errors)
  warnings := rs.flatMap (·.warnings)
  suggestions := rs.flatMap (·.suggestions)

@[simp] theorem concat_nil : concat [] = valid := rfl

theorem concat_cons (r : Report) (rs : List Report) : concat (r :: rs) = r.merge (concat rs) := rfl

@[simp] theorem concat_singleton (r : Report) : concat [r] = r := by simp [concat]

/-- Findings that are made part by part have the reports of the parts one after another. -/
theorem ofFindings_flatMap {α : Type} (say : α → List Finding) (as : List α) :
    ofFindings (as.flatMap say) = concat (as.map fun a => ofFindings (say a)) := by
  induction as with
  | nil => rfl
  | cons a as ih => rw [List.flatMap_cons, ofFindings_append, ih, List.map_cons, concat_cons]

theorem errorCount_merge (r r' : Report) (issue : Issue) :
    (r.merge r').errorCount issue = r.errorCount issue + r'.errorCount issue :=
  List.countP_append

/-! ### Issues of a report -/

/-- The suggestions of a report that speak about an issue. -/
def suggestionsAbout (r : Report) (issue : Issue) : List Suggestion :=
  r.suggestions.filter (·.issue = issue)

theorem suggestionsAbout_append (fs fs' : List Finding) (issue : Issue) :
    (ofFindings (fs ++ fs')).suggestionsAbout issue =
      (ofFindings fs).suggestionsAbout issue ++ (ofFindings fs').suggestionsAbout issue := by
  simp [suggestionsAbout, ofFindings]

theorem suggestionsAbout_map (ms : List Suggestion) (issue : Issue) :
    (ofFindings (ms.map .suggestion)).suggestionsAbout issue = ms.filter (·.issue = issue) := by
  rw [ofFindings_map_suggestion, suggestionsAbout]

theorem suggestionsAbout_eq_nil {issue : Issue} (h : ∀ f ∈ fs, f.issue ≠ issue) :
    (ofFindings fs).suggestionsAbout issue = [] := by
  refine List.filter_eq_nil_iff.2 fun m hm => ?_
  have hIssue : m.issue ≠ issue := h _ (mem_suggestions_ofFindings.1 hm)
  simpa using hIssue

end Report

end StoryRules
