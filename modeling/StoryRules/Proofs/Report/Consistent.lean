import StoryRules.Proofs.Report

/-! Reports that agree with themselves: the verdict is that of the list of problems, all problems
are errors, and the warnings are about the few issues that warnings are for. Adding a finding and
merging two reports keep a report so, whatever is added or merged as long as it is sound itself. -/

namespace StoryRules

/-- The issues that warnings are about. -/
def Issue.ofWarnings : List Issue :=
  [softRequirementViolation, customRuleWarning, templateWarning, pathwayOrder,
    pathwayItemNotSelected, duplicatePathwayItem]

/-- A problem is an error and has something else than null for its value, if any; a warning is
about an issue of warnings. -/
def Finding.Sound : Finding → Prop
  | problem p => p.severity = .error ∧ p.value ≠ some .null
  | warning w => w.issue ∈ Issue.ofWarnings
  | suggestion _ => True

namespace Finding

@[simp] theorem sound_problem {p : Problem} :
    (problem p).Sound ↔ p.severity = .error ∧ p.value ≠ some .null := Iff.rfl

@[simp] theorem sound_warning {w : Warning} : (warning w).Sound ↔ w.issue ∈ Issue.ofWarnings :=
  Iff.rfl

@[simp] theorem sound_suggestion {m : Suggestion} : (suggestion m).Sound := trivial

end Finding

/-- All of the findings are sound. -/
def AllSound (fs : List Finding) : Prop := ∀ f ∈ fs, f.Sound

section AllSound

variable {α : Type} {as : List α} {fs fs' : List Finding} {f : Finding}

@[simp] theorem allSound_nil : AllSound [] := fun _ h => absurd h List.not_mem_nil

@[simp] theorem allSound_cons : AllSound (f :: fs) ↔ f.Sound ∧ AllSound fs := List.forall_mem_cons

@[simp] theorem allSound_append : AllSound (fs ++ fs') ↔ AllSound fs ∧ AllSound fs' :=
  List.forall_mem_append

@[simp] theorem allSound_flatMap {say : α → List Finding} :
    AllSound (as.flatMap say) ↔ ∀ a ∈ as, AllSound (say a) :=
  List.forall_mem_flatMap

@[simp] theorem allSound_map {say : α → Finding} :
    AllSound (as.map say) ↔ ∀ a ∈ as, (say a).Sound :=
  List.forall_mem_map

@[simp] theorem allSound_toList {o : Option Finding} : AllSound o.toList ↔ ∀ f ∈ o, f.Sound := by
  simp [AllSound]

@[simp] theorem allSound_elim {o : Option α} {say : α → List Finding} :
    AllSound (o.elim [] say) ↔ ∀ a ∈ o, AllSound (say a) := by
  cases o <;> simp

@[simp] theorem allSound_ite {c : Prop} [Decidable c] :
    AllSound (if c then fs else fs') ↔ (c → AllSound fs) ∧ (¬c → AllSound fs') := by
  split <;> simp [*]

theorem allSound_filterMap {say : α → Option Finding} :
    AllSound (as.filterMap say) ↔ ∀ a ∈ as, ∀ f ∈ say a, f.Sound := by
  simp only [AllSound, List.mem_filterMap]
  exact ⟨fun h a ha f hf => h f ⟨a, ha, hf⟩, fun h f ⟨a, ha, hf⟩ => h a ha f hf⟩

end AllSound

/-- A report agrees with itself. -/
structure Report.Consistent (r : Report) : Prop where
  verdict : r.isValid = true ↔ r.errors = []
  errors : ∀ p ∈ r.errors, p.severity = .error
  warnings : ∀ w ∈ r.warnings, w.issue ∈ Issue.ofWarnings

namespace Report

variable {r r' : Report} {fs : List Finding} {f : Finding}

theorem consistent_valid : valid.Consistent :=
  ⟨iff_of_true rfl rfl, fun _ h => absurd h List.not_mem_nil, fun _ h => absurd h List.not_mem_nil⟩

theorem Consistent.merge (h : r.Consistent) (h' : r'.Consistent) : (r.merge r').Consistent where
  verdict := by
    rw [Report.merge, Bool.and_eq_true, h.verdict, h'.verdict, List.append_eq_nil_iff]
  errors := List.forall_mem_append.2 ⟨h.errors, h'.errors⟩
  warnings := List.forall_mem_append.2 ⟨h.warnings, h'.warnings⟩

theorem Consistent.add (h : r.Consistent) (hf : f.Sound) : (r.add f).Consistent := by
  cases f with
  | problem p =>
    exact ⟨by simp [Report.add],
      List.forall_mem_append.2 ⟨h.errors, List.forall_mem_singleton.2 hf.1⟩, h.warnings⟩
  | warning w =>
    exact ⟨h.verdict, h.errors,
      List.forall_mem_append.2 ⟨h.warnings, List.forall_mem_singleton.2 hf⟩⟩
  | suggestion m => exact ⟨h.verdict, h.errors, h.warnings⟩

/-- By induction on the findings, which are added one by one. -/
theorem Consistent.foldl_add (h : r.Consistent) (hfs : AllSound fs) :
    (fs.foldl Report.add r).Consistent := by
  induction fs generalizing r with
  | nil => exact h
  | cons f fs ih =>
    obtain ⟨hf, hRest⟩ := List.forall_mem_cons.1 hfs
    exact ih (h.add hf) hRest

/-- By induction on the reports, which are merged one after another. -/
theorem consistent_concat {rs : List Report} (h : ∀ r ∈ rs, r.Consistent) :
    (concat rs).Consistent := by
  induction rs with
  | nil => exact consistent_valid
  | cons r rs ih =>
    obtain ⟨hr, hRest⟩ := List.forall_mem_cons.1 h
    exact hr.merge (ih hRest)

theorem consistent_ofFindings (h : AllSound fs) : (ofFindings fs).Consistent := by
  rw [ofFindings_eq_foldl]
  exact consistent_valid.foldl_add h

end Report

end StoryRules
