import StoryRules.Proofs.Snapshot.Pass

/-! What the switches of the settings do. The report of a validation is the reports of its passes
one after another, and no pass looks at what another one says. So a switch takes the report of its
own pass out and leaves the others where they are (`validate_by_passes`). -/

namespace StoryRules

/-- Settings with the switch of an optional pass turned off. -/
def Settings.without (settings : Settings) : Pass → Settings
  | .requirements | .tagClasses => settings
  | .rules => { settings with customRules := false }
  | .templates => { settings with warningTemplates := false }
  | .enhancements => { settings with enhancementSuggestions := false }

namespace Pass

variable {p : Pass} {snap : Snapshot} {s : Selection} {settings : Settings}

def optional : List Pass := [rules, templates, enhancements]

/-- The passes that run, in order. -/
def running (settings : Settings) : List Pass := all.filter (·.isOn settings)

theorem isOn_without (hp : p ∈ optional) (q : Pass) :
    q.isOn (settings.without p) = (q.isOn settings && q ≠ p) := by
  cases p <;> cases q <;> simp_all [optional, isOn, Settings.without]

theorem running_without (hp : p ∈ optional) :
    running (settings.without p) = (running settings).filter (· ≠ p) := by
  simp only [running, List.filter_filter, isOn_without hp, Bool.and_comm]

example : running (({} : Settings).without templates) =
    [requirements, tagClasses, rules, enhancements] := rfl

/-- The report of a pass. The last pass makes suggestions only. -/
def report (snap : Snapshot) (s : Selection) : Pass → Report
  | requirements => .ofFindings ((snap.graph.checkRequirements s).findings snap.graph)
  | tagClasses => snap.graph.classReport s
  | rules => snap.graph.ruleReport snap.rules s
  | templates => .ofFindings (snap.graph.templateFindings s)
  | enhancements => { Report.valid with
      suggestions := (snap.graph.enhancements s).map Enhancement.suggestion
        ++ snap.graph.unlocks s }

theorem ofFindings_findings (p : Pass) (snap : Snapshot) (s : Selection) :
    .ofFindings (p.findings snap s) = p.report snap s := by
  cases p with
  | requirements | tagClasses | rules | templates => rfl
  | enhancements =>
    rw [findings, Graph.enhancementFindings_eq, Report.ofFindings_map_suggestion]
    rfl

theorem noProblem_templateFindings (g : Graph) (s : Selection) :
    NoProblem (g.templateFindings s) := by
  intro p hp
  obtain ⟨t, -, matched, -, hFinding⟩ := Graph.mem_templateFindings.1 hp
  rw [Template.finding] at hFinding
  split at hFinding <;> cases hFinding

theorem errors_report (hp : p = templates ∨ p = enhancements) : (p.report snap s).errors = [] := by
  rcases hp with rfl | rfl
  · refine List.eq_nil_iff_forall_not_mem.2 fun q hq => ?_
    exact noProblem_templateFindings snap.graph s q (Report.mem_errors_ofFindings.1 hq)
  · rfl

end Pass

namespace Snapshot

variable {snap : Snapshot} {settings settings' : Settings} {s : Selection}

theorem validate_own (h : s.fandomId = snap.fandomId) :
    snap.validate settings s = .concat ((Pass.running settings).map (Pass.report snap s)) := by
  rw [validate, findings, if_pos h, passFindings_eq, ← flatMap_filter, Report.ofFindings_flatMap]
  simp only [Pass.ofFindings_findings, Pass.running]

theorem errors_validate_own (h : s.fandomId = snap.fandomId) :
    (snap.validate settings s).errors =
      Pass.all.flatMap fun p => if p.isOn settings then (p.report snap s).errors else [] := by
  rw [validate_own h, Report.concat, List.flatMap_map, Pass.running, flatMap_filter]

/-- What is said about a selection of another fandom. -/
def fandomProblem (own other : Ident) : Problem where
  issue := .fandomMismatch
  message := s!"Selection belongs to fandom {other} but fandom {own} is loaded"
  field := some "fandom_id"
  value := some other.toJson

theorem validate_other (h : s.fandomId ≠ snap.fandomId) : snap.validate settings s =
    ⟨false, [fandomProblem snap.fandomId s.fandomId], [], []⟩ := by
  rw [validate, findings, if_neg h]
  rfl

/-- Templates and enhancements never add a problem, so only the switch of the rules matters. -/
theorem errors_validate_congr (hRules : settings'.customRules = settings.customRules) :
    (snap.validate settings' s).errors = (snap.validate settings s).errors := by
  by_cases hOwn : s.fandomId = snap.fandomId
  · rw [errors_validate_own hOwn, errors_validate_own hOwn]
    congr 1
    funext p
    cases p with
    | requirements | tagClasses => rfl
    | rules => rw [Pass.isOn, Pass.isOn, hRules]
    | templates | enhancements => simp only [Pass.errors_report, or_true, true_or, ite_self]
  · rw [validate_other hOwn, validate_other hOwn]

/-- The passes that run are reported in order and merged. Without one of the optional passes the
others are reported the same. Problems, and with them the verdict, depend on no switch but that of
the rules. For another fandom there is one problem, which depends on the two fandoms only. -/
theorem validate_by_passes (snap : Snapshot) (settings : Settings) (s : Selection) :
    (s.fandomId = snap.fandomId →
      snap.validate settings s = .concat ((Pass.running settings).map (Pass.report snap s)) ∧
      ∀ p ∈ Pass.optional, snap.validate (settings.without p) s =
        .concat (((Pass.running settings).filter (· ≠ p)).map (Pass.report snap s))) ∧
    (∀ settings', settings'.customRules = settings.customRules →
      (snap.validate settings' s).errors = (snap.validate settings s).errors ∧
      (snap.validate settings' s).isValid = (snap.validate settings s).isValid) ∧
    (s.fandomId ≠ snap.fandomId →
      snap.validate settings s = ⟨false, [fandomProblem snap.fandomId s.fandomId], [], []⟩) := by
  refine ⟨fun hOwn => ⟨validate_own hOwn, fun p hp => ?_⟩, fun settings' hRules => ?_,
    validate_other⟩
  · rw [validate_own hOwn, Pass.running_without hp]
  · have hErrors : (snap.validate settings' s).errors = (snap.validate settings s).errors :=
      errors_validate_congr hRules
    refine ⟨hErrors, ?_⟩
    rw [validate, validate, Report.isValid_ofFindings, Report.isValid_ofFindings]
    exact congrArg List.isEmpty hErrors

end Snapshot

end StoryRules
