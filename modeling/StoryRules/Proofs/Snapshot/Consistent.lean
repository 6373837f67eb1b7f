import StoryRules.Proofs.Conflict
import StoryRules.Proofs.Report.Consistent
import StoryRules.Proofs.Snapshot.Switch

/-! Whatever is asked of a snapshot, the answer agrees with itself. Each part of a validation makes
sound findings only, so its report is consistent, and so is what the reports are merged into. -/

namespace StoryRules

/-! ### Sound findings -/

theorem Missing.sound_finding (m : Missing) (g : Graph) : (m.finding g).Sound := by
  rw [finding]
  cases m.strength with
  | hard => simp
  | soft => simp [Issue.ofWarnings]

theorem RequirementCheck.allSound_findings (c : RequirementCheck) (g : Graph) :
    AllSound (c.findings g) := by
  simp [findings, Missing.sound_finding]

@[simp] theorem Finding.sound_tagProblem {issue : Issue} {message : String} {value : Option Json}
    {affected : List Ident} : (tagProblem issue message value affected).Sound ↔
      value ≠ some .null := by
  simp [tagProblem]

namespace AppliedClass

variable (c : AppliedClass)

theorem allSound_exclusionFindings (rule : MutualExclusion) :
    AllSound (c.exclusionFindings rule) := by
  rw [exclusionFindings, allSound_append, allSound_append]
  refine ⟨⟨?_, ?_⟩, ?_⟩
  · rw [withinClass]
    split <;> simp [Json.ofList]
  · simp [conflictingTags]
  · rw [conflictingClasses, allSound_filterMap]
    intro id _ f hf
    rw [Option.mem_ite_none_left, Option.mem_some_iff] at hf
    obtain ⟨-, rfl⟩ := hf
    simp

theorem allSound_findings : AllSound c.findings := by
  simp [findings, allSound_exclusionFindings, limitFindings, limitProblem, contextFindings,
    categoryFindings, plotBlockFindings, dependencyFindings, Ident.listToJson, Json.ofList]

end AppliedClass

theorem Finding.IsEffect.sound {f : Finding} (h : f.IsEffect) : f.Sound := by
  cases f with
  | problem p => exact h.2
  | warning w => simp [show w.issue = _ from h, Issue.ofWarnings]
  | suggestion m => exact trivial

namespace Graph

variable (g : Graph) (s : Selection)

theorem allSound_classFindings : AllSound (g.classFindings s) := by
  simp [classFindings, AppliedClass.allSound_findings]

theorem allSound_ruleFindings (rules : List CompiledRule) : AllSound (g.ruleFindings rules s) := by
  rw [ruleFindings, allSound_flatMap]
  intro r _ f hf
  rcases (r.fares g s).isEffect_or hf with hEffect | ⟨fault, rfl⟩
  · exact hEffect.sound
  · simp [CompiledRule.faultProblem]

theorem allSound_templateFindings : AllSound (g.templateFindings s) := by
  intro f hf
  obtain ⟨t, -, matched, -, rfl⟩ := mem_templateFindings.1 hf
  rw [Template.finding]
  cases t.severity with
  | warning => simp [Issue.ofWarnings]
  | info => simp

theorem allSound_cycleFindings : AllSound g.cycleFindings := by
  simp [cycleFindings, cycleProblem]

theorem allSound_placesFindings (earlier rest : List Item) :
    AllSound (g.placesFindings s earlier rest) := by
  induction rest generalizing earlier with
  | nil => simp [placesFindings]
  | cons item rest ih =>
    rw [placesFindings, allSound_append]
    exact ⟨by simp [placeFindings, Finding.pathwayWarning, Issue.ofWarnings], ih _⟩

theorem allSound_pathwayFindings (pathway : List Item) :
    AllSound (g.pathwayFindings s pathway) := by
  simp [pathwayFindings, allSound_placesFindings, orderWarning, Finding.pathwayWarning,
    Issue.ofWarnings]

theorem sound_pairProblem (issue : Issue) (message : String) (field : Option String) (a b : Item) :
    (pairProblem issue message field a b).Sound := by
  simp [pairProblem]

theorem allSound_staticConflicts (a b : Item) : AllSound (g.staticConflicts a b) := by
  rw [staticConflicts]
  split <;> simp [tagConflicts, plotBlockConflicts, sound_pairProblem]

theorem allSound_pairConflicts (asked : (Item × Item) × Option String) :
    AllSound (g.pairConflicts asked) := by
  simp [pairConflicts, allSound_staticConflicts, externalConflict, sound_pairProblem]

end Graph

theorem Pass.allSound_findings (p : Pass) (snap : Snapshot) (s : Selection) :
    AllSound (p.findings snap s) := by
  cases p with
  | requirements => exact RequirementCheck.allSound_findings _ snap.graph
  | tagClasses => exact snap.graph.allSound_classFindings s
  | rules => exact snap.graph.allSound_ruleFindings s snap.rules
  | templates => exact snap.graph.allSound_templateFindings s
  | enhancements => simp [findings, Graph.enhancementFindings_eq]

namespace Snapshot

variable (snap : Snapshot)

theorem allSound_mismatch (message : String) (fandom : Ident) :
    AllSound (mismatch message fandom) := by
  simp [mismatch, Ident.toJson, Json.ofInt64]

theorem allSound_findings (settings : Settings) (s : Selection) :
    AllSound (snap.findings settings s) := by
  rw [findings]
  split
  · intro f hf
    obtain ⟨p, -, hp⟩ := mem_passFindings.1 hf
    exact p.allSound_findings snap s f hp
  · exact allSound_mismatch _ _

/-- Whatever the outside source answers, the report is made of sound findings: they could be made
with the proof along. -/
theorem exists_sound_checkConflicts {m : Type → Type} [Monad m] [LawfulMonad m]
    (ask : Item → Item → m (Option String)) (fandom : Ident) (items : List Item) :
    ∃ run : m {fs : List Finding // AllSound fs},
      snap.checkConflicts ask fandom items = (fun fs => Report.ofFindings fs.1) <$> run := by
  by_cases hOwn : fandom = snap.fandomId
  · have hSound (asked : List ((Item × Item) × Option String)) :
        AllSound (asked.flatMap snap.graph.pairConflicts) :=
      allSound_flatMap.2 fun pair _ => snap.graph.allSound_pairConflicts pair
    refine ⟨(fun asked => ⟨_, hSound asked⟩) <$>
      (pairs items.eraseDups).mapM fun pair => Prod.mk pair <$> ask pair.1 pair.2, ?_⟩
    rw [checkConflicts, if_pos hOwn, Graph.conflictFindings_eq_map]
    simp
  · let message := s!"Items belong to fandom {fandom} but fandom {snap.fandomId} is loaded"
    refine ⟨pure ⟨_, allSound_mismatch message fandom⟩, ?_⟩
    rw [checkConflicts, if_neg hOwn, map_pure]

/-- What holds of every report of sound findings holds of the report of conflicts. -/
theorem checkConflicts_of_sound {holds : Report → Prop}
    (hSound : ∀ fs, AllSound fs → holds (.ofFindings fs)) {m : Type → Type} [Monad m]
    [LawfulMonad m] (ask : Item → Item → m (Option String)) (fandom : Ident) (items : List Item) :
    ∃ run : m {r : Report // holds r},
      snap.checkConflicts ask fandom items = Subtype.val <$> run := by
  obtain ⟨run, hRun⟩ := snap.exists_sound_checkConflicts ask fandom items
  exact ⟨(fun fs => ⟨_, hSound fs.1 fs.2⟩) <$> run, by rw [hRun, Functor.map_map]⟩

end Snapshot

/-! ### Consistent reports -/

theorem Pass.consistent_report (p : Pass) (snap : Snapshot) (s : Selection) :
    (p.report snap s).Consistent := by
  rw [← ofFindings_findings]
  exact Report.consistent_ofFindings (p.allSound_findings snap s)

namespace Snapshot

variable (snap : Snapshot)

theorem consistent_validate (settings : Settings) (s : Selection) :
    (snap.validate settings s).Consistent := by
  by_cases hOwn : s.fandomId = snap.fandomId
  · rw [validate_own hOwn]
    exact Report.consistent_concat (List.forall_mem_map.2 fun p _ => p.consistent_report snap s)
  · rw [validate, findings, if_neg hOwn]
    exact Report.consistent_ofFindings (allSound_mismatch _ _)

theorem consistent_validatePathway (settings : Settings) (fandom : Ident)
    (tags plotBlocks : List Ident) (pathway : List Item) :
    (snap.validatePathway settings fandom tags plotBlocks pathway).Consistent := by
  rw [validatePathway, Report.ofFindings_append]
  refine (snap.consistent_validate settings _).merge (Report.consistent_ofFindings ?_)
  simp [Graph.allSound_pathwayFindings]

theorem consistent_checkConflicts {m : Type → Type} [Monad m] [LawfulMonad m]
    (ask : Item → Item → m (Option String)) (fandom : Ident) (items : List Item) :
    ∃ run : m {r : Report // r.Consistent},
      snap.checkConflicts ask fandom items = Subtype.val <$> run :=
  snap.checkConflicts_of_sound (fun _ => Report.consistent_ofFindings) ask fandom items

/-- Every report is consistent, and so is that of each pass of a validation: it is valid exactly if
it has no problem, all problems are errors, and the warnings are about the issues of warnings. -/
theorem reports_consistent (snap : Snapshot) :
    (∀ settings s, (snap.validate settings s).Consistent) ∧
    (∀ (p : Pass) s, (p.report snap s).Consistent) ∧
    snap.checkGraph.Consistent ∧
    (∀ settings fandom tags plotBlocks pathway,
      (snap.validatePathway settings fandom tags plotBlocks pathway).Consistent) ∧
    ∀ (m : Type → Type) [Monad m] [LawfulMonad m] (ask : Item → Item → m (Option String)) fandom
      items, ∃ run : m {r : Report // r.Consistent},
        snap.checkConflicts ask fandom items = Subtype.val <$> run :=
  ⟨snap.consistent_validate, fun p s => p.consistent_report snap s,
    Report.consistent_ofFindings snap.graph.allSound_cycleFindings,
    snap.consistent_validatePathway, fun _ _ _ => snap.consistent_checkConflicts⟩

/-- A rule about suggestions that shows one text as an error and another one as a warning. -/
def outspoken : Snapshot where
  graph := { fandomId := 1 }
  rules := [Rule.compile {
    id := 1
    name := "outspoken"
    severity := .info
    actions := [.showMessage (some "stop") (some .error),
      .showMessage (some "mind") (some .warning), .showMessage (some "note") none] }]

theorem outspoken_consistent : (outspoken.validate {} { fandomId := 1 }).Consistent ∧
    (outspoken.validate {} { fandomId := 1 }).errors.map (·.issue) = [.customRuleViolation] ∧
    (outspoken.validate {} { fandomId := 1 }).warnings.map (·.issue) = [.customRuleWarning] :=
  ⟨(reports_consistent outspoken).1 {} { fandomId := 1 }, by decide +kernel, by decide +kernel⟩

end Snapshot

end StoryRules
