import StoryRules.Proofs.Except
import StoryRules.Proofs.Report
import StoryRules.Rule.Run

/-! What the actions of a rule add to a report, and how an attempt to run a rule ends. -/

namespace StoryRules

/-- A finding as actions make it. The failure of a rule is none. -/
def Finding.IsEffect : Finding → Prop
  | problem p =>
    p.issue = .customRuleViolation ∧ p.severity = .error ∧ p.value ≠ some .null
  | warning w => w.issue = .customRuleWarning
  | suggestion m => m.issue = .customRuleSuggestion

theorem Finding.IsEffect.issue_ne {f : Finding} (h : f.IsEffect) :
    f.issue ≠ .ruleExecutionError := by
  intro hIssue
  cases f with
  | problem p => exact absurd (h.1.symm.trans hIssue) (by decide)
  | warning w => exact absurd (h.symm.trans hIssue) (by decide)
  | suggestion m => exact absurd (h.symm.trans hIssue) (by decide)

namespace CompiledRule

variable {r : CompiledRule} {g : Graph} {s : Selection} {f : Finding}

theorem isEffect_outcome (r : CompiledRule) (severity : Severity) (message : String) (kind : Kind)
    (ids : List Ident) (action : Action) :
    (r.outcome severity message kind ids action).IsEffect := by
  cases severity with
  | error => exact ⟨rfl, rfl, by simp⟩
  | warning => rfl
  | info => rfl

theorem isEffect_require (r : CompiledRule) (g : Graph) (s : Selection) (kind : Kind)
    (ids : List Ident) (message : Option String) : (r.require g s kind ids message).IsEffect := by
  rw [require]
  split
  · rfl
  · exact isEffect_outcome ..

theorem isEffect_forbid {ids : List Ident} {message : Option String}
    (hf : r.forbid g s ids message = some f) : f.IsEffect := by
  rw [forbid] at hf
  dsimp only at hf
  split at hf
  · simp at hf
  · obtain rfl := Option.some.inj hf
    exact isEffect_outcome ..

theorem isEffect_effect {action : RuleAction} (hf : r.effect g s action = .ok (some f)) :
    f.IsEffect := by
  cases action with
  | requireTag ids message | requirePlotBlock ids message =>
    simp only [effect, bind_eq_ok, pure_eq_ok, Option.some.injEq] at hf
    obtain ⟨ids, -, rfl⟩ := hf
    exact isEffect_require ..
  | forbidTag ids message =>
    simp only [effect, bind_eq_ok, pure_eq_ok] at hf
    obtain ⟨ids, -, hf⟩ := hf
    exact isEffect_forbid hf
  | suggestTag ids message =>
    simp only [effect, bind_eq_ok, pure_eq_ok, Option.some.injEq] at hf
    obtain ⟨ids, -, rfl⟩ := hf
    rfl
  | showMessage message severity =>
    rw [effect] at hf
    split at hf
    · simp at hf
    · obtain rfl := Option.some.inj (Except.ok.inj hf)
      exact isEffect_outcome ..
  | modifyPriority => simp [effect] at hf

theorem isEffect_effects {fs : List Finding} (hfs : r.effects g s = .ok fs) (hf : f ∈ fs) :
    f.IsEffect := by
  simp only [effects, bind_eq_ok, pure_eq_ok] at hfs
  obtain ⟨said, hSaid, rfl⟩ := hfs
  obtain ⟨o, ho, hfo⟩ := List.mem_flatMap.1 hf
  obtain rfl := Option.mem_toList.1 hfo
  obtain ⟨action, -, hAction⟩ := exists_of_mem_mapM hSaid ho
  exact isEffect_effect hAction

/-- A rule that does not fail either triggers and has effects, or is silent. -/
theorem attempt_eq_ok {said : Option (List Finding)} : r.attempt g s = .ok said ↔
    ((r.evaluate g s 0).1 = .ok true ∧ ∃ fs, r.effects g s = .ok fs ∧ said = some fs) ∨
    ((r.evaluate g s 0).1 = .ok false ∧ said = none) := by
  rw [attempt, bind_eq_ok]
  constructor
  · rintro ⟨triggered, hTriggered, hSaid⟩
    cases triggered with
    | true =>
      simp only [if_true, bind_eq_ok, pure_eq_ok] at hSaid
      obtain ⟨fs, hfs, rfl⟩ := hSaid
      exact .inl ⟨hTriggered, fs, hfs, rfl⟩
    | false => exact .inr ⟨hTriggered, (pure_eq_ok.1 hSaid).symm⟩
  · rintro (⟨hTriggered, fs, hfs, rfl⟩ | ⟨hSilent, rfl⟩)
    · exact ⟨true, hTriggered, bind_eq_ok.2 ⟨fs, hfs, rfl⟩⟩
    · exact ⟨false, hSilent, rfl⟩

/-- A rule fails in one of its conditions, or in one of its actions once it has triggered. -/
theorem attempt_eq_error {fault : RuleFault} : r.attempt g s = .error fault ↔
    (r.evaluate g s 0).1 = .error fault ∨
    ((r.evaluate g s 0).1 = .ok true ∧ r.effects g s = .error fault) := by
  rw [attempt, bind_eq_error]
  refine or_congr_right ⟨?_, ?_⟩
  · rintro ⟨triggered, hTriggered, hFault⟩
    cases triggered with
    | true =>
      rcases bind_eq_error.1 hFault with hFault | ⟨fs, -, hNever⟩
      · exact ⟨hTriggered, hFault⟩
      · cases hNever
    | false => cases hFault
  · rintro ⟨hTriggered, hFault⟩
    exact ⟨true, hTriggered, bind_eq_error.2 (.inl hFault)⟩

end CompiledRule

end StoryRules
