import StoryRules.Proofs.Rule.Meaning

/-! What the actions of a rule tell of a selection once the rule triggers. Each action tells one
thing, in the order of the actions, unless it is silent: one that changes a priority has nothing to
tell, and one that forbids tags has not if none of them is present. What is told has the severity of
the rule, or that of the message that is shown, and carries the ids that are missing or found. The
rule makes the selection invalid exactly if one of its actions objects to it
(`CompiledRule.attempt_effects`). -/

namespace StoryRules

/-- If some members are answered and the others are not, the answers are those of the former. -/
theorem forall₂_filter_answers {α β : Type} {R : α → β → Prop} {answer : α → Option β → Prop}
    {p : α → Prop} [DecidablePred p] {as : List α} {answers : List (Option β)}
    (h : List.Forall₂ answer as answers)
    (hAnswer : ∀ a o, answer a o → p a ∧ (∃ b, o = some b ∧ R a b) ∨ ¬p a ∧ o = none) :
    List.Forall₂ R (as.filter p) (answers.flatMap Option.toList) := by
  induction h with
  | nil => exact .nil
  | cons hFirst _ ih =>
    rcases hAnswer _ _ hFirst with ⟨hp, b, rfl, hb⟩ | ⟨hp, rfl⟩
    · rw [List.filter_cons_of_pos (by simpa using hp)]
      exact .cons hb ih
    · rw [List.filter_cons_of_neg (by simpa using hp)]
      exact ih

namespace Finding

/-- How severe a finding is; a suggestion is for information. -/
def severity : Finding → Severity
  | problem _ => .error
  | warning _ => .warning
  | suggestion _ => .info

/-- A finding carries some ids: a problem or a warning is about all of them, and a suggestion has
the first one as its target and the others as alternatives. -/
def Carries (ids : List Ident) : Finding → Prop
  | problem p => p.affected = ids
  | warning w => w.affected = ids
  | suggestion m => m.target = ids.head? ∧ m.alternatives = ids.tail

theorem severity_eq_error {f : Finding} : f.severity = .error ↔ ∃ p, f = .problem p := by
  cases f <;> simp [severity]

end Finding

namespace Graph

variable {g : Graph} {s : Selection} {kind : Kind} {ids : List Ident}

/-- Those of some ids that are not present, in their order. -/
def missingIds (g : Graph) (s : Selection) (kind : Kind) (ids : List Ident) : List Ident :=
  ids.filter (· ∉ g.presentIds s kind)

/-- Those of some ids that are present, in their order. -/
def foundIds (g : Graph) (s : Selection) (kind : Kind) (ids : List Ident) : List Ident :=
  ids.filter (· ∈ g.presentIds s kind)

theorem filter_not_isPresent :
    (ids.filter fun id => !g.isPresent s kind id) = g.missingIds s kind ids := by
  apply List.filter_congr
  intro id _
  rw [Bool.eq_iff_iff, Bool.not_eq_true', decide_eq_true_iff, mem_presentIds, Bool.not_eq_true]

theorem filter_isPresent : ids.filter (g.isPresent s kind) = g.foundIds s kind ids := by
  apply List.filter_congr
  intro id _
  rw [Bool.eq_iff_iff, decide_eq_true_iff, mem_presentIds]

theorem missingIds_ne_nil :
    g.missingIds s kind ids ≠ [] ↔ ∃ id ∈ ids, id ∉ g.presentIds s kind := by
  simp [missingIds, List.filter_eq_nil_iff]

theorem foundIds_ne_nil : g.foundIds s kind ids ≠ [] ↔ ∃ id ∈ ids, id ∈ g.presentIds s kind := by
  simp [foundIds, List.filter_eq_nil_iff]

end Graph

namespace RuleAction

variable {g : Graph} {s : Selection} {severity : Severity} {action : RuleAction} {f : Finding}

/-- The ids that an action demands, with their kind. -/
def demand? : RuleAction → Option (Kind × List Ident)
  | requireTag ids _ => some (.tag, ids)
  | requirePlotBlock ids _ => some (.plotBlock, ids)
  | _ => none

/-- The action has nothing to tell. -/
def Silent (g : Graph) (s : Selection) : RuleAction → Prop
  | forbidTag ids _ => g.foundIds s .tag ids = []
  | modifyPriority _ => True
  | _ => False

instance (g : Graph) (s : Selection) : DecidablePred (Silent g s) := by
  intro action
  cases action <;> unfold Silent <;> infer_instance

/-- What an action of a rule of some severity tells. -/
inductive Tells (g : Graph) (s : Selection) (severity : Severity) : RuleAction → Finding → Prop
  | unmet {action : RuleAction} {kind : Kind} {ids : List Ident} {f : Finding}
      (hDemand : action.demand? = some (kind, ids)) (hMissing : g.missingIds s kind ids ≠ [])
      (hSeverity : f.severity = severity) (hIds : f.Carries (g.missingIds s kind ids)) :
      Tells g s severity action f
  /-- That all is there is told as a suggestion to keep it. -/
  | met {action : RuleAction} {kind : Kind} {ids : List Ident} {m : Suggestion}
      (hDemand : action.demand? = some (kind, ids)) (hMet : g.missingIds s kind ids = [])
      (hKeep : m.action = .keep) (hTarget : m.target = none) (hIds : m.alternatives = ids) :
      Tells g s severity action (.suggestion m)
  | found {ids : List Ident} {message : Option String} {f : Finding}
      (hFound : g.foundIds s .tag ids ≠ [])
      (hSeverity : f.severity = severity) (hIds : f.Carries (g.foundIds s .tag ids)) :
      Tells g s severity (forbidTag ids message) f
  | suggested {ids : List Ident} {message : Option String} {m : Suggestion}
      (hAdd : m.action = .add) (hIds : (Finding.suggestion m).Carries ids) :
      Tells g s severity (suggestTag ids message) (.suggestion m)
  | shown {message : Option String} {own : Option Severity} {f : Finding}
      (hSeverity : f.severity = own.getD severity) (hIds : f.Carries []) :
      Tells g s severity (showMessage message own) f

/-- An action of a rule of some severity objects to a selection. -/
def Objects (g : Graph) (s : Selection) (severity : Severity) : RuleAction → Prop
  | requireTag ids _ => severity = .error ∧ ∃ id ∈ ids, id ∉ g.presentIds s .tag
  | requirePlotBlock ids _ => severity = .error ∧ ∃ id ∈ ids, id ∉ g.presentIds s .plotBlock
  | forbidTag ids _ => severity = .error ∧ ∃ id ∈ ids, id ∈ g.presentIds s .tag
  | suggestTag .. => False
  | showMessage _ own => own.getD severity = .error
  | modifyPriority _ => False

theorem not_objects_of_silent (h : action.Silent g s) : ¬action.Objects g s severity := by
  cases action with
  | forbidTag ids message =>
    rintro ⟨-, hFound⟩
    exact Graph.foundIds_ne_nil.2 hFound h
  | modifyPriority priority => exact id
  | requireTag | requirePlotBlock | suggestTag | showMessage => exact h.elim

theorem objects_of_demand {kind : Kind} {ids : List Ident}
    (hDemand : action.demand? = some (kind, ids)) :
    action.Objects g s severity ↔ severity = .error ∧ g.missingIds s kind ids ≠ [] := by
  rw [Graph.missingIds_ne_nil]
  cases action <;> cases hDemand <;> rfl

/-- An action objects exactly if it tells a problem. -/
theorem Tells.objects_iff (h : action.Tells g s severity f) :
    action.Objects g s severity ↔ ∃ p, f = .problem p := by
  rw [← Finding.severity_eq_error]
  cases h with
  | unmet hDemand hMissing hSeverity =>
    rw [objects_of_demand hDemand, hSeverity, and_iff_left hMissing]
  | met hDemand hMet =>
    rw [objects_of_demand hDemand]
    exact iff_of_false (fun h => h.2 hMet) Severity.noConfusion
  | found hFound hSeverity =>
    rw [hSeverity]
    exact and_iff_left (Graph.foundIds_ne_nil.1 hFound)
  | suggested => exact iff_of_false id Severity.noConfusion
  | shown hSeverity => rw [hSeverity, Objects]

end RuleAction

namespace CompiledRule

variable {r : CompiledRule} {g : Graph} {s : Selection} {effects : List Finding}

theorem severity_outcome (severity : Severity) (message : String) (kind : Kind)
    (ids : List Ident) (action : Action) :
    (r.outcome severity message kind ids action).severity = severity := by
  cases severity <;> rfl

theorem carries_outcome (severity : Severity) (message : String) (kind : Kind)
    (ids : List Ident) (action : Action) :
    (r.outcome severity message kind ids action).Carries ids := by
  cases severity with
  | error => rfl
  | warning => rfl
  | info => exact ⟨rfl, rfl⟩

theorem tells_require {action : RuleAction} {kind : Kind} {ids : List Ident}
    (hDemand : action.demand? = some (kind, ids)) (message : Option String) :
    action.Tells g s r.severity (r.require g s kind ids message) := by
  unfold require
  rw [Graph.filter_not_isPresent]
  dsimp only
  split
  · rename_i hMet
    exact .met hDemand (List.isEmpty_iff.1 hMet) rfl rfl rfl
  · rename_i hMissing
    exact .unmet hDemand (mt List.isEmpty_iff.2 hMissing) (severity_outcome ..) (carries_outcome ..)

theorem eq_of_targets_eq_ok {action : RuleAction} {ids ids' : List Ident}
    (h : targets action ids = .ok ids') : ids' = ids := by
  unfold targets at h
  split at h
  · cases h
  · exact (Except.ok.inj h).symm

/-- What an action does if it has what it needs: it tells something, unless it is silent. -/
theorem tells_effect {action : RuleAction} {said : Option Finding}
    (h : r.effect g s action = .ok said) :
    ¬action.Silent g s ∧ (∃ f, said = some f ∧ action.Tells g s r.severity f) ∨
      ¬¬action.Silent g s ∧ said = none := by
  cases action with
  | requireTag ids message | requirePlotBlock ids message =>
    simp only [effect, bind_eq_ok, pure_eq_ok] at h
    obtain ⟨ids', hIds, rfl⟩ := h
    obtain rfl := eq_of_targets_eq_ok hIds
    exact .inl ⟨not_false, _, rfl, tells_require rfl message⟩
  | forbidTag ids message =>
    simp only [effect, bind_eq_ok, pure_eq_ok] at h
    obtain ⟨ids', hIds, rfl⟩ := h
    obtain rfl := eq_of_targets_eq_ok hIds
    unfold forbid
    rw [Graph.filter_isPresent]
    dsimp only
    split
    · rename_i hNone
      exact .inr ⟨not_not_intro (List.isEmpty_iff.1 hNone), rfl⟩
    · rename_i hFound
      have hSome : g.foundIds s .tag ids' ≠ [] := mt List.isEmpty_iff.2 hFound
      exact .inl ⟨hSome, _, rfl, .found hSome (severity_outcome ..) (carries_outcome ..)⟩
  | suggestTag ids message =>
    simp only [effect, bind_eq_ok, pure_eq_ok] at h
    obtain ⟨ids', hIds, rfl⟩ := h
    obtain rfl := eq_of_targets_eq_ok hIds
    exact .inl ⟨not_false, _, rfl, .suggested rfl ⟨rfl, rfl⟩⟩
  | showMessage message own =>
    rw [effect] at h
    split at h
    · cases h
    · obtain rfl := Except.ok.inj h
      exact .inl ⟨not_false, _, rfl, .shown (severity_outcome ..) (carries_outcome ..)⟩
  | modifyPriority priority =>
    obtain rfl := Except.ok.inj h
    exact .inr ⟨not_not_intro trivial, rfl⟩

theorem tells_effects (h : r.effects g s = .ok effects) :
    List.Forall₂ (RuleAction.Tells g s r.severity) (r.actions.filter fun a => ¬a.Silent g s)
      effects := by
  simp only [CompiledRule.effects, bind_eq_ok, pure_eq_ok] at h
  obtain ⟨said, hSaid, rfl⟩ := h
  apply forall₂_filter_answers (mapM_eq_ok.1 hSaid)
  intro action said hEffect
  exact tells_effect hEffect

theorem exists_objects_iff (h : List.Forall₂ (RuleAction.Tells g s r.severity)
    (r.actions.filter fun a => ¬a.Silent g s) effects) :
    (∃ action ∈ r.actions, action.Objects g s r.severity) ↔ ∃ p, .problem p ∈ effects := by
  have hTold : (∃ action ∈ r.actions.filter fun a => ¬a.Silent g s,
      action.Objects g s r.severity) ↔ ∃ f ∈ effects, ∃ p, f = .problem p :=
    exists_mem_iff_of_forall₂ h fun action f hTells => hTells.objects_iff
  constructor
  · rintro ⟨action, hAction, hObjects⟩
    have hLoud : ¬action.Silent g s := fun hSilent =>
      RuleAction.not_objects_of_silent hSilent hObjects
    obtain ⟨f, hf, p, rfl⟩ :=
      hTold.1 ⟨action, List.mem_filter.2 ⟨hAction, decide_eq_true hLoud⟩, hObjects⟩
    exact ⟨p, hf⟩
  · rintro ⟨p, hp⟩
    obtain ⟨action, hAction, hObjects⟩ := hTold.2 ⟨_, hp, p, rfl⟩
    exact ⟨action, (List.mem_filter.1 hAction).1, hObjects⟩

/-- A rule that triggers and does not fail adds to a report what its actions tell, in their order,
one thing for each action that is not silent. It adds a problem exactly if one of the actions
objects to the selection. -/
theorem attempt_effects (h : r.attempt g s = .ok (some effects)) :
    List.Forall₂ (RuleAction.Tells g s r.severity) (r.actions.filter fun a => ¬a.Silent g s)
      effects ∧
    g.ruleReport [r] s = .ofFindings effects ∧
    ((g.ruleReport [r] s).errors ≠ [] ↔ ∃ action ∈ r.actions, action.Objects g s r.severity) := by
  have hEffects : r.effects g s = .ok effects := by
    rcases attempt_eq_ok.1 h with ⟨-, told, hTold, hSame⟩ | ⟨-, hNone⟩
    · obtain rfl := Option.some.inj hSame
      exact hTold
    · cases hNone
  have hReport : g.ruleReport [r] s = .ofFindings effects := by
    rw [ruleReport_singleton, findings_of_ok h]
    rfl
  have hTells := tells_effects hEffects
  refine ⟨hTells, hReport, ?_⟩
  rw [exists_objects_iff hTells, hReport, ne_eq, List.eq_nil_iff_forall_not_mem, not_forall]
  simp only [Report.mem_errors_ofFindings, not_not]

/-- Every kind of action but one, with targets that are present, missing or listed again. -/
def talkative : CompiledRule := Rule.compile {
  id := 1
  name := "talkative"
  severity := .error
  actions := [.requireTag [404, 1, 2, 404] none, .requireTag [1] none, .forbidTag [2] none,
    .forbidTag [1, 404, 1] none, .suggestTag [2, 3] none,
    .showMessage (some "seen") (some .info), .modifyPriority none] }

theorem talkative_effects : ∃ effects,
    talkative.attempt fandomOfTag withTag = .ok (some effects) ∧
    effects.map Finding.severity = [.error, .info, .error, .info, .info] ∧
    List.Forall₂ (RuleAction.Tells fandomOfTag withTag .error)
      (talkative.actions.filter fun a => ¬a.Silent fandomOfTag withTag) effects ∧
    (fandomOfTag.ruleReport [talkative] withTag).errors ≠ [] ∧
    ∃ action ∈ talkative.actions, action.Objects fandomOfTag withTag .error := by
  have hAttempt : talkative.attempt fandomOfTag withTag =
      .ok (some ((talkative.attempt fandomOfTag withTag).toOption.join.getD [])) := by
    decide +kernel
  obtain ⟨hTells, -, hErrors⟩ := attempt_effects hAttempt
  have hObjects : ∃ action ∈ talkative.actions, action.Objects fandomOfTag withTag .error :=
    ⟨.requireTag [404, 1, 2, 404] none, .head _, rfl, 404, .head _, by decide⟩
  exact ⟨_, hAttempt, by decide +kernel, hTells, hErrors.2 hObjects, hObjects⟩

end CompiledRule

end StoryRules
