import StoryRules.Proofs.Rule.Run
import StoryRules.Snapshot

/-! The order of rules. Rules are put in order when they are compiled and once more when they run,
and the order of rules that are in order already is the same (`ordered_ordered`). What is given of
each priority, in which order, is all that the order depends on (`ordered_congr`): so it makes no
difference whether rules are ordered before they run, how rules of different priorities are mixed,
or which inactive rules stand between them. -/

namespace StoryRules

namespace CompiledRule

/-- The same rules in another order, in which those of one priority keep theirs. -/
structure Reorders (rules rules' : List CompiledRule) : Prop where
  perm : rules.Perm rules'
  stable : ∀ k, rules.filter (·.priority.toInt = k) = rules'.filter (·.priority.toInt = k)

variable {rules rules' : List CompiledRule}

/-- Neighbours of different priorities may change places. -/
theorem Reorders.swap {r r' : CompiledRule} (h : r.priority ≠ r'.priority)
    (rules : List CompiledRule) : Reorders (r :: r' :: rules) (r' :: r :: rules) where
  perm := .swap r' r rules
  stable k := by
    by_cases hOwn : r.priority.toInt = k
    · have hOther : r'.priority.toInt ≠ k := fun hSame =>
        h (Int32.toInt_inj.1 (hOwn.trans hSame.symm))
      simp [hOwn, hOther]
    · simp [List.filter_cons, hOwn]

theorem ordered_congr
    (h : ∀ k, rules.filter (·.priority.toInt = k) = rules'.filter (·.priority.toInt = k)) :
    ordered rules = ordered rules' := by
  refine eq_of_filter_key_eq (stablyOrdered_ordered rules).ascending
    (stablyOrdered_ordered rules').ascending fun k => ?_
  rw [(stablyOrdered_ordered rules).stable, (stablyOrdered_ordered rules').stable, h]

theorem ordered_ordered (rules : List CompiledRule) : ordered (ordered rules) = ordered rules :=
  ordered_congr (stablyOrdered_ordered rules).stable

end CompiledRule

namespace Graph

variable {g : Graph} {rules rules' : List CompiledRule} {s : Selection}

/-- What running some rules gives: the report, and the account of each run. -/
def ruleOutcome (g : Graph) (rules : List CompiledRule) (s : Selection) :
    Report × List RuleRun :=
  (g.ruleReport rules s, g.ruleRuns rules s)

theorem ruleOutcome_congr (h : CompiledRule.ordered rules = CompiledRule.ordered rules') :
    g.ruleOutcome rules s = g.ruleOutcome rules' s := by
  simp only [ruleOutcome, ruleReport, ruleFindings, ruleRuns, h]

end Graph

namespace Rule

/-- The active ones of some rules, compiled one by one as they are given. -/
def active (rules : List Rule) : List CompiledRule := (rules.filter (·.isActive)).map compile

/-- Of each priority, the same rules are active in the same order. Inactive rules may be others, and
stand anywhere. -/
def SameActive (rules rules' : List Rule) : Prop :=
  ∀ k, (rules.filter (·.isActive)).filter (·.priority.toInt = k) =
    (rules'.filter (·.isActive)).filter (·.priority.toInt = k)

variable {rules rules' : List Rule}

theorem filter_active (rules : List Rule) (k : Int) :
    (active rules).filter (·.priority.toInt = k) =
      ((rules.filter (·.isActive)).filter (·.priority.toInt = k)).map compile :=
  List.filter_map

theorem compileActive_congr (h : SameActive rules rules') :
    compileActive rules = compileActive rules' :=
  CompiledRule.ordered_congr fun k => by
    rw [← active, ← active, filter_active, filter_active, h k]

theorem sameActive_of_inactive {front idle back : List Rule}
    (h : ∀ r ∈ idle, r.isActive = false) : SameActive (front ++ idle ++ back) (front ++ back) := by
  have hNone : idle.filter (·.isActive) = [] :=
    List.filter_eq_nil_iff.2 fun r hr => by simp [h r hr]
  have hActive : (front ++ idle ++ back).filter (·.isActive) =
      (front ++ back).filter (·.isActive) := by
    rw [List.filter_append, List.filter_append, hNone, List.append_nil, List.filter_append]
  intro k
  rw [hActive]

/-- Compiling puts the active rules into ascending priority, those of equal priority in the order
given, and loses and adds none. To run them gives the same in that order, one by one as they are
given, and in any order in which those of equal priority keep theirs. Inactive rules make no
difference, whichever they are and wherever they stand. -/
theorem compileActive_in_order (rules : List Rule) :
    StablyOrdered (·.priority.toInt) (active rules) (compileActive rules) ∧
    (∀ (g : Graph) s,
      g.ruleOutcome (compileActive rules) s = g.ruleOutcome (active rules) s ∧
      ∀ reordered, CompiledRule.Reorders (active rules) reordered →
        g.ruleOutcome reordered s = g.ruleOutcome (active rules) s) ∧
    (∀ rules', SameActive rules rules' →
      compileActive rules = compileActive rules' ∧
      ∀ content, Snapshot.ofContent content rules = Snapshot.ofContent content rules') ∧
    ∀ front idle back, rules = front ++ idle ++ back → (∀ r ∈ idle, r.isActive = false) →
      compileActive rules = compileActive (front ++ back) := by
  refine ⟨CompiledRule.stablyOrdered_ordered _, fun g s => ⟨?_, fun reordered h => ?_⟩,
    fun rules' h => ⟨compileActive_congr h, fun content => ?_⟩, ?_⟩
  · exact Graph.ruleOutcome_congr (CompiledRule.ordered_ordered _)
  · exact Graph.ruleOutcome_congr (CompiledRule.ordered_congr fun k => (h.stable k).symm)
  · rw [Snapshot.ofContent, compileActive_congr h, Snapshot.ofContent]
  · rintro front idle back rfl hIdle
    exact compileActive_congr (sameActive_of_inactive hIdle)

/-- A rule of the greatest priority value, an inactive one, and two of one negative priority. -/
def mixedRules : List Rule := [
  { id := 1, name := "last", priority := 2147483647, severity := .info },
  { id := 2, name := "idle", severity := .info, isActive := false },
  { id := 3, name := "first", priority := -5, severity := .info },
  { id := 4, name := "second", priority := -5, severity := .info }]

theorem mixedRules_in_order :
    ∃ last first second, active mixedRules = [last, first, second] ∧
      CompiledRule.Reorders (active mixedRules) [first, last, second] ∧
      ∀ (g : Graph) s, g.ruleOutcome [first, last, second] s =
        g.ruleOutcome (active mixedRules) s := by
  have hReorders : CompiledRule.Reorders (active mixedRules)
      [compile mixedRules[2], compile mixedRules[0], compile mixedRules[3]] := .swap (by decide) _
  exact ⟨_, _, _, rfl, hReorders, fun g s =>
    ((compileActive_in_order mixedRules).2.1 g s).2 _ hReorders⟩

/-- The inactive rule is dropped, and the two of one priority keep their order. -/
example : (compileActive mixedRules).map (·.id) = [3, 4, 1] := by cbv

end Rule

end StoryRules
