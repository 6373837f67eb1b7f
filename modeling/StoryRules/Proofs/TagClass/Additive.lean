import StoryRules.Proofs.TagClass.Verdict

/-! The rules of the tag classes add up. Each rule of each class with applied tags has a share in
the report of the classes, the share is what the rule would report if no class had any other one,
and the report is nothing but the shares one after another (`classReport_additive`). So a rule that
is taken away takes its own share along and leaves all others where they are. -/

namespace StoryRules

/-- The five rules of a tag class, in the order in which they are checked. -/
inductive ClassRule where
  | exclusion
  | limits
  | context
  | categories
  | dependencies
  deriving DecidableEq

def ClassRule.all : List ClassRule := [exclusion, limits, context, categories, dependencies]

/-- Rules of a class without those that are dropped. -/
def ClassRules.without (rules : ClassRules) (drop : ClassRule → Bool) : ClassRules where
  exclusion := if drop .exclusion then none else rules.exclusion
  limits := if drop .limits then none else rules.limits
  context := if drop .context then none else rules.context
  categories := if drop .categories then none else rules.categories
  dependencies := if drop .dependencies then none else rules.dependencies

namespace AppliedClass

variable {c : AppliedClass}

/-- What one of the rules of a class says; a rule that is not set says nothing. -/
def said (c : AppliedClass) : ClassRule → List Finding
  | .exclusion => c.tagClass.rules.exclusion.elim [] c.exclusionFindings
  | .limits => c.tagClass.rules.limits.elim [] c.limitFindings
  | .context => c.tagClass.rules.context.elim [] c.contextFindings
  | .categories => c.tagClass.rules.categories.elim [] fun rule =>
      c.categoryFindings rule ++ c.plotBlockFindings rule
  | .dependencies => c.tagClass.rules.dependencies.elim [] c.dependencyFindings

theorem findings_eq (c : AppliedClass) : c.findings = ClassRule.all.flatMap c.said := by
  simp only [findings, ClassRule.all, said, List.flatMap_cons, List.flatMap_nil, List.append_nil,
    List.append_assoc]

/-- The class with other rules. -/
def withRules (c : AppliedClass) (rules : ClassRules) : AppliedClass :=
  { c with tagClass := { c.tagClass with rules } }

/-- No rule looks at what the other ones are. -/
theorem said_without (drop : ClassRule → Bool) (rule : ClassRule) :
    (c.withRules (c.tagClass.rules.without drop)).said rule =
      if drop rule then [] else c.said rule := by
  cases rule with
  | exclusion | limits | context | categories | dependencies =>
    simp only [said, withRules, ClassRules.without]
    split <;> rfl

end AppliedClass

/-- A table with each value exchanged for another one of the same id. -/
def Table.exchange {α : Type} [Keyed α] (t : Table α) (f : α → α)
    (hKey : ∀ a, key (f a) = key a) : Table α :=
  ⟨t.values.map f, List.pairwise_map.2 (by simpa only [hKey] using t.ascending)⟩

theorem Table.get?_exchange {α : Type} [Keyed α] {t : Table α} {f : α → α}
    {hKey : ∀ a, key (f a) = key a} {id : Ident} :
    (t.exchange f hKey).get? id = (t.get? id).map f := by
  simp only [get?, exchange, List.find?_map, Function.comp_def, hKey]

namespace Graph

variable {g : Graph} {s : Selection}

/-- The graph with other rules for its tag classes. -/
def withRules (g : Graph) (rules : TagClass → ClassRules) : Graph :=
  { g with tagClasses := g.tagClasses.exchange (fun c => { c with rules := rules c }) fun _ => rfl }

/-- The graph without those rules of its tag classes that are dropped. -/
def withoutRules (g : Graph) (drop : Ident → ClassRule → Bool) : Graph :=
  g.withRules fun c => c.rules.without (drop c.id)

/-- The graph in which one rule of one class is set at most. -/
def withRuleOnly (g : Graph) (classId : Ident) (rule : ClassRule) : Graph :=
  g.withoutRules fun id other => (id, other) ≠ (classId, rule)

/-- The tag classes with applied tags, in ascending order of ids. -/
def appliedClasses (g : Graph) (s : Selection) : List TagClass :=
  g.tagClasses.values.filter fun c => g.appliedTags s c.id ≠ []

theorem mem_appliedClasses {c : TagClass} : c ∈ g.appliedClasses s ↔
    c ∈ g.tagClasses.values ∧ ∃ tag ∈ g.tags.values, tag.id ∈ s.tags ∧ tag.classId = some c.id := by
  rw [appliedClasses, List.mem_filter, decide_eq_true_iff, ne_eq, ← List.isEmpty_iff]
  simp [appliedTags]

theorem className_withRules (rules : TagClass → ClassRules) :
    (g.withRules rules).className = g.className := by
  funext id
  simp only [className, withRules, Table.get?_exchange]
  cases g.tagClasses.get? id <;> rfl

/-- Of the other classes a rule sees their names and their members, and no rules. -/
theorem said_withRules (rules : TagClass → ClassRules) (c : TagClass) (rule : ClassRule) :
    ((g.withRules rules).applied s c).said rule = (g.applied s c).said rule := by
  cases rule with
  | exclusion =>
    refine congrArg (c.rules.exclusion.elim []) (funext fun rule => ?_)
    simp only [AppliedClass.exclusionFindings, AppliedClass.conflictingClasses, applied,
      className_withRules]
    rfl
  | context =>
    refine congrArg (c.rules.context.elim []) (funext fun rule => ?_)
    simp only [AppliedClass.contextFindings, applied, className_withRules]
    rfl
  | limits | categories | dependencies => rfl

theorem classFindings_eq (g : Graph) (s : Selection) :
    g.classFindings s = (g.appliedClasses s).flatMap fun c => (g.applied s c).findings := by
  rw [classFindings, appliedClasses, flatMap_filter]
  refine List.flatMap_congr fun c _ => ?_
  by_cases hNone : g.members s c.id = []
  · simp [hNone, members_eq_nil_iff.1 hNone]
  · simp [hNone, mt members_eq_nil_iff.2 hNone, applied]

theorem classFindings_withRules (rules : TagClass → ClassRules) :
    (g.withRules rules).classFindings s = (g.appliedClasses s).flatMap fun c =>
      ((g.applied s c).withRules (rules c)).findings := by
  rw [classFindings_eq]
  have hClasses : (g.withRules rules).appliedClasses s =
      (g.appliedClasses s).map fun c => { c with rules := rules c } := List.filter_map
  rw [hClasses, List.flatMap_map]
  refine List.flatMap_congr fun c _ => ?_
  rw [AppliedClass.findings_eq, AppliedClass.findings_eq]
  exact List.flatMap_congr fun rule _ => said_withRules rules _ rule

end Graph

/-- What a rule of a class has to say. -/
structure ClassShare where
  classId : Ident
  rule : ClassRule
  findings : List Finding
  deriving DecidableEq

namespace ClassShare

def owner (share : ClassShare) : Ident × ClassRule := (share.classId, share.rule)

def report (share : ClassShare) : Report := .ofFindings share.findings

end ClassShare

namespace Graph

variable {g : Graph} {s : Selection}

/-- What the five rules of each class with applied tags have to say. -/
def classShares (g : Graph) (s : Selection) : List ClassShare :=
  (g.appliedClasses s).flatMap fun c =>
    ClassRule.all.map fun rule => ⟨c.id, rule, (g.applied s c).said rule⟩

theorem owners_classShares (g : Graph) (s : Selection) : (g.classShares s).map ClassShare.owner =
    ((g.appliedClasses s).map TagClass.id).product ClassRule.all := by
  rw [classShares, List.map_flatMap, List.product, List.flatMap_map]
  rfl

theorem pairwise_appliedClasses (g : Graph) (s : Selection) :
    (g.appliedClasses s).Pairwise fun c c' => c.id < c'.id :=
  g.tagClasses.ascending.filter _

theorem nodup_owners (g : Graph) (s : Selection) :
    ((g.classShares s).map ClassShare.owner).Nodup := by
  have hIds : ((g.appliedClasses s).map TagClass.id).Nodup :=
    g.tagClasses.nodup_ids.sublist (List.filter_sublist.map _)
  rw [owners_classShares]
  exact hIds.product (by decide)

theorem classFindings_eq_shares (g : Graph) (s : Selection) :
    g.classFindings s = (g.classShares s).flatMap ClassShare.findings := by
  rw [classFindings_eq, classShares, List.flatMap_assoc]
  refine List.flatMap_congr fun c _ => ?_
  rw [AppliedClass.findings_eq, List.flatMap_map]

theorem classFindings_withoutRules (drop : Ident → ClassRule → Bool) :
    (g.withoutRules drop).classFindings s =
      ((g.classShares s).filter fun share => !drop share.classId share.rule).flatMap
        ClassShare.findings := by
  rw [withoutRules, classFindings_withRules, classShares, List.filter_flatMap, List.flatMap_assoc]
  refine List.flatMap_congr fun c _ => ?_
  rw [AppliedClass.findings_eq, flatMap_filter, List.flatMap_map]
  refine List.flatMap_congr fun rule _ => ?_
  rw [show c.rules = (g.applied s c).tagClass.rules from rfl, AppliedClass.said_without]
  cases drop c.id rule <;> rfl

theorem classReport_withoutRules (drop : Ident → ClassRule → Bool) :
    (g.withoutRules drop).classReport s =
      .concat (((g.classShares s).filter fun share => !drop share.classId share.rule).map
        ClassShare.report) := by
  rw [classReport, classFindings_withoutRules, Report.ofFindings_flatMap]
  rfl

/-- The report of the classes is what the five rules of each class with applied tags report, class
by class in ascending order of ids. What a rule reports is what it would report if there were no
others; without some of the rules the report is that of the others, in their order. The rules of a
class without applied tags make no difference, whatever they are. -/
theorem classReport_additive (g : Graph) (s : Selection) :
    (g.classReport s = .concat ((g.classShares s).map ClassShare.report) ∧
      (g.classShares s).map ClassShare.owner =
        ((g.appliedClasses s).map TagClass.id).product ClassRule.all ∧
      ((g.appliedClasses s).Pairwise fun c c' => c.id < c'.id) ∧
      ∀ c, c ∈ g.appliedClasses s ↔ c ∈ g.tagClasses.values ∧
        ∃ tag ∈ g.tags.values, tag.id ∈ s.tags ∧ tag.classId = some c.id) ∧
    (∀ share ∈ g.classShares s,
      share.report = (g.withRuleOnly share.classId share.rule).classReport s) ∧
    (∀ drop, (g.withoutRules drop).classReport s =
      .concat (((g.classShares s).filter fun share => !drop share.classId share.rule).map
        ClassShare.report)) ∧
    ∀ rules, (∀ c ∈ g.appliedClasses s, rules c = c.rules) →
      (g.withRules rules).classReport s = g.classReport s := by
  refine ⟨⟨?_, owners_classShares g s, pairwise_appliedClasses g s, fun c => mem_appliedClasses⟩,
    fun share hShare => ?_, classReport_withoutRules, fun rules hSame => ?_⟩
  · rw [classReport, classFindings_eq_shares, Report.ofFindings_flatMap]
    rfl
  · have hAlone : ((g.classShares s).filter fun other =>
        !decide (other.owner ≠ share.owner)) = [share] := by
      simpa using filter_key_eq (nodup_owners g s) hShare
    rw [withRuleOnly, classReport_withoutRules, ← Report.concat_singleton share.report]
    exact (congrArg (fun shares => Report.concat (shares.map ClassShare.report)) hAlone).symm
  · rw [classReport, classFindings_withRules, classReport, classFindings_eq]
    refine congrArg Report.ofFindings (List.flatMap_congr fun c hc => ?_)
    rw [hSame c hc]
    rfl

/-- A class that admits one tag, by two of its rules. -/
def soleMoods : TagClass where
  id := 5
  name := "moods"
  rules := { exclusion := some { withinClass := true }, limits := some { max := some 1 } }

/-- The class with two tags, and one without any that requires a tag. -/
def crowdedMoods : Graph where
  fandomId := 1
  tags := (Table.empty.insert
    { id := 1, name := "first", category := "mood", fandomId := 1, classId := some 5 }).insert
    { id := 2, name := "second", category := "mood", fandomId := 1, classId := some 5 }
  tagClasses := (Table.empty.insert soleMoods).insert
    { id := 3, name := "pairings", rules.context := some { tags := [404] } }

def twoMoods : Selection := { fandomId := 1, tags := [2, 1] }

/-- The rules as they are, but none for the class without tags. -/
def laxPairings (c : TagClass) : ClassRules := if c.id = 3 then {} else c.rules

def limitShare : ClassShare := ⟨5, .limits, (crowdedMoods.applied twoMoods soleMoods).said .limits⟩

theorem crowdedMoods_additive :
    (limitShare ∈ crowdedMoods.classShares twoMoods ∧
      limitShare.report = (crowdedMoods.withRuleOnly 5 .limits).classReport twoMoods ∧
      limitShare.report.errors.map (·.issue) = [.instanceLimitExceeded]) ∧
    (∀ c ∈ crowdedMoods.appliedClasses twoMoods, laxPairings c = c.rules) ∧
      (crowdedMoods.withRules laxPairings).classReport twoMoods =
        crowdedMoods.classReport twoMoods := by
  have hShare : limitShare ∈ crowdedMoods.classShares twoMoods := by decide
  have hSame : ∀ c ∈ crowdedMoods.appliedClasses twoMoods, laxPairings c = c.rules := by decide
  exact ⟨⟨hShare, (classReport_additive crowdedMoods twoMoods).2.1 limitShare hShare, by decide⟩,
    hSame, (classReport_additive crowdedMoods twoMoods).2.2.2 laxPairings hSame⟩

/-- Without the limit the class still admits one tag only. -/
example : ((crowdedMoods.withoutRules fun id rule => id = 5 && rule = .limits).classReport
      twoMoods).errors.map (·.issue) = [.mutualExclusionViolation] ∧
    (crowdedMoods.classReport twoMoods).errors.map (·.issue) =
      [.mutualExclusionViolation, .instanceLimitExceeded] := by decide

end Graph

end StoryRules
