import StoryRules.Content
import StoryRules.Proofs.Item
import StoryRules.Proofs.Json.Field
import StoryRules.Requirement
import StoryRules.Rule
import StoryRules.Selection

/-! Content, rules, selections and checks of requirements in their written form: whatever is
written is read back as it was (`inputs_faithful`). -/

namespace StoryRules

open Json (Lawful)

/-! ### Entities -/

theorem Tag.lawful : Lawful Tag.toJson Tag.ofJson? where
  read_write t := by simp [Tag.toJson, Tag.ofJson?, Ident.lawful.orNull?_ofOption]
  read_null := rfl

theorem PlotBlock.lawful : Lawful PlotBlock.toJson PlotBlock.ofJson? where
  read_write b := by simp [PlotBlock.toJson, PlotBlock.ofJson?, Ident.lawful.orNull?_ofOption]
  read_null := rfl

theorem Condition.lawful : Lawful Condition.toJson Condition.ofJson? where
  read_write c := by
    simp [Condition.toJson, Condition.ofJson?, Ident.lawful.orNull?_ofOption,
      Json.lawful_int32.read_write]
  read_null := rfl

/-! ### Tag classes -/

theorem MutualExclusion.lawful : Lawful MutualExclusion.toJson MutualExclusion.ofJson? where
  read_write r := by simp [MutualExclusion.toJson, MutualExclusion.ofJson?]
  read_null := rfl

theorem InstanceLimits.lawful : Lawful InstanceLimits.toJson InstanceLimits.ofJson? where
  read_write r := by
    simp [InstanceLimits.toJson, InstanceLimits.ofJson?, Json.lawful_uint64.orNull?_ofOption]
  read_null := rfl

theorem RequiredContext.lawful : Lawful RequiredContext.toJson RequiredContext.ofJson? where
  read_write r := by
    simp [RequiredContext.toJson, RequiredContext.ofJson?, Json.lawful_str.list.read_write]
  read_null := rfl

theorem CategoryRestrictions.lawful :
    Lawful CategoryRestrictions.toJson CategoryRestrictions.ofJson? where
  read_write r := by
    simp [CategoryRestrictions.toJson, CategoryRestrictions.ofJson?,
      Json.lawful_str.list.read_write]
  read_null := rfl

theorem ClassDependencies.lawful : Lawful ClassDependencies.toJson ClassDependencies.ofJson? where
  read_write r := by simp [ClassDependencies.toJson, ClassDependencies.ofJson?]
  read_null := rfl

theorem ClassRules.lawful : Lawful ClassRules.toJson ClassRules.ofJson? where
  read_write r := by
    simp [ClassRules.toJson, ClassRules.ofJson?, MutualExclusion.lawful.orNull?_ofOption,
      InstanceLimits.lawful.orNull?_ofOption, RequiredContext.lawful.orNull?_ofOption,
      CategoryRestrictions.lawful.orNull?_ofOption, ClassDependencies.lawful.orNull?_ofOption]
  read_null := rfl

theorem TagClass.lawful : Lawful TagClass.toJson TagClass.ofJson? where
  read_write c := by simp [TagClass.toJson, TagClass.ofJson?, ClassRules.lawful.read_write]
  read_null := rfl

/-! ### Templates -/

theorem TemplateSeverity.lawful : Lawful TemplateSeverity.toJson TemplateSeverity.ofJson? :=
  Json.lawful_oneOf (by decide) fun s => by cases s <;> decide

theorem TemplateField.lawful : Lawful TemplateField.toJson TemplateField.ofJson? :=
  Json.lawful_oneOf (by decide) fun f => by cases f <;> decide

/-- A check is read from among the fields of its condition. -/
theorem TemplateCheck.ofFields?_cons (c : TemplateCheck) (field : Json) :
    TemplateCheck.ofFields? (("field", field) :: c.fields) = some c := by
  cases c <;>
    simp [TemplateCheck.fields, TemplateCheck.ofFields?, Json.lawful_uint64.read_write]

theorem TemplateCondition.lawful : Lawful TemplateCondition.toJson TemplateCondition.ofJson? where
  read_write c := by
    simp [TemplateCondition.toJson, TemplateCondition.ofJson?, TemplateField.lawful.read_write,
      TemplateCheck.ofFields?_cons]
  read_null := rfl

theorem Template.lawful : Lawful Template.toJson Template.ofJson? where
  read_write t := by
    simp [Template.toJson, Template.ofJson?, TemplateSeverity.lawful.read_write,
      TemplateCondition.lawful.list.read_write, Json.lawful_str.elim_orNull?]
  read_null := rfl

theorem Content.lawful : Lawful Content.toJson Content.ofJson? where
  read_write c := by
    simp [Content.toJson, Content.ofJson?, Tag.lawful.list.read_write,
      TagClass.lawful.list.read_write, PlotBlock.lawful.list.read_write,
      Condition.lawful.list.read_write, Template.lawful.list.read_write]
  read_null := rfl

/-! ### Rules -/

theorem Severity.lawful : Lawful Severity.toJson Severity.ofJson? :=
  Json.lawful_oneOf (by decide) fun s => by cases s <;> decide

theorem Joiner.lawful : Lawful Joiner.toJson Joiner.ofJson? :=
  Json.lawful_oneOf (by decide) fun j => by cases j <;> decide

theorem Presence.lawful : Lawful Presence.toJson Presence.ofJson? :=
  Json.lawful_oneOf (by decide) fun p => by cases p <;> decide

theorem Comparison.lawful : Lawful Comparison.toJson Comparison.ofJson? :=
  Json.lawful_oneOf (by decide) fun c => by cases c <;> decide

/-- A test is read from among the fields of its condition. -/
theorem Test.ofFields?_append (t : Test) (others : Json.Fields) :
    Test.ofFields? (t.fields ++ others) = some t := by
  cases t <;> simp [Test.fields, Test.name, Test.parts, Test.ofFields?, Presence.lawful.read_write,
    Comparison.lawful.read_write, Json.lawful_int64.read_write]

theorem Test.get?_joiner (t : Test) : t.fields.get? "logic_operator" = none := by
  cases t <;> simp [Test.fields, Test.parts]

theorem RuleCondition.lawful : Lawful RuleCondition.toJson RuleCondition.ofJson? where
  read_write c := by
    simp [RuleCondition.toJson, RuleCondition.ofJson?, Test.ofFields?_append, Test.get?_joiner,
      Joiner.lawful.read_write]
  read_null := rfl

theorem RuleAction.lawful : Lawful RuleAction.toJson RuleAction.ofJson? where
  read_write a := by
    cases a <;> simp [RuleAction.toJson, RuleAction.name, RuleAction.parts, RuleAction.ofJson?,
      RuleAction.targeted?, Json.lawful_str.orNull?_ofOption, Severity.lawful.orNull?_ofOption,
      Json.lawful_int32.orNull?_ofOption]
  read_null := rfl

theorem Rule.lawful : Lawful Rule.toJson Rule.ofJson? where
  read_write r := by
    simp [Rule.toJson, Rule.ofJson?, Json.lawful_str.elim_orNull?, Json.lawful_int32.read_write,
      Severity.lawful.read_write, RuleCondition.lawful.list.read_write,
      RuleAction.lawful.list.read_write]
  read_null := rfl

/-! ### Selections and requirements -/

theorem Selection.lawful : Lawful Selection.toJson Selection.ofJson? where
  read_write s := by simp [Selection.toJson, Selection.ofJson?]
  read_null := rfl

theorem Strength.lawful : Lawful Strength.toJson Strength.ofJson? :=
  Json.lawful_oneOf (by decide) fun s => by cases s <;> decide

theorem Missing.lawful : Lawful Missing.toJson Missing.ofJson? where
  read_write m := by
    simp [Missing.toJson, Missing.ofJson?, Strength.lawful.read_write, Severity.lawful.read_write]
  read_null := rfl

theorem ChainEntry.lawful : Lawful ChainEntry.toJson ChainEntry.ofJson? where
  read_write e := by
    simp [ChainEntry.toJson, ChainEntry.ofJson?, Json.lawful_uint64.read_write]
  read_null := rfl

theorem RequirementCheck.lawful : Lawful RequirementCheck.toJson RequirementCheck.ofJson? where
  read_write c := by
    simp [RequirementCheck.toJson, RequirementCheck.ofJson?, Missing.lawful.list.read_write,
      ChainEntry.lawful.list.read_write]
  read_null := rfl

/-- Everything that is stored or handed in survives being written, and so what was once read can be
written and read again any number of times. -/
theorem inputs_faithful :
    Json.Faithful Content.toJson Content.ofJson? ∧
    Json.Faithful Rule.toJson Rule.ofJson? ∧
    Json.Faithful Selection.toJson Selection.ofJson? ∧
    Json.Faithful Item.toJson Item.ofJson? ∧
    Json.Faithful RequirementCheck.toJson RequirementCheck.ofJson? :=
  ⟨Content.lawful.faithful, Rule.lawful.faithful, Selection.lawful.faithful, Item.lawful.faithful,
    RequirementCheck.lawful.faithful⟩

/-- What was left out is written out, and read as the same again. -/
example : (Selection.ofJson? (.obj [("fandom_id", .int 1)])).map Selection.toJson =
    some (.obj [("fandom_id", .int 1), ("applied_tags", .arr []), ("selected_plot_blocks", .arr []),
      ("selected_conditions", .arr []), ("metadata", .obj [])]) := by decide

end StoryRules
