import StoryRules.Table

/-! Tag classes: named groups of tags, each with up to five rules that the applied tags of the class
have to keep together. -/

namespace StoryRules

structure MutualExclusion where
  /-- At most one tag of the class may be applied. -/
  withinClass : Bool := false
  conflictingTags : List Ident := []
  conflictingClasses : List Ident := []
  deriving DecidableEq, Repr

/-- Bounds on the number of applied tags of the class. -/
structure InstanceLimits where
  min : Option UInt64 := none
  max : Option UInt64 := none
  exact : Option UInt64 := none
  deriving DecidableEq, Repr

structure RequiredContext where
  tags : List Ident := []
  /-- Keys of the selection's metadata that must hold a value. -/
  metadata : List String := []
  classes : List Ident := []
  deriving DecidableEq, Repr

structure CategoryRestrictions where
  /-- Unless empty, each applied tag of the class has one of these categories. -/
  applicable : List String := []
  excluded : List String := []
  /-- Unless empty, at least one of these plot blocks is part of the selection. -/
  plotBlocks : List Ident := []
  deriving DecidableEq, Repr

structure ClassDependencies where
  requires : List Ident := []
  enhances : List Ident := []
  enables : List Ident := []
  deriving DecidableEq, Repr

structure ClassRules where
  exclusion : Option MutualExclusion := none
  limits : Option InstanceLimits := none
  context : Option RequiredContext := none
  categories : Option CategoryRestrictions := none
  dependencies : Option ClassDependencies := none
  deriving DecidableEq, Repr

structure TagClass where
  id : Ident
  name : String
  rules : ClassRules := {}
  deriving DecidableEq, Repr

instance : Keyed TagClass := ⟨TagClass.id⟩

namespace MutualExclusion

def toJson (r : MutualExclusion) : Json :=
  .obj [("within_class", .bool r.withinClass),
    ("conflicting_tags", Ident.listToJson r.conflictingTags),
    ("conflicting_classes", Ident.listToJson r.conflictingClasses)]

def ofJson? (j : Json) : Option MutualExclusion := do
  let fields ← j.fields?
  return {
    withinClass := ← fields.optional "within_class" Json.bool? false
    conflictingTags := ← fields.optional "conflicting_tags" Ident.listOfJson? []
    conflictingClasses := ← fields.optional "conflicting_classes" Ident.listOfJson? [] }

end MutualExclusion

namespace InstanceLimits

def toJson (r : InstanceLimits) : Json :=
  .obj [("min_instances", Json.ofOption Json.ofUInt64 r.min),
    ("max_instances", Json.ofOption Json.ofUInt64 r.max),
    ("exact_instances", Json.ofOption Json.ofUInt64 r.exact)]

def ofJson? (j : Json) : Option InstanceLimits := do
  let fields ← j.fields?
  return {
    min := ← fields.nullable "min_instances" Json.uint64?
    max := ← fields.nullable "max_instances" Json.uint64?
    exact := ← fields.nullable "exact_instances" Json.uint64? }

end InstanceLimits

namespace RequiredContext

def toJson (r : RequiredContext) : Json :=
  .obj [("required_tags", Ident.listToJson r.tags),
    ("required_metadata", Json.ofList .str r.metadata),
    ("required_classes", Ident.listToJson r.classes)]

def ofJson? (j : Json) : Option RequiredContext := do
  let fields ← j.fields?
  return {
    tags := ← fields.optional "required_tags" Ident.listOfJson? []
    metadata := ← fields.optional "required_metadata" (Json.list? Json.str?) []
    classes := ← fields.optional "required_classes" Ident.listOfJson? [] }

end RequiredContext

namespace CategoryRestrictions

def toJson (r : CategoryRestrictions) : Json :=
  .obj [("applicable_categories", Json.ofList .str r.applicable),
    ("excluded_categories", Json.ofList .str r.excluded),
    ("required_plot_blocks", Ident.listToJson r.plotBlocks)]

def ofJson? (j : Json) : Option CategoryRestrictions := do
  let fields ← j.fields?
  return {
    applicable := ← fields.optional "applicable_categories" (Json.list? Json.str?) []
    excluded := ← fields.optional "excluded_categories" (Json.list? Json.str?) []
    plotBlocks := ← fields.optional "required_plot_blocks" Ident.listOfJson? [] }

end CategoryRestrictions

namespace ClassDependencies

def toJson (r : ClassDependencies) : Json :=
  .obj [("requires", Ident.listToJson r.requires), ("enhances", Ident.listToJson r.enhances),
    ("enables", Ident.listToJson r.enables)]

def ofJson? (j : Json) : Option ClassDependencies := do
  let fields ← j.fields?
  return {
    requires := ← fields.optional "requires" Ident.listOfJson? []
    enhances := ← fields.optional "enhances" Ident.listOfJson? []
    enables := ← fields.optional "enables" Ident.listOfJson? [] }

end ClassDependencies

namespace ClassRules

def isEmpty (r : ClassRules) : Bool :=
  r.exclusion.isNone && r.limits.isNone && r.context.isNone && r.categories.isNone
    && r.dependencies.isNone

def toJson (r : ClassRules) : Json :=
  .obj [("mutual_exclusion", Json.ofOption MutualExclusion.toJson r.exclusion),
    ("instance_limits", Json.ofOption InstanceLimits.toJson r.limits),
    ("required_context", Json.ofOption RequiredContext.toJson r.context),
    ("category_restrictions", Json.ofOption CategoryRestrictions.toJson r.categories),
    ("dependencies", Json.ofOption ClassDependencies.toJson r.dependencies)]

def ofJson? (j : Json) : Option ClassRules := do
  let fields ← j.fields?
  return {
    exclusion := ← fields.nullable "mutual_exclusion" MutualExclusion.ofJson?
    limits := ← fields.nullable "instance_limits" InstanceLimits.ofJson?
    context := ← fields.nullable "required_context" RequiredContext.ofJson?
    categories := ← fields.nullable "category_restrictions" CategoryRestrictions.ofJson?
    dependencies := ← fields.nullable "dependencies" ClassDependencies.ofJson? }

end ClassRules

namespace TagClass

def toJson (c : TagClass) : Json :=
  .obj [("id", c.id.toJson), ("name", .str c.name), ("validation_rules", c.rules.toJson)]

def ofJson? (j : Json) : Option TagClass := do
  let fields ← j.fields?
  return {
    id := ← fields.required "id" Ident.ofJson?
    name := ← fields.required "name" Json.str?
    rules := ← fields.optional "validation_rules" ClassRules.ofJson? {} }

end TagClass

end StoryRules
