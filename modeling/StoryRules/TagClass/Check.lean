import StoryRules.Report
import StoryRules.Selection

/-! The check of a selection against the rules of the tag classes. Each class of the graph with
applied members is checked, in ascending order of ids, against its five rules, independently of
one another: mutual exclusion, limits on the number of members, required context, restrictions of
categories, and dependencies. -/

namespace StoryRules

def Finding.tagProblem (issue : Issue) (message : String) (value : Option Json)
    (affected : List Ident) : Finding :=
  .problem { issue, message, field := some (Kind.field .tag), value, affected }

namespace Graph

/-- The applied members of a tag class, in the order of first choice. -/
def members (g : Graph) (s : Selection) (classId : Ident) : List Tag :=
  ((g.present s .tag).filterMap g.tags.get?).filter (·.classId == some classId)

/-- The name of a tag class; one that is not in the graph goes by its id. -/
def className (g : Graph) (id : Ident) : String :=
  match g.tagClasses.get? id with
  | some c => c.name
  | none => s!"tag class {id}"

/-- Whether a plot block is known and is chosen or listed in the metadata. -/
def mentionsKnown (g : Graph) (s : Selection) (block : Ident) : Bool :=
  s.mentions block && g.contains .plotBlock block

end Graph

/-- A class with its applied members, in a selection. -/
structure AppliedClass where
  graph : Graph
  selection : Selection
  tagClass : TagClass
  members : List Tag

namespace AppliedClass

variable (c : AppliedClass)

def name : String := c.tagClass.name

def ids : List Ident := c.members.map (·.id)

/-- More than one member of a class that admits one: the first is to be kept. -/
def withinClass (rule : MutualExclusion) : List Finding :=
  match c.members with
  | first :: second :: rest =>
    if rule.withinClass then
      let names := c.members.map (·.name)
      let list := ", ".intercalate names
      [.tagProblem .mutualExclusionViolation
        s!"Only one tag from \"{c.name}\" can be applied: {list}"
        (some (Json.ofList .str names)) c.ids,
       .suggestion {
        issue := .mutualExclusionViolation
        message := s!"Keep \"{first.name}\" and remove the other \"{c.name}\" tags"
        action := .remove
        alternatives := (second :: rest).map (·.id) }]
    else []
  | _ => []

def conflictingTags (rule : MutualExclusion) : List Finding :=
  (rule.conflictingTags.filter fun id => id ∉ c.ids && c.selection.has .tag id).map fun id =>
    let other := c.graph.nameOf .tag id
    .tagProblem .tagConflict s!"\"{other}\" conflicts with tags from \"{c.name}\"" none
      (id :: c.ids)

def conflictingClasses (rule : MutualExclusion) : List Finding :=
  rule.conflictingClasses.filterMap fun id =>
    let others := c.graph.members c.selection id
    if id = c.tagClass.id || others.isEmpty then none
    else
      let other := c.graph.className id
      some <| .tagProblem .classConflict
        s!"Tags from \"{c.name}\" cannot be combined with tags from \"{other}\""
        (some (.obj [("class_id", c.tagClass.id.toJson), ("conflicting_class_id", id.toJson)]))
        (c.ids ++ others.map (·.id))

def exclusionFindings (rule : MutualExclusion) : List Finding :=
  c.withinClass rule ++ c.conflictingTags rule ++ c.conflictingClasses rule

def limitProblem (issue : Issue) (message key : String) (limit : UInt64) : Finding :=
  .tagProblem issue message
    (some (.obj [("current_count", Json.ofNat c.members.length), (key, Json.ofUInt64 limit)]))
    c.ids

def limitFindings (rule : InstanceLimits) : List Finding :=
  let count := c.members.length
  let above := rule.max.filter fun max => max.toNat < count
  let below := rule.min.filter fun min => count < min.toNat
  let other := rule.exact.filter fun exact => count ≠ exact.toNat
  above.toList.map (fun max => c.limitProblem .instanceLimitExceeded
      s!"At most {max} tag(s) from \"{c.name}\" can be applied, found {count}"
      "max_instances" max)
    ++ below.toList.map (fun min => c.limitProblem .instanceLimitNotMet
      s!"At least {min} tag(s) from \"{c.name}\" are required, found {count}"
      "min_instances" min)
    ++ other.toList.map (fun exact => c.limitProblem .instanceLimitMismatch
      s!"Exactly {exact} tag(s) from \"{c.name}\" are required, found {count}"
      "exact_instances" exact)

/-- The ids of tags that are listed and not present. -/
def absent (ids : List Ident) : List Ident :=
  ids.filter fun id => !c.graph.isPresent c.selection .tag id

def contextFindings (rule : RequiredContext) : List Finding :=
  (c.absent rule.tags).map (fun id =>
      let tag := c.graph.nameOf .tag id
      .tagProblem .missingRequiredTag s!"\"{c.name}\" requires the tag \"{tag}\"" none [id])
    ++ (rule.metadata.filter fun key => !c.selection.hasMetadata key).map (fun key =>
      .problem {
        issue := .missingRequiredMetadata
        message := s!"\"{c.name}\" requires metadata \"{key}\""
        field := some "metadata"
        value := some (.str key) })
    ++ (rule.classes.filter fun id => (c.graph.members c.selection id).isEmpty).map fun id =>
      let other := c.graph.className id
      .tagProblem .missingRequiredClass
        s!"\"{c.name}\" requires at least one tag from \"{other}\""
        (some (.obj [("required_class_id", id.toJson)])) []

def categoryFindings (rule : CategoryRestrictions) : List Finding :=
  c.members.flatMap fun tag =>
    (if rule.excluded.contains tag.category then
      [.tagProblem .excludedCategory
        s!"\"{tag.name}\" uses category \"{tag.category}\", which \"{c.name}\" excludes"
        (some (.str tag.category)) [tag.id]]
    else [])
    ++ if !rule.applicable.isEmpty && !rule.applicable.contains tag.category then
      let list := ", ".intercalate rule.applicable
      [.tagProblem .invalidCategory
        s!"\"{tag.name}\" uses category \"{tag.category}\", expected one of: {list}"
        (some (.str tag.category)) [tag.id]]
    else []

/-- The plot blocks of which the members need one. -/
def plotBlockFindings (rule : CategoryRestrictions) : List Finding :=
  if !rule.plotBlocks.isEmpty && !rule.plotBlocks.any (c.graph.mentionsKnown c.selection) then
    let list := ", ".intercalate (rule.plotBlocks.map (c.graph.nameOf .plotBlock))
    [.problem {
      issue := .missingRequiredPlotBlock
      message := s!"\"{c.name}\" requires one of these plot blocks: {list}"
      field := some (Kind.field .plotBlock)
      value := some (Ident.listToJson rule.plotBlocks)
      affected := rule.plotBlocks }]
  else []

def dependencyFindings (rule : ClassDependencies) : List Finding :=
  (c.absent rule.requires).map (fun id =>
      let tag := c.graph.nameOf .tag id
      .tagProblem .missingRequiredDependency s!"Tags from \"{c.name}\" depend on \"{tag}\"" none
        [id])
    ++ (rule.enhances.filter (c.selection.has .tag)).map (fun id =>
      let tag := c.graph.nameOf .tag id
      .suggestion {
        issue := .tagEnhancement
        message := s!"\"{tag}\" works well with \"{c.name}\""
        action := .keep
        target := some id })
    ++ (rule.enables.filter fun id =>
        !c.selection.has .tag id && c.graph.contains .tag id).map fun id =>
      let tag := c.graph.nameOf .tag id
      .suggestion {
        issue := .featureUnlock
        message := s!"\"{c.name}\" unlocks \"{tag}\""
        action := .add
        target := some id }

/-- What the five rules of a class say; a rule that is not set says nothing. -/
def findings : List Finding :=
  let rules := c.tagClass.rules
  rules.exclusion.elim [] c.exclusionFindings
    ++ rules.limits.elim [] c.limitFindings
    ++ rules.context.elim [] c.contextFindings
    ++ rules.categories.elim [] (fun rule => c.categoryFindings rule ++ c.plotBlockFindings rule)
    ++ rules.dependencies.elim [] c.dependencyFindings

end AppliedClass

def Graph.classFindings (g : Graph) (s : Selection) : List Finding :=
  g.tagClasses.values.flatMap fun tagClass =>
    let members := g.members s tagClass.id
    if members.isEmpty then []
    else AppliedClass.findings { graph := g, selection := s, tagClass, members }

end StoryRules
