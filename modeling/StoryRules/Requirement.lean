import StoryRules.Report
import StoryRules.Selection
import StoryRules.Distinct
import StoryRules.Requirement.Level

/-! The requirements of a selection. Each present entity needs its requirements to be present too,
among the entities of its kind and other than itself; what is missing is an error for a hard
requirement and a warning for a soft one. -/

namespace StoryRules

inductive Strength where
  | hard
  | soft
  deriving DecidableEq, Repr

structure Missing where
  source : Ident
  kind : Kind
  required : Ident
  strength : Strength
  severity : Severity
  message : String
  deriving DecidableEq, Repr

/-- A present entity with its place in the hierarchy of requirements. -/
structure ChainEntry where
  id : Ident
  kind : Kind
  name : String
  level : UInt64
  requires : List Ident
  deriving DecidableEq, Repr

structure RequirementCheck where
  isValid : Bool
  missing : List Missing
  chain : List ChainEntry
  deriving DecidableEq, Repr

namespace Graph

/-- The report of a requirement that is not met. An entity that requires itself can never have what
it requires, however strongly it does. -/
def missing (g : Graph) (kind : Kind) (source required : Ident) (strength : Strength) : Missing :=
  let name := g.nameOf kind source
  let other := g.nameOf kind required
  if source = required then
    { source, kind, required, strength := .hard, severity := .error,
      message := s!"\"{name}\" lists itself as a requirement" }
  else match strength with
    | .hard =>
      { source, kind, required, strength, severity := .error,
        message := s!"\"{name}\" requires \"{other}\"" }
    | .soft =>
      { source, kind, required, strength, severity := .warning,
        message := s!"\"{name}\" works best with \"{other}\"" }

/-- Whether a selection has what an entity requires: a present entity other than itself. -/
def isMet (g : Graph) (s : Selection) (kind : Kind) (source required : Ident) : Bool :=
  required != source && g.isPresent s kind required

/-- What an entity lacks in a selection, first of its hard and then of its soft requirements, once
for each time it is listed. -/
def missingFor (g : Graph) (s : Selection) (kind : Kind) (id : Ident) : List Missing :=
  let unmet := List.filter fun required => !g.isMet s kind id required
  (unmet (g.requires kind id)).map (g.missing kind id · .hard)
    ++ (unmet (g.listed kind id Entity.softRequires)).map (g.missing kind id · .soft)

def chainEntry (g : Graph) (kind : Kind) (id : Ident) : ChainEntry where
  id := id
  kind := kind
  name := g.nameOf kind id
  level := (g.level kind id).toUInt64
  requires := g.requires kind id

/-- The present entities of all kinds, in the order in which they are reported. -/
def presentItems (g : Graph) (s : Selection) : List Item :=
  Kind.reported.flatMap fun kind => (g.present s kind).map (Item.mk kind)

def checkRequirements (g : Graph) (s : Selection) : RequirementCheck :=
  let missing := (g.presentItems s).flatMap fun item => g.missingFor s item.kind item.id
  { isValid := missing.all (·.severity != .error)
    missing
    chain := (g.presentItems s).map fun item => g.chainEntry item.kind item.id }

end Graph

namespace RequirementCheck

/-- The requirements whose entities can be added: known ones that an entity other than themselves
needs, each once. -/
def addable (c : RequirementCheck) (g : Graph) : List Missing :=
  distinctOn (fun m => Item.mk m.kind m.required) <| c.missing.filter fun m =>
    m.strength == .hard && m.required != m.source && g.contains m.kind m.required

/-- One suggestion to add for each requirement that can be met by adding its entity. -/
def suggestions (c : RequirementCheck) (g : Graph) : List Suggestion :=
  (c.addable g).map fun m =>
    let name := g.nameOf m.kind m.required
    { issue := .missingRequirementFix
      message := s!"Add \"{name}\" to satisfy a requirement"
      action := .add
      target := some m.required }

end RequirementCheck

def Missing.finding (m : Missing) (g : Graph) : Finding :=
  match m.strength with
  | .hard => .problem {
      issue := .hardRequirementViolation
      message := m.message
      field := some m.kind.field
      value := some (.obj [("source_id", m.source.toJson), ("required_id", m.required.toJson)])
      affected := [m.source, m.required] }
  | .soft =>
    let name := g.nameOf m.kind m.required
    .warning {
      issue := .softRequirementViolation
      message := m.message
      field := some m.kind.field
      suggestion := some s!"Consider adding \"{name}\""
      affected := [m.source, m.required] }

def RequirementCheck.findings (c : RequirementCheck) (g : Graph) : List Finding :=
  c.missing.map (·.finding g) ++ (c.suggestions g).map .suggestion

namespace Strength

def name : Strength → String
  | hard => "hard"
  | soft => "soft"

def toJson (s : Strength) : Json := .str s.name

def ofJson? (j : Json) : Option Strength := j.oneOf? name [hard, soft]

end Strength

namespace Missing

def toJson (m : Missing) : Json :=
  .obj [("source_id", m.source.toJson), ("source_kind", m.kind.toJson),
    ("required_id", m.required.toJson), ("requirement_type", m.strength.toJson),
    ("severity", m.severity.toJson), ("message", .str m.message)]

def ofJson? (j : Json) : Option Missing := do
  let fields ← j.fields?
  return {
    source := ← fields.required "source_id" Ident.ofJson?
    kind := ← fields.required "source_kind" Kind.ofJson?
    required := ← fields.required "required_id" Ident.ofJson?
    strength := ← fields.required "requirement_type" Strength.ofJson?
    severity := ← fields.required "severity" Severity.ofJson?
    message := ← fields.required "message" Json.str? }

end Missing

namespace ChainEntry

def toJson (e : ChainEntry) : Json :=
  .obj [("id", e.id.toJson), ("kind", e.kind.toJson), ("name", .str e.name),
    ("level", Json.ofUInt64 e.level), ("requires", Ident.listToJson e.requires)]

def ofJson? (j : Json) : Option ChainEntry := do
  let fields ← j.fields?
  return {
    id := ← fields.required "id" Ident.ofJson?
    kind := ← fields.required "kind" Kind.ofJson?
    name := ← fields.required "name" Json.str?
    level := ← fields.required "level" Json.uint64?
    requires := ← fields.required "requires" Ident.listOfJson? }

end ChainEntry

namespace RequirementCheck

def toJson (c : RequirementCheck) : Json :=
  .obj [("is_valid", .bool c.isValid),
    ("missing_requirements", Json.ofList Missing.toJson c.missing),
    ("dependency_chain", Json.ofList ChainEntry.toJson c.chain)]

def ofJson? (j : Json) : Option RequirementCheck := do
  let fields ← j.fields?
  return {
    isValid := ← fields.required "is_valid" Json.bool?
    missing := ← fields.required "missing_requirements" (Json.list? Missing.ofJson?)
    chain := ← fields.required "dependency_chain" (Json.list? ChainEntry.ofJson?) }

end RequirementCheck

end StoryRules
