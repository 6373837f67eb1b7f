import StoryRules.Item

/-! Warning templates: a message that is shown when every condition of the template holds of the
selected tags and plot blocks. -/

namespace StoryRules

/-- How prominently a template is shown: as a warning, or as guidance among the suggestions. -/
inductive TemplateSeverity where
  | warning
  | info
  deriving DecidableEq, Repr

inductive TemplateField where
  | tags
  | plotBlocks
  deriving DecidableEq, Repr

inductive TemplateCheck where
  | contains (id : Ident)
  | containsAll (ids : List Ident)
  | containsAny (ids : List Ident)
  /-- At least `threshold` of the entries of `ids`, each as often as it is listed. -/
  | containsMultiple (ids : List Ident) (threshold : UInt64)
  deriving DecidableEq, Repr

structure TemplateCondition where
  field : TemplateField
  check : TemplateCheck
  deriving DecidableEq, Repr

structure Template where
  id : Ident
  name : String
  message : String
  severity : TemplateSeverity := .warning
  suggestion : Option String := none
  conditions : List TemplateCondition := []
  deriving DecidableEq, Repr

namespace TemplateSeverity

def name : TemplateSeverity → String
  | warning => "warning"
  | info => "info"

def toJson (s : TemplateSeverity) : Json := .str s.name

def ofJson? (j : Json) : Option TemplateSeverity := j.oneOf? name [warning, info]

end TemplateSeverity

namespace TemplateField

def kind : TemplateField → Kind
  | tags => .tag
  | plotBlocks => .plotBlock

def toJson (f : TemplateField) : Json := .str f.kind.field

def ofJson? (j : Json) : Option TemplateField :=
  j.oneOf? (fun f => f.kind.field) [tags, plotBlocks]

end TemplateField

namespace TemplateCheck

/-- The ids that a check asks about, as they are listed. -/
def ids : TemplateCheck → List Ident
  | contains id => [id]
  | containsAll ids | containsAny ids | containsMultiple ids _ => ids

/-- The fields of a check; `type` names the check and determines the others. -/
def fields : TemplateCheck → Json.Fields
  | contains id => [("type", .str "contains"), ("id", id.toJson)]
  | containsAll ids => [("type", .str "contains_all"), ("ids", Ident.listToJson ids)]
  | containsAny ids => [("type", .str "contains_any"), ("ids", Ident.listToJson ids)]
  | containsMultiple ids threshold =>
    [("type", .str "contains_multiple"), ("ids", Ident.listToJson ids),
      ("threshold", Json.ofUInt64 threshold)]

def ofFields? (fields : Json.Fields) : Option TemplateCheck := do
  match ← fields.required "type" Json.str? with
  | "contains" => return contains (← fields.required "id" Ident.ofJson?)
  | "contains_all" => return containsAll (← fields.required "ids" Ident.listOfJson?)
  | "contains_any" => return containsAny (← fields.required "ids" Ident.listOfJson?)
  | "contains_multiple" =>
    return containsMultiple (← fields.required "ids" Ident.listOfJson?)
      (← fields.required "threshold" Json.uint64?)
  | _ => none

def toJson (c : TemplateCheck) : Json := .obj c.fields

def ofJson? (j : Json) : Option TemplateCheck := j.fields?.bind ofFields?

end TemplateCheck

namespace TemplateCondition

/-- The fields of the check stand beside the name of the part it looks at. -/
def toJson (c : TemplateCondition) : Json := .obj (("field", c.field.toJson) :: c.check.fields)

def ofJson? (j : Json) : Option TemplateCondition := do
  let fields ← j.fields?
  return {
    field := ← fields.required "field" TemplateField.ofJson?
    check := ← TemplateCheck.ofFields? fields }

end TemplateCondition

namespace Template

def toJson (t : Template) : Json :=
  .obj <| [("id", t.id.toJson), ("name", .str t.name), ("message", .str t.message),
      ("severity", t.severity.toJson)]
    ++ Json.Fields.whenSome "suggestion" .str t.suggestion
    ++ [("conditions", Json.ofList TemplateCondition.toJson t.conditions)]

def ofJson? (j : Json) : Option Template := do
  let fields ← j.fields?
  return {
    id := ← fields.required "id" Ident.ofJson?
    name := ← fields.required "name" Json.str?
    message := ← fields.required "message" Json.str?
    severity := ← fields.optional "severity" TemplateSeverity.ofJson? .warning
    suggestion := ← fields.nullable "suggestion" Json.str?
    conditions := ← fields.optional "conditions" (Json.list? TemplateCondition.ofJson?) [] }

end Template

end StoryRules
