import StoryRules.Report
import StoryRules.Selection

/-! Matching templates against a selection. A condition matches the listed ids that are present; a
template fires when it has conditions and all of them hold, with the ids matched by any of them. -/

namespace StoryRules

namespace TemplateCheck

/-- Whether a check holds when `hits` are the entries of its list that are present. -/
def holds (hits : List Ident) : TemplateCheck → Bool
  | contains _ | containsAny _ => !hits.isEmpty
  | containsAll ids => !ids.isEmpty && hits.length == ids.length
  | containsMultiple _ threshold => !hits.isEmpty && threshold.toNat ≤ hits.length

end TemplateCheck

/-- The listed ids of a condition that are present, as often as listed, if the condition holds. -/
def TemplateCondition.match? (c : TemplateCondition) (g : Graph) (s : Selection) :
    Option (List Ident) :=
  let hits := c.check.ids.filter (g.isPresent s c.field.kind)
  if c.check.holds hits then some hits else none

namespace Template

/-- The ids that make a template fire, each once, in the order of its conditions. -/
def match? (t : Template) (g : Graph) (s : Selection) : Option (List Ident) :=
  if t.conditions.isEmpty then none
  else (t.conditions.mapM (TemplateCondition.match? · g s)).map (·.flatten.eraseDups)

/-- What a template says when it fires with some matched ids. A warning is about the part of the
selection that the first condition looks at. -/
def finding (t : Template) (matched : List Ident) : Finding :=
  match t.severity with
  | .warning => .warning {
      issue := .templateWarning
      message := t.message
      field := t.conditions.head?.map (·.field.kind.field)
      suggestion := t.suggestion
      affected := matched }
  | .info => .suggestion {
      issue := .templateGuidance
      message := match t.suggestion with
        | none => t.message
        | some suggestion => s!"{t.message} {suggestion}"
      action := .keep
      alternatives := matched }

end Template

def Graph.templateFindings (g : Graph) (s : Selection) : List Finding :=
  g.templates.filterMap fun t => (t.match? g s).map t.finding

end StoryRules
