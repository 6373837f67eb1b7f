import StoryRules.Report
import StoryRules.Selection

/-! Pathways: items in the order in which a reader would meet them. A pathway should repeat no item,
hold selected items only, and put each item after its hard requirements. -/

namespace StoryRules

def Finding.pathwayWarning (issue : Issue) (message : String) (suggestion : Option String)
    (affected : List Ident) : Finding :=
  .warning { issue, message, field := some "pathway", suggestion, affected }

namespace Graph

def placeFindings (g : Graph) (s : Selection) (earlier : List Item) (item : Item) :
    List Finding :=
  let name := g.nameOf item.kind item.id
  if item ∈ earlier then
    [.pathwayWarning .duplicatePathwayItem s!"\"{name}\" appears more than once in the pathway"
      none [item.id]]
  else if s.has item.kind item.id then []
  else
    [.pathwayWarning .pathwayItemNotSelected
      s!"\"{name}\" is in the pathway but not in the selection"
      (some s!"Select \"{name}\" or remove it from the pathway") [item.id]]

/-- What is wrong with the items of a pathway that goes on after `earlier`, one by one. -/
def placesFindings (g : Graph) (s : Selection) : (earlier rest : List Item) → List Finding
  | _, [] => []
  | earlier, item :: rest =>
    g.placeFindings s earlier item ++ g.placesFindings s (earlier ++ [item]) rest

def orderWarning (g : Graph) (item required : Item) : Finding :=
  let name := g.nameOf item.kind item.id
  let other := g.nameOf required.kind required.id
  .pathwayWarning .pathwayOrder s!"\"{name}\" comes before its requirement \"{other}\""
    (some s!"Move \"{other}\" earlier in the pathway") [item.id, required.id]

/-- The requirements of an item that a pathway reaches only after it, by first occurrences. -/
def lateRequirements (g : Graph) (pathway : List Item) (item : Item) : List Item :=
  ((g.requires item.kind item.id).map (Item.mk item.kind)).filter fun required =>
    pathway.contains required && pathway.idxOf item < pathway.idxOf required

/-- The findings about a pathway: each place in turn, then the order of the items. -/
def pathwayFindings (g : Graph) (s : Selection) (pathway : List Item) : List Finding :=
  g.placesFindings s [] pathway
    ++ pathway.eraseDups.flatMap fun item =>
      (g.lateRequirements pathway item).map (g.orderWarning item)

end Graph

end StoryRules
