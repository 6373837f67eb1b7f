import StoryRules.Settings
import StoryRules.Requirement
import StoryRules.Requirement.Cycle
import StoryRules.Enhancement
import StoryRules.TagClass.Check
import StoryRules.Template.Match
import StoryRules.Rule.Run
import StoryRules.Conflict
import StoryRules.Pathway

/-! Snapshots: the rule graph of a fandom with its active rules, and what can be asked of them. All
questions are about one fandom; for another one the answer is a single problem. -/

namespace StoryRules

structure Snapshot where
  graph : Graph
  rules : List CompiledRule

namespace Snapshot

def ofContent (content : Content) (rules : List Rule) : Except ContentError Snapshot := do
  return { graph := ← Graph.ofContent content, rules := Rule.compileActive rules }

def fandomId (snap : Snapshot) : Ident := snap.graph.fandomId

def mismatch (message : String) (fandom : Ident) : List Finding :=
  [.problem {
    issue := .fandomMismatch
    message
    field := some "fandom_id"
    value := some fandom.toJson }]

/-- Everything to be said about a selection of the fandom: requirements, tag classes, rules,
templates and enhancements, in this order, the last three as the settings ask for them. -/
def passFindings (snap : Snapshot) (settings : Settings) (s : Selection) : List Finding :=
  let g := snap.graph
  (g.checkRequirements s).findings g
    ++ g.classFindings s
    ++ (if settings.customRules then g.ruleFindings snap.rules s else [])
    ++ (if settings.warningTemplates then g.templateFindings s else [])
    ++ if settings.enhancementSuggestions then g.enhancementFindings s else []

def findings (snap : Snapshot) (settings : Settings) (s : Selection) : List Finding :=
  if s.fandomId = snap.fandomId then snap.passFindings settings s
  else mismatch
    s!"Selection belongs to fandom {s.fandomId} but fandom {snap.fandomId} is loaded" s.fandomId

def validate (snap : Snapshot) (settings : Settings) (s : Selection) : Report :=
  .ofFindings (snap.findings settings s)

/-- Checks the content itself for cycles of requirements, whatever is selected. -/
def checkGraph (snap : Snapshot) : Report := .ofFindings snap.graph.cycleFindings

/-- Validates tags and plot blocks together with the order of a pathway through them. -/
def validatePathway (snap : Snapshot) (settings : Settings) (fandom : Ident)
    (tags plotBlocks : List Ident) (pathway : List Item) : Report :=
  let s : Selection := { fandomId := fandom, tags, plotBlocks }
  .ofFindings <| snap.findings settings s
    ++ if fandom = snap.fandomId then snap.graph.pathwayFindings s pathway else []

/-- Checks every pair of some items for conflicts, those that `ask` knows of included. -/
def checkConflicts {m : Type → Type} [Monad m] (snap : Snapshot)
    (ask : Item → Item → m (Option String)) (fandom : Ident) (items : List Item) : m Report := do
  if fandom = snap.fandomId then
    return .ofFindings (← snap.graph.conflictFindings ask items)
  else
    return .ofFindings <| mismatch
      s!"Items belong to fandom {fandom} but fandom {snap.fandomId} is loaded" fandom

/-- Checks every pair of some items for conflicts that the graph knows of. -/
def checkOwnConflicts (snap : Snapshot) (fandom : Ident) (items : List Item) : Report :=
  Id.run (snap.checkConflicts (fun _ _ => pure none) fandom items)

end Snapshot

end StoryRules
