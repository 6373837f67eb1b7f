import StoryRules.Report
import StoryRules.Graph

/-! Conflicts between items, pair by pair. Tags conflict through the mutual exclusion rules of their
classes and plot blocks through the lists of either block; beside that, every pair is put once to a
source of conflicts outside the graph. -/

namespace StoryRules

/-- The pairs of a list, an earlier member first, in lexicographic order of positions. -/
def pairs {α : Type} : List α → List (α × α)
  | [] => []
  | a :: rest => rest.map (Prod.mk a) ++ pairs rest

namespace Graph

def exclusionOf (g : Graph) (t : Tag) : Option MutualExclusion :=
  (t.classId.bind g.tagClasses.get?).bind (·.rules.exclusion)

/-- Whether two tags are in one class that admits one tag only. -/
def shareExclusiveClass (g : Graph) (a b : Tag) : Bool :=
  a.classId == b.classId && (g.exclusionOf a).any (·.withinClass)

def excludesTag (g : Graph) (owner other : Tag) : Bool :=
  (g.exclusionOf owner).any (·.conflictingTags.contains other.id)

def excludesClass (g : Graph) (owner other : Tag) : Bool :=
  (g.exclusionOf owner).any fun rule => other.classId.any rule.conflictingClasses.contains

def pairProblem (issue : Issue) (message : String) (field : Option String) (a b : Item) :
    Finding :=
  .problem {
    issue, message, field
    value := some (.obj [("items", .arr [a.toJson, b.toJson])])
    affected := [a.id, b.id] }

def tagConflicts (g : Graph) (a b : Tag) : List Finding :=
  let conflict (issue : Issue) (message : String) : Finding :=
    pairProblem issue message (some (Kind.field .tag)) ⟨.tag, a.id⟩ ⟨.tag, b.id⟩
  (if g.shareExclusiveClass a b then
    [conflict .mutualExclusionViolation
      s!"\"{a.name}\" and \"{b.name}\" belong to the same exclusive class"]
  else [])
  ++ (if g.excludesTag a b || g.excludesTag b a then
    [conflict .tagConflict s!"\"{a.name}\" conflicts with \"{b.name}\""]
  else [])
  ++ if g.excludesClass a b || g.excludesClass b a then
    [conflict .classConflict
      s!"The classes of \"{a.name}\" and \"{b.name}\" cannot be combined"]
  else []

/-- The conflict between two known plot blocks, if either lists the other. -/
def plotBlockConflicts (a b : PlotBlock) : List Finding :=
  if a.conflictsWith.contains b.id || b.conflictsWith.contains a.id then
    [pairProblem .plotBlockConflict s!"\"{a.name}\" conflicts with \"{b.name}\""
      (some (Kind.field .plotBlock)) ⟨.plotBlock, a.id⟩ ⟨.plotBlock, b.id⟩]
  else []

def staticConflicts (g : Graph) (a b : Item) : List Finding :=
  match g.entity? a.kind a.id, g.entity? b.kind b.id with
  | some (.tag x), some (.tag y) => g.tagConflicts x y
  | some (.plotBlock x), some (.plotBlock y) => plotBlockConflicts x y
  | _, _ => []

/-- The conflict between two items for a reason that comes from outside the graph. -/
def externalConflict (a b : Item) (reason : String) : Finding :=
  pairProblem .externalConflict reason none a b

/-- The conflicts of every pair of distinct items. The outside source `ask` is put each pair once,
after what the graph knows of it. -/
def conflictFindings {m : Type → Type} [Monad m] (g : Graph)
    (ask : Item → Item → m (Option String)) (items : List Item) : m (List Finding) := do
  let found ← (pairs items.eraseDups).mapM fun (a, b) => do
    let reason ← ask a b
    return g.staticConflicts a b ++ (reason.map (externalConflict a b)).toList
  return found.flatten

end Graph

end StoryRules
