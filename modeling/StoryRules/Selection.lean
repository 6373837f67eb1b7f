import StoryRules.Graph

/-! Selections: the tags, plot blocks and conditions that a user has chosen, in the order chosen and
possibly with repetitions, and free metadata. An id counts as present in a selection only if the
graph knows it too. -/

namespace StoryRules

structure Selection where
  fandomId : Ident
  tags : List Ident := []
  plotBlocks : List Ident := []
  conditions : List Ident := []
  metadata : Json.Fields := []
  deriving DecidableEq, Repr

namespace Selection

/-- Chooses more ids of a kind, after those chosen before. -/
def choose (s : Selection) (kind : Kind) (ids : List Ident) : Selection :=
  match kind with
  | .tag => { s with tags := s.tags ++ ids }
  | .plotBlock => { s with plotBlocks := s.plotBlocks ++ ids }
  | .condition => { s with conditions := s.conditions ++ ids }

def annotate (s : Selection) (key : String) (value : Json) : Selection :=
  { s with metadata := s.metadata.set key value }

def ids (s : Selection) : Kind → List Ident
  | .tag => s.tags
  | .plotBlock => s.plotBlocks
  | .condition => s.conditions

/-- Whether an id is chosen under a kind, known to a graph or not. -/
def has (s : Selection) (kind : Kind) (id : Ident) : Bool := (s.ids kind).contains id

theorem has_iff {s : Selection} {kind : Kind} {id : Ident} :
    s.has kind id = true ↔ id ∈ s.ids kind := by
  simp [has]

/-- Plot blocks listed in the metadata under `plot_blocks`; entries that are no ids are skipped. -/
def listedPlotBlocks (s : Selection) : List Ident :=
  ((s.metadata.get? "plot_blocks").map Json.elements).getD [] |>.filterMap Ident.ofJson?

def mentions (s : Selection) (block : Ident) : Bool :=
  s.has .plotBlock block || s.listedPlotBlocks.contains block

/-- Whether a key of the metadata has a value other than null. -/
def hasMetadata (s : Selection) (key : String) : Bool :=
  match s.metadata.get? key with
  | none => false
  | some value => !value.isNull

def toJson (s : Selection) : Json :=
  .obj [("fandom_id", s.fandomId.toJson), ("applied_tags", Ident.listToJson s.tags),
    ("selected_plot_blocks", Ident.listToJson s.plotBlocks),
    ("selected_conditions", Ident.listToJson s.conditions), ("metadata", .obj s.metadata)]

def ofJson? (j : Json) : Option Selection := do
  let fields ← j.fields?
  return {
    fandomId := ← fields.required "fandom_id" Ident.ofJson?
    tags := ← fields.optional "applied_tags" Ident.listOfJson? []
    plotBlocks := ← fields.optional "selected_plot_blocks" Ident.listOfJson? []
    conditions := ← fields.optional "selected_conditions" Ident.listOfJson? []
    metadata := ← fields.optional "metadata" Json.fields? [] }

end Selection

namespace Graph

def isPresent (g : Graph) (s : Selection) (kind : Kind) (id : Ident) : Bool :=
  s.has kind id && g.contains kind id

/-- The ids of a kind that are chosen and known, each once, in the order of first choice. -/
def present (g : Graph) (s : Selection) (kind : Kind) : List Ident :=
  (s.ids kind).eraseDups.filter (g.contains kind)

theorem mem_present {g : Graph} {s : Selection} {kind : Kind} {id : Ident} :
    id ∈ g.present s kind ↔ g.isPresent s kind id = true := by
  simp [present, isPresent, Selection.has]

end Graph

end StoryRules
