import StoryRules.Finding

/-! Reports: findings sorted into problems, warnings and suggestions, with a verdict. A report is
made of all findings at once, and valid exactly when none of them is a problem. It is the same that
comes of adding them one by one to a valid report, where a problem makes it invalid
(`ofFindings_eq_foldl`), and of merging reports of parts in order (`ofFindings_append`). -/

namespace StoryRules

structure Report where
  isValid : Bool
  errors : List Problem
  warnings : List Warning
  suggestions : List Suggestion
  deriving DecidableEq, Repr

namespace Report

def valid : Report := ⟨true, [], [], []⟩

def ofFindings (fs : List Finding) : Report where
  isValid := (fs.filterMap Finding.problem?).isEmpty
  errors := fs.filterMap Finding.problem?
  warnings := fs.filterMap Finding.warning?
  suggestions := fs.filterMap Finding.suggestion?

def add (r : Report) : Finding → Report
  | .problem p => { r with isValid := false, errors := r.errors ++ [p] }
  | .warning w => { r with warnings := r.warnings ++ [w] }
  | .suggestion s => { r with suggestions := r.suggestions ++ [s] }

def merge (r other : Report) : Report where
  isValid := r.isValid && other.isValid
  errors := r.errors ++ other.errors
  warnings := r.warnings ++ other.warnings
  suggestions := r.suggestions ++ other.suggestions

def isEmpty (r : Report) : Bool :=
  r.errors.isEmpty && r.warnings.isEmpty && r.suggestions.isEmpty

def errorCount (r : Report) (issue : Issue) : Nat := r.errors.countP (·.issue == issue)

@[simp] theorem ofFindings_nil : ofFindings [] = valid := rfl

theorem ofFindings_append (fs gs : List Finding) :
    ofFindings (fs ++ gs) = (ofFindings fs).merge (ofFindings gs) := by
  simp only [ofFindings, merge, List.filterMap_append, Report.mk.injEq, and_true]
  cases List.filterMap Finding.problem? fs <;> rfl

theorem merge_assoc (r r' r'' : Report) : (r.merge r').merge r'' = r.merge (r'.merge r'') := by
  simp [merge, Bool.and_assoc]

theorem add_eq_merge (r : Report) (f : Finding) : r.add f = r.merge (ofFindings [f]) := by
  cases f <;> simp [add, merge, ofFindings, Finding.problem?, Finding.warning?,
    Finding.suggestion?]

/-- Adding findings one by one makes the same of a report as merging theirs into it. -/
theorem foldl_add (r : Report) (fs : List Finding) :
    fs.foldl add r = r.merge (ofFindings fs) := by
  induction fs generalizing r with
  | nil => simp [merge, valid]
  | cons f fs ih =>
    rw [List.foldl_cons, ih, add_eq_merge, merge_assoc, ← ofFindings_append, List.singleton_append]

theorem ofFindings_eq_foldl (fs : List Finding) : ofFindings fs = fs.foldl add valid := by
  rw [foldl_add]
  rfl

theorem isValid_ofFindings (fs : List Finding) :
    (ofFindings fs).isValid = (ofFindings fs).errors.isEmpty := rfl

def toJson (r : Report) : Json :=
  .obj [("is_valid", .bool r.isValid),
    ("errors", Json.ofList Problem.toJson r.errors),
    ("warnings", Json.ofList Warning.toJson r.warnings),
    ("suggestions", Json.ofList Suggestion.toJson r.suggestions)]

/-- Reads a report; its verdict is taken as given. -/
def ofJson? (j : Json) : Option Report := do
  let fields ← j.fields?
  return {
    isValid := ← fields.required "is_valid" Json.bool?
    errors := ← fields.required "errors" (Json.list? Problem.ofJson?)
    warnings := ← fields.required "warnings" (Json.list? Warning.ofJson?)
    suggestions := ← fields.required "suggestions" (Json.list? Suggestion.ofJson?) }

end Report

end StoryRules
