import StoryRules.Proofs.Json.Input
import StoryRules.Proofs.Snapshot.Consistent

/-! Reports in their written form. A null value of a problem is read as an absent one; everything
else is read back as it was written, texts and ids that are left out included. No answer of a
snapshot has a null value, so every one is read back as it was (`reports_readBack`). -/

namespace StoryRules

open Json (Lawful)

/-! ### Findings -/

theorem Issue.lawful : Lawful Issue.toJson Issue.ofJson? :=
  Json.lawful_oneOf (by decide +kernel) fun i => by cases i <;> decide

theorem Action.lawful : Lawful Action.toJson Action.ofJson? :=
  Json.lawful_oneOf (by decide) fun a => by cases a <;> decide

theorem Ident.elim_listOfJson? (ids : List Ident) :
    (if ids = [] then none else some (Json.ofList toJson ids)).elim (some []) listOfJson? =
      some ids :=
  Ident.lawful.elim_ofList ids

/-- A problem with an absent value in place of a null one. -/
def Problem.withoutNull (p : Problem) : Problem :=
  { p with value := if p.value = some .null then none else p.value }

theorem Problem.ofJson?_toJson (p : Problem) : Problem.ofJson? p.toJson = some p.withoutNull := by
  simp [toJson, ofJson?, withoutNull, Issue.lawful.read_write, Severity.lawful.read_write,
    Json.lawful_str.elim_orNull?, Json.elim_orNull?_some, Ident.elim_listOfJson?]

theorem Problem.withoutNull_eq_self_iff (p : Problem) :
    p.withoutNull = p ↔ p.value ≠ some .null := by
  by_cases hNull : p.value = some .null
  · refine iff_of_false (fun hSame => ?_) (fun h => h hNull)
    have hAbsent : p.withoutNull.value = none := if_pos hNull
    rw [hSame, hNull] at hAbsent
    cases hAbsent
  · exact iff_of_true (by rw [withoutNull, if_neg hNull]) hNull

theorem Warning.lawful : Lawful Warning.toJson Warning.ofJson? where
  read_write w := by
    simp [Warning.toJson, Warning.ofJson?, Issue.lawful.read_write, Json.lawful_str.elim_orNull?,
      Ident.elim_listOfJson?]
  read_null := rfl

theorem Suggestion.lawful : Lawful Suggestion.toJson Suggestion.ofJson? where
  read_write m := by
    simp [Suggestion.toJson, Suggestion.ofJson?, Issue.lawful.read_write, Action.lawful.read_write,
      Ident.lawful.elim_orNull?, Ident.elim_listOfJson?]
  read_null := rfl

/-! ### Reports -/

namespace Report

variable {r : Report} {fs : List Finding}

/-- A report with an absent value in place of each null one. -/
def withoutNulls (r : Report) : Report := { r with errors := r.errors.map Problem.withoutNull }

theorem ofJson?_toJson (r : Report) : Report.ofJson? r.toJson = some r.withoutNulls := by
  have hErrors : Json.list? Problem.ofJson? (Json.ofList Problem.toJson r.errors) =
      some (r.errors.map Problem.withoutNull) :=
    Json.list?_ofList fun p _ => p.ofJson?_toJson
  simp [toJson, ofJson?, withoutNulls, hErrors, Warning.lawful.list.read_write,
    Suggestion.lawful.list.read_write]

/-- A report is read back as it was written. -/
def ReadsBack (r : Report) : Prop := Report.ofJson? r.toJson = some r

/-- Null values are all that is lost. -/
theorem readsBack_iff : r.ReadsBack ↔ ∀ p ∈ r.errors, p.value ≠ some .null := by
  have hErrors : r.ReadsBack ↔ r.errors.map Problem.withoutNull = r.errors.map id := by
    rw [ReadsBack, ofJson?_toJson, Option.some_inj, withoutNulls, List.map_id]
    cases r
    simp
  rw [hErrors, List.map_inj_left]
  exact forall₂_congr fun p _ => p.withoutNull_eq_self_iff

theorem readsBack_ofFindings (h : AllSound fs) : (ofFindings fs).ReadsBack :=
  readsBack_iff.2 fun _ hp => (h _ (mem_errors_ofFindings.1 hp)).2

end Report

namespace Snapshot

/-- A report is read back as it was written, but for null values, which are read as absent. No
answer has any, so each is read back exactly as it was written: validations, with a pathway or
without, and checks for cycles and for conflicts, whatever the outside source says of the pairs. -/
theorem reports_readBack (snap : Snapshot) :
    (∀ r : Report, Report.ofJson? r.toJson = some r.withoutNulls) ∧
    (∀ settings s, (snap.validate settings s).ReadsBack) ∧
    snap.checkGraph.ReadsBack ∧
    (∀ settings fandom tags plotBlocks pathway,
      (snap.validatePathway settings fandom tags plotBlocks pathway).ReadsBack) ∧
    ∀ (m : Type → Type) [Monad m] [LawfulMonad m] (ask : Item → Item → m (Option String)) fandom
      items, ∃ run : m {r : Report // r.ReadsBack},
        snap.checkConflicts ask fandom items = Subtype.val <$> run := by
  refine ⟨Report.ofJson?_toJson, fun settings s => ?_, ?_,
    fun settings fandom tags plotBlocks pathway => ?_,
    fun _ _ _ => snap.checkConflicts_of_sound fun _ => Report.readsBack_ofFindings⟩
  · exact Report.readsBack_ofFindings (snap.allSound_findings settings s)
  · exact Report.readsBack_ofFindings snap.graph.allSound_cycleFindings
  · refine Report.readsBack_ofFindings (allSound_append.2 ⟨snap.allSound_findings _ _, ?_⟩)
    simp [Graph.allSound_pathwayFindings]

/-- A report that was put together by hand: an invalid one with a null value beside an absent and
a false one. -/
def handmade : Report where
  isValid := false
  errors := [
    { issue := .externalConflict, message := "null", value := some .null, affected := [2, 1] },
    { issue := .externalConflict, message := "none", field := some "tags" },
    { issue := .externalConflict, message := "false", value := some (.bool false) }]
  warnings := [{ issue := .templateWarning, message := "" }]
  suggestions := [{ issue := .templateGuidance, message := "", action := .keep, target := some 3 }]

/-- A source that may give no answer, but gives the same one for every pair. -/
def stubborn (_ _ : Item) : Option (Option String) := some (some "never together")

theorem outspoken_readsBack :
    (Report.ofJson? handmade.toJson = some handmade.withoutNulls ∧
      handmade.withoutNulls.errors.map (·.value) = [none, none, some (.bool false)]) ∧
    (outspoken.validate {} { fandomId := 1 }).ReadsBack ∧
    ∃ r : Report, r.ReadsBack ∧ r.errors.map (·.issue) = [.externalConflict] ∧
      outspoken.checkConflicts stubborn 1 [⟨.tag, 1⟩, ⟨.tag, 2⟩] = some r := by
  obtain ⟨hAll, hValidate, -, -, hConflicts⟩ := reports_readBack outspoken
  refine ⟨⟨hAll handmade, by decide⟩, hValidate {} { fandomId := 1 }, ?_⟩
  obtain ⟨run, hRun⟩ := hConflicts Option stubborn 1 [⟨.tag, 1⟩, ⟨.tag, 2⟩]
  have hAnswer : (outspoken.checkConflicts stubborn 1 [⟨.tag, 1⟩, ⟨.tag, 2⟩]).map
      (fun r => r.errors.map (·.issue)) = some [.externalConflict] := by decide +kernel
  cases run with
  | none => rw [hRun] at hAnswer; cases hAnswer
  | some r =>
    rw [hRun] at hAnswer
    exact ⟨r.1, r.2, Option.some_inj.1 hAnswer, hRun⟩

end Snapshot

end StoryRules
