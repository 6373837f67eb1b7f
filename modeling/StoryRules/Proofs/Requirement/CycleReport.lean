import StoryRules.Proofs.Requirement.Cycle

/-! What the check of a graph reports about cycles of requirements. A problem states a path in its
value; `cycleFindings_sound` says which paths are stated and `cycleFindings_complete` that none is
missing which would be needed to break every cycle. -/

namespace StoryRules

theorem Ident.listToJson_injective {ids ids' : List Ident}
    (h : Ident.listToJson ids = Ident.listToJson ids') : ids = ids' := by
  simp only [Ident.listToJson, Json.ofList, Json.arr.injEq] at h
  refine List.map_injective_iff.2 (fun a b hab => ?_) h
  simpa [Ident.toJson, Json.ofInt64, Int64.toInt_inj] using hab

/-- The problem says that the entities of `path`, of one kind, form a circular dependency. -/
structure Problem.ReportsCycle (p : Problem) (kind : Kind) (path : List Ident) : Prop where
  issue : p.issue = .circularDependency
  field : p.field = some kind.field
  value : ∃ names, p.value = some (.obj [("path", Ident.listToJson path), ("names", names)])

theorem Problem.ReportsCycle.unique {p : Problem} {kind : Kind} {path path' : List Ident}
    (h : p.ReportsCycle kind path) (h' : p.ReportsCycle kind path') : path = path' := by
  obtain ⟨names, hValue⟩ := h.value
  obtain ⟨names', hValue'⟩ := h'.value
  rw [hValue] at hValue'
  simp only [Option.some.injEq, Json.obj.injEq, List.cons.injEq, Prod.mk.injEq, true_and,
    and_true] at hValue'
  exact Ident.listToJson_injective hValue'.1

/-- The problems of a report about the entities of one kind. -/
def Report.errorsIn (r : Report) (kind : Kind) : List Problem :=
  r.errors.filter fun p => p.field = some kind.field

namespace Graph

variable (g : Graph)

/-- The report of the cycles of a graph, whatever is selected. -/
def cycleReport : Report := .ofFindings g.cycleFindings

/-- A reported path is closed by the requirement of `y` by `x`: it is `y, ..., x, y`. -/
def ReportedClosing (kind : Kind) (x y : Ident) : Prop :=
  ∃ p ∈ g.cycleReport.errors, ∃ path, p.ReportsCycle kind path ∧ ClosedBy path x y

variable {g}

theorem reportsCycle_cycleProblem (kind : Kind) (path : List Ident) :
    (g.cycleProblem kind path).ReportsCycle kind path :=
  ⟨rfl, rfl, _, rfl⟩

theorem errors_cycleReport :
    g.cycleReport.errors = Kind.reported.flatMap fun kind =>
      (g.cycles kind).map (g.cycleProblem kind) := by
  simp [cycleReport, Report.ofFindings, cycleFindings, List.filterMap_flatMap,
    List.filterMap_map, Function.comp_def, Finding.problem?]

theorem mem_errors_cycleReport {p : Problem} :
    p ∈ g.cycleReport.errors ↔ ∃ kind, ∃ path ∈ g.cycles kind, g.cycleProblem kind path = p := by
  rw [errors_cycleReport, List.mem_flatMap]
  constructor
  · rintro ⟨kind, -, hp⟩
    exact ⟨kind, List.mem_map.1 hp⟩
  · rintro ⟨kind, hp⟩
    exact ⟨kind, by cases kind <;> simp [Kind.reported], List.mem_map.2 hp⟩

theorem errorsIn_cycleReport (kind : Kind) :
    g.cycleReport.errorsIn kind = (g.cycles kind).map (g.cycleProblem kind) := by
  have hField : ∀ kind' path, (g.cycleProblem kind' path).field = some kind'.field :=
    fun _ _ => rfl
  rw [Report.errorsIn, errors_cycleReport]
  cases kind <;>
    simp [Kind.reported, List.filter_map, Function.comp_def, hField, Kind.field]

/-- Of the known requirements, those that close no reported path lead nowhere back. -/
theorem acyclic_unreported (kind : Kind) :
    Acyclic fun x y => g.Needs kind x y ∧ ¬g.ReportedClosing kind x y := by
  obtain ⟨s, hs, hIdle, hCycles, hVisited⟩ := CycleSearch.exists_final g kind
  obtain ⟨left, hSettled, -, hCovered⟩ := hs.progress
  intro x hLoop
  -- a walk that closes no reported path closes none that the search has found
  have hFound : Relation.TransGen
      (fun x y => g.Needs kind x y ∧ ¬CycleSearch.Closing s.cycles x y) x x := by
    refine Relation.TransGen.mono (fun a b hab => ⟨hab.1, fun hClosing => hab.2 ?_⟩) x x hLoop
    obtain ⟨path, hPath, hClosed⟩ := hClosing
    rw [hCycles] at hPath
    exact ⟨_, mem_errors_cycleReport.2 ⟨kind, path, hPath, rfl⟩, path,
      reportsCycle_cycleProblem kind path, hClosed⟩
  have hLeft : x ∈ left := by
    obtain ⟨y, hStep, -⟩ := Relation.TransGen.head'_iff.1 hFound
    refine (hCovered x (hVisited x hStep.1.source)).resolve_right ?_
    simp [CycleSearch.nodes, hIdle]
  exact hSettled.no_loop x hLeft hFound

theorem isCycle_of_mem_cycles {kind : Kind} {path : List Ident} (h : path ∈ g.cycles kind) :
    g.IsCycle kind path ∧ path.dropLast.Nodup := by
  obtain ⟨s, hs, -, hCycles, -⟩ := CycleSearch.exists_final g kind
  rw [← hCycles] at h
  exact hs.sound path h

theorem isValid_cycleReport :
    g.cycleReport.isValid = true ↔ ∀ kind, Acyclic (g.Needs kind) := by
  have hEmpty : g.cycleReport.isValid = true ↔ g.cycleReport.errors = [] := List.isEmpty_iff
  rw [hEmpty]
  constructor
  · intro hNone kind
    refine (acyclic_unreported kind).mono fun x y hxy => ⟨hxy, ?_⟩
    rintro ⟨p, hp, -⟩
    simp [hNone] at hp
  · intro hAcyclic
    refine List.eq_nil_iff_forall_not_mem.2 fun p hp => ?_
    obtain ⟨kind, path, hPath, -⟩ := mem_errors_cycleReport.1 hp
    obtain ⟨hCycle, -⟩ := isCycle_of_mem_cycles hPath
    obtain ⟨x, hLoop⟩ := hCycle.exists_loop hCycle.walk
    exact hAcyclic kind x hLoop

/-- The reported cycles of a kind are closed at places that differ from each other. -/
theorem exists_slots (kind : Kind) :
    ∃ slots : List (Ident × Nat), slots.Nodup ∧
      List.Forall₂ (g.ClosesAt kind) (g.cycles kind) slots := by
  obtain ⟨s, hs, -, hCycles, -⟩ := CycleSearch.exists_final g kind
  obtain ⟨slots, hRecorded⟩ := hs.recorded
  exact ⟨slots, hRecorded.nodup, hCycles ▸ hRecorded.closes⟩

/-- Without repetitions among the requirements of an entity no cycle is found twice. -/
theorem nodup_cycles {kind : Kind} (h : ∀ x, (g.requires kind x).Nodup) :
    (g.cycles kind).Nodup := by
  obtain ⟨slots, hNodup, hSlots⟩ := exists_slots (g := g) kind
  refine nodup_of_forall₂ (fun path slot slot' hClosed hClosed' => ?_) hSlots hNodup
  exact hClosed.unique h hClosed'

/-- Every reported problem is a cycle of known entities of one kind, each but the first mentioned
once. The problems of a kind are closed by requirements at different places of the graph, so no two
of them state the same path if no entity lists a requirement twice. -/
theorem cycleFindings_sound (g : Graph) :
    (∀ p ∈ g.cycleReport.errors, ∃ kind path, p.ReportsCycle kind path ∧ g.IsCycle kind path ∧
      path.dropLast.Nodup ∧ p.affected = path.dropLast) ∧
    ∀ kind,
      (∃ slots : List (Ident × Nat), slots.Nodup ∧
        List.Forall₂ (fun p slot => ∃ path, p.ReportsCycle kind path ∧ g.ClosesAt kind path slot)
          (g.cycleReport.errorsIn kind) slots) ∧
      ((∀ x, (g.requires kind x).Nodup) →
        (g.cycleReport.errorsIn kind).Pairwise fun p q =>
          ∀ path, p.ReportsCycle kind path → ¬q.ReportsCycle kind path) := by
  refine ⟨fun p hp => ?_, fun kind => ⟨?_, fun hDistinct => ?_⟩⟩
  · obtain ⟨kind, path, hPath, rfl⟩ := mem_errors_cycleReport.1 hp
    obtain ⟨hCycle, hNodup⟩ := isCycle_of_mem_cycles hPath
    exact ⟨kind, path, reportsCycle_cycleProblem kind path, hCycle, hNodup, rfl⟩
  · obtain ⟨slots, hNodup, hSlots⟩ := exists_slots (g := g) kind
    refine ⟨slots, hNodup, ?_⟩
    rw [errorsIn_cycleReport, List.forall₂_map_left_iff]
    exact hSlots.imp fun path slot hClosed => ⟨path, reportsCycle_cycleProblem kind path, hClosed⟩
  · rw [errorsIn_cycleReport, List.pairwise_map]
    refine (nodup_cycles hDistinct).imp fun hNe path hLeft hRight => hNe ?_
    rw [(reportsCycle_cycleProblem kind _).unique hLeft,
      (reportsCycle_cycleProblem kind _).unique hRight]

/-- Two tags that require each other. -/
def mutualTags : Graph where
  fandomId := 1
  tags := (Table.empty.insert
    { id := 1, name := "first", category := "mood", fandomId := 1, requires := [2] }).insert
    { id := 2, name := "second", category := "mood", fandomId := 1, requires := [1] }

theorem mutualTags_isCycle : mutualTags.IsCycle .tag [1, 2, 1] where
  nontrivial := by decide
  returns := rfl
  walk := by
    refine List.isChain_cons_cons.2 ⟨⟨rfl, rfl, by decide⟩, List.isChain_pair.2 ?_⟩
    exact ⟨rfl, rfl, by decide⟩

theorem mutualTags_nodup (x : Ident) : (mutualTags.requires .tag x).Nodup := by
  rw [requires, listed, entity?]
  cases hGet : mutualTags.tags.get? x with
  | none => exact List.nodup_nil
  | some tag =>
    have hTag : tag = _ ∨ tag = _ := List.mem_pair.1 (List.mem_of_find?_eq_some hGet)
    rcases hTag with rfl | rfl <;> exact List.nodup_singleton _

theorem mutualTags_distinct : (∀ x, (mutualTags.requires .tag x).Nodup) ∧
    (mutualTags.cycleReport.errorsIn .tag).Pairwise fun p q =>
      ∀ path, p.ReportsCycle .tag path → ¬q.ReportsCycle .tag path :=
  ⟨mutualTags_nodup, ((cycleFindings_sound mutualTags).2 .tag).2 mutualTags_nodup⟩

/-- Every cycle of known entities has a requirement that closes a reported path, so the graph
without these requirements has no cycle, and the report is valid exactly when the graph has none. -/
theorem cycleFindings_complete (g : Graph) :
    (∀ kind path, g.IsCycle kind path →
      ∃ x y, [x, y] <:+: path ∧ g.ReportedClosing kind x y) ∧
    (∀ kind, Acyclic fun x y => g.Needs kind x y ∧ ¬g.ReportedClosing kind x y) ∧
    (g.cycleReport.isValid = true ↔ ∀ kind, Acyclic (g.Needs kind)) := by
  refine ⟨fun kind path hCycle => ?_, acyclic_unreported, isValid_cycleReport⟩
  obtain ⟨x, y, hStep, hReported⟩ := hCycle.exists_not (acyclic_unreported kind)
  have hPair : [x, y].IsChain (g.Needs kind) := List.IsChain.infix hCycle.walk hStep
  exact ⟨x, y, hStep, not_not.1 fun hOpen => hReported ⟨List.isChain_pair.1 hPair, hOpen⟩⟩

theorem mutualTags_reported : mutualTags.IsCycle .tag [1, 2, 1] ∧
    ∃ x y, [x, y] <:+: [1, 2, 1] ∧ mutualTags.ReportedClosing .tag x y :=
  ⟨mutualTags_isCycle, (cycleFindings_complete mutualTags).1 .tag [1, 2, 1] mutualTags_isCycle⟩

end Graph

end StoryRules
