import Mathlib.Data.List.FinRange
import Mathlib.Data.List.ProdSigma
import StoryRules.Proofs.Conflict.Clash
import StoryRules.Proofs.Selection.Metadata
import StoryRules.Snapshot

/-! What the source outside the graph is asked in a check for conflicts, and what its answers do to
the report. The distinct items of a check are paired by their places, and each pair is asked about
once. The answer comes after what the graph itself knows of the pair, and without the answers the
report is that of a check which asks nobody (`checkConflicts_asks`). -/

namespace StoryRules

/-! ### Pairs of places -/

/-- The pairs of an earlier and a later place among `n`, in lexicographic order. -/
def placePairs (n : Nat) : List (Fin n × Fin n) :=
  (List.finRange n ×ˢ List.finRange n).filter fun p => p.1 < p.2

theorem mem_placePairs {n : Nat} {p : Fin n × Fin n} : p ∈ placePairs n ↔ p.1 < p.2 := by
  obtain ⟨i, j⟩ := p
  simp [placePairs]

theorem pairwise_placePairs (n : Nat) :
    (placePairs n).Pairwise (Prod.Lex (· < ·) (· < ·)) := by
  apply List.Pairwise.filter
  show ((List.finRange n).flatMap fun i => (List.finRange n).map (Prod.mk i)).Pairwise _
  rw [List.pairwise_flatMap]
  constructor
  · intro i _
    rw [List.pairwise_map]
    exact (List.pairwise_lt_finRange n).imp fun hLt => Prod.Lex.right i hLt
  · apply (List.pairwise_lt_finRange n).imp
    intro i i' hLt p hp p' hp'
    obtain ⟨j, -, rfl⟩ := List.mem_map.1 hp
    obtain ⟨j', -, rfl⟩ := List.mem_map.1 hp'
    exact Prod.Lex.left j j' hLt

theorem placePairs_succ (n : Nat) : placePairs (n + 1) =
    (List.finRange n).map (fun j => (0, j.succ)) ++
      (placePairs n).map fun p => (p.1.succ, p.2.succ) := by
  unfold placePairs
  rw [List.finRange_succ, List.product_cons, List.filter_append]
  congr 1
  · simp [List.filter_map, Function.comp_def]
  · show (((List.finRange n).map Fin.succ).flatMap fun i =>
        (0 :: (List.finRange n).map Fin.succ).map (Prod.mk i)).filter _ =
      (((List.finRange n).flatMap fun i => (List.finRange n).map (Prod.mk i)).filter _).map _
    simp [List.filter_flatMap, List.flatMap_map, List.map_flatMap, List.filter_map,
      Function.comp_def]

variable {α : Type}

theorem pairs_eq_map (as : List α) :
    pairs as = (placePairs as.length).map fun p => (as[p.1], as[p.2]) := by
  induction as with
  | nil => rfl
  | cons a as ih =>
    show _ = (placePairs (as.length + 1)).map _
    rw [pairs, ih, placePairs_succ, List.map_append, List.map_map, List.map_map]
    congr 1
    have hPlaces : (List.finRange as.length).map (fun j => as[j]) = as :=
      List.map_getElem_finRange as
    nth_rewrite 1 [← hPlaces]
    rw [List.map_map]
    rfl

/-- Some pairs are those of an earlier and a later member of a list, in the lexicographic order of
their places. -/
def InPlaceOrder (as : List α) (found : List (α × α)) : Prop :=
  ∃ places : List (Fin as.length × Fin as.length), (∀ p, p ∈ places ↔ p.1 < p.2) ∧
    places.Pairwise (Prod.Lex (· < ·) (· < ·)) ∧ found = places.map fun p => (as[p.1], as[p.2])

theorem inPlaceOrder_pairs (as : List α) : InPlaceOrder as (pairs as) :=
  ⟨placePairs as.length, fun _ => mem_placePairs, pairwise_placePairs _, pairs_eq_map as⟩

theorem length_pairs (as : List α) : (pairs as).length = as.length * (as.length - 1) / 2 := by
  rw [← Nat.choose_two_right]
  induction as with
  | nil => rfl
  | cons a as ih =>
    rw [pairs, List.length_append, List.length_map, ih, List.length_cons,
      Nat.choose_succ_succ, Nat.choose_one_right]

/-- No two different members are a pair twice, in whatever order. -/
theorem nodup_sym2_pairs {as : List α} (h : as.Nodup) :
    ((pairs as).map fun pair => s(pair.1, pair.2)).Nodup :=
  h.sym2.sublist (map_pairs_sublist_sym2 as)

/-! ### The questions of a check -/

/-- A question about two items, and its answer: the reason for which they conflict, if they do. -/
abbrev Asked := (Item × Item) × Option String

/-- A source that keeps a record of what it is asked, and of its answers. -/
def noting {m : Type → Type} [Monad m] (ask : Item → Item → m (Option String)) (a b : Item) :
    StateT (List Asked) m (Option String) := do
  let answer ← ask a b
  modify (· ++ [((a, b), answer)])
  return answer

section Run

variable {m : Type → Type} [Monad m] [LawfulMonad m] (ask : Item → Item → m (Option String))

theorem run_noting (a b : Item) (before : List Asked) : (noting ask a b).run before =
    (fun answer => (answer, before ++ [((a, b), answer)])) <$> ask a b := by
  simp [noting]

/-- Whoever asks about some pairs in turn gets the answers, and they are all that is noted. -/
theorem run_mapM_noting (as : List (Item × Item)) (before : List Asked) :
    (as.mapM fun pair => Prod.mk pair <$> noting ask pair.1 pair.2).run before =
      (fun asked => (asked, before ++ asked)) <$>
        as.mapM fun pair => Prod.mk pair <$> ask pair.1 pair.2 := by
  induction as generalizing before with
  | nil => simp
  | cons pair as ih =>
    simp [run_noting, ih]

/-- The answers to some questions could be collected with the proof along that each of the questions
was put once, in turn. -/
theorem exists_mapM_asked (as : List (Item × Item)) :
    ∃ run : m {asked : List Asked // asked.map Prod.fst = as},
      (as.mapM fun pair => Prod.mk pair <$> ask pair.1 pair.2) = Subtype.val <$> run := by
  induction as with
  | nil => exact ⟨pure ⟨[], rfl⟩, by simp⟩
  | cons pair as ih =>
    obtain ⟨run, hRun⟩ := ih
    refine ⟨do
      let answer ← ask pair.1 pair.2
      let rest ← run
      return ⟨(pair, answer) :: rest.1, by simp [rest.2]⟩, ?_⟩
    simp [hRun]

end Run

/-! ### What the answers add -/

/-- The problem of two items that conflict for a reason from outside the graph. -/
def externalProblem (pair : Item × Item) (reason : String) : Problem where
  issue := .externalConflict
  message := reason
  value := some (.obj [("items", .arr [pair.1.toJson, pair.2.toJson])])
  affected := [pair.1.id, pair.2.id]

/-- A report without the problems about some issues, judged by those that are left. -/
def Report.drop (r : Report) (issues : List Issue) : Report where
  isValid := (r.errorsBut issues).isEmpty
  errors := r.errorsBut issues
  warnings := r.warnings
  suggestions := r.suggestions

theorem SameBut.drop_ofFindings {issues : List Issue} {fs fs' : List Finding}
    (h : SameBut issues fs fs') :
    (Report.ofFindings fs).drop issues = (Report.ofFindings fs').drop issues := by
  unfold Report.drop
  rw [h.errorsBut_ofFindings, h.warnings_ofFindings, h.suggestions_ofFindings]

theorem Report.drop_eq_self {issues : List Issue} {fs : List Finding}
    (h : ∀ f ∈ fs, f.issue ∉ issues) : (ofFindings fs).drop issues = ofFindings fs := by
  have hKept : (ofFindings fs).errorsBut issues = (ofFindings fs).errors := by
    apply List.filter_eq_self.2
    intro p hp
    exact decide_eq_true (h _ (mem_errors_ofFindings.1 hp))
  unfold drop
  rw [hKept]
  rfl

namespace Graph

variable {g : Graph} {a b : Item} {f : Finding}

/-- The problems of two items that the graph knows of. -/
def staticProblems (g : Graph) (pair : Item × Item) : List Problem :=
  (g.staticConflicts pair.1 pair.2).filterMap Finding.problem?

theorem issue_staticConflicts (hf : f ∈ g.staticConflicts a b) :
    f.issue ∉ [Issue.externalConflict] := by
  have hIssue : f.issue ∈ (g.staticConflicts a b).map Finding.issue := List.mem_map_of_mem hf
  rw [staticConflicts] at hIssue
  intro hExternal
  rw [List.mem_singleton.1 hExternal] at hIssue
  split at hIssue
  · rw [issues_tagConflicts] at hIssue
    simp at hIssue
  · rw [issues_plotBlockConflicts] at hIssue
    simp at hIssue
  · cases hIssue

theorem problems_pairConflicts (asked : Asked) :
    (g.pairConflicts asked).filterMap Finding.problem? =
      g.staticProblems asked.1 ++ (asked.2.map (externalProblem asked.1)).toList := by
  obtain ⟨pair, answer⟩ := asked
  unfold pairConflicts
  rw [List.filterMap_append]
  cases answer <;> rfl

theorem sameBut_pairConflicts (asked : Asked) :
    SameBut [.externalConflict] (g.pairConflicts asked)
      (g.staticConflicts asked.1.1 asked.1.2) := by
  unfold pairConflicts
  nth_rewrite 2 [← List.append_nil (g.staticConflicts asked.1.1 asked.1.2)]
  apply SameBut.append (.refl _)
  apply SameBut.of_problems
  · intro f hf
    obtain ⟨reason, -, rfl⟩ := Option.map_eq_some_iff.1 (Option.mem_toList.1 hf)
    rfl
  · simp

/-- The problems from outside the graph are those of the answers, as it knows of none itself. -/
theorem external_pairConflicts (asked : Asked) :
    ((g.pairConflicts asked).filterMap Finding.problem?).filter (·.issue = .externalConflict) =
      (asked.2.map (externalProblem asked.1)).toList := by
  have hNone : (g.staticProblems asked.1).filter (·.issue = .externalConflict) = [] := by
    apply List.filter_eq_nil_iff.2
    intro p hp hExternal
    obtain ⟨f, hf, hProblem⟩ := List.mem_filterMap.1 hp
    obtain rfl := Finding.problem?_eq_some.1 hProblem
    exact issue_staticConflicts hf (by simpa [Finding.issue] using hExternal)
  rw [problems_pairConflicts, List.filter_append, hNone, List.nil_append]
  apply List.filter_eq_self.2
  intro p hp
  obtain ⟨reason, -, rfl⟩ := Option.map_eq_some_iff.1 (Option.mem_toList.1 hp)
  rfl

end Graph

namespace Snapshot

variable {snap : Snapshot} {items : List Item}

/-- A report of conflicts goes with what was asked for it, and with the answers. -/
structure Answered (snap : Snapshot) (items : List Item) (r : Report) (asked : List Asked) :
    Prop where
  /-- Each pair of the distinct items is asked about, in the order of their places. -/
  questions : InPlaceOrder items.eraseDups (asked.map Prod.fst)
  length : asked.length = items.eraseDups.length * (items.eraseDups.length - 1) / 2
  /-- No two items are asked about twice, and no item is asked about beside itself. -/
  once : (asked.map fun question => s(question.1.1, question.1.2)).Nodup
  apart : ∀ question ∈ asked, question.1.1 ≠ question.1.2
  /-- Of each pair there are the problems that the graph knows of, and then the answer. -/
  errors : r.errors = asked.flatMap fun question =>
    snap.graph.staticProblems question.1 ++ (question.2.map (externalProblem question.1)).toList
  /-- There is one problem from outside the graph for each question answered with a reason. -/
  external : r.errors.filter (·.issue = .externalConflict) =
    asked.filterMap fun question => question.2.map (externalProblem question.1)
  /-- Apart from these it is the report without an outside source. -/
  others : r.drop [.externalConflict] = snap.checkOwnConflicts snap.fandomId items

theorem checkOwnConflicts_own (snap : Snapshot) (items : List Item) :
    snap.checkOwnConflicts snap.fandomId items = .ofFindings
      ((pairs items.eraseDups).flatMap fun pair => snap.graph.staticConflicts pair.1 pair.2) := by
  simp [checkOwnConflicts, checkConflicts, Graph.conflictFindings, List.flatMap]

theorem answered_of_questions {asked : List Asked}
    (h : asked.map Prod.fst = pairs items.eraseDups) :
    snap.Answered items (.ofFindings (asked.flatMap snap.graph.pairConflicts)) asked where
  questions := h ▸ inPlaceOrder_pairs items.eraseDups
  length := by rw [← length_pairs, ← h, List.length_map]
  once := by
    have hOnce := nodup_sym2_pairs (nodup_eraseDups items)
    rw [← h, List.map_map] at hOnce
    exact hOnce
  apart := by
    intro question hMem
    have hPair : question.1 ∈ pairs items.eraseDups := h ▸ List.mem_map_of_mem hMem
    exact (mem_of_mem_pairs_eraseDups hPair).2.2
  errors := by
    show (asked.flatMap snap.graph.pairConflicts).filterMap Finding.problem? = _
    rw [List.filterMap_flatMap]
    exact List.flatMap_congr fun question _ => Graph.problems_pairConflicts question
  external := by
    show ((asked.flatMap snap.graph.pairConflicts).filterMap Finding.problem?).filter _ = _
    rw [List.filterMap_flatMap, List.filter_flatMap, List.filterMap_eq_flatMap_toList]
    exact List.flatMap_congr fun question _ => Graph.external_pairConflicts question
  others := by
    have hSame : SameBut [.externalConflict] (asked.flatMap snap.graph.pairConflicts)
        (asked.flatMap fun question =>
          snap.graph.staticConflicts question.1.1 question.1.2) :=
      SameBut.flatMap fun question _ => Graph.sameBut_pairConflicts question
    rw [hSame.drop_ofFindings, checkOwnConflicts_own, ← h, List.flatMap_map]
    apply Report.drop_eq_self
    intro f hf
    obtain ⟨question, -, hStatic⟩ := List.mem_flatMap.1 hf
    exact Graph.issue_staticConflicts hStatic

/-- A check for conflicts asks the outside source about each two of the distinct items once, in the
order of their places, and reports of each pair what the graph knows of and then what the answer is.
This is so whatever the source does, and keeping a record of the questions changes nothing. -/
theorem checkConflicts_asks {m : Type → Type} [Monad m] [LawfulMonad m] (snap : Snapshot)
    (ask : Item → Item → m (Option String)) (items : List Item) :
    ∃ run : m {o : Report × List Asked // snap.Answered items o.1 o.2},
      (snap.checkConflicts (noting ask) snap.fandomId items).run [] = Subtype.val <$> run ∧
      snap.checkConflicts ask snap.fandomId items = (fun o => o.1.1) <$> run := by
  let outcome (asked : {asked : List Asked // asked.map Prod.fst = pairs items.eraseDups}) :
      {o : Report × List Asked // snap.Answered items o.1 o.2} :=
    ⟨(.ofFindings (asked.1.flatMap snap.graph.pairConflicts), asked.1),
      answered_of_questions asked.2⟩
  obtain ⟨run, hRun⟩ := exists_mapM_asked ask (pairs items.eraseDups)
  refine ⟨outcome <$> run, ?_, ?_⟩
  · -- What is noted is what was asked, so that both come from one run of the questions.
    rw [checkConflicts, if_pos rfl, Graph.conflictFindings_eq_map]
    simp [run_mapM_noting, hRun, outcome]
  · rw [checkConflicts, if_pos rfl, Graph.conflictFindings_eq_map]
    simp [hRun, outcome]

/-- A source that finds fault with every second pair it is asked about. -/
def everySecond (_ _ : Item) : StateM Nat (Option String) := do
  modify (· + 1)
  return if (← get) % 2 = 0 then some "again" else none

def rivals : Snapshot := { graph := .rivalMoods, rules := [] }

/-- Two tags of an exclusive class, one of them twice, and one that is not in the graph. -/
def rivalItems : List Item := [⟨.tag, 2⟩, ⟨.tag, 404⟩, ⟨.tag, 1⟩, ⟨.tag, 2⟩]

/-- Three different items make three questions. What the graph knows of a pair comes first, and the
reason that the source gives after it. -/
theorem rivals_asked : LawfulMonad (StateM Nat) ∧
    ∃ r asked count,
      ((rivals.checkConflicts (noting everySecond) 1 rivalItems).run []).run 0 =
        ((r, asked), count) ∧
      rivals.Answered rivalItems r asked ∧
      asked = [((⟨.tag, 2⟩, ⟨.tag, 404⟩), none), ((⟨.tag, 2⟩, ⟨.tag, 1⟩), some "again"),
        ((⟨.tag, 404⟩, ⟨.tag, 1⟩), none)] ∧
      r.errors.map (·.issue) = [.mutualExclusionViolation, .externalConflict] := by
  obtain ⟨run, hRun, -⟩ := checkConflicts_asks rivals everySecond rivalItems
  have hOutcome := congrArg (fun x : StateM Nat _ => x.run 0) hRun
  refine ⟨inferInstance, (run.run 0).1.1.1, (run.run 0).1.1.2, (run.run 0).2, hOutcome,
    (run.run 0).1.2, ?_, ?_⟩
  · have hAsked : (((rivals.checkConflicts (noting everySecond) 1 rivalItems).run []).run 0).1.2 =
        [((⟨.tag, 2⟩, ⟨.tag, 404⟩), none), ((⟨.tag, 2⟩, ⟨.tag, 1⟩), some "again"),
          ((⟨.tag, 404⟩, ⟨.tag, 1⟩), none)] := by decide
    exact (congrArg (·.1.2) hOutcome).symm.trans hAsked
  · have hIssues : (((rivals.checkConflicts (noting everySecond) 1 rivalItems).run []).run
        0).1.1.errors.map (·.issue) = [.mutualExclusionViolation, .externalConflict] := by decide
    exact (congrArg (·.1.1.errors.map (·.issue)) hOutcome).symm.trans hIssues

end Snapshot

end StoryRules
