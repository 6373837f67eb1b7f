import StoryRules.Proofs.Selection.Alike

/-! Repeated ids in a selection. Without them the same is present in the same order, and the same
ids are chosen. The greatest depth of a chosen plot block is the same too, since a block that comes
again is no deeper than before (`foldlM_eraseDups`). So a selection has the report of the selection
in which each id is chosen once. -/

namespace StoryRules

/-- The selection with each id chosen once, at the place of its first choice. -/
def Selection.distinct (s : Selection) : Selection :=
  { s with
    tags := s.tags.eraseDups
    plotBlocks := s.plotBlocks.eraseDups
    conditions := s.conditions.eraseDups }

theorem Selection.ids_distinct (s : Selection) (kind : Kind) :
    s.distinct.ids kind = (s.ids kind).eraseDups := by
  cases kind <;> rfl

theorem Selection.has_distinct (s : Selection) : s.distinct.has = s.has := by
  funext kind id
  rw [Bool.eq_iff_iff, has_iff, has_iff, ids_distinct, List.mem_eraseDups]

namespace Graph

variable {g : Graph} {depth : Nat}

theorem present_distinct (g : Graph) (s : Selection) (kind : Kind) :
    g.present s.distinct kind = g.present s kind := by
  rw [present, Selection.ids_distinct, eraseDups_of_nodup (nodup_eraseDups _), present]

/-- A block that is no deeper than the blocks before makes no difference when it comes again. -/
theorem foldlM_filter_ne {block : Ident} {known : Nat} (hKnown : g.depthOf block = .ok known)
    (hLe : known ≤ depth) (blocks : List Ident) :
    (blocks.filter fun other => !other == block).foldlM g.deeper depth =
      blocks.foldlM g.deeper depth := by
  induction blocks generalizing depth with
  | nil => rfl
  | cons other blocks ih =>
    by_cases hSame : other = block
    · have hStep : g.deeper depth block = .ok depth := by
        rw [deeper, hKnown]
        exact congrArg Except.ok (Nat.max_eq_left hLe)
      rw [hSame, List.filter_cons_of_neg (by simp), List.foldlM_cons, hStep, ih hLe]
      rfl
    · rw [List.filter_cons_of_pos (by simpa using hSame), List.foldlM_cons, List.foldlM_cons,
        deeper]
      cases g.depthOf other with
      | error fault => rfl
      | ok found => exact ih (hLe.trans (Nat.le_max_left depth found))

theorem foldlM_eraseDups (g : Graph) (depth : Nat) (blocks : List Ident) :
    blocks.eraseDups.foldlM g.deeper depth = blocks.foldlM g.deeper depth := by
  -- by length, since the recursion of `eraseDups` goes on with a filtered tail
  induction hLength : blocks.length using Nat.strongRecOn generalizing blocks depth with
  | _ n ih =>
    cases blocks with
    | nil => rfl
    | cons block blocks =>
      rw [List.eraseDups_cons, List.foldlM_cons, List.foldlM_cons, deeper]
      cases hKnown : g.depthOf block with
      | error fault => rfl
      | ok known =>
        have hShorter : (blocks.filter fun other => !other == block).length < n := by
          have := List.length_filter_le (fun other => !other == block) blocks
          rw [List.length_cons] at hLength
          omega
        have hRest := ih _ hShorter (max depth known) _ rfl
        exact hRest.trans (foldlM_filter_ne hKnown (Nat.le_max_right depth known) blocks)

theorem alike_distinct (g : Graph) (s : Selection) : g.Alike s.distinct s :=
  ⟨present_distinct g s, foldlM_eraseDups g 0 s.plotBlocks⟩

end Graph

namespace Snapshot

variable {snap : Snapshot}

theorem passFindings_distinct (hCompiled : snap.IsCompiled) (settings : Settings)
    (s : Selection) : snap.passFindings settings s.distinct = snap.passFindings settings s := by
  have hAlike := snap.graph.alike_distinct s
  have hClasses : snap.graph.classFindings s.distinct = snap.graph.classFindings s :=
    hAlike.classFindings rfl fun c _ _ =>
      ⟨fun _ _ id _ => by rw [s.has_distinct], fun _ _ id _ => by rw [s.has_distinct]⟩
  have hEnhancements : snap.graph.enhancements s.distinct = snap.graph.enhancements s := by
    rw [Graph.enhancements, hAlike.recommended, Graph.enabled_congr s.has_distinct,
      Graph.enhancements]
  simp only [passFindings, hAlike.checkRequirements, hClasses, hAlike.ruleFindings hCompiled,
    Graph.templateFindings_congr hAlike.isPresent, Graph.enhancementFindings, hEnhancements,
    hAlike.unlocks]

/-- Choosing an id again changes nothing in the report of a selection. -/
theorem validate_distinct (hCompiled : snap.IsCompiled) (settings : Settings) (s : Selection) :
    snap.validate settings s.distinct = snap.validate settings s := by
  rw [validate, validate, findings, findings, passFindings_distinct hCompiled]
  rfl

/-- A fandom with a class that admits one tag, a nested plot block and a rule about its depth. -/
def nestedFeud : Snapshot where
  graph := {
    fandomId := 1
    tags := (Table.empty.insert
      { id := 1, name := "first", category := "mood", fandomId := 1, classId := some 1 }).insert
      { id := 2, name := "second", category := "mood", fandomId := 1, classId := some 1 }
    tagClasses := Table.empty.insert
      { id := 1, name := "moods", rules.exclusion := some { withinClass := true } }
    plotBlocks := (Table.empty.insert
      { id := 1, name := "duel", category := "arc", fandomId := 1, parentId := some 2 }).insert
      { id := 2, name := "feud", category := "arc", fandomId := 1 } }
  rules := [Rule.compile {
    id := 1, name := "deep", severity := .warning
    conditions := [⟨.plotBlockDepth .equals 1, .and⟩]
    actions := [.showMessage (some "A block is nested") none] }]

def repeated : Selection :=
  { fandomId := 1, tags := [2, 1, 2], plotBlocks := [1, 1, 2, 1], conditions := [404, 404] }

theorem validate_repeated : repeated.distinct ≠ repeated ∧
    nestedFeud.validate {} repeated.distinct = nestedFeud.validate {} repeated := by
  have hCompiled : nestedFeud.IsCompiled := List.forall_mem_singleton.2 ⟨_, rfl⟩
  exact ⟨by decide, validate_distinct hCompiled {} repeated⟩

end Snapshot

end StoryRules
