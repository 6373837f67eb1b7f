import Mathlib.Data.List.Pairwise
import StoryRules.Conflict
import StoryRules.Proofs.TagClass

/-! The two checks of mutual exclusion. One goes through the classes of a selection's tags, the
other through the pairs of some items. `Excludes` is what both of them look for, a tag whose class
has a rule against another one. Over the same tags the pairs miss nothing that a class objects to
(`conflictReport_covers`); what they report beyond it are the tags of a class that lists one of its
own tags, or itself (`hasProblem_conflictReport_iff`). -/

namespace StoryRules

variable {α : Type}

/-- The pairs of a list are its sublists of length two. -/
theorem mem_pairs {as : List α} {a b : α} : (a, b) ∈ pairs as ↔ [a, b].Sublist as := by
  induction as with
  | nil => simp [pairs]
  | cons c as ih =>
    rw [pairs, List.mem_append, ih, List.sublist_cons_iff, or_comm]
    refine or_congr_right ?_
    constructor
    · intro h
      obtain ⟨b, hb, heq⟩ := List.mem_map.1 h
      obtain ⟨rfl, rfl⟩ := Prod.mk.inj heq
      exact ⟨[b], rfl, List.singleton_sublist.2 hb⟩
    · rintro ⟨rest, heq, hRest⟩
      obtain ⟨rfl, rfl⟩ := List.cons.inj heq
      exact List.mem_map_of_mem (List.singleton_sublist.1 hRest)

/-- Two different members of a list are a pair of it, in one order or the other. -/
theorem pair_sublist {as : List α} {a b : α} (ha : a ∈ as) (hb : b ∈ as) (hNe : a ≠ b) :
    [a, b].Sublist as ∨ [b, a].Sublist as := by
  let r (a b : α) : Prop := [a, b].Sublist as ∨ [b, a].Sublist as
  have : Std.Symm r := ⟨fun _ _ => Or.symm⟩
  have hAll : as.Pairwise r := List.pairwise_iff_forall_sublist.2 .inl
  exact hAll.forall ha hb hNe

theorem exists_pair_sublist {as : List α} (h : 1 < as.length) : ∃ a b, [a, b].Sublist as := by
  match as, h with
  | a :: b :: rest, _ =>
    exact ⟨a, b, (List.nil_sublist rest).cons_cons b |>.cons_cons a⟩

theorem mapM_fmap {m : Type → Type} [Monad m] [LawfulMonad m] {β γ : Type} (h : β → γ)
    (f : α → m β) (as : List α) : (as.mapM fun a => h <$> f a) = List.map h <$> as.mapM f := by
  induction as with
  | nil => simp
  | cons a as ih => simp [ih]

/-- The rule of the class `own` forbids `other` beside a tag of the class. -/
def MutualExclusion.Forbids (rule : MutualExclusion) (own : Ident) (other : Tag) : Issue → Prop
  | .mutualExclusionViolation => rule.withinClass = true ∧ other.classId = some own
  | .tagConflict => other.id ∈ rule.conflictingTags
  | .classConflict => ∃ id ∈ rule.conflictingClasses, other.classId = some id
  | _ => False

namespace Graph

variable {g : Graph} {issue : Issue} {x y : Tag} {f : Finding}

/-- The class of `owner` has a rule that forbids `other` beside it. -/
def Excludes (g : Graph) (issue : Issue) (owner other : Tag) : Prop :=
  ∃ c ∈ g.tagClasses.values, owner.classId = some c.id ∧
    ∃ rule ∈ c.rules.exclusion, rule.Forbids c.id other issue

/-! ### Pairs of items -/

theorem any_exclusionOf (p : MutualExclusion → Bool) : (g.exclusionOf x).any p = true ↔
    ∃ c ∈ g.tagClasses.values, x.classId = some c.id ∧
      ∃ rule ∈ c.rules.exclusion, p rule = true := by
  simp only [Option.any_eq_true, exclusionOf, Option.mem_def, Option.bind_eq_some_iff,
    Table.get?_eq_some]
  constructor
  · rintro ⟨rule, ⟨c, ⟨id, hId, hc, rfl⟩, hRule⟩, hp⟩
    exact ⟨c, hc, hId, rule, hRule, hp⟩
  · rintro ⟨c, hc, hId, rule, hRule, hp⟩
    exact ⟨rule, ⟨c, ⟨c.id, hId, hc, rfl⟩, hRule⟩, hp⟩

theorem excludes_within :
    g.Excludes .mutualExclusionViolation x y ↔ g.shareExclusiveClass x y = true := by
  rw [shareExclusiveClass, Bool.and_eq_true, beq_iff_eq, any_exclusionOf]
  constructor
  · rintro ⟨c, hc, hx, rule, hRule, hWithin, hy⟩
    exact ⟨hx.trans hy.symm, c, hc, hx, rule, hRule, hWithin⟩
  · rintro ⟨hSame, c, hc, hx, rule, hRule, hWithin⟩
    exact ⟨c, hc, hx, rule, hRule, hWithin, hSame ▸ hx⟩

theorem excludes_tag : g.Excludes .tagConflict x y ↔ g.excludesTag x y = true := by
  rw [excludesTag, any_exclusionOf]
  simp [Excludes, MutualExclusion.Forbids]

theorem excludes_class : g.Excludes .classConflict x y ↔ g.excludesClass x y = true := by
  rw [excludesClass, any_exclusionOf]
  simp [Excludes, MutualExclusion.Forbids, Option.any_eq_true, and_comm]

theorem Excludes.symm_within (h : g.Excludes .mutualExclusionViolation x y) :
    g.Excludes .mutualExclusionViolation y x := by
  obtain ⟨c, hc, hx, rule, hRule, hWithin, hy⟩ := h
  exact ⟨c, hc, hy, rule, hRule, hWithin, hx⟩

def tagPairProblem (issue : Issue) (message : String) (x y : Tag) : Finding :=
  pairProblem issue message (some (Kind.field .tag)) ⟨.tag, x.id⟩ ⟨.tag, y.id⟩

/-- Two tags conflict only if a rule of either's class forbids the other. -/
theorem excludes_of_mem_tagConflicts (hf : f ∈ g.tagConflicts x y) :
    g.Excludes f.issue x y ∨ g.Excludes f.issue y x := by
  simp only [tagConflicts, List.mem_append, List.mem_ite_nil_right, List.mem_singleton,
    Bool.or_eq_true] at hf
  rcases hf with (⟨hShared, rfl⟩ | ⟨hEither, rfl⟩) | ⟨hEither, rfl⟩
  · exact .inl (excludes_within.2 hShared)
  · exact hEither.imp excludes_tag.2 excludes_tag.2
  · exact hEither.imp excludes_class.2 excludes_class.2

theorem exists_mem_tagConflicts (h : g.Excludes issue x y ∨ g.Excludes issue y x) :
    ∃ message, tagPairProblem issue message x y ∈ g.tagConflicts x y := by
  simp only [tagConflicts, List.mem_append, List.mem_ite_nil_right, List.mem_singleton,
    Bool.or_eq_true]
  cases issue with
  | mutualExclusionViolation =>
    have hShared := excludes_within.1 (h.elim id Excludes.symm_within)
    exact ⟨_, .inl (.inl ⟨hShared, rfl⟩)⟩
  | tagConflict => exact ⟨_, .inl (.inr ⟨h.imp excludes_tag.1 excludes_tag.1, rfl⟩)⟩
  | classConflict => exact ⟨_, .inr ⟨h.imp excludes_class.1 excludes_class.1, rfl⟩⟩
  | _ =>
    obtain ⟨c, -, -, rule, -, hForbids⟩ | ⟨c, -, -, rule, -, hForbids⟩ := h
    all_goals exact hForbids.elim

/-- What is said of a pair of items for which the outside source has given its answer. -/
def pairConflicts (g : Graph) (asked : (Item × Item) × Option String) : List Finding :=
  g.staticConflicts asked.1.1 asked.1.2
    ++ (asked.2.map (externalConflict asked.1.1 asked.1.2)).toList

/-- The conflicts of some items depend on the outside source through its answers only. -/
theorem conflictFindings_eq_map {m : Type → Type} [Monad m] [LawfulMonad m] (g : Graph)
    (ask : Item → Item → m (Option String)) (items : List Item) :
    g.conflictFindings ask items = (·.flatMap g.pairConflicts) <$>
      (pairs items.eraseDups).mapM fun pair => Prod.mk pair <$> ask pair.1 pair.2 := by
  have hPair (pair : Item × Item) :
      (do return g.staticConflicts pair.1 pair.2
        ++ ((← ask pair.1 pair.2).map (externalConflict pair.1 pair.2)).toList) =
      g.pairConflicts <$> (Prod.mk pair <$> ask pair.1 pair.2) := by
    simp [pairConflicts]
  simp only [conflictFindings, hPair, mapM_fmap]
  simp [List.flatMap]

/-- The report of the conflicts that the graph knows of between some items. -/
def conflictReport (g : Graph) (items : List Item) : Report :=
  .ofFindings (Id.run (g.conflictFindings (fun _ _ => pure none) items))

theorem mem_errors_conflictReport {items : List Item} {p : Problem} :
    p ∈ (g.conflictReport items).errors ↔
      ∃ a b, [a, b].Sublist items.eraseDups ∧ .problem p ∈ g.staticConflicts a b := by
  rw [conflictReport, Report.mem_errors_ofFindings]
  simp [conflictFindings, mem_pairs]

theorem staticConflicts_tags (hx : x ∈ g.tags.values) (hy : y ∈ g.tags.values) :
    g.staticConflicts ⟨.tag, x.id⟩ ⟨.tag, y.id⟩ = g.tagConflicts x y := by
  have hGet {t : Tag} (ht : t ∈ g.tags.values) : g.tags.get? t.id = some t :=
    Table.get?_eq_some.2 ⟨ht, rfl⟩
  simp [staticConflicts, entity?, hGet hx, hGet hy]

theorem exists_tags_of_mem_staticConflicts {a b : Ident}
    (hf : f ∈ g.staticConflicts ⟨.tag, a⟩ ⟨.tag, b⟩) :
    ∃ x ∈ g.tags.values, ∃ y ∈ g.tags.values, x.id = a ∧ y.id = b ∧ f ∈ g.tagConflicts x y := by
  cases ha : g.tags.get? a with
  | none => simp [staticConflicts, entity?, ha] at hf
  | some x =>
    cases hb : g.tags.get? b with
    | none => simp [staticConflicts, entity?, ha, hb] at hf
    | some y =>
      obtain ⟨hx, rfl⟩ := Table.get?_eq_some.1 ha
      obtain ⟨hy, rfl⟩ := Table.get?_eq_some.1 hb
      exact ⟨x, hx, y, hy, rfl, rfl, staticConflicts_tags hx hy ▸ hf⟩

/-- Two different tags of the graph, both of them listed. -/
structure Together (g : Graph) (ids : List Ident) (x y : Tag) : Prop where
  left : x ∈ g.tags.values
  right : y ∈ g.tags.values
  left_mem : x.id ∈ ids
  right_mem : y.id ∈ ids
  ne : x.id ≠ y.id

variable {ids : List Ident}

theorem Together.symm (h : g.Together ids x y) : g.Together ids y x :=
  ⟨h.right, h.left, h.right_mem, h.left_mem, h.ne.symm⟩

/-- The pairs report only what a class forbids. -/
theorem exists_excludes_of_hasProblem
    (h : (g.conflictReport (ids.map (Item.mk .tag))).HasProblem issue) :
    ∃ x y, g.Together ids x y ∧ g.Excludes issue x y := by
  obtain ⟨p, hp, rfl⟩ := h
  obtain ⟨a, b, hPair, hp⟩ := mem_errors_conflictReport.1 hp
  have hNodup := (nodup_eraseDups (ids.map (Item.mk .tag))).sublist hPair
  have hListed {item : Item} (hItem : item ∈ [a, b]) : ∃ id ∈ ids, Item.mk .tag id = item :=
    List.mem_map.1 (List.mem_eraseDups.1 (hPair.subset hItem))
  obtain ⟨i, hi, rfl⟩ := hListed List.mem_cons_self
  obtain ⟨j, hj, rfl⟩ := hListed (.tail _ List.mem_cons_self)
  obtain ⟨x, hx, y, hy, rfl, rfl, hMem⟩ := exists_tags_of_mem_staticConflicts hp
  have hTogether : g.Together ids x y := ⟨hx, hy, hi, hj, by simpa using hNodup⟩
  rcases excludes_of_mem_tagConflicts hMem with hExcludes | hExcludes
  · exact ⟨x, y, hTogether, hExcludes⟩
  · exact ⟨y, x, hTogether.symm, hExcludes⟩

/-- What a class forbids, some pair reports. -/
theorem Together.exists_problem (h : g.Together ids x y) (hExcludes : g.Excludes issue x y) :
    ∃ p ∈ (g.conflictReport (ids.map (Item.mk .tag))).errors, p.issue = issue ∧
      ∃ a ∈ ids, ∃ b ∈ ids, a ≠ b ∧ p.affected = [a, b] := by
  have hItem {id : Ident} (hId : id ∈ ids) :
      Item.mk .tag id ∈ (ids.map (Item.mk .tag)).eraseDups :=
    List.mem_eraseDups.2 (List.mem_map_of_mem hId)
  have hProblem {x y : Tag} (h : g.Together ids x y)
      (hPair : [Item.mk .tag x.id, Item.mk .tag y.id].Sublist (ids.map (Item.mk .tag)).eraseDups)
      (hEither : g.Excludes issue x y ∨ g.Excludes issue y x) :
      ∃ p ∈ (g.conflictReport (ids.map (Item.mk .tag))).errors, p.issue = issue ∧
        ∃ a ∈ ids, ∃ b ∈ ids, a ≠ b ∧ p.affected = [a, b] := by
    obtain ⟨message, hMem⟩ := exists_mem_tagConflicts hEither
    rw [← staticConflicts_tags h.left h.right] at hMem
    exact ⟨_, mem_errors_conflictReport.2 ⟨_, _, hPair, hMem⟩, rfl, x.id, h.left_mem, y.id,
      h.right_mem, h.ne, rfl⟩
  rcases pair_sublist (hItem h.left_mem) (hItem h.right_mem) (by simpa using h.ne) with
    hPair | hPair
  · exact hProblem h hPair (.inl hExcludes)
  · exact hProblem h.symm hPair (.inr hExcludes)

/-- Some pair of the tags is a problem exactly if a class forbids one of them beside another. -/
theorem hasProblem_conflictReport_tags :
    (g.conflictReport (ids.map (Item.mk .tag))).HasProblem issue ↔
      ∃ x y, g.Together ids x y ∧ g.Excludes issue x y := by
  refine ⟨exists_excludes_of_hasProblem, ?_⟩
  rintro ⟨x, y, hTogether, hExcludes⟩
  obtain ⟨p, hp, hAbout, -⟩ := hTogether.exists_problem hExcludes
  exact ⟨p, hp, hAbout⟩

/-! ### Classes of a selection -/

variable {s : Selection}

theorem exists_tag_of_contains {id : Ident} (h : g.contains .tag id = true) :
    ∃ x ∈ g.tags.values, x.id = id :=
  List.mem_map.1 (mem_ids.2 h)

theorem together_of_members {own own' : Ident} (hx : x ∈ g.members s own)
    (hy : y ∈ g.members s own') (hNe : x.id ≠ y.id) : g.Together s.tags x y := by
  obtain ⟨hxTag, hxHas, -⟩ := mem_members.1 hx
  obtain ⟨hyTag, hyHas, -⟩ := mem_members.1 hy
  exact ⟨hxTag, hyTag, Selection.has_iff.1 hxHas, Selection.has_iff.1 hyHas, hNe⟩

/-- What a selection breaks of the rule of a class is between two of its tags, which are of
different classes unless the class admits a single tag. -/
theorem exists_excludes_of_breaks {c : TagClass} {rule : MutualExclusion}
    (hKnown : ∀ id ∈ s.tags, g.contains .tag id = true) (hc : c ∈ g.tagClasses.values)
    (hMembers : g.members s c.id ≠ []) (hRule : rule ∈ c.rules.exclusion)
    (hBreaks : (g.applied s c).Breaks rule issue) :
    ∃ x y, g.Together s.tags x y ∧ g.Excludes issue x y ∧
      (x.classId = y.classId → issue = .mutualExclusionViolation) := by
  obtain ⟨x, hx⟩ := List.exists_mem_of_ne_nil _ hMembers
  have hxClass : x.classId = some c.id := (mem_members.1 hx).2.2
  cases issue with
  | mutualExclusionViolation =>
    obtain ⟨hWithin, hMany⟩ := hBreaks
    obtain ⟨x, y, hPair⟩ := exists_pair_sublist hMany
    have hx : x ∈ g.members s c.id := hPair.subset List.mem_cons_self
    have hy : y ∈ g.members s c.id := hPair.subset (.tail _ List.mem_cons_self)
    have hNe : x.id ≠ y.id := by
      simpa using (g.nodup_members s c.id).sublist (hPair.map Tag.id)
    exact ⟨x, y, together_of_members hx hy hNe, ⟨c, hc, (mem_members.1 hx).2.2, rule, hRule,
      hWithin, (mem_members.1 hy).2.2⟩, fun _ => rfl⟩
  | tagConflict =>
    obtain ⟨id, hId, hOther, hHas⟩ := hBreaks
    obtain ⟨y, hy, rfl⟩ := exists_tag_of_contains (hKnown id (Selection.has_iff.1 hHas))
    have hNe : x.id ≠ y.id := fun heq => hOther (heq ▸ List.mem_map_of_mem hx)
    refine ⟨x, y, ⟨(mem_members.1 hx).1, hy, Selection.has_iff.1 (mem_members.1 hx).2.1,
      Selection.has_iff.1 hHas, hNe⟩, ⟨c, hc, hxClass, rule, hRule, hId⟩, fun hSame => ?_⟩
    have hOwn : y ∈ g.members s c.id := mem_members.2 ⟨hy, hHas, hSame ▸ hxClass⟩
    exact absurd (List.mem_map_of_mem hOwn) hOther
  | classConflict =>
    obtain ⟨id, hId, hNe, hOthers⟩ := hBreaks
    obtain ⟨y, hy⟩ := List.exists_mem_of_ne_nil _ hOthers
    have hyClass : y.classId = some id := (mem_members.1 hy).2.2
    have hApart : x.classId ≠ y.classId := fun hSame => hNe (by
      rw [hxClass, hyClass] at hSame
      exact (Option.some.inj hSame).symm)
    have hNeId : x.id ≠ y.id := fun heq => hApart (by
      rw [g.tags.eq_of_key_eq (mem_members.1 hx).1 (mem_members.1 hy).1 heq])
    exact ⟨x, y, together_of_members hx hy hNeId,
      ⟨c, hc, hxClass, rule, hRule, id, hId, hyClass⟩, fun hSame => absurd hSame hApart⟩
  | _ => exact hBreaks.elim

theorem breaks_of_excludes {c : TagClass} {rule : MutualExclusion}
    (hTogether : g.Together s.tags x y) (hx : x.classId = some c.id)
    (hForbids : rule.Forbids c.id y issue)
    (hOwn : x.classId = y.classId → issue = .mutualExclusionViolation) :
    (g.applied s c).Breaks rule issue := by
  have hyHas : s.has .tag y.id = true := Selection.has_iff.2 hTogether.right_mem
  cases issue with
  | mutualExclusionViolation =>
    obtain ⟨hWithin, hy⟩ := hForbids
    have hxMember : x ∈ g.members s c.id :=
      mem_members.2 ⟨hTogether.left, Selection.has_iff.2 hTogether.left_mem, hx⟩
    have hyMember : y ∈ g.members s c.id := mem_members.2 ⟨hTogether.right, hyHas, hy⟩
    have hNe : x ≠ y := fun heq => hTogether.ne (by rw [heq])
    rcases pair_sublist hxMember hyMember hNe with hPair | hPair
    · exact ⟨hWithin, hPair.length_le⟩
    · exact ⟨hWithin, hPair.length_le⟩
  | tagConflict =>
    refine ⟨y.id, hForbids, fun hMember => ?_, hyHas⟩
    obtain ⟨z, hz, hId⟩ := List.mem_map.1 hMember
    obtain ⟨hzTag, -, hzClass⟩ := mem_members.1 hz
    rw [g.tags.eq_of_key_eq hzTag hTogether.right hId] at hzClass
    exact absurd (hOwn (hx.trans hzClass.symm)) (by decide)
  | classConflict =>
    obtain ⟨id, hId, hy⟩ := hForbids
    refine ⟨id, hId, fun hSelf => ?_,
      List.ne_nil_of_mem (mem_members.2 ⟨hTogether.right, hyHas, hy⟩)⟩
    rw [hSelf] at hy
    exact absurd (hOwn (hx.trans hy.symm)) (by decide)
  | _ => exact hForbids.elim

/-- The classes report what one of them forbids between different classes, or within one that admits
a single tag. -/
theorem hasProblem_classReport_iff (hIssue : issue ∈ MutualExclusion.issues)
    (hKnown : ∀ id ∈ s.tags, g.contains .tag id = true) :
    (g.classReport s).HasProblem issue ↔ ∃ x y, g.Together s.tags x y ∧ g.Excludes issue x y ∧
      (x.classId = y.classId → issue = .mutualExclusionViolation) := by
  rw [hasProblem_classReport hIssue]
  constructor
  · rintro ⟨c, hc, hMembers, rule, hRule, hBreaks⟩
    exact exists_excludes_of_breaks hKnown hc hMembers hRule hBreaks
  · rintro ⟨x, y, hTogether, ⟨c, hc, hx, rule, hRule, hForbids⟩, hOwn⟩
    have hMember : x ∈ g.members s c.id :=
      mem_members.2 ⟨hTogether.left, Selection.has_iff.2 hTogether.left_mem, hx⟩
    exact ⟨c, hc, List.ne_nil_of_mem hMember, rule, hRule,
      breaks_of_excludes hTogether hx hForbids hOwn⟩

theorem Together.congr {ids' : List Ident} (h : g.Together ids x y)
    (hIds : ∀ id ∈ ids, id ∈ ids') : g.Together ids' x y :=
  ⟨h.left, h.right, hIds _ h.left_mem, hIds _ h.right_mem, h.ne⟩

/-- Whatever the classes object to about mutual exclusion in a selection of known tags, the check
of these tags as items reports for some pair of them. -/
theorem conflictReport_covers (hIssue : issue ∈ MutualExclusion.issues)
    (hKnown : ∀ id ∈ ids, g.contains .tag id = true) (hTags : ∀ id, id ∈ s.tags ↔ id ∈ ids)
    (h : (g.classReport s).HasProblem issue) :
    ∃ p ∈ (g.conflictReport (ids.map (Item.mk .tag))).errors, p.issue = issue ∧
      ∃ a ∈ ids, ∃ b ∈ ids, a ≠ b ∧ p.affected = [a, b] := by
  have hChosen : ∀ id ∈ s.tags, g.contains .tag id = true := fun id hId =>
    hKnown id ((hTags id).1 hId)
  obtain ⟨x, y, hTogether, hExcludes, -⟩ := (hasProblem_classReport_iff hIssue hChosen).1 h
  exact (hTogether.congr fun id => (hTags id).1).exists_problem hExcludes

/-- Two classes of tags, of which the first admits one tag only and excludes the second class. -/
def rivalMoods : Graph where
  fandomId := 1
  tags := ((Table.empty.insert
    { id := 1, name := "first", category := "mood", fandomId := 1, classId := some 1 }).insert
    { id := 2, name := "second", category := "mood", fandomId := 1, classId := some 1 }).insert
    { id := 3, name := "third", category := "mood", fandomId := 1, classId := some 2 }
  tagClasses := (Table.empty.insert
    { id := 1, name := "moods",
      rules.exclusion := some { withinClass := true, conflictingClasses := [2] } }).insert
    { id := 2, name := "tones" }

def threeMoods : Selection := { fandomId := 1, tags := [3, 1, 2, 1] }

theorem rivalMoods_covered : (rivalMoods.classReport threeMoods).HasProblem .classConflict ∧
    ∃ p ∈ (rivalMoods.conflictReport ([1, 2, 3].map (Item.mk .tag))).errors,
      p.issue = .classConflict ∧
      ∃ a ∈ [1, 2, 3], ∃ b ∈ [1, 2, 3], a ≠ b ∧ p.affected = [a, b] := by
  have hReported : (rivalMoods.classReport threeMoods).HasProblem .classConflict := by decide
  have hKnown : ∀ id ∈ [1, 2, 3], rivalMoods.contains .tag id = true := List.all_eq_true.1 rfl
  refine ⟨hReported, conflictReport_covers (by decide) hKnown (fun id => ?_) hReported⟩
  simp only [threeMoods, List.mem_cons, List.not_mem_nil, or_false]
  grind

/-- Two of the tags listed are in one class, which forbids the second beside the first although it
admits more than one tag. -/
def ListsOwn (g : Graph) (ids : List Ident) (issue : Issue) : Prop :=
  issue ≠ .mutualExclusionViolation ∧
    ∃ x y, g.Together ids x y ∧ x.classId = y.classId ∧ g.Excludes issue x y

/-- The check of known tags as items reports what the classes object to about mutual exclusion and,
beyond it, the tags of a class that excludes one of its own tags, or itself. -/
theorem hasProblem_conflictReport_iff (hIssue : issue ∈ MutualExclusion.issues)
    (hKnown : ∀ id ∈ ids, g.contains .tag id = true) (hTags : ∀ id, id ∈ s.tags ↔ id ∈ ids) :
    (g.conflictReport (ids.map (Item.mk .tag))).HasProblem issue ↔
      (g.classReport s).HasProblem issue ∨ g.ListsOwn ids issue := by
  have hChosen : ∀ id ∈ s.tags, g.contains .tag id = true := fun id hId =>
    hKnown id ((hTags id).1 hId)
  rw [hasProblem_classReport_iff hIssue hChosen, hasProblem_conflictReport_tags]
  constructor
  · rintro ⟨x, y, hTogether, hExcludes⟩
    by_cases hOwn : issue ≠ .mutualExclusionViolation ∧ x.classId = y.classId
    · exact .inr ⟨hOwn.1, x, y, hTogether, hOwn.2, hExcludes⟩
    · refine .inl ⟨x, y, hTogether.congr fun id => (hTags id).2, hExcludes, fun hSame => ?_⟩
      exact not_not.1 fun hOther => hOwn ⟨hOther, hSame⟩
  · rintro (⟨x, y, hTogether, hExcludes, -⟩ | ⟨-, x, y, hTogether, -, hExcludes⟩)
    · exact ⟨x, y, hTogether.congr fun id => (hTags id).1, hExcludes⟩
    · exact ⟨x, y, hTogether, hExcludes⟩

/-- A class that excludes one of its own tags, and itself. -/
def selfExcluding : Graph where
  fandomId := 1
  tags := (Table.empty.insert
    { id := 1, name := "first", category := "mood", fandomId := 1, classId := some 1 }).insert
    { id := 2, name := "second", category := "mood", fandomId := 1, classId := some 1 }
  tagClasses := Table.empty.insert
    { id := 1, name := "moods",
      rules.exclusion := some { conflictingTags := [2], conflictingClasses := [1] } }

def bothMoods : Selection := { fandomId := 1, tags := [1, 2] }

theorem selfExcluding_reported : (∀ id ∈ [1, 2], selfExcluding.contains .tag id = true) ∧
    ((selfExcluding.conflictReport ([1, 2].map (Item.mk .tag))).HasProblem .tagConflict ↔
      (selfExcluding.classReport bothMoods).HasProblem .tagConflict ∨
        selfExcluding.ListsOwn [1, 2] .tagConflict) := by
  have hKnown : ∀ id ∈ [1, 2], selfExcluding.contains .tag id = true := List.all_eq_true.1 rfl
  exact ⟨hKnown, hasProblem_conflictReport_iff (by decide) hKnown fun _ => Iff.rfl⟩

/-- The classes have no objection to the two tags, and the pair of them is a conflict twice. -/
theorem selfExcluding_disagrees :
    ((selfExcluding.conflictReport ([1, 2].map (Item.mk .tag))).HasProblem .tagConflict ∧
      ¬(selfExcluding.classReport bothMoods).HasProblem .tagConflict) ∧
    (selfExcluding.conflictReport ([1, 2].map (Item.mk .tag))).HasProblem .classConflict ∧
      ¬(selfExcluding.classReport bothMoods).HasProblem .classConflict := by
  decide

end Graph

end StoryRules
