import Mathlib.Data.List.Nodup
import StoryRules.Distinct
import StoryRules.Table

/-! More about lists without repetitions, and about lists that are read off one. -/

namespace StoryRules

variable {α β γ : Type}

theorem eraseDups_filter [DecidableEq α] (p : α → Bool) (as : List α) :
    (as.filter p).eraseDups = as.eraseDups.filter p := by
  -- by length, since the recursion of `eraseDups` goes on with a filtered tail
  induction hLength : as.length using Nat.strongRecOn generalizing as with
  | _ n ih =>
    cases as with
    | nil => rfl
    | cons a as =>
      have hShorter : (as.filter fun b => !b == a).length < n := by
        have := List.length_filter_le (fun b => !b == a) as
        rw [List.length_cons] at hLength
        omega
      have hRest := ih _ hShorter (as.filter fun b => !b == a) rfl
      rw [List.filter_filter] at hRest
      rw [List.eraseDups_cons]
      by_cases hp : p a = true
      · rw [List.filter_cons_of_pos hp, List.filter_cons_of_pos hp, List.eraseDups_cons, ← hRest,
          List.filter_filter]
        simp only [Bool.and_comm]
      · have hSame : (as.filter fun b => p b && !b == a) = as.filter p :=
          List.filter_congr fun b _ => by
            cases hb : p b with
            | false => rfl
            | true =>
              have hNe : b ≠ a := by
                rintro rfl
                exact hp hb
              simp [hNe]
        rw [List.filter_cons_of_neg hp, List.filter_cons_of_neg hp, ← hRest, hSame]

theorem nodup_eraseDups [DecidableEq α] (as : List α) : as.eraseDups.Nodup := by
  induction as with
  | nil => exact List.nodup_nil
  | cons a as ih =>
    rw [List.eraseDups_cons, eraseDups_filter]
    exact List.nodup_cons.2 ⟨by simp, ih.filter _⟩

/-- The members that are kept stand in the order of their first places. -/
theorem pairwise_idxOf_eraseDups [DecidableEq α] (as : List α) :
    as.eraseDups.Pairwise fun a b => as.idxOf a < as.idxOf b := by
  induction as with
  | nil => exact .nil
  | cons a as ih =>
    rw [List.eraseDups_cons, eraseDups_filter, List.pairwise_cons]
    have hOther {b : α} (hb : b ∈ as.eraseDups.filter fun b => !b == a) :
        (a :: as).idxOf b = as.idxOf b + 1 := by
      have hNe : b ≠ a := by simpa using (List.mem_filter.1 hb).2
      exact List.idxOf_cons_ne as hNe.symm
    refine ⟨fun b hb => ?_, (ih.filter _).imp_of_mem fun hb hc hLt => ?_⟩
    · rw [List.idxOf_cons_self, hOther hb]
      exact Nat.succ_pos _
    · rw [hOther hb, hOther hc]
      exact Nat.succ_lt_succ hLt

theorem eraseDups_of_nodup [DecidableEq α] {as : List α} (h : as.Nodup) : as.eraseDups = as := by
  induction as with
  | nil => rfl
  | cons a as ih =>
    obtain ⟨hFresh, hRest⟩ := List.nodup_cons.1 h
    rw [List.eraseDups_cons, eraseDups_filter, ih hRest, List.filter_eq_self.2]
    intro b hb
    have hNe : b ≠ a := fun hEq => hFresh (hEq ▸ hb)
    simpa using hNe

/-- Without the repetitions a search comes upon the same member first. -/
theorem find?_eraseDups [DecidableEq α] (p : α → Bool) (as : List α) :
    as.eraseDups.find? p = as.find? p := by
  rw [← List.head?_filter, ← List.head?_filter, ← eraseDups_filter]
  cases as.filter p with
  | nil => rfl
  | cons a as =>
    rw [List.eraseDups_cons]
    rfl

/-- Of the members with a key, the first one is kept. -/
theorem find?_distinctOn [DecidableEq β] (f : α → β) (as : List α) (b : β) :
    ((distinctOn f as).find? fun a => f a = b) = as.find? fun a => f a = b := by
  induction as with
  | nil => rfl
  | cons a as ih =>
    rw [distinctOn, List.find?_cons, List.find?_cons]
    by_cases ha : f a = b
    · rw [decide_eq_true ha]
    · rw [decide_eq_false ha, List.find?_filter, ← ih]
      show List.find? _ _ = List.find? _ _
      congr 1
      funext c
      by_cases hc : f c = b
      · simp [hc, Ne.symm ha]
      · simp [hc]

theorem mem_distinctOn [DecidableEq β] {f : α → β} {as : List α} {a : α} :
    a ∈ distinctOn f as ↔ (as.find? fun b => f b = f a) = some a := by
  rw [← find?_distinctOn]
  constructor
  · intro ha
    have hFound : ((distinctOn f as).find? fun b => f b = f a).isSome = true :=
      List.find?_isSome.2 ⟨a, ha, decide_eq_true rfl⟩
    obtain ⟨b, hb⟩ := Option.isSome_iff_exists.1 hFound
    have hSame : f b = f a := by simpa using List.find?_some hb
    rw [hb, List.inj_on_of_nodup_map (nodup_map_distinctOn f as) (List.mem_of_find?_eq_some hb) ha
      hSame]
  · exact List.mem_of_find?_eq_some

/-- What is found by its key among what is read off a list, when it keeps the keys. -/
theorem find?_filterMap_key [DecidableEq γ] {f : α → Option β} {key : α → γ} {key' : β → γ}
    (hKey : ∀ a b, f a = some b → key' b = key a) {as : List α}
    (hInj : ∀ a ∈ as, ∀ b ∈ as, key a = key b → a = b) (c : γ) :
    ((as.filterMap f).find? fun b => key' b = c) = (as.find? fun a => key a = c).bind f := by
  induction as with
  | nil => rfl
  | cons a as ih =>
    have hRest := ih fun b hb c hc =>
      hInj b (List.mem_cons_of_mem a hb) c (List.mem_cons_of_mem a hc)
    rw [List.find?_cons]
    cases ha : f a with
    | some b =>
      rw [List.filterMap_cons_some ha, List.find?_cons, hKey a b ha]
      by_cases hc : key a = c
      · rw [decide_eq_true hc]
        exact ha.symm
      · rw [decide_eq_false hc]
        exact hRest
    | none =>
      rw [List.filterMap_cons_none ha, hRest]
      by_cases hc : key a = c
      · -- whatever later member has the key is the same one
        rw [decide_eq_true hc]
        cases hFound : as.find? fun a => key a = c with
        | none => exact ha.symm
        | some b =>
          have hSame : key b = c := by simpa using List.find?_some hFound
          have hMem := List.mem_cons_of_mem a (List.mem_of_find?_eq_some hFound)
          rw [hInj a List.mem_cons_self b hMem (hc.trans hSame.symm)]
      · rw [decide_eq_false hc]

theorem distinctOn_append [DecidableEq β] (f : α → β) (as bs : List α) :
    distinctOn f (as ++ bs) =
      distinctOn f as ++ (distinctOn f bs).filter fun b => f b ∉ as.map f := by
  induction as with
  | nil => simp [distinctOn]
  | cons a as ih =>
    rw [List.cons_append, distinctOn, distinctOn, ih, List.filter_append, List.filter_filter,
      List.cons_append]
    simp

theorem distinctOn_of_nodup [DecidableEq β] {f : α → β} {as : List α} (h : (as.map f).Nodup) :
    distinctOn f as = as := by
  induction as with
  | nil => rfl
  | cons a as ih =>
    obtain ⟨hFresh, hRest⟩ := List.nodup_cons.1 h
    rw [distinctOn, ih hRest, List.filter_eq_self.2]
    intro b hb
    have hNe : f b ≠ f a := fun hEq => hFresh (hEq ▸ List.mem_map_of_mem hb)
    simpa using hNe

theorem mem_map_distinctOn [DecidableEq β] {f : α → β} {as : List α} {b : β} :
    b ∈ (distinctOn f as).map f ↔ b ∈ as.map f := by
  simp only [List.mem_map]
  constructor
  · rintro ⟨a, ha, rfl⟩
    exact ⟨a, mem_of_mem_distinctOn ha, rfl⟩
  · rintro ⟨a, ha, rfl⟩
    exact exists_mem_distinctOn f ha

/-- The order of a list decides which members are kept, but not which keys they have. -/
theorem perm_map_distinctOn [DecidableEq β] (f : α → β) {as bs : List α} (h : as.Perm bs) :
    ((distinctOn f as).map f).Perm ((distinctOn f bs).map f) := by
  rw [List.perm_ext_iff_of_nodup (nodup_map_distinctOn f as) (nodup_map_distinctOn f bs)]
  intro b
  rw [mem_map_distinctOn, mem_map_distinctOn, (h.map f).mem_iff]

/-- The keys of what is read off a list, when it keeps the keys. -/
theorem map_filterMap_sublist {f : α → Option β} {key : α → γ} {key' : β → γ}
    (hKey : ∀ a b, f a = some b → key' b = key a) (as : List α) :
    ((as.filterMap f).map key').Sublist (as.map key) := by
  induction as with
  | nil => exact .slnil
  | cons a as ih =>
    cases ha : f a with
    | none =>
      rw [List.filterMap_cons_none ha]
      exact ih.cons _
    | some b =>
      rw [List.filterMap_cons_some ha, List.map_cons, hKey a b ha]
      exact ih.cons_cons _

theorem forall_mem_iff_of_forall₂ {R : α → β → Prop} {p : α → Prop} {q : β → Prop} {as : List α}
    {bs : List β} (h : List.Forall₂ R as bs) (hpq : ∀ a b, R a b → (p a ↔ q b)) :
    (∀ a ∈ as, p a) ↔ ∀ b ∈ bs, q b := by
  induction h with
  | nil => simp
  | cons hFirst _ ih => rw [List.forall_mem_cons, List.forall_mem_cons, hpq _ _ hFirst, ih]

theorem exists_mem_iff_of_forall₂ {R : α → β → Prop} {p : α → Prop} {q : β → Prop} {as : List α}
    {bs : List β} (h : List.Forall₂ R as bs) (hpq : ∀ a b, R a b → (p a ↔ q b)) :
    (∃ a ∈ as, p a) ↔ ∃ b ∈ bs, q b := by
  have hNone : (∀ a ∈ as, ¬p a) ↔ ∀ b ∈ bs, ¬q b :=
    forall_mem_iff_of_forall₂ h fun a b hab => not_congr (hpq a b hab)
  simpa using not_congr hNone

theorem flatMap_filter (p : α → Bool) (f : α → List β) (as : List α) :
    (as.filter p).flatMap f = as.flatMap fun a => if p a then f a else [] := by
  induction as with
  | nil => rfl
  | cons a as ih => cases h : p a <;> simp [h, ih]

/-- What is read off a list without repetitions of its keys tells what is read off each member. -/
theorem filterMap_inj {f f' : α → Option β} {key : α → γ} {key' : β → γ}
    (hKey : ∀ a b, f a = some b → key' b = key a) (hKey' : ∀ a b, f' a = some b → key' b = key a)
    {as : List α} (hNodup : (as.map key).Nodup) :
    as.filterMap f = as.filterMap f' ↔ ∀ a ∈ as, f a = f' a := by
  refine ⟨fun h => ?_, List.filterMap_congr⟩
  induction as with
  | nil => simp
  | cons a as ih =>
    obtain ⟨hFresh, hRest⟩ := List.nodup_cons.1 hNodup
    have hAbsent {h : α → Option β} (hh : ∀ a b, h a = some b → key' b = key a) {b : β}
        (hb : key' b = key a) : b ∉ as.filterMap h := fun hMem =>
      hFresh (hb ▸ (map_filterMap_sublist hh as).subset (List.mem_map_of_mem hMem))
    rw [List.filterMap_cons, List.filterMap_cons] at h
    rw [List.forall_mem_cons]
    cases ha : f a with
    | none =>
      cases ha' : f' a with
      | none => exact ⟨rfl, ih hRest (by simpa [ha, ha'] using h)⟩
      | some b' =>
        simp only [ha, ha'] at h
        exact absurd (h ▸ List.mem_cons_self) (hAbsent hKey (hKey' a b' ha'))
    | some b =>
      cases ha' : f' a with
      | none =>
        simp only [ha, ha'] at h
        exact absurd (h ▸ List.mem_cons_self) (hAbsent hKey' (hKey a b ha))
      | some b' =>
        simp only [ha, ha', List.cons.injEq] at h
        exact ⟨by rw [h.1], ih hRest h.2⟩

/-- In a list without repetitions of its keys, a key picks its one member out. -/
theorem filter_key_eq [DecidableEq β] {key : α → β} {as : List α} (h : (as.map key).Nodup) {a : α}
    (ha : a ∈ as) : (as.filter fun b => key b = key a) = [a] := by
  induction as with
  | nil => exact absurd ha List.not_mem_nil
  | cons c as ih =>
    obtain ⟨hFresh, hRest⟩ := List.nodup_cons.1 h
    rcases List.mem_cons.1 ha with rfl | ha
    · have hNone : (as.filter fun b => key b = key a) = [] :=
        List.filter_eq_nil_iff.2 fun b hb hSame =>
          hFresh (of_decide_eq_true hSame ▸ List.mem_map_of_mem hb)
      rw [List.filter_cons_of_pos (by simp), hNone]
    · have hOther : key c ≠ key a := fun hSame => hFresh (hSame ▸ List.mem_map_of_mem ha)
      rw [List.filter_cons_of_neg (by simpa using hOther), ih hRest ha]

theorem Table.nodup_ids [Keyed α] (t : Table α) : t.ids.Nodup := by
  rw [ids, List.nodup_iff_pairwise_ne, List.pairwise_map]
  exact t.ascending.imp fun hLt => Int64.ne_of_lt hLt

theorem Table.eq_of_key_eq [Keyed α] {t : Table α} {a b : α} (ha : a ∈ t.values)
    (hb : b ∈ t.values) (h : key a = key b) : a = b :=
  List.inj_on_of_nodup_map t.nodup_ids ha hb h

theorem Table.get?_eq_some [Keyed α] {t : Table α} {id : Ident} {a : α} :
    t.get? id = some a ↔ a ∈ t.values ∧ key a = id := by
  constructor
  · intro h
    exact ⟨List.mem_of_find?_eq_some h, by simpa using List.find?_some h⟩
  · rintro ⟨hMem, rfl⟩
    cases hGet : t.get? (key a) with
    | none => simpa using List.find?_eq_none.1 hGet a hMem
    | some b =>
      have hKey : key b = key a := by simpa using List.find?_some hGet
      rw [t.eq_of_key_eq (List.mem_of_find?_eq_some hGet) hMem hKey]

end StoryRules
