import Mathlib.Data.List.Pairwise

/-! Lists put into ascending order of keys, so that members of one key keep their order. There is
only one such order of a list (`StablyOrdered.unique`), and another member finds its place in it
without moving the others (`StablyOrdered.insert`). -/

namespace StoryRules

variable {α : Type} {key : α → Int} {as bs bs' : List α} {a b : α}

/-- The members of `as` in ascending order of their keys, those of one key as they stand in `as`. -/
structure StablyOrdered (key : α → Int) (as bs : List α) : Prop where
  perm : bs.Perm as
  ascending : bs.Pairwise fun a b => key a ≤ key b
  stable : ∀ k, bs.filter (key · = k) = as.filter (key · = k)

theorem mem_of_filter_key_eq (h : ∀ k, as.filter (key · = k) = bs.filter (key · = k))
    (ha : a ∈ as) : a ∈ bs := by
  have hOwn : a ∈ as.filter (key · = key a) := List.mem_filter.2 ⟨ha, by simp⟩
  rw [h] at hOwn
  exact (List.mem_filter.1 hOwn).1

theorem key_le_of_mem_cons (h : (a :: as).Pairwise fun a b => key a ≤ key b) (hb : b ∈ a :: as) :
    key a ≤ key b := by
  rcases List.mem_cons.1 hb with rfl | hb
  · exact Int.le_refl _
  · exact (List.pairwise_cons.1 h).1 b hb

/-- Lists in ascending order are equal if they have the same members of each key. -/
theorem eq_of_filter_key_eq (has : as.Pairwise fun a b => key a ≤ key b)
    (hbs : bs.Pairwise fun a b => key a ≤ key b)
    (h : ∀ k, as.filter (key · = k) = bs.filter (key · = k)) : as = bs := by
  induction as generalizing bs with
  | nil =>
    cases bs with
    | nil => rfl
    | cons b bs =>
      have hNone := mem_of_filter_key_eq (fun k => (h k).symm) List.mem_cons_self
      exact absurd hNone List.not_mem_nil
  | cons a as ih =>
    cases bs with
    | nil => exact absurd (mem_of_filter_key_eq h List.mem_cons_self) List.not_mem_nil
    | cons b bs =>
      have hKey : key a = key b := by
        apply Int.le_antisymm
        · exact key_le_of_mem_cons has
            (mem_of_filter_key_eq (fun k => (h k).symm) List.mem_cons_self)
        · exact key_le_of_mem_cons hbs (mem_of_filter_key_eq h List.mem_cons_self)
      -- both heads are the first of their common key
      have hHead := h (key a)
      rw [List.filter_cons_of_pos (by simp), List.filter_cons_of_pos (by simp [hKey])] at hHead
      obtain ⟨rfl, -⟩ := List.cons.inj hHead
      rw [ih has.of_cons hbs.of_cons fun k => ?_]
      have hRest := h k
      by_cases hk : key a = k
      · rw [List.filter_cons_of_pos (by simpa using hk),
          List.filter_cons_of_pos (by simpa using hk)] at hRest
        exact (List.cons.inj hRest).2
      · rwa [List.filter_cons_of_neg (by simpa using hk),
          List.filter_cons_of_neg (by simpa using hk)] at hRest

/-- Where a property fails it fails of everything after, so it holds of a beginning. -/
theorem filter_append_filter_not {p : α → Bool}
    (h : as.Pairwise fun a b => p b = true → p a = true) :
    as.filter p ++ as.filter (!p ·) = as := by
  induction as with
  | nil => rfl
  | cons a as ih =>
    obtain ⟨hFirst, hRest⟩ := List.pairwise_cons.1 h
    by_cases hp : p a = true
    · rw [List.filter_cons_of_pos hp, List.filter_cons_of_neg (by simp [hp]), List.cons_append,
        ih hRest]
    · have hNone : as.filter p = [] :=
        List.filter_eq_nil_iff.2 fun b hb hpb => hp (hFirst b hb hpb)
      have hAll : as.filter (!p ·) = as := by
        have hIh := ih hRest
        rwa [hNone, List.nil_append] at hIh
      rw [List.filter_cons_of_neg hp, List.filter_cons_of_pos (by simp [hp]), hNone, hAll,
        List.nil_append]

/-- A list in ascending order is its members below a key, those of the key and those above it. -/
theorem filter_append_filter_append_filter (h : as.Pairwise fun a b => key a ≤ key b) (k : Int) :
    as.filter (key · < k) ++ (as.filter (key · = k) ++ as.filter (k < key ·)) = as := by
  have hBelow : as.Pairwise fun a b => decide (key b < k) = true → decide (key a < k) = true :=
    h.imp fun {a b} hLe => by simp only [decide_eq_true_eq]; omega
  have hUpTo : (as.filter fun a => !decide (key a < k)).Pairwise fun a b =>
      decide (key b ≤ k) = true → decide (key a ≤ k) = true :=
    (h.filter _).imp fun {a b} hLe => by simp only [decide_eq_true_eq]; omega
  have hLow := filter_append_filter_not hBelow
  have hHigh := filter_append_filter_not hUpTo
  rw [List.filter_filter, List.filter_filter] at hHigh
  have hOwn : as.filter (fun a => decide (key a ≤ k) && !decide (key a < k)) =
      as.filter (key · = k) := List.filter_congr fun a _ => by
    rw [Bool.eq_iff_iff]
    simp only [Bool.and_eq_true, Bool.not_eq_true', decide_eq_true_eq, decide_eq_false_iff_not]
    omega
  have hAbove : as.filter (fun a => (!decide (key a ≤ k)) && !decide (key a < k)) =
      as.filter (k < key ·) := List.filter_congr fun a _ => by
    rw [Bool.eq_iff_iff]
    simp only [Bool.and_eq_true, Bool.not_eq_true', decide_eq_true_eq, decide_eq_false_iff_not]
    omega
  rw [hOwn, hAbove] at hHigh
  rw [hHigh, hLow]

theorem stablyOrdered_mergeSort (key : α → Int) (as : List α) :
    StablyOrdered key as (as.mergeSort fun a b => key a ≤ key b) := by
  have hTrans (a b c : α) (h : decide (key a ≤ key b) = true) (h' : decide (key b ≤ key c) = true) :
      decide (key a ≤ key c) = true := by
    simp only [decide_eq_true_eq] at *
    omega
  have hTotal (a b : α) : (decide (key a ≤ key b) || decide (key b ≤ key a)) = true := by
    simp only [Bool.or_eq_true, decide_eq_true_eq]
    omega
  have hPerm := as.mergeSort_perm fun a b => decide (key a ≤ key b)
  refine ⟨hPerm, ?_, fun k => ?_⟩
  · exact (List.pairwise_mergeSort hTrans hTotal as).imp fun h => by simpa using h
  · have hSame : (as.filter (key · = k)).Pairwise fun a b => decide (key a ≤ key b) = true := by
      refine List.pairwise_of_forall_mem_list fun a ha b hb => ?_
      simp only [List.mem_filter, decide_eq_true_eq] at *
      omega
    have hSorted := List.sublist_mergeSort hTrans hTotal hSame List.filter_sublist
    have hKept := hSorted.filter (key · = k)
    rw [List.filter_filter] at hKept
    simp only [Bool.and_self] at hKept
    exact (hKept.eq_of_length (hPerm.filter _).length_eq.symm).symm

namespace StablyOrdered

theorem unique (h : StablyOrdered key as bs) (h' : StablyOrdered key as bs') : bs = bs' :=
  eq_of_filter_key_eq h.ascending h'.ascending fun k => (h.stable k).trans (h'.stable k).symm

/-- Around a key, the members of that key are parted as they stand before and after some place. -/
theorem exists_split {front back : List α} (h : StablyOrdered key (front ++ back) bs) (k : Int) :
    ∃ before after, bs = before ++ after ∧
      (∀ b ∈ before, key b ≤ k) ∧ (∀ b ∈ after, k ≤ key b) ∧
      before.filter (key · = k) = front.filter (key · = k) ∧
      after.filter (key · = k) = back.filter (key · = k) := by
  refine ⟨bs.filter (key · < k) ++ front.filter (key · = k),
    back.filter (key · = k) ++ bs.filter (k < key ·), ?_, ?_, ?_, ?_, ?_⟩
  · have hOwn := h.stable k
    rw [List.filter_append] at hOwn
    rw [List.append_assoc, ← List.append_assoc (front.filter _), ← hOwn]
    exact (filter_append_filter_append_filter h.ascending k).symm
  · intro b hb
    simp only [List.mem_append, List.mem_filter, decide_eq_true_eq] at hb
    omega
  · intro b hb
    simp only [List.mem_append, List.mem_filter, decide_eq_true_eq] at hb
    omega
  · have hLow : (bs.filter (key · < k)).filter (key · = k) = [] := by
      simp only [List.filter_eq_nil_iff, List.mem_filter, decide_eq_true_eq]
      omega
    rw [List.filter_append, hLow, List.nil_append, List.filter_filter]
    simp only [Bool.and_self]
  · have hHigh : (bs.filter (k < key ·)).filter (key · = k) = [] := by
      simp only [List.filter_eq_nil_iff, List.mem_filter, decide_eq_true_eq]
      omega
    rw [List.filter_append, hHigh, List.append_nil, List.filter_filter]
    simp only [Bool.and_self]

/-- Another member takes its place between those of its own key that stand before it and those that
stand after it. -/
theorem insert {front back : List α} (h : StablyOrdered key (front ++ back) bs) (a : α) :
    ∃ before after, bs = before ++ after ∧
      StablyOrdered key (front ++ a :: back) (before ++ a :: after) := by
  obtain ⟨before, after, rfl, hBefore, hAfter, hFront, hBack⟩ := h.exists_split (key a)
  refine ⟨before, after, rfl, ⟨?_, ?_, fun k => ?_⟩⟩
  · exact List.perm_middle.trans ((h.perm.cons a).trans List.perm_middle.symm)
  · obtain ⟨hFirst, hLast, hAcross⟩ := List.pairwise_append.1 h.ascending
    refine List.pairwise_append.2 ⟨hFirst, List.pairwise_cons.2 ⟨hAfter, hLast⟩, ?_⟩
    intro b hb c hc
    rcases List.mem_cons.1 hc with rfl | hc
    · exact hBefore b hb
    · exact hAcross b hb c hc
  · have hOthers := h.stable k
    rw [List.filter_append, List.filter_append] at hOthers ⊢
    by_cases hk : key a = k
    · subst hk
      rw [List.filter_cons_of_pos (by simp), List.filter_cons_of_pos (by simp), hFront, hBack]
    · rwa [List.filter_cons_of_neg (by simpa using hk), List.filter_cons_of_neg (by simpa using hk)]

end StablyOrdered

end StoryRules
