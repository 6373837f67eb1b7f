import Mathlib.Data.List.Sort
import StoryRules.Proofs.Distinct

/-! Tables as the collections of their values. A table is determined by which values it holds, and
so by its answers to look-ups; a value with a new id comes to those that are there. -/

namespace StoryRules

/-- Lists in ascending order of ids are equal if they have the same members. -/
theorem eq_of_ascending {α : Type} {key : α → Ident} {as bs : List α}
    (has : as.Pairwise fun a b => key a < key b) (hbs : bs.Pairwise fun a b => key a < key b)
    (h : ∀ a, a ∈ as ↔ a ∈ bs) : as = bs := by
  have : Std.Antisymm fun a b : α => key a < key b :=
    ⟨fun _ _ hab hba => absurd hba (Int64.lt_asymm hab)⟩
  have : Std.Irrefl fun a b : α => key a < key b := ⟨fun _ => Int64.lt_irrefl⟩
  exact has.eq_of_mem_iff hbs h

namespace Table

variable {α : Type} [Keyed α] {t t' : Table α} {a : α}

theorem pairwise_ids (t : Table α) : t.ids.Pairwise (· < ·) := List.pairwise_map.2 t.ascending

theorem get?_of_perm {as : List α} {id : Ident} (h : t.values.Perm as) :
    t.get? id = some a ↔ a ∈ as ∧ key a = id := by
  rw [get?_eq_some, h.mem_iff]

theorem mem_values_iff_get? : a ∈ t.values ↔ t.get? (key a) = some a := by
  rw [get?_eq_some]
  exact ⟨fun h => ⟨h, rfl⟩, And.left⟩

theorem eq_of_get?_eq (h : ∀ id, t.get? id = t'.get? id) : t = t' := by
  have hValues : t.values = t'.values := eq_of_ascending t.ascending t'.ascending fun a => by
    rw [mem_values_iff_get?, h, ← mem_values_iff_get?]
  cases t
  cases t'
  cases hValues
  rfl

theorem find?_cons_key {id : Ident} (a : α) (values : List α) : (a :: values).find? (key · == id) =
    if key a = id then some a else values.find? (key · == id) := by
  by_cases hId : key a = id
  · rw [List.find?_cons_of_pos (by simpa using hId), if_pos hId]
  · rw [List.find?_cons_of_neg (by simpa using hId), if_neg hId]

theorem find?_place {values : List α} {id : Ident} : (place a values).find? (key · == id) =
    if key a = id then some a else values.find? (key · == id) := by
  induction values with
  | nil => exact find?_cons_key a []
  | cons b rest ih =>
    rw [place]
    split
    · exact find?_cons_key a _
    · split
      · rename_i hSame
        rw [find?_cons_key, find?_cons_key, ← hSame]
        split <;> rfl
      · rename_i hOther
        rw [find?_cons_key, find?_cons_key, ih]
        by_cases hId : key b = id
        · rw [if_pos hId, if_neg fun hOwn => hOther (hOwn.trans hId.symm), if_pos hId]
        · rw [if_neg hId, if_neg hId]

theorem get?_insert {id : Ident} :
    (t.insert a).get? id = if key a = id then some a else t.get? id := find?_place

theorem get?_erase {id id' : Ident} :
    (t.erase id).get? id' = if id = id' then none else t.get? id' := by
  rw [get?, erase, List.find?_filter]
  by_cases hId : id = id'
  · subst hId
    simp
  · rw [if_neg hId, get?]
    congr 1
    funext a
    by_cases hOwn : key a = id' <;> simp [hOwn, Ne.symm hId]

theorem perm_place {values : List α} (h : key a ∉ values.map key) :
    (place a values).Perm (a :: values) := by
  induction values with
  | nil => exact .refl _
  | cons b rest ih =>
    obtain ⟨hNe, hRest⟩ := not_or.1 (fun hMem => h (List.mem_cons.2 hMem))
    rw [place, if_neg hNe]
    split
    · exact .refl _
    · exact ((ih hRest).cons b).trans (.swap a b rest)

theorem perm_insert (h : key a ∉ t.ids) : (t.insert a).values.Perm (a :: t.values) := perm_place h

end Table

end StoryRules
