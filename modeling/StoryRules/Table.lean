import StoryRules.Item

/-! Tables: the values of one type by their own id, in strictly ascending order of ids. A table
holds at most one value per id, and two tables with the same values are equal. -/

namespace StoryRules

/-- A type whose values carry the id they are stored under. -/
class Keyed (α : Type) where
  key : α → Ident

export Keyed (key)

structure Table (α : Type) [Keyed α] where
  values : List α
  ascending : values.Pairwise fun a b => key a < key b

namespace Table

variable {α : Type} [Keyed α]

/-- `values` with `a` in its place, instead of the value that had its id. -/
def place (a : α) : List α → List α
  | [] => [a]
  | b :: rest =>
    if key a < key b then a :: b :: rest
    else if key a = key b then a :: rest
    else b :: place a rest

theorem mem_place {a b : α} {values : List α} (h : b ∈ place a values) : b = a ∨ b ∈ values := by
  induction values with
  | nil => simpa [place] using h
  | cons c rest ih =>
    rw [place] at h
    split at h
    · simpa using h
    · split at h
      · exact (List.mem_cons.1 h).imp id (List.mem_cons_of_mem c)
      · rcases List.mem_cons.1 h with rfl | h
        · exact .inr List.mem_cons_self
        · exact (ih h).imp id (List.mem_cons_of_mem c)

theorem pairwise_place (a : α) {values : List α}
    (h : values.Pairwise fun a b => key a < key b) :
    (place a values).Pairwise fun a b => key a < key b := by
  induction values with
  | nil => simp [place]
  | cons b rest ih =>
    obtain ⟨hb, hRest⟩ := List.pairwise_cons.1 h
    rw [place]
    split
    · rename_i hab
      refine List.pairwise_cons.2 ⟨fun c hc => ?_, h⟩
      rcases List.mem_cons.1 hc with rfl | hc
      · exact hab
      · exact Int64.lt_trans hab (hb c hc)
    · rename_i hab
      split
      · rename_i heq
        exact List.pairwise_cons.2 ⟨fun c hc => heq ▸ hb c hc, hRest⟩
      · rename_i hne
        refine List.pairwise_cons.2 ⟨fun c hc => ?_, ih hRest⟩
        rcases mem_place hc with rfl | hc
        · exact Int64.lt_of_le_of_ne (Int64.not_lt.1 hab) (Ne.symm hne)
        · exact hb c hc

def empty : Table α := ⟨[], .nil⟩

def get? (t : Table α) (id : Ident) : Option α := t.values.find? fun a => key a == id

def contains (t : Table α) (id : Ident) : Bool := (t.get? id).isSome

def ids (t : Table α) : List Ident := t.values.map key

def size (t : Table α) : Nat := t.values.length

/-- Stores a value under its own id, in place of the value that was there. -/
def insert (t : Table α) (a : α) : Table α := ⟨place a t.values, pairwise_place a t.ascending⟩

def erase (t : Table α) (id : Ident) : Table α :=
  ⟨t.values.filter fun a => key a != id, t.ascending.filter _⟩

theorem mem_ids {t : Table α} {id : Ident} : id ∈ t.ids ↔ t.contains id = true := by
  simp [ids, contains, get?]

end Table

end StoryRules
