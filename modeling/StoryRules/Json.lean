/-! JSON values as data: what content, rules and selections are read from and what reports are
written to. A number without fraction and exponent is an integer of any size; every other number
keeps its text, as nothing here computes with it. An object is the list of its fields in order. -/

namespace StoryRules

inductive Json where
  | null
  | bool (value : Bool)
  | int (value : Int)
  | decimal (text : String)
  | str (value : String)
  | arr (values : List Json)
  | obj (fields : List (String × Json))
  deriving Inhabited, Repr

namespace Json

abbrev Fields := List (String × Json)

mutual

/-- Whether two values are the same, fields in the same order. -/
def same : Json → Json → Bool
  | null, null => true
  | bool a, bool b => a == b
  | int a, int b => a == b
  | decimal a, decimal b => a == b
  | str a, str b => a == b
  | arr as, arr bs => sameValues as bs
  | obj as, obj bs => sameFields as bs
  | _, _ => false

def sameValues : List Json → List Json → Bool
  | [], [] => true
  | a :: as, b :: bs => same a b && sameValues as bs
  | _, _ => false

def sameFields : Fields → Fields → Bool
  | [], [] => true
  | (key, a) :: as, (key', b) :: bs => key == key' && same a b && sameFields as bs
  | _, _ => false

end

mutual

theorem eq_of_same : (a b : Json) → same a b = true → a = b
  | null, b, h => by cases b <;> simp_all [same]
  | bool _, b, h => by cases b <;> simp_all [same]
  | int _, b, h => by cases b <;> simp_all [same]
  | decimal _, b, h => by cases b <;> simp_all [same]
  | str _, b, h => by cases b <;> simp_all [same]
  | arr as, b, h => by
    cases b with
    | arr bs => rw [eq_of_sameValues as bs (by simpa [same] using h)]
    | _ => simp [same] at h
  | obj as, b, h => by
    cases b with
    | obj bs => rw [eq_of_sameFields as bs (by simpa [same] using h)]
    | _ => simp [same] at h

theorem eq_of_sameValues : (as bs : List Json) → sameValues as bs = true → as = bs
  | [], bs, h => by cases bs <;> simp_all [sameValues]
  | a :: as, bs, h => by
    cases bs with
    | nil => simp [sameValues] at h
    | cons b bs =>
      simp only [sameValues, Bool.and_eq_true] at h
      rw [eq_of_same a b h.1, eq_of_sameValues as bs h.2]

theorem eq_of_sameFields : (as bs : Fields) → sameFields as bs = true → as = bs
  | [], bs, h => by cases bs <;> simp_all [sameFields]
  | (key, a) :: as, bs, h => by
    cases bs with
    | nil => simp [sameFields] at h
    | cons field bs =>
      obtain ⟨key', b⟩ := field
      simp only [sameFields, Bool.and_eq_true, beq_iff_eq] at h
      rw [h.1.1, eq_of_same a b h.1.2, eq_of_sameFields as bs h.2]

end

mutual

theorem same_self : (a : Json) → same a a = true
  | null => rfl
  | bool _ | int _ | decimal _ | str _ => by simp [same]
  | arr as => by rw [same]; exact sameValues_self as
  | obj as => by rw [same]; exact sameFields_self as

theorem sameValues_self : (as : List Json) → sameValues as as = true
  | [] => rfl
  | a :: as => by simp [sameValues, same_self a, sameValues_self as]

theorem sameFields_self : (as : Fields) → sameFields as as = true
  | [] => rfl
  | (_, a) :: as => by simp [sameFields, same_self a, sameFields_self as]

end

theorem same_iff {a b : Json} : same a b = true ↔ a = b :=
  ⟨eq_of_same a b, fun h => h ▸ same_self a⟩

instance : DecidableEq Json := fun _ _ => decidable_of_iff _ same_iff

end Json

end StoryRules
