import Mathlib.Data.List.Nodup
import StoryRules.Json.Field

/-! Laws of reading what was written: of scalars, of lists and names, and of the fields of a record.
A record is read by looking its fields up, so each law about fields says what a look-up finds. -/

namespace StoryRules.Json

variable {α : Type} {write : α → Json} {read : Json → Option α}

/-- Whatever is written is read back as it was. Null is not read. -/
structure Lawful (write : α → Json) (read : Json → Option α) : Prop where
  read_write : ∀ a, read (write a) = some a
  read_null : read .null = none

/-- Whatever is written is read back as it was, and whatever is read at all is read as the same
again once it has been written. -/
structure Faithful (write : α → Json) (read : Json → Option α) : Prop where
  read_write : ∀ a, read (write a) = some a
  reread : ∀ j, ((read j).map write).bind read = read j

theorem Lawful.faithful (h : Lawful write read) : Faithful write read where
  read_write := h.read_write
  reread j := by
    cases hRead : read j with
    | none => rfl
    | some a => exact h.read_write a

/-- A value is read as what it is the written form of, and as nothing else. -/
structure Exact (write : α → Json) (read : Json → Option α) : Prop where
  read_eq_some : ∀ {j a}, read j = some a ↔ j = write a

theorem Lawful.exact (h : Lawful write read) (hRead : ∀ {j a}, read j = some a → j = write a) :
    Exact write read where
  read_eq_some {_ a} := ⟨hRead, fun hj => hj ▸ h.read_write a⟩

/-! ### Values -/

@[simp] theorem str?_str (s : String) : str? (.str s) = some s := rfl

@[simp] theorem bool?_bool (b : Bool) : bool? (.bool b) = some b := rfl

theorem lawful_str : Lawful .str str? := ⟨str?_str, rfl⟩

theorem intWithin?_int {low high n : Int} (hLow : low ≤ n) (hHigh : n ≤ high) :
    intWithin? low high (.int n) = some n :=
  if_pos ⟨hLow, hHigh⟩

theorem lawful_int64 : Lawful ofInt64 int64? where
  read_write n := by
    rw [ofInt64, int64?, intWithin?_int n.minValue_le_toInt n.toInt_le, Option.map_some,
      Int64.ofInt_toInt]
  read_null := rfl

theorem lawful_int32 : Lawful ofInt32 int32? where
  read_write n := by
    rw [ofInt32, int32?, intWithin?_int n.minValue_le_toInt n.toInt_le, Option.map_some,
      Int32.ofInt_toInt]
  read_null := rfl

theorem lawful_uint64 : Lawful ofUInt64 uint64? where
  read_write n := by
    have hLess : n.toNat < UInt64.size := n.toNat_lt
    rw [ofUInt64, uint64?, intWithin?_int (by omega) (by omega), Option.map_some,
      Int.toNat_natCast, UInt64.ofNat_toNat]
  read_null := rfl

/-- A list is read element by element. -/
theorem list?_ofList {as : List α} {f : α → α} (h : ∀ a ∈ as, read (write a) = some (f a)) :
    list? read (ofList write as) = some (as.map f) := by
  show (as.map write).mapM read = _
  induction as with
  | nil => rfl
  | cons a as ih =>
    obtain ⟨ha, hRest⟩ := List.forall_mem_cons.1 h
    simp [List.mapM_cons, ha, ih hRest]

theorem Lawful.list (h : Lawful write read) : Lawful (ofList write) (list? read) where
  read_write as := by
    have hElements : ∀ a ∈ as, read (write a) = some (id a) := fun a _ => h.read_write a
    simpa using list?_ofList hElements
  read_null := rfl

/-- Names that are all different tell the members of a list apart. -/
theorem oneOf?_name {name : α → String} {all : List α} (hNames : (all.map name).Nodup) {a : α}
    (ha : a ∈ all) : oneOf? name all (.str (name a)) = some a := by
  show all.find? (fun b => name b == name a) = some a
  cases hFind : all.find? fun b => name b == name a with
  | none => simpa using List.find?_eq_none.1 hFind a ha
  | some b =>
    have hSame : name b = name a := by simpa using List.find?_some hFind
    rw [List.inj_on_of_nodup_map hNames (List.mem_of_find?_eq_some hFind) ha hSame]

theorem lawful_oneOf {name : α → String} {all : List α} (hNames : (all.map name).Nodup)
    (hAll : ∀ a, a ∈ all) : Lawful (fun a => .str (name a)) (oneOf? name all) :=
  ⟨fun a => oneOf?_name hNames (hAll a), rfl⟩

/-- A value that may be null instead. -/
def orNull? (read : Json → Option α) : Json → Option (Option α)
  | .null => some none
  | j => (read j).map some

theorem Lawful.orNull?_write (h : Lawful write read) (a : α) :
    orNull? read (write a) = some (some a) := by
  have hValue : write a ≠ .null := by
    intro hNull
    have hSome := h.read_write a
    rw [hNull, h.read_null] at hSome
    cases hSome
  rw [orNull?, h.read_write, Option.map_some]
  exact hValue

theorem Lawful.orNull?_ofOption (h : Lawful write read) (o : Option α) :
    orNull? read (ofOption write o) = some o := by
  cases o with
  | none => rfl
  | some a => exact h.orNull?_write a

/-- A value that is left out when it is absent. -/
theorem Lawful.elim_orNull? (h : Lawful write read) (o : Option α) :
    o.elim (some none) (orNull? read ∘ write) = some o := by
  cases o with
  | none => rfl
  | some a => exact h.orNull?_write a

/-- A list that is left out when it is empty. -/
theorem Lawful.elim_ofList (h : Lawful write read) (as : List α) :
    (if as = [] then none else some (ofList write as)).elim (some []) (list? read) = some as := by
  by_cases hNone : as = []
  · rw [if_pos hNone, hNone]
    rfl
  · rw [if_neg hNone]
    exact h.list.read_write as

/-- Any value, which is null just as well when it is absent. -/
theorem elim_orNull?_some (o : Option Json) :
    o.elim (some none) (orNull? some) = some (if o = some .null then none else o) := by
  cases o with
  | none => rfl
  | some j => cases j <;> simp [orNull?]

/-! ### Values that are read from their written form alone -/

theorem exact_str : Exact .str str? where
  read_eq_some {j s} := by cases j <;> simp [str?]

theorem intWithin?_eq_some {low high n : Int} {j : Json} :
    intWithin? low high j = some n ↔ j = .int n ∧ low ≤ n ∧ n ≤ high := by
  cases j with
  | int m =>
    rw [intWithin?, Option.ite_none_right_eq_some, Option.some_inj, Json.int.injEq]
    constructor
    · rintro ⟨hWithin, rfl⟩
      exact ⟨rfl, hWithin⟩
    · rintro ⟨rfl, hWithin⟩
      exact ⟨hWithin, rfl⟩
  | _ => simp [intWithin?]

/-- Integers of a width, if each one within its bounds is that of a value. -/
theorem Lawful.exact_within {low high : Int} {toInt : α → Int} {ofInt : Int → α}
    (h : Lawful (fun a => .int (toInt a)) fun j => (j.intWithin? low high).map ofInt)
    (hBack : ∀ n, low ≤ n → n ≤ high → toInt (ofInt n) = n) :
    Exact (fun a => .int (toInt a)) fun j => (j.intWithin? low high).map ofInt := by
  refine h.exact fun {j a} hRead => ?_
  obtain ⟨n, hn, rfl⟩ := Option.map_eq_some_iff.1 hRead
  obtain ⟨rfl, hLow, hHigh⟩ := intWithin?_eq_some.1 hn
  rw [hBack n hLow hHigh]

theorem exact_int64 : Exact ofInt64 int64? := by
  refine lawful_int64.exact_within fun n hLow hHigh => ?_
  rw [Int64.toInt_minValue] at hLow
  rw [Int64.toInt_maxValue] at hHigh
  exact Int64.toInt_ofInt_of_le hLow (by omega)

theorem exact_int32 : Exact ofInt32 int32? := by
  refine lawful_int32.exact_within fun n hLow hHigh => ?_
  rw [Int32.toInt_minValue] at hLow
  rw [Int32.toInt_maxValue] at hHigh
  exact Int32.toInt_ofInt_of_le hLow (by omega)

theorem Lawful.exact_oneOf {name : α → String} {all : List α}
    (h : Lawful (fun a => .str (name a)) (oneOf? name all)) :
    Exact (fun a => .str (name a)) (oneOf? name all) := by
  refine h.exact fun {j a} hRead => ?_
  cases j with
  | str s =>
    have hName : name a = s := by simpa using List.find?_some hRead
    exact hName ▸ rfl
  | _ => simp [oneOf?] at hRead

theorem mapM_eq_some (h : Exact write read) {values : List Json} {as : List α} :
    values.mapM read = some as ↔ values = as.map write := by
  induction values generalizing as with
  | nil => simp [eq_comm]
  | cons j values ih =>
    cases as with
    | nil => simp [List.mapM_cons, Option.bind_eq_some_iff]
    | cons a as =>
      simp [List.mapM_cons, Option.bind_eq_some_iff, h.read_eq_some, ih]

theorem Exact.list (h : Exact write read) : Exact (ofList write) (list? read) where
  read_eq_some {j as} := by
    cases j with
    | arr values =>
      rw [ofList, Json.arr.injEq]
      exact mapM_eq_some h
    | _ => simp [list?, ofList]

/-- A value that may be null, if null is not read as anything else. -/
theorem Exact.orNull? (h : Exact write read) (hNull : read .null = none) :
    Exact (ofOption write) (orNull? read) where
  read_eq_some {j o} := by
    cases o with
    | none => cases j <;> simp [Json.orNull?, ofOption]
    | some a =>
      have hMap : (read j).map some = some (some a) ↔ j = write a := by simp [h.read_eq_some]
      cases j with
      | null =>
        have hValue : Json.null ≠ write a := by
          rw [Ne, ← h.read_eq_some, hNull]
          exact Option.some_ne_none a ∘ Eq.symm
        simpa [Json.orNull?, ofOption] using hValue
      | _ => exact hMap

/-! ### Fields -/

@[simp] theorem fields?_obj (fields : Fields) : fields? (.obj fields) = some fields := rfl

namespace Fields

variable {fields fields' : Fields} {key key' : String} {value : Json}

@[simp] theorem get?_nil : get? [] key = none := rfl

@[simp] theorem get?_cons : get? ((key', value) :: fields) key =
    if key = key' then some value else get? fields key := by
  rw [get?, List.lookup_cons]
  by_cases h : key = key'
  · simp [h]
  · rw [if_neg h, beq_false_of_ne h]
    rfl

@[simp] theorem get?_append :
    get? (fields ++ fields') key = (get? fields key).or (get? fields' key) := by
  simp [get?, List.lookup_append]

@[simp] theorem get?_whenSome {o : Option α} :
    get? (whenSome key' write o) key = if key = key' then o.map write else none := by
  cases o <;> simp [whenSome]

@[simp] theorem get?_whenNonempty {as : List α} : get? (whenNonempty key' write as) key =
    if key = key' then (if as = [] then none else some (ofList write as)) else none := by
  cases as <;> simp [whenNonempty]

@[simp] theorem required_eq : fields.required key read = (fields.get? key).bind read := rfl

@[simp] theorem optional_eq {default : α} :
    fields.optional key read default = (fields.get? key).elim (some default) read := by
  rw [optional]
  cases fields.get? key <;> rfl

@[simp] theorem nullable_eq :
    fields.nullable key read = (fields.get? key).elim (some none) (orNull? read) := by
  rw [nullable]
  cases fields.get? key with
  | none => rfl
  | some value => cases value <;> rfl

/-! ### Fields without a key twice -/

/-- A field is written out, or is left out and is `default`. -/
def HoldsOr (fields : Fields) (key : String) (write : α → Json) (default a : α) : Prop :=
  (key, write a) ∈ fields ∨ a = default ∧ ∀ value, (key, value) ∉ fields

/-- The same fields under some keys; the order, and the fields under other keys, do not matter. -/
def SameUnder (keys : List String) (fields fields' : Fields) : Prop :=
  ∀ key ∈ keys, ∀ value, (key, value) ∈ fields ↔ (key, value) ∈ fields'

theorem get?_eq_some (hKeys : (fields.map Prod.fst).Nodup) :
    get? fields key = some value ↔ (key, value) ∈ fields := by
  induction fields with
  | nil => simp
  | cons field fields ih =>
    obtain ⟨key', old⟩ := field
    obtain ⟨hNew, hRest⟩ := List.nodup_cons.1 hKeys
    rw [get?_cons, List.mem_cons, ← ih hRest, Prod.mk.injEq]
    by_cases h : key = key'
    · subst h
      have hOnce : get? fields key ≠ some value := fun hGet =>
        hNew (List.mem_map.2 ⟨_, (ih hRest).1 hGet, rfl⟩)
      simp [hOnce, eq_comm]
    · simp [h]

theorem get?_eq_none (hKeys : (fields.map Prod.fst).Nodup) :
    fields.get? key = none ↔ ∀ value, (key, value) ∉ fields := by
  rw [Option.eq_none_iff_forall_ne_some]
  exact forall_congr' fun value => not_congr (get?_eq_some hKeys)

theorem required_eq_some (hKeys : (fields.map Prod.fst).Nodup) (h : Exact write read) {a : α} :
    fields.required key read = some a ↔ (key, write a) ∈ fields := by
  rw [required_eq, Option.bind_eq_some_iff, ← get?_eq_some hKeys]
  simp [h.read_eq_some]

theorem optional_eq_some (hKeys : (fields.map Prod.fst).Nodup) (h : Exact write read)
    {default a : α} :
    fields.optional key read default = some a ↔ fields.HoldsOr key write default a := by
  rw [optional_eq, HoldsOr, ← get?_eq_some hKeys, ← get?_eq_none hKeys]
  cases fields.get? key with
  | none => simp [eq_comm]
  | some value => simp [h.read_eq_some]

theorem nullable_eq_some (hKeys : (fields.map Prod.fst).Nodup) (h : Exact write read)
    (hNull : read .null = none) {o : Option α} :
    fields.nullable key read = some o ↔ fields.HoldsOr key (ofOption write) none o := by
  rw [← optional_eq_some hKeys (h.orNull? hNull), nullable_eq, optional_eq]

section Bind

variable {β : Type} {f : α → Option β} {b : β}

theorem bind_required (hKeys : (fields.map Prod.fst).Nodup) (h : Exact write read) :
    (fields.required key read).bind f = some b ↔ ∃ a, (key, write a) ∈ fields ∧ f a = some b := by
  simp only [Option.bind_eq_some_iff, required_eq_some hKeys h]

theorem bind_optional (hKeys : (fields.map Prod.fst).Nodup) (h : Exact write read) {default : α} :
    (fields.optional key read default).bind f = some b ↔
      ∃ a, fields.HoldsOr key write default a ∧ f a = some b := by
  simp only [Option.bind_eq_some_iff, optional_eq_some hKeys h]

theorem bind_nullable (hKeys : (fields.map Prod.fst).Nodup) (h : Exact write read)
    (hNull : read .null = none) {f : Option α → Option β} :
    (fields.nullable key read).bind f = some b ↔
      ∃ o, fields.HoldsOr key (ofOption write) none o ∧ f o = some b := by
  simp only [Option.bind_eq_some_iff, nullable_eq_some hKeys h hNull]

end Bind

theorem SameUnder.get?_eq {keys : List String} (h : SameUnder keys fields fields')
    (hKeys : (fields.map Prod.fst).Nodup) (hKeys' : (fields'.map Prod.fst).Nodup)
    (hUsed : key ∈ keys) : fields.get? key = fields'.get? key := by
  ext value
  rw [get?_eq_some hKeys, get?_eq_some hKeys']
  exact h key hUsed value

end Fields

end StoryRules.Json
