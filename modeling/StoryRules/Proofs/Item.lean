import StoryRules.Item
import StoryRules.Proofs.Json.Field

/-! Ids and items in their written form: which values are read as an id, and that an item is read as
it was written. -/

namespace StoryRules

open Json (Lawful Exact)

theorem Ident.lawful : Lawful Ident.toJson Ident.ofJson? := Json.lawful_int64

@[simp] theorem Ident.ofJson?_toJson (id : Ident) : Ident.ofJson? id.toJson = some id :=
  Ident.lawful.read_write id

@[simp] theorem Ident.listOfJson?_listToJson (ids : List Ident) :
    Ident.listOfJson? (Ident.listToJson ids) = some ids :=
  Ident.lawful.list.read_write ids

theorem Ident.exact : Exact Ident.toJson Ident.ofJson? := Json.exact_int64

theorem Ident.exact_list : Exact Ident.listToJson Ident.listOfJson? := Ident.exact.list

theorem Ident.ofJson?_eq_some {j : Json} {id : Ident} :
    Ident.ofJson? j = some id ↔ j = .int id.toInt :=
  Ident.exact.read_eq_some

theorem Kind.lawful : Lawful Kind.toJson Kind.ofJson? :=
  Json.lawful_oneOf (by decide) fun k => by cases k <;> decide

@[simp] theorem Kind.ofJson?_toJson (kind : Kind) : Kind.ofJson? kind.toJson = some kind :=
  Kind.lawful.read_write kind

@[simp] theorem Item.ofJson?_toJson (item : Item) : Item.ofJson? item.toJson = some item := by
  simp [Item.ofJson?, Item.toJson]

theorem Item.lawful : Lawful Item.toJson Item.ofJson? := ⟨Item.ofJson?_toJson, rfl⟩

end StoryRules
