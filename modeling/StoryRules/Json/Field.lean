import StoryRules.Json

/-! Writing domain values as JSON and reading them back. A reader answers `none` for a value that
has not its form. Readers of records look their fields up by name, so they ignore the order of the
fields and every field they do not know; a field is required, may be left out in favour of a value
that it then has, or may be left out or null alike. -/

namespace StoryRules.Json

def ofInt64 (n : Int64) : Json := .int n.toInt

def ofInt32 (n : Int32) : Json := .int n.toInt

def ofUInt64 (n : UInt64) : Json := .int n.toNat

def ofNat (n : Nat) : Json := .int n

def ofList {α : Type} (write : α → Json) (as : List α) : Json := .arr (as.map write)

def ofOption {α : Type} (write : α → Json) : Option α → Json
  | none => .null
  | some a => write a

def intWithin? (low high : Int) : Json → Option Int
  | .int n => if low ≤ n ∧ n ≤ high then some n else none
  | _ => none

def int64? (j : Json) : Option Int64 :=
  (j.intWithin? Int64.minValue.toInt Int64.maxValue.toInt).map Int64.ofInt

def int32? (j : Json) : Option Int32 :=
  (j.intWithin? Int32.minValue.toInt Int32.maxValue.toInt).map Int32.ofInt

def uint64? (j : Json) : Option UInt64 :=
  (j.intWithin? 0 (UInt64.size - 1)).map fun n => UInt64.ofNat n.toNat

def bool? : Json → Option Bool
  | .bool b => some b
  | _ => none

def str? : Json → Option String
  | .str s => some s
  | _ => none

def list? {α : Type} (read : Json → Option α) : Json → Option (List α)
  | .arr values => values.mapM read
  | _ => none

/-- The member of `all` whose name the value is. -/
def oneOf? {α : Type} (name : α → String) (all : List α) : Json → Option α
  | .str s => all.find? fun a => name a == s
  | _ => none

def fields? : Json → Option Fields
  | .obj fields => some fields
  | _ => none

def isNull : Json → Bool
  | .null => true
  | _ => false

/-- The elements of an array; anything else has none. -/
def elements : Json → List Json
  | .arr values => values
  | _ => []

namespace Fields

variable {α : Type}

def get? (fields : Fields) (key : String) : Option Json := fields.lookup key

/-- The fields with `key` set to `value`, in the place of the old value if there is one. -/
def set (key : String) (value : Json) : Fields → Fields
  | [] => [(key, value)]
  | (key', old) :: rest =>
    if key' = key then (key, value) :: rest else (key', old) :: set key value rest

def required (fields : Fields) (key : String) (read : Json → Option α) : Option α :=
  (fields.get? key).bind read

/-- A field that is `default` when left out; null is a value like any other. -/
def optional (fields : Fields) (key : String) (read : Json → Option α) (default : α) : Option α :=
  match fields.get? key with
  | none => some default
  | some value => read value

/-- A field that may be left out or null, with the same meaning. -/
def nullable (fields : Fields) (key : String) (read : Json → Option α) : Option (Option α) :=
  match fields.get? key with
  | none | some .null => some none
  | some value => (read value).map some

def whenSome (key : String) (write : α → Json) : Option α → Fields
  | none => []
  | some a => [(key, write a)]

def whenNonempty (key : String) (write : α → Json) : List α → Fields
  | [] => []
  | as => [(key, ofList write as)]

end Fields

end StoryRules.Json
