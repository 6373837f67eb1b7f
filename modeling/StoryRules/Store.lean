import StoryRules.Snapshot

/-! The store of snapshots: the last one installed for each fandom. -/

namespace StoryRules

/-- A snapshot and the fandom for which it is installed. -/
structure Installed where
  fandom : Ident
  snap : Snapshot

instance : Keyed Installed := ⟨Installed.fandom⟩

abbrev Store := Table Installed

structure SnapshotNotFound where
  fandom : Ident
  deriving DecidableEq, Repr

def SnapshotNotFound.message (e : SnapshotNotFound) : String :=
  s!"Entity not found: FandomSnapshot with id {e.fandom}"

namespace Store

def snapshot? (store : Store) (fandom : Ident) : Option Snapshot :=
  (Table.get? store fandom).map Installed.snap

def get (store : Store) (fandom : Ident) : Except SnapshotNotFound Snapshot :=
  match store.snapshot? fandom with
  | some snap => .ok snap
  | none => .error ⟨fandom⟩

/-- Installs a snapshot for its fandom; also answers with the one it replaces. -/
def replace (store : Store) (snap : Snapshot) : Option Snapshot × Store :=
  (store.snapshot? snap.fandomId, Table.insert store ⟨snap.fandomId, snap⟩)

/-- Installs the snapshot of new content for the content's fandom; content that is refused leaves
the store as it is. -/
def reload (store : Store) (content : Content) (rules : List Rule) :
    Except ContentError Snapshot × Store :=
  match Snapshot.ofContent content rules with
  | .ok snap => (.ok snap, Table.insert store ⟨content.fandomId, snap⟩)
  | .error e => (.error e, store)

/-- Drops the snapshot of a fandom; also answers with the one dropped. -/
def remove (store : Store) (fandom : Ident) : Option Snapshot × Store :=
  (store.snapshot? fandom, Table.erase store fandom)

def isEmpty (store : Store) : Bool := store.values.isEmpty

end Store

end StoryRules
