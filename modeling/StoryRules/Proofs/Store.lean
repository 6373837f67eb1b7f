import Mathlib.Data.Set.Card
import StoryRules.Proofs.Content
import StoryRules.Store

/-! What a store holds after any operations on it. For each fandom it is the snapshot that was
installed last, unless the fandom was removed since (`LastInstalled`): the operations on other
fandoms, and reloads of content that is refused, make no difference. Snapshots are installed for
the fandom of the snapshot or for that of the content it is built from; either way it is their own
(`owned_run`). -/

namespace StoryRules

theorem Snapshot.fandomId_of_ofContent {content : Content} {rules : List Rule} {snap : Snapshot}
    (h : Snapshot.ofContent content rules = .ok snap) : snap.fandomId = content.fandomId := by
  simp only [ofContent, bind_eq_ok, pure_eq_ok] at h
  obtain ⟨g, hGraph, rfl⟩ := h
  exact (Graph.ofContent_eq_ok.1 hGraph).2.fandomId

theorem Snapshot.ofContent_of_error {content : Content} {error : ContentError}
    (h : Graph.ofContent content = .error error) (rules : List Rule) :
    Snapshot.ofContent content rules = .error error := by
  rw [ofContent, h]
  rfl

namespace Store

inductive Operation where
  | get (fandom : Ident)
  | replace (snap : Snapshot)
  | reload (content : Content) (rules : List Rule)
  | remove (fandom : Ident)
  | size
  | isEmpty

namespace Operation

/-- The store after an operation. -/
def apply (store : Store) : Operation → Store
  | get _ | size | isEmpty => store
  | replace snap => (store.replace snap).2
  | reload content rules => (store.reload content rules).2
  | remove fandom => (store.remove fandom).2

/-- The fandom that an operation is about, if it is about one. -/
def fandom? : Operation → Option Ident
  | get fandom | remove fandom => some fandom
  | replace snap => some snap.fandomId
  | reload content _ => some content.fandomId
  | size | isEmpty => none

/-- The operation installs a snapshot for a fandom. A reload does if its content is accepted. -/
inductive Installs : Operation → Ident → Snapshot → Prop
  | replace (snap : Snapshot) : Installs (.replace snap) snap.fandomId snap
  | reload {content : Content} {rules : List Rule} {snap : Snapshot}
      (h : Snapshot.ofContent content rules = .ok snap) :
      Installs (.reload content rules) content.fandomId snap

/-- After the operation it does not matter what was installed for the fandom before. -/
def Settles (op : Operation) (fandom : Ident) : Prop :=
  op = .remove fandom ∨ ∃ snap, op.Installs fandom snap

end Operation

/-- The store after some operations, the first of them first. -/
def run (store : Store) (ops : List Operation) : Store := ops.foldl Operation.apply store

/-- The snapshot is the last one that the operations install for the fandom, and the fandom is not
removed since. -/
def LastInstalled (ops : List Operation) (fandom : Ident) (snap : Snapshot) : Prop :=
  ∃ before op after, ops = before ++ op :: after ∧ op.Installs fandom snap ∧
    ∀ later ∈ after, ¬later.Settles fandom

variable {store : Store} {op : Operation} {ops : List Operation} {fandom : Ident}
  {snap : Snapshot}

theorem lastInstalled_cons : LastInstalled (op :: ops) fandom snap ↔
    LastInstalled ops fandom snap ∨
      op.Installs fandom snap ∧ ∀ later ∈ ops, ¬later.Settles fandom := by
  constructor
  · rintro ⟨before, install, after, hOps, hInstalls, hLater⟩
    rcases List.cons_eq_append_iff.1 hOps with ⟨-, hAfter⟩ | ⟨before, -, rfl⟩
    · obtain ⟨rfl, rfl⟩ := List.cons.inj hAfter
      exact .inr ⟨hInstalls, hLater⟩
    · exact .inl ⟨before, install, after, rfl, hInstalls, hLater⟩
  · rintro (⟨before, install, after, rfl, hInstalls, hLater⟩ | ⟨hInstalls, hLater⟩)
    · exact ⟨op :: before, install, after, rfl, hInstalls, hLater⟩
    · exact ⟨[], op, ops, rfl, hInstalls, hLater⟩

/-! ### One operation -/

theorem snapshot?_insert {entry : Installed} : snapshot? (Table.insert store entry) fandom =
    if entry.fandom = fandom then some entry.snap else store.snapshot? fandom := by
  rw [snapshot?, Table.get?_insert, apply_ite (Option.map Installed.snap)]
  rfl

theorem snapshot?_erase {removed : Ident} : snapshot? (Table.erase store removed) fandom =
    if removed = fandom then none else store.snapshot? fandom := by
  rw [snapshot?, Table.get?_erase, apply_ite (Option.map Installed.snap)]
  rfl

theorem reload_of_ok {content : Content} {rules : List Rule}
    (h : Snapshot.ofContent content rules = .ok snap) : store.reload content rules =
      (.ok snap, Table.insert store ⟨content.fandomId, snap⟩) := by
  rw [reload, h]

theorem reload_of_error {content : Content} {rules : List Rule} {error : ContentError}
    (h : Snapshot.ofContent content rules = .error error) :
    store.reload content rules = (.error error, store) := by
  rw [reload, h]

theorem snapshot?_apply_of_installs (h : op.Installs fandom snap) :
    (op.apply store).snapshot? fandom = some snap := by
  cases h with
  | replace => exact snapshot?_insert.trans (if_pos rfl)
  | reload hOk =>
    rw [Operation.apply, reload_of_ok hOk]
    exact snapshot?_insert.trans (if_pos rfl)

theorem snapshot?_apply_of_not_settles (h : ¬op.Settles fandom) :
    (op.apply store).snapshot? fandom = store.snapshot? fandom := by
  cases op with
  | get | size | isEmpty => rfl
  | replace snap =>
    refine snapshot?_insert.trans (if_neg ?_)
    rintro rfl
    exact h (.inr ⟨snap, .replace snap⟩)
  | reload content rules =>
    cases hBuilt : Snapshot.ofContent content rules with
    | error error => rw [Operation.apply, reload_of_error hBuilt]
    | ok snap =>
      rw [Operation.apply, reload_of_ok hBuilt]
      refine snapshot?_insert.trans (if_neg ?_)
      rintro rfl
      exact h (.inr ⟨snap, .reload hBuilt⟩)
  | remove removed =>
    refine snapshot?_erase.trans (if_neg ?_)
    rintro rfl
    exact h (.inl rfl)

theorem snapshot?_apply_of_settles (h : op.Settles fandom) :
    (op.apply store).snapshot? fandom = some snap ↔ op.Installs fandom snap := by
  refine ⟨fun hSnap => ?_, snapshot?_apply_of_installs⟩
  rcases h with rfl | ⟨installed, hInstalls⟩
  · rw [Operation.apply, remove, snapshot?_erase, if_pos rfl] at hSnap
    cases hSnap
  · rw [snapshot?_apply_of_installs hInstalls] at hSnap
    exact Option.some.inj hSnap ▸ hInstalls

/-- What an operation settles it is about. -/
theorem Operation.Settles.fandom?_eq (h : op.Settles fandom) : op.fandom? = some fandom := by
  rcases h with rfl | ⟨snap, hInstalls⟩
  · rfl
  · cases hInstalls <;> rfl

/-- Each snapshot is installed for its own fandom. -/
def Owned (store : Store) : Prop := ∀ entry ∈ store.values, entry.snap.fandomId = entry.fandom

theorem owned_empty : Owned .empty := fun _ hEntry => absurd hEntry List.not_mem_nil

theorem owned_insert (h : store.Owned) {entry : Installed}
    (hEntry : entry.snap.fandomId = entry.fandom) : Owned (Table.insert store entry) := by
  intro other hOther
  rcases Table.mem_place hOther with rfl | hOther
  · exact hEntry
  · exact h other hOther

theorem owned_apply (h : store.Owned) (op : Operation) : (op.apply store).Owned := by
  cases op with
  | get | size | isEmpty => exact h
  | replace snap => exact owned_insert h rfl
  | reload content rules =>
    cases hBuilt : Snapshot.ofContent content rules with
    | error error =>
      rw [Operation.apply, reload_of_error hBuilt]
      exact h
    | ok snap =>
      rw [Operation.apply, reload_of_ok hBuilt]
      exact owned_insert h (Snapshot.fandomId_of_ofContent hBuilt)
  | remove fandom => exact fun entry hEntry => h entry (List.mem_filter.1 hEntry).1

/-! ### All operations -/

/-- By induction on the operations, for whatever is in the store before them. -/
theorem snapshot?_run (ops : List Operation) (store : Store) :
    (store.run ops).snapshot? fandom = some snap ↔ LastInstalled ops fandom snap ∨
      store.snapshot? fandom = some snap ∧ ∀ op ∈ ops, ¬op.Settles fandom := by
  induction ops generalizing store with
  | nil => simp [run, LastInstalled]
  | cons op ops ih =>
    rw [run, List.foldl_cons, ← run, ih, lastInstalled_cons, List.forall_mem_cons, or_assoc]
    refine or_congr_right ?_
    by_cases hSettles : op.Settles fandom
    · rw [snapshot?_apply_of_settles hSettles]
      simp [hSettles]
    · have hNot : ¬op.Installs fandom snap := fun hInstalls => hSettles (.inr ⟨snap, hInstalls⟩)
      rw [snapshot?_apply_of_not_settles hSettles]
      simp [hSettles, hNot]

theorem owned_run (h : store.Owned) (ops : List Operation) : (store.run ops).Owned :=
  List.foldlRecOn ops Operation.apply h fun _ hStore op _ => owned_apply hStore op

/-! ### Answers -/

theorem get_eq_ok : store.get fandom = .ok snap ↔ store.snapshot? fandom = some snap := by
  rw [get]
  cases store.snapshot? fandom <;> simp

theorem get_eq_error {error : SnapshotNotFound} :
    store.get fandom = .error error ↔ error = ⟨fandom⟩ ∧ store.snapshot? fandom = none := by
  rw [get]
  cases store.snapshot? fandom <;> simp [eq_comm]

theorem exists_snapshot?_iff : (∃ snap, store.snapshot? fandom = some snap) ↔
    fandom ∈ store.ids := by
  rw [Table.mem_ids, Table.contains, ← Option.isSome_iff_exists, snapshot?, Option.isSome_map]

theorem encard_fandoms (store : Store) :
    {fandom | ∃ snap, store.get fandom = .ok snap}.encard = store.size := by
  have hIds : {fandom | ∃ snap, store.get fandom = .ok snap} =
      (store.ids.toFinset : Set Ident) := by
    ext fandom
    simp only [get_eq_ok, exists_snapshot?_iff, Set.mem_ofPred_eq, List.coe_toFinset]
  rw [hIds, Set.encard_coe_eq_coe_finsetCard, List.toFinset_card_of_nodup store.nodup_ids,
    Table.ids, List.length_map, Table.size]

/-- What a store answers when all it remembers is what some operations installed. -/
structure Remembers (store : Store) (ops : List Operation) : Prop where
  get_ok : ∀ fandom snap, store.get fandom = .ok snap ↔ LastInstalled ops fandom snap
  get_error : ∀ fandom error, store.get fandom = .error error ↔
    error = ⟨fandom⟩ ∧ ∀ snap, ¬LastInstalled ops fandom snap
  reload_refused : ∀ content rules error, Graph.ofContent content = .error error →
    store.reload content rules = (.error error, store)
  reload_accepted : ∀ content rules snap, Snapshot.ofContent content rules = .ok snap →
    (store.reload content rules).1 = .ok snap
  replace : ∀ snap old, (store.replace snap).1 = some old ↔ LastInstalled ops snap.fandomId old
  remove : ∀ fandom old, (store.remove fandom).1 = some old ↔ LastInstalled ops fandom old
  others : ∀ (op : Operation) fandom, op.fandom? ≠ some fandom →
    (op.apply store).get fandom = store.get fandom
  size : {fandom | ∃ snap, store.get fandom = .ok snap}.encard = store.size
  isEmpty : store.isEmpty = true ↔ store.size = 0
  owned : ∀ entry ∈ store.values, entry.snap.fandomId = entry.fandom

/-- After any operations on an empty store, in any order and on any fandoms, the snapshot of a
fandom is the last one installed for it and not removed since. Content that is refused leaves the
store as it is; a replacement and a removal answer with the snapshot that was there; an operation
on one fandom leaves the others alone; the size counts the fandoms that have a snapshot; and each
snapshot is installed for its own fandom. -/
theorem run_remembers (ops : List Operation) : (run .empty ops).Remembers ops := by
  have hSnapshot (fandom : Ident) (snap : Snapshot) :
      (run .empty ops).snapshot? fandom = some snap ↔ LastInstalled ops fandom snap := by
    rw [snapshot?_run]
    simp [snapshot?, Table.get?, Table.empty]
  exact {
    get_ok := fun fandom snap => get_eq_ok.trans (hSnapshot fandom snap)
    get_error := fun fandom error => by
      rw [get_eq_error, Option.eq_none_iff_forall_ne_some]
      simp only [ne_eq, hSnapshot]
    reload_refused := fun content rules error hRefused =>
      reload_of_error (Snapshot.ofContent_of_error hRefused rules)
    reload_accepted := fun content rules snap hBuilt => by rw [reload_of_ok hBuilt]
    replace := fun snap => hSnapshot snap.fandomId
    remove := hSnapshot
    others := fun op fandom hOther => by
      rw [get, get, snapshot?_apply_of_not_settles fun hSettles => hOther hSettles.fandom?_eq]
    size := encard_fandoms _
    isEmpty := by rw [Store.isEmpty, Table.size, List.isEmpty_iff, List.length_eq_zero_iff]
    owned := owned_run owned_empty ops }

end Store

end StoryRules
