import RecordStore.Deletion.Apply
import RecordStore.Integrity.Check

namespace RecordStore

/-! Deleting and restoring records. Each looks at the store first and commits
later; the commit looks again, and repeats a check if the store has changed in
between. -/

def checkVersion (entity id : String) (expected : Option UInt64)
    (current : UInt64) : Except StoreError Unit :=
  if expected = some current then .ok ()
  else .error (.versionConflict entity id current)

structure Deletion where
  entity : String
  id : String
  /-- The version to be deleted; any if none is given. -/
  expected : Option UInt64 := none
deriving Inhabited

structure PlannedDeletion where
  deletion : Deletion
  plan : DeletePlan
  epoch : Nat

structure Deleted where
  record : Record
  cascade : Cascade
deriving DecidableEq, Inhabited

namespace Deletion

def checkTarget (deletion : Deletion) (store : Store) :
    Except StoreError Unit := do
  let record ← store.liveRecord deletion.entity deletion.id
  if deletion.expected.isSome then
    checkVersion deletion.entity deletion.id deletion.expected record.version

def read (deletion : Deletion) (store : Store) :
    Except StoreError PlannedDeletion := do
  deletion.checkTarget store
  let plan ← store.planDelete deletion.entity deletion.id
  pure ⟨deletion, plan, store.epoch⟩

end Deletion

namespace PlannedDeletion

/-- The plan as it stands, or a new one if anything has been committed since. -/
def currentPlan (planned : PlannedDeletion) (store : Store) :
    Except StoreError DeletePlan := do
  planned.deletion.checkTarget store
  if store.epoch = planned.epoch then pure planned.plan
  else store.planDelete planned.deletion.entity planned.deletion.id

def commit (planned : PlannedDeletion) (store : Store) (now : Instant) :
    Store × Except StoreError Deleted :=
  match planned.currentPlan store with
  | .error error => (store, .error error)
  | .ok plan =>
    match plan.apply store now with
    | (store, some record) => (store, .ok ⟨record, plan.cascade⟩)
    | (store, none) =>
      (store, .error (.notFound planned.deletion.entity planned.deletion.id))

end PlannedDeletion

def Deletion.run (deletion : Deletion) (store : Store) (now : Instant) :
    Store × Except StoreError Deleted :=
  match deletion.read store with
  | .error error => (store, .error error)
  | .ok planned => planned.commit store now

structure Restoration where
  entity : String
  id : String
deriving Inhabited

/-- A live record needs no restoring; a deleted one is restored if the epoch is
still the same or its values are still unique. -/
inductive PlannedRestoration where
  | alreadyLive (record : Record)
  | checked (restoration : Restoration) (epoch : Nat)

namespace Restoration

def stored (restoration : Restoration) (store : Store) :
    Except StoreError Record :=
  store.storedRecord restoration.entity restoration.id

def checkUnique (restoration : Restoration) (store : Store) (record : Record) :
    Except StoreError Unit := do
  let entity ← store.entity restoration.entity
  store.checkUniqueness entity (some record.id) record.attributes

def read (restoration : Restoration) (store : Store) :
    Except StoreError PlannedRestoration := do
  let record ← restoration.stored store
  if record.isLive then pure (.alreadyLive record)
  else
    restoration.checkUnique store record
    pure (.checked restoration store.epoch)

def current (restoration : Restoration) (epoch : Nat) (store : Store) :
    Except StoreError Record := do
  let record ← restoration.stored store
  if !record.isLive && store.epoch ≠ epoch then
    restoration.checkUnique store record
  pure record

end Restoration

def Record.restore (record : Record) (now : Instant) : Record :=
  { record with deleted := false }.touch now

def PlannedRestoration.commit (planned : PlannedRestoration) (store : Store)
    (now : Instant) : Store × Except StoreError Record :=
  match planned with
  | .alreadyLive record => (store, .ok record)
  | .checked restoration epoch =>
    match restoration.current epoch store with
    | .error error => (store, .error error)
    | .ok record =>
      if record.isLive then (store, .ok record)
      else
        let record := record.restore now
        ((store.put record).commit, .ok record)

def Restoration.run (restoration : Restoration) (store : Store)
    (now : Instant) : Store × Except StoreError Record :=
  match restoration.read store with
  | .error error => (store, .error error)
  | .ok planned => planned.commit store now

end RecordStore
