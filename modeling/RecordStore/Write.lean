import RecordStore.Deletion.Delete
import RecordStore.Payload.Check

namespace RecordStore

/-! Creating, replacing and patching records, in three steps between which other
writes may commit: reading, checking, and committing. The commit repeats the
checks on the store as it is then, unless nothing has been committed since the
reading. -/

inductive Goal where
  | create
  | replace (id : String) (expected : Option UInt64)
  | patch (id : String) (expected : Option UInt64)
deriving DecidableEq, Inhabited

namespace Goal

def mode : Goal → WriteMode
  | .create => .create
  | .replace .. => .replace
  | .patch .. => .patch

def id? : Goal → Option String
  | .create => none
  | .replace id _ => some id
  | .patch id _ => some id

def expected? : Goal → Option UInt64
  | .create => none
  | .replace _ expected => expected
  | .patch _ expected => expected

end Goal

structure Write where
  entity : String
  goal : Goal
  payload : Payload
deriving Inhabited

/-- A write that has been admitted, with what was read for it. -/
structure Draft where
  entity : String
  goal : Goal
  /-- The payload without its version hint. -/
  payload : Payload
  /-- The version the record must still have; the request goes before the hint
  of the payload. -/
  expected : Option UInt64
  schema : Schema
  generation : Nat
  epoch : Nat
  definition : Entity
  current : Attributes

namespace Write

/-- Reads schema and record, refuses protected fields, and compares the
version. -/
def read (write : Write) (store : Store) : Except StoreError Draft := do
  let definition ← store.entity write.entity
  let hint ← write.payload.checkProtected definition
  let expected := write.goal.expected?.or hint
  let current ← match write.goal.id? with
    | none => pure ∅
    | some id => do
      let record ← store.liveRecord write.entity id
      checkVersion write.entity id expected record.version
      pure record.attributes
  pure {
    entity := write.entity
    goal := write.goal
    payload := write.payload.withoutVersion
    expected
    schema := store.schema
    generation := store.generation
    epoch := store.epoch
    definition
    current := if write.goal.mode = .patch then current else ∅ }

end Write

structure CheckedWrite where
  draft : Draft
  attributes : Attributes

namespace Draft

def attributes (draft : Draft) : Except StoreError Attributes :=
  draft.payload.check draft.schema draft.definition draft.goal.mode
    draft.current

/-- Checks the payload by the schema that was read, and other records as they
are now. -/
def check (draft : Draft) (settings : Settings) (store : Store) :
    Except StoreError CheckedWrite := do
  let attributes ← draft.attributes
  store.checkIntegrity settings draft.schema draft.definition draft.goal.id?
    attributes
  pure ⟨draft, attributes⟩

end Draft

namespace CheckedWrite

/-- The attributes to be written: those already checked, if nothing has been
committed since; else they are checked once more, and the payload too if the
schema is another. -/
def recheck (checked : CheckedWrite) (settings : Settings) (store : Store) :
    Except StoreError Attributes := do
  let draft := checked.draft
  if store.epoch = draft.epoch ∧ store.generation = draft.generation then
    pure checked.attributes
  else
    let definition ← store.entity draft.entity
    let attributes ←
      if store.generation = draft.generation then pure checked.attributes
      else
        draft.payload.check store.schema definition draft.goal.mode
          draft.current
    store.checkIntegrity settings store.schema definition draft.goal.id?
      attributes
    pure attributes

def result (checked : CheckedWrite) (settings : Settings) (store : Store)
    (fresh : String) (now : Instant) : Except StoreError Record := do
  let draft := checked.draft
  match draft.goal.id? with
  | none => do
    let attributes ← checked.recheck settings store
    pure (Record.create draft.entity fresh attributes now)
  | some id => do
    let record ← store.liveRecord draft.entity id
    checkVersion draft.entity id draft.expected record.version
    let attributes ← checked.recheck settings store
    let attributes :=
      if draft.goal.mode = .patch then record.attributes.merge attributes
      else attributes
    pure ({ record with attributes }.touch now)

def commit (checked : CheckedWrite) (settings : Settings) (store : Store)
    (fresh : String) (now : Instant) : Store × Except StoreError Record :=
  match checked.result settings store fresh now with
  | .error error => (store, .error error)
  | .ok record => ((store.put record).commit, .ok record)

end CheckedWrite

def Write.prepare (write : Write) (settings : Settings) (store : Store) :
    Except StoreError CheckedWrite := do
  (← write.read store).check settings store

end RecordStore
