import RecordStore.Error
import RecordStore.Record

namespace RecordStore

structure Store where
  schema : Schema
  /-- Grows with every change of schema, so that two schemas in force are told
  apart even if equal. -/
  generation : Nat := 0
  /-- Grows by one with every committed write and every change of schema. Runs
  stay below 2^64 commits, so that this is the count of a machine word. -/
  epoch : Nat := 0
  records : Index Record.key := ∅
deriving Inhabited

namespace Store

def record? (store : Store) (entity id : String) : Option Record :=
  store.records.get? ⟨entity, id⟩

def live? (store : Store) (entity id : String) : Option Record :=
  (store.record? entity id).filter Record.isLive

def recordsOf (store : Store) (entity : String) : List Record :=
  store.records.items.filter (·.entity == entity)

def liveOf (store : Store) (entity : String) : List Record :=
  (store.recordsOf entity).filter Record.isLive

def entities (store : Store) : List String :=
  (store.records.items.map Record.entity).eraseDups

def entity (store : Store) (fullName : String) : Except StoreError Entity :=
  match store.schema.entity? fullName with
  | some entity => .ok entity
  | none => .error (.unknownEntity fullName)

def storedRecord (store : Store) (entity id : String) :
    Except StoreError Record :=
  match store.record? entity id with
  | some record => .ok record
  | none => .error (.notFound entity id)

def liveRecord (store : Store) (entity id : String) :
    Except StoreError Record := do
  let record ← store.storedRecord entity id
  if record.deleted then throw (.deleted entity id)
  pure record

def put (store : Store) (record : Record) : Store :=
  { store with records := store.records.insert record }

def update (store : Store) (entity id : String) (f : Record → Record) : Store :=
  match store.record? entity id with
  | some record => store.put (f record)
  | none => store

def commit (store : Store) : Store :=
  { store with epoch := store.epoch + 1 }

def replaceSchema (store : Store) (schema : Schema) : Store :=
  { store with
    schema, generation := store.generation + 1, epoch := store.epoch + 1 }

end Store

end RecordStore
