import RecordStore.Deletion.Plan

namespace RecordStore

namespace Value

/-- The value without references to removed ids: elements of an array are
dropped, a single reference becomes null. -/
def prune (removed : List String) : Value → Value
  | .array items =>
    .array (items.filter fun item => !(item.refId?.any removed.contains))
  | value => if value.refId?.any removed.contains then .null else value

end Value

namespace Record

def pruneField (record : Record) (removed : List String) (field : String) :
    Record :=
  match record.attributes.value? field with
  | some value => { record with
    attributes := record.attributes.put field (value.prune removed) }
  | none => record

def markDeleted (record : Record) (now : Instant) : Record :=
  { record with deleted := true }.touch now

end Record

namespace DeletePlan

def removedIds (plan : DeletePlan) : List String :=
  plan.id :: plan.cascade.deleted.map RecordKey.id

/-- Clears fields one after another; a record counts as changed once, at its
first field. -/
def clear (removed : List String) (now : Instant) :
    (touched : List RecordKey) → Store → List FieldKey → Store
  | _, store, [] => store
  | touched, store, ⟨entity, id, field⟩ :: rest =>
    match store.record? entity id with
    | none => clear removed now touched store rest
    | some record =>
      let pruned := record.pruneField removed field
      if touched.contains ⟨entity, id⟩ then
        clear removed now touched (store.put pruned) rest
      else clear removed now (⟨entity, id⟩ :: touched)
        (store.put (pruned.touch now)) rest

def flag (now : Instant) (store : Store) (key : RecordKey) : Store :=
  store.update key.entity key.id (·.markDeleted now)

/-- Clears references, flags the records that go along, and flags the target
last. Without a target there is nothing to commit. -/
def apply (plan : DeletePlan) (store : Store) (now : Instant) :
    Store × Option Record :=
  let store := clear plan.removedIds now [] store plan.cascade.cleared
  let store := plan.cascade.deleted.foldl (flag now) store
  match store.record? plan.entity plan.id with
  | none => (store, none)
  | some target =>
    let target := target.markDeleted now
    ((store.put target).commit, some target)

end DeletePlan

end RecordStore
