import RecordStore.Store

namespace RecordStore

structure Reference where
  entity : String
  field : String
  id : String
  policy : DeletePolicy
deriving DecidableEq, Inhabited

def Reference.holder (reference : Reference) : RecordKey :=
  ⟨reference.entity, reference.id⟩

namespace Store

def referencesThrough (store : Store) (id : String)
    (incoming : Schema.IncomingField) : List Reference :=
  ((store.liveOf incoming.entity).filter fun record =>
      (record.attributes.value? incoming.field).any (·.references id)).map
    fun record => ⟨incoming.entity, incoming.field, record.id, incoming.policy⟩

/-- All live references to a record, in the order of the schema and then of
ids. -/
def referencesTo (store : Store) (entity id : String) : List Reference :=
  (store.schema.incoming entity).flatMap (store.referencesThrough id)

end Store

structure FieldKey where
  entity : String
  id : String
  field : String
deriving DecidableEq, Inhabited

def Reference.cleared (reference : Reference) : FieldKey :=
  ⟨reference.entity, reference.id, reference.field⟩

structure Cascade where
  deleted : List RecordKey := []
  cleared : List FieldKey := []
deriving DecidableEq, Inhabited

def Cascade.affected (cascade : Cascade) : Nat :=
  cascade.deleted.length + cascade.cleared.length

structure DeletePlan where
  entity : String
  id : String
  cascade : Cascade
deriving DecidableEq, Inhabited

def maxCascadeDepth : Nat := 100

namespace Store

/-- Adds a record and all that cascading references bring with it, depth first,
to those collected. The depth is checked before a record that has been collected
already is passed over. -/
def collect (store : Store) :
    (room : Nat) → (collected : List RecordKey) → (key : RecordKey) →
      Except StoreError (List RecordKey)
  | 0, _, _ => .error (.cascadeTooDeep (maxCascadeDepth + 1))
  | room + 1, collected, key =>
    if collected.contains key then .ok collected
    else
      ((store.referencesTo key.entity key.id).filter
        (·.policy = .cascade)).foldlM (fun collected reference =>
          collect store room collected reference.holder)
        (collected ++ [key])

/-- Settles one reference to a record that goes. A reference from a record that
goes too does not matter; a field to be cleared is listed once. -/
def settle (gone : List RecordKey) (key : RecordKey) (cleared : List FieldKey)
    (reference : Reference) : Except StoreError (List FieldKey) :=
  if gone.contains reference.holder then .ok cleared
  else match reference.policy with
    | .restrict =>
      .error (.restricted key.entity key.id reference.entity reference.field)
    | .setNull =>
      .ok (if cleared.contains reference.cleared then cleared
        else cleared ++ [reference.cleared])
    | .cascade => .ok cleared

def settleAll (store : Store) (gone : List RecordKey) (cleared : List FieldKey)
    (key : RecordKey) : Except StoreError (List FieldKey) :=
  (store.referencesTo key.entity key.id).foldlM (settle gone key) cleared

def planDelete (store : Store) (entity id : String) :
    Except StoreError DeletePlan := do
  let gone ← store.collect (maxCascadeDepth + 1) [] ⟨entity, id⟩
  let cleared ← gone.foldlM (store.settleAll gone) []
  pure ⟨entity, id, ⟨gone.tail, cleared⟩⟩

end Store

end RecordStore
