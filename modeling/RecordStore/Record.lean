import RecordStore.Value

namespace RecordStore

structure RecordKey where
  entity : String
  id : String
deriving DecidableEq, Inhabited

namespace RecordKey

instance : Ord RecordKey := ⟨compareLex (compareOn entity) (compareOn id)⟩

instance : Std.TransOrd RecordKey :=
  inferInstanceAs (Std.TransCmp (compareLex (compareOn entity) (compareOn id)))

instance : Std.LawfulEqOrd RecordKey where
  eq_of_compare {a b} h := by
    obtain ⟨entity, id⟩ := a
    obtain ⟨entity', id'⟩ := b
    have h := compareLex_eq_eq.mp h
    simp only [compareOn, Std.LawfulEqOrd.compare_eq_iff_eq] at h
    simp [h]

end RecordKey

structure Record where
  entity : String
  id : String
  version : UInt64
  createdAt : Instant
  updatedAt : Instant
  deleted : Bool
  attributes : Attributes
deriving DecidableEq, Inhabited

def systemFields : List String :=
  ["id", "version", "created_at", "updated_at"]

def isSystemField (name : String) : Bool :=
  systemFields.contains name

namespace Record

def key (record : Record) : RecordKey :=
  ⟨record.entity, record.id⟩

def create (entity id : String) (attributes : Attributes) (now : Instant) :
    Record :=
  ⟨entity, id, 1, now, now, false, attributes⟩

def isLive (record : Record) : Bool :=
  !record.deleted

/-- The next version; versions are counted in one machine word. -/
def touch (record : Record) (now : Instant) : Record :=
  { record with version := record.version + 1, updatedAt := now }

def fieldValue? (record : Record) (name : String) : Option Value :=
  match name with
  | "id" => some (.atom (.string record.id))
  | "version" => some (.atom (.int record.version.toInt64.toInt))
  | "created_at" => some (.atom (.timestamp (.ofInstant record.createdAt)))
  | "updated_at" => some (.atom (.timestamp (.ofInstant record.updatedAt)))
  | _ => record.attributes.value? name

end Record

end RecordStore
