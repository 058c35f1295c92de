import RecordStore.Query.Filter
import RecordStore.Query.Order

namespace RecordStore

structure Query where
  filter : Filter := {}
  sort : List SortKey := []
  nulls : Option NullPlacement := none
  offset : Nat := 0
  limit : Option Nat := none
deriving DecidableEq, Inhabited

structure Page where
  records : List Record
  total : Nat

structure LookupItem where
  id : String
  label : String
deriving DecidableEq, Inhabited

namespace Store

def matching (store : Store) (entity : Entity) (filter : Filter) :
    List Record :=
  (store.liveOf entity.fullName).filter (filter.accepts entity)

def found (store : Store) (settings : Settings) (entity : Entity)
    (query : Query) : List Record :=
  sortBy query.sort (query.nulls.getD settings.defaultNulls)
    (store.matching entity query.filter)

def page (store : Store) (settings : Settings) (entity : Entity)
    (query : Query) : Page where
  records := ((store.found settings entity query).drop query.offset).take
    (settings.pageLimit query.limit)
  total := (store.matching entity query.filter).length

def count (store : Store) (entity : Entity) (filter : Filter) : Nat :=
  (store.matching entity filter).length

def label (record : Record) (field : String) : String :=
  (record.sortText? field).getD ""

def lookup (store : Store) (settings : Settings) (entity : Entity)
    (field : Option String) (text : String) (limit : Option Nat) :
    List LookupItem :=
  let field := field.getD entity.displayField
  let needle := searchKey text
  let items := (store.liveOf entity.fullName).map fun record =>
    (⟨record.id, label record field⟩ : LookupItem)
  (items.filter fun item =>
    needle = "" || Text.contains (Text.lower item.label) needle).take
    (settings.lookupSize limit)

end Store

end RecordStore
