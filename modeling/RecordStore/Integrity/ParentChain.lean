import RecordStore.Settings
import RecordStore.Store

namespace RecordStore

/-- The parent pointer of an entity, if it has one: the single reference of the
configured name, pointing to the entity itself. -/
def Schema.parentField? (schema : Schema) (settings : Settings)
    (entity : Entity) : Option String :=
  match entity.field? settings.parentField with
  | some field =>
    if !field.type.many &&
      schema.target? entity field = some entity.fullName then
      some field.name
    else none
  | none => none

namespace Store

def parent? (store : Store) (entity field id : String) : Option String :=
  ((store.record? entity id).bind (·.attributes.value? field)).bind Value.refId?

/-- Follows parents from `id` for at most `links` steps; the walk is safe if it
ends without meeting `own` or any record twice. -/
def chainEnds (store : Store) (entity field : String) (own : Option String) :
    (links : Nat) → (seen : List String) → (id : String) → Bool
  | 0, _, _ => false
  | links + 1, seen, id =>
    if own = some id || seen.contains id then false
    else match store.parent? entity field id with
      | some next => chainEnds store entity field own links (id :: seen) next
      | none => true

def parentError? (store : Store) (settings : Settings) (entity : Entity)
    (own : Option String) (attributes : Attributes) : Option FieldError :=
  (store.schema.parentField? settings entity).bind fun field =>
    ((attributes.value? field).bind Value.refId?).bind fun parent =>
      if own = some parent then some ⟨field, .ownParent⟩
      else if store.chainEnds entity.fullName field own settings.maxParentDepth
        [] parent then
        none
      else some ⟨field, .parentCycle⟩

end Store

end RecordStore
