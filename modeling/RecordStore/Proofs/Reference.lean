import RecordStore.Deletion.Apply
import RecordStore.Proofs.Store

namespace RecordStore

namespace Value

def IsFlat : Value → Prop
  | .array items => ∀ item ∈ items, ∀ inner, item ≠ .array inner
  | _ => True

instance decidableIsFlat : (value : Value) → Decidable value.IsFlat
  | .null | .atom _ => isTrue trivial
  | .array items =>
    decidable_of_iff (∀ item ∈ items, item.isNull ∨ item.atom?.isSome) (by
      refine forall₂_congr fun item _ => ?_
      cases item <;> simp [isNull, atom?])

theorem references_array (id : String) (items : List Value) :
    (array items).references id = items.any (references id) := by
  rw [references, anyReferences_eq_any]

theorem references_iff_refId? {value : Value}
    (single : ∀ inner, value ≠ .array inner) (id : String) :
    value.references id = true ↔ value.refId? = some id := by
  cases value with
  | null => simp [references, refId?, atom?]
  | atom a => simp [references, refId?, atom?]
  | array items => exact absurd rfl (single items)

@[simp] theorem prune_null (removed : List String) :
    null.prune removed = null := rfl

theorem prune_atom (removed : List String) (a : Atom) :
    (atom a).prune removed =
      if (atom a).refId?.any removed.contains then null else atom a := rfl

theorem prune_array (removed : List String) (items : List Value) :
    (array items).prune removed =
      array (items.filter fun item => !(item.refId?.any removed.contains)) :=
  rfl

theorem not_references_prune {removed : List String} {value : Value}
    (flat : value.IsFlat) {id : String} (gone : id ∈ removed) :
    (value.prune removed).references id = false := by
  cases value with
  | null => simp [references]
  | atom a =>
      rw [prune_atom]
      split
      next => rfl
      next kept =>
          rw [Bool.eq_false_iff]
          intro refers
          have named := (references_iff_refId? (by simp) id).mp refers
          simp [named, gone] at kept
  | array items =>
      rw [prune_array, references_array, Bool.eq_false_iff]
      intro refers
      obtain ⟨item, member, refers⟩ := List.any_eq_true.mp refers
      obtain ⟨member, kept⟩ := List.mem_filter.mp member
      have named := (references_iff_refId? (flat item member) id).mp refers
      simp [named, gone] at kept

end Value

namespace Schema

theorem mem_incoming_iff (schema : Schema) (name : String)
    (incoming : IncomingField) :
    incoming ∈ schema.incoming name ↔
      ∃ entity ∈ schema.entities.items, ∃ field ∈ entity.referenceFields,
        schema.target? entity field = some name ∧
          incoming = ⟨entity.fullName, field.name, field.policy⟩ := by
  simp only [Schema.incoming, incomingFrom, List.mem_flatMap, List.mem_map,
    List.mem_filter, decide_eq_true_eq]
  constructor
  · rintro ⟨entity, declared, field, ⟨reference, target⟩, rfl⟩
    exact ⟨entity, declared, field, reference, target, rfl⟩
  · rintro ⟨entity, declared, field, reference, target, rfl⟩
    exact ⟨entity, declared, field, ⟨reference, target⟩, rfl⟩

end Schema

namespace Store

/-- A live record holds a reference to `key` in a declared reference field whose
target is the entity of `key`. -/
structure Refers (store : Store) (key : RecordKey) (entity : Entity)
    (field : Field) (record : Record) : Prop where
  declared : entity ∈ store.schema.entities.items
  reference : field ∈ entity.referenceFields
  target : store.schema.target? entity field = some key.entity
  live : store.live? entity.fullName record.id = some record
  holds : ∃ value, record.attributes.value? field.name = some value ∧
    value.references key.id = true

theorem mem_referencesThrough_iff (store : Store) (id : String)
    (incoming : Schema.IncomingField) (reference : Reference) :
    reference ∈ store.referencesThrough id incoming ↔
      ∃ record, store.live? incoming.entity record.id = some record ∧
        (∃ value, record.attributes.value? incoming.field = some value ∧
          value.references id = true) ∧
        reference = ⟨incoming.entity, incoming.field, record.id,
          incoming.policy⟩ := by
  simp only [referencesThrough, List.mem_map, List.mem_filter, mem_liveOf_iff,
    Option.any_eq_true]
  constructor
  · rintro ⟨record, ⟨live, holds⟩, rfl⟩
    exact ⟨record, live, holds, rfl⟩
  · rintro ⟨record, live, holds, rfl⟩
    exact ⟨record, ⟨live, holds⟩, rfl⟩

theorem mem_referencesTo_iff (store : Store) (key : RecordKey)
    (reference : Reference) :
    reference ∈ store.referencesTo key.entity key.id ↔
      ∃ entity field record, store.Refers key entity field record ∧
        reference = ⟨entity.fullName, field.name, record.id, field.policy⟩ := by
  simp only [referencesTo, List.mem_flatMap, Schema.mem_incoming_iff,
    mem_referencesThrough_iff]
  constructor
  · rintro ⟨-, ⟨entity, declared, field, listed, target, rfl⟩, record, live,
      holds, rfl⟩
    exact ⟨entity, field, record, ⟨declared, listed, target, live, holds⟩, rfl⟩
  · rintro ⟨entity, field, record, refers, rfl⟩
    exact ⟨_,
      ⟨entity, refers.declared, field, refers.reference, refers.target, rfl⟩,
      record, refers.live, refers.holds, rfl⟩

theorem live?_holder {store : Store} (key : RecordKey) {reference : Reference}
    (listed : reference ∈ store.referencesTo key.entity key.id) :
    ∃ record, store.live? reference.entity reference.id = some record := by
  obtain ⟨entity, field, record, refers, rfl⟩ :=
    (store.mem_referencesTo_iff ..).mp listed
  exact ⟨record, refers.live⟩

end Store

end RecordStore
