import RecordStore.Integrity.Check
import RecordStore.Proofs.Index

namespace RecordStore

theorem bind_eq_ok_iff {ε α β : Type} {first : Except ε α}
    {next : α → Except ε β} {b : β} :
    (first >>= next) = .ok b ↔ ∃ a, first = .ok a ∧ next a = .ok b := by
  cases first with
  | error error => simp [bind, Except.bind]
  | ok a => simp [bind, Except.bind]

theorem ok_bind {ε α β : Type} (a : α) (next : α → Except ε β) :
    ((.ok a : Except ε α) >>= next) = next a := rfl

theorem error_bind {ε α β : Type} (error : ε) (next : α → Except ε β) :
    ((.error error : Except ε α) >>= next) = .error error := rfl

namespace Schema

theorem entity?_eq_some_iff (schema : Schema) (name : String)
    (entity : Entity) :
    schema.entity? name = some entity ↔
      entity ∈ schema.entities.items ∧ entity.fullName = name :=
  schema.entities.get?_eq_some_iff name entity

end Schema

namespace Store

theorem key_of_record? {store : Store} {entity id : String} {record : Record}
    (found : store.record? entity id = some record) :
    record.entity = entity ∧ record.id = id := by
  have key := ((store.records.get?_eq_some_iff ..).mp found).2
  exact ⟨congrArg RecordKey.entity key, congrArg RecordKey.id key⟩

theorem mem_records_iff (store : Store) (record : Record) :
    record ∈ store.records.items ↔
      store.record? record.entity record.id = some record := by
  rw [record?, store.records.get?_eq_some_iff]
  exact ⟨fun member => ⟨member, rfl⟩, And.left⟩

theorem record?_put (store : Store) (record : Record) (entity id : String) :
    (store.put record).record? entity id =
      if record.key = ⟨entity, id⟩ then some record
      else store.record? entity id :=
  store.records.get?_insert record ⟨entity, id⟩

theorem record?_update (store : Store) (key : RecordKey) {f : Record → Record}
    (keepsKey : ∀ record, (f record).key = record.key) (entity id : String) :
    (store.update key.entity key.id f).record? entity id =
      (store.record? entity id).map fun record =>
        if key = ⟨entity, id⟩ then f record else record := by
  rw [update]
  cases found : store.record? key.entity key.id with
  | none =>
      by_cases here : key = ⟨entity, id⟩
      · subst here
        simp [found]
      · simp [here]
  | some record =>
      have stored := key_of_record? found
      have own : (f record).key = key := by
        rw [keepsKey, Record.key, stored.1, stored.2]
      rw [record?_put, own]
      by_cases here : key = ⟨entity, id⟩
      · subst here
        simp [found]
      · simp [here]

@[simp] theorem record?_commit (store : Store) (entity id : String) :
    store.commit.record? entity id = store.record? entity id := rfl

theorem live?_eq_some_iff (store : Store) (entity id : String)
    (record : Record) :
    store.live? entity id = some record ↔
      store.record? entity id = some record ∧ record.deleted = false := by
  simp [live?, Option.filter_eq_some_iff, Record.isLive]

theorem record?_of_live? {store : Store} {entity id : String} {record : Record}
    (live : store.live? entity id = some record) :
    store.record? entity id = some record :=
  ((live?_eq_some_iff ..).mp live).1

theorem deleted_of_live? {store : Store} {entity id : String} {record : Record}
    (live : store.live? entity id = some record) : record.deleted = false :=
  ((live?_eq_some_iff ..).mp live).2

theorem mem_liveOf_iff (store : Store) (entity : String) (record : Record) :
    record ∈ store.liveOf entity ↔
      store.live? entity record.id = some record := by
  rw [liveOf, recordsOf, List.mem_filter, List.mem_filter, mem_records_iff,
    live?_eq_some_iff, beq_iff_eq, Record.isLive, Bool.not_eq_true']
  constructor
  · rintro ⟨⟨found, rfl⟩, live⟩
    exact ⟨found, live⟩
  · rintro ⟨found, live⟩
    obtain ⟨own, -⟩ := key_of_record? found
    subst own
    exact ⟨⟨found, rfl⟩, live⟩

theorem live?_put (store : Store) {record : Record}
    (live : record.deleted = false) (entity id : String) :
    (store.put record).live? entity id =
      if record.key = ⟨entity, id⟩ then some record
      else store.live? entity id := by
  rw [live?, record?_put]
  split
  next => simp [Record.isLive, live]
  next => rfl

@[simp] theorem live?_commit (store : Store) (entity id : String) :
    store.commit.live? entity id = store.live? entity id := rfl

theorem entity_eq_ok_iff (store : Store) (name : String) (entity : Entity) :
    store.entity name = .ok entity ↔
      store.schema.entity? name = some entity := by
  rw [Store.entity]
  cases store.schema.entity? name <;> simp

theorem storedRecord_eq_ok_iff (store : Store) (entity id : String)
    (record : Record) :
    store.storedRecord entity id = .ok record ↔
      store.record? entity id = some record := by
  rw [storedRecord]
  cases store.record? entity id <;> simp

theorem liveRecord_eq_ok_iff (store : Store) (entity id : String)
    (record : Record) :
    store.liveRecord entity id = .ok record ↔
      store.live? entity id = some record := by
  rw [live?_eq_some_iff, liveRecord, bind_eq_ok_iff]
  constructor
  · rintro ⟨stored, found, kept⟩
    rw [storedRecord_eq_ok_iff] at found
    cases flag : stored.deleted with
    | true =>
        simp [flag, throw, throwThe, MonadExceptOf.throw, bind,
          Except.bind] at kept
    | false =>
        simp only [flag, Bool.false_eq_true, if_false, pure, Except.pure,
          Except.ok.injEq] at kept
        subst kept
        exact ⟨found, flag⟩
  · rintro ⟨found, live⟩
    refine ⟨record, (storedRecord_eq_ok_iff ..).mpr found, ?_⟩
    simp [live, pure, Except.pure]

theorem accept_eq_ok_iff (errors : List FieldError) :
    accept errors = .ok () ↔ errors = [] := by
  cases errors <;> simp [accept]

end Store

end RecordStore
