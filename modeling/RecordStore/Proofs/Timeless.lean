import RecordStore.Proofs.Script

namespace RecordStore

/-! Times are written to records and not read. With all times left out, whatever
is done with a store comes to what is done with a store without times; queries
that ask for the times of records are the exception. -/

def Record.timeless (record : Record) : Record :=
  { record with createdAt := default, updatedAt := default }

namespace Record

variable (record : Record)

@[simp] theorem timeless_key : record.timeless.key = record.key := rfl

@[simp] theorem timeless_id : record.timeless.id = record.id := rfl

@[simp] theorem timeless_version : record.timeless.version = record.version :=
  rfl

@[simp] theorem timeless_deleted : record.timeless.deleted = record.deleted :=
  rfl

@[simp] theorem timeless_isLive : record.timeless.isLive = record.isLive := rfl

@[simp] theorem timeless_attributes :
    record.timeless.attributes = record.attributes := rfl

@[simp] theorem touch_timeless (now : Instant) :
    (record.touch now).timeless = record.timeless.touch default :=
  rfl

end Record

theorem insertInto_map {f : Record → Record}
    (keeps : ∀ record, (f record).key = record.key) (record : Record)
    (records : List Record) :
    (Index.insertInto Record.key record records).map f =
      Index.insertInto Record.key (f record) (records.map f) := by
  induction records with
  | nil => rfl
  | cons first rest ih =>
      simp only [Index.insertInto, List.map_cons, keeps]
      split <;> simp [ih]

namespace Store

def timeless (store : Store) : Store :=
  { store with records := ⟨store.records.items.map Record.timeless,
      List.pairwise_map.mpr store.records.ascending⟩ }

variable (store : Store)

@[simp] theorem schema_timeless : store.timeless.schema = store.schema := rfl

@[simp] theorem generation_timeless :
    store.timeless.generation = store.generation := rfl

@[simp] theorem epoch_timeless : store.timeless.epoch = store.epoch := rfl

@[simp] theorem commit_timeless :
    store.commit.timeless = store.timeless.commit := rfl

@[simp] theorem put_timeless (record : Record) :
    (store.put record).timeless = store.timeless.put record.timeless := by
  have records : (store.put record).timeless.records =
      (store.timeless.put record.timeless).records :=
    Index.ext_items
      (insertInto_map Record.timeless_key record store.records.items)
  rw [timeless, put] at records ⊢
  simp only [put, timeless] at records ⊢
  rw [records]

@[simp] theorem record?_timeless (entity id : String) :
    store.timeless.record? entity id =
      (store.record? entity id).map Record.timeless :=
  List.find?_map ..

@[simp] theorem live?_timeless (entity id : String) :
    store.timeless.live? entity id =
      (store.live? entity id).map Record.timeless := by
  rw [live?, record?_timeless, live?, Option.filter_map]
  rfl

@[simp] theorem liveOf_timeless (entity : String) :
    store.timeless.liveOf entity =
      (store.liveOf entity).map Record.timeless := by
  simp only [liveOf, recordsOf, timeless, List.filter_map]
  rfl

@[simp] theorem entity_timeless (name : String) :
    store.timeless.entity name = store.entity name := rfl

@[simp] theorem storedRecord_timeless (entity id : String) :
    store.timeless.storedRecord entity id =
      (store.storedRecord entity id).map Record.timeless := by
  rw [storedRecord, record?_timeless, storedRecord]
  cases store.record? entity id <;> rfl

@[simp] theorem liveRecord_timeless (entity id : String) :
    store.timeless.liveRecord entity id =
      (store.liveRecord entity id).map Record.timeless := by
  rw [liveRecord, storedRecord_timeless, liveRecord]
  cases store.storedRecord entity id with
  | error error => rfl
  | ok record =>
      cases flag : record.deleted <;>
        simp [Except.map, bind, Except.bind, flag, pure, Except.pure, throw,
          throwThe, MonadExceptOf.throw]

@[simp] theorem isLiveRef_timeless (target : String) (value : Value) :
    store.timeless.isLiveRef target value = store.isLiveRef target value := by
  rw [isLiveRef, isLiveRef]
  split <;> simp

theorem referenceErrors_timeless (schema : Schema) (entity : Entity)
    (attributes : Attributes) :
    store.timeless.referenceErrors schema entity attributes =
      store.referenceErrors schema entity attributes := by
  have fields : store.timeless.fieldReferenceErrors schema entity attributes =
      store.fieldReferenceErrors schema entity attributes := by
    funext field
    simp [fieldReferenceErrors, elementErrors]
  rw [referenceErrors, fields, referenceErrors]

theorem others_timeless (entity : Entity) (own : Option String) :
    store.timeless.others entity own =
      (store.others entity own).map Record.timeless := by
  rw [others, liveOf_timeless, List.filter_map, others]
  rfl

theorem uniquenessErrors_timeless (entity : Entity) (own : Option String)
    (attributes : Attributes) :
    store.timeless.uniquenessErrors entity own attributes =
      store.uniquenessErrors entity own attributes := by
  have fields : store.timeless.uniqueError? entity own attributes =
      store.uniqueError? entity own attributes := by
    funext field
    simp only [uniqueError?, others_timeless, List.any_map]
    rfl
  have sets : store.timeless.uniqueSetError? entity own attributes =
      store.uniqueSetError? entity own attributes := by
    funext set
    simp only [uniqueSetError?, others_timeless, List.any_map]
    rfl
  rw [uniquenessErrors, fields, sets, uniquenessErrors]

theorem chainEnds_timeless (entity field : String) (own : Option String)
    (links : Nat) (seen : List String) (id : String) :
    store.timeless.chainEnds entity field own links seen id =
      store.chainEnds entity field own links seen id := by
  have parent : ∀ id, store.timeless.parent? entity field id =
      store.parent? entity field id := by
    intro id
    rw [parent?, record?_timeless, Option.bind_map, parent?]
    rfl
  induction links generalizing seen id with
  | zero => rfl
  | succ links ih => simp only [chainEnds, parent, ih]

theorem integrityErrors_timeless (settings : Settings) (schema : Schema)
    (entity : Entity) (own : Option String) (attributes : Attributes) :
    store.timeless.integrityErrors settings schema entity own attributes =
      store.integrityErrors settings schema entity own attributes := by
  simp only [integrityErrors, referenceErrors_timeless,
    uniquenessErrors_timeless, parentError?, chainEnds_timeless,
    schema_timeless]

@[simp] theorem checkIntegrity_timeless (settings : Settings) (schema : Schema)
    (entity : Entity) (own : Option String) (attributes : Attributes) :
    store.timeless.checkIntegrity settings schema entity own attributes =
      store.checkIntegrity settings schema entity own attributes := by
  rw [checkIntegrity, integrityErrors_timeless, checkIntegrity]

@[simp] theorem checkUniqueness_timeless (entity : Entity) (own : Option String)
    (attributes : Attributes) :
    store.timeless.checkUniqueness entity own attributes =
      store.checkUniqueness entity own attributes := by
  rw [checkUniqueness, uniquenessErrors_timeless, checkUniqueness]

end Store

def timelessOutcome {α : Type} (timeless : α → α)
    (outcome : Store × Except StoreError α) : Store × Except StoreError α :=
  (outcome.1.timeless, outcome.2.map timeless)

variable (store : Store)

@[simp] theorem Write.read_timeless (write : Write) :
    write.read store.timeless = write.read store := by
  rw [read, read]
  cases write.goal.id? with
  | none => rfl
  | some id =>
      simp only [Store.entity_timeless, Store.liveRecord_timeless,
        Store.schema_timeless, Store.generation_timeless, Store.epoch_timeless]
      cases store.liveRecord write.entity id <;> rfl

@[simp] theorem Write.prepare_timeless (write : Write) (settings : Settings) :
    write.prepare settings store.timeless = write.prepare settings store := by
  simp only [prepare, read_timeless, Draft.check, Store.checkIntegrity_timeless]

namespace CheckedWrite

variable (checked : CheckedWrite) (settings : Settings) (fresh : String)
  (now : Instant)

theorem result_timeless :
    checked.result settings store.timeless fresh default =
      (checked.result settings store fresh now).map Record.timeless := by
  have recheck : checked.recheck settings store.timeless =
      checked.recheck settings store := by
    simp only [recheck, Store.entity_timeless, Store.schema_timeless,
      Store.generation_timeless, Store.epoch_timeless,
      Store.checkIntegrity_timeless]
  rw [result, result, recheck]
  cases checked.draft.goal.id? with
  | none => cases checked.recheck settings store <;> rfl
  | some id =>
      simp only [Store.liveRecord_timeless]
      cases store.liveRecord checked.draft.entity id with
      | error error => rfl
      | ok record =>
          simp only [Except.map, ok_bind, Record.timeless_version]
          cases checkVersion checked.draft.entity id checked.draft.expected
            record.version with
          | error error => rfl
          | ok matched => cases checked.recheck settings store <;> rfl

theorem commit_timeless :
    checked.commit settings store.timeless fresh default =
      timelessOutcome Record.timeless
        (checked.commit settings store fresh now) := by
  rw [commit, checked.result_timeless store settings fresh now, commit]
  cases checked.result settings store fresh now with
  | error error => rfl
  | ok record => simp [timelessOutcome, Except.map]

end CheckedWrite

@[simp] theorem Store.referencesTo_timeless (entity id : String) :
    store.timeless.referencesTo entity id = store.referencesTo entity id := by
  have through : store.timeless.referencesThrough id =
      store.referencesThrough id := by
    funext incoming
    simp only [referencesThrough, liveOf_timeless, List.filter_map,
      List.map_map]
    rfl
  rw [referencesTo, through, schema_timeless, referencesTo]

theorem Store.collect_timeless (room : Nat) :
    store.timeless.collect room = store.collect room := by
  induction room with
  | zero => rfl
  | succ room ih =>
      funext collected key
      simp only [collect, referencesTo_timeless, ih]

@[simp] theorem Store.planDelete_timeless (entity id : String) :
    store.timeless.planDelete entity id = store.planDelete entity id := by
  have settles : ∀ gone, store.timeless.settleAll gone =
      store.settleAll gone := by
    intro gone
    funext cleared key
    rw [settleAll, referencesTo_timeless, settleAll]
  simp only [planDelete, collect_timeless, settles]

theorem DeletePlan.clear_timeless (removed : List String) (now : Instant)
    (touched : List RecordKey) (cleared : List FieldKey) :
    (clear removed now touched store cleared).timeless =
      clear removed default touched store.timeless cleared := by
  induction cleared generalizing touched store with
  | nil => rfl
  | cons field rest ih =>
      have pruned : ∀ record : Record,
          (record.pruneField removed field.field).timeless =
            record.timeless.pruneField removed field.field := by
        intro record
        rw [Record.pruneField, Record.pruneField, Record.timeless_attributes]
        cases record.attributes.value? field.field <;> rfl
      rw [clear, clear, Store.record?_timeless]
      cases store.record? field.entity field.id with
      | none => exact ih store touched
      | some record =>
          simp only [Option.map_some]
          split
          · rw [ih, Store.put_timeless, pruned]
          · rw [ih, Store.put_timeless, Record.touch_timeless, pruned]

theorem DeletePlan.flag_timeless (now : Instant) (key : RecordKey) :
    (flag now store key).timeless = flag default store.timeless key := by
  rw [flag, flag, Store.update, Store.update, Store.record?_timeless]
  cases store.record? key.entity key.id with
  | none => rfl
  | some record => exact Store.put_timeless ..

theorem DeletePlan.flagAll_timeless (now : Instant) (keys : List RecordKey) :
    (keys.foldl (flag now) store).timeless =
      keys.foldl (flag default) store.timeless := by
  induction keys generalizing store with
  | nil => rfl
  | cons key rest ih => rw [List.foldl_cons, ih, flag_timeless, List.foldl_cons]

theorem DeletePlan.apply_timeless (plan : DeletePlan) (now : Instant) :
    plan.apply store.timeless default = ((plan.apply store now).1.timeless,
      (plan.apply store now).2.map Record.timeless) := by
  simp only [apply, ← clear_timeless store plan.removedIds now,
    ← flagAll_timeless _ now, Store.record?_timeless]
  generalize plan.cascade.deleted.foldl (flag now)
    (clear plan.removedIds now [] store plan.cascade.cleared) = prepared
  cases prepared.record? plan.entity plan.id with
  | none => rfl
  | some target =>
      simp only [Option.map_some, Store.commit_timeless, Store.put_timeless]
      rfl

def Deleted.timeless (deleted : Deleted) : Deleted :=
  { deleted with record := deleted.record.timeless }

theorem Deletion.checkTarget_timeless (deletion : Deletion) :
    deletion.checkTarget store.timeless = deletion.checkTarget store := by
  rw [checkTarget, Store.liveRecord_timeless, checkTarget]
  cases store.liveRecord deletion.entity deletion.id <;> rfl

theorem PlannedDeletion.commit_timeless (planned : PlannedDeletion)
    (now : Instant) :
    planned.commit store.timeless default =
      timelessOutcome Deleted.timeless (planned.commit store now) := by
  have current : planned.currentPlan store.timeless =
      planned.currentPlan store := by
    simp only [currentPlan, Deletion.checkTarget_timeless,
      Store.planDelete_timeless, Store.epoch_timeless]
  rw [commit, current, commit]
  cases planned.currentPlan store with
  | error error => rfl
  | ok plan =>
      simp only [plan.apply_timeless store now]
      cases applied : plan.apply store now with
      | mk after record => cases record <;> rfl

theorem Deletion.run_timeless (deletion : Deletion) (now : Instant) :
    deletion.run store.timeless default =
      timelessOutcome Deleted.timeless (deletion.run store now) := by
  have read : deletion.read store.timeless = deletion.read store := by
    simp only [Deletion.read, checkTarget_timeless, Store.planDelete_timeless,
      Store.epoch_timeless]
  rw [run, run, read]
  cases deletion.read store with
  | error error => rfl
  | ok planned => exact planned.commit_timeless store now

theorem Restoration.run_timeless (restoration : Restoration) (now : Instant) :
    restoration.run store.timeless default =
      timelessOutcome Record.timeless (restoration.run store now) := by
  rw [run_eq, run_eq, stored, Store.storedRecord_timeless, ← stored]
  cases restoration.stored store with
  | error error => rfl
  | ok record =>
      have unique : restoration.checkUnique store.timeless record.timeless =
          restoration.checkUnique store record := by
        simp only [checkUnique, Store.entity_timeless,
          Store.checkUniqueness_timeless, Record.timeless_id,
          Record.timeless_attributes]
      simp only [Except.map, Record.timeless_isLive, unique]
      split
      · rfl
      · cases restoration.checkUnique store record with
        | error error => rfl
        | ok passed =>
            simp only [timelessOutcome, Store.commit_timeless,
              Store.put_timeless]
            rfl

def timeFields : List String :=
  ["created_at", "updated_at"]

theorem Record.fieldValue?_timeless (record : Record) {name : String}
    (other : name ∉ timeFields) :
    record.timeless.fieldValue? name = record.fieldValue? name := by
  unfold fieldValue?
  split
  · rfl
  · rfl
  · simp [timeFields] at other
  · simp [timeFields] at other
  · rfl

def Filter.IsTimeless (filter : Filter) : Prop :=
  ∀ condition ∈ filter.conditions, condition.field ∉ timeFields

def Query.IsTimeless (query : Query) : Prop :=
  query.filter.IsTimeless ∧ ∀ key ∈ query.sort, key.field ∉ timeFields

theorem Filter.accepts_timeless {filter : Filter} (timeless : filter.IsTimeless)
    (entity : Entity) (record : Record) :
    filter.accepts entity record.timeless = filter.accepts entity record := by
  have conditions : ∀ condition ∈ filter.conditions,
      condition.isMetBy entity record.timeless =
        condition.isMetBy entity record := by
    intro condition member
    rw [Condition.isMetBy,
      record.fieldValue?_timeless (timeless condition member),
      Condition.isMetBy]
  have texts : record.timeless.containsText = record.containsText := rfl
  rw [accepts, accepts, texts]
  congr 1
  rw [Bool.eq_iff_iff, List.all_eq_true, List.all_eq_true]
  exact forall₂_congr fun condition member => by
    rw [conditions condition member]

theorem Record.sortText?_timeless (record : Record) {name : String}
    (other : name ∉ timeFields) :
    record.timeless.sortText? name = record.sortText? name := by
  rw [sortText?, record.fieldValue?_timeless other, sortText?]

theorem compareBy_timeless {keys : List SortKey}
    (timeless : ∀ key ∈ keys, key.field ∉ timeFields) (nulls : NullPlacement)
    (a b : Record) :
    compareBy keys nulls a.timeless b.timeless = compareBy keys nulls a b := by
  induction keys with
  | nil => rfl
  | cons key rest ih =>
      obtain ⟨first, others⟩ := List.forall_mem_cons.mp timeless
      rw [compareBy, compareBy, ih others, SortKey.compareRecords,
        a.sortText?_timeless first, b.sortText?_timeless first,
        SortKey.compareRecords]

theorem sortBy_timeless {keys : List SortKey}
    (timeless : ∀ key ∈ keys, key.field ∉ timeFields) (nulls : NullPlacement)
    (records : List Record) :
    sortBy keys nulls (records.map Record.timeless) =
      (sortBy keys nulls records).map Record.timeless := by
  refine (List.map_mergeSort fun a _ b _ => ?_).symm
  rw [compareBy_timeless timeless]

def Page.timeless (page : Page) : Page :=
  { page with records := page.records.map Record.timeless }

namespace Store

theorem matching_timeless {filter : Filter} (timeless : filter.IsTimeless)
    (entity : Entity) :
    store.timeless.matching entity filter =
      (store.matching entity filter).map Record.timeless := by
  rw [matching, liveOf_timeless, List.filter_map, matching]
  congr 1
  exact List.filter_congr fun record _ =>
    filter.accepts_timeless timeless entity record

theorem page_timeless {query : Query} (timeless : query.IsTimeless)
    (settings : Settings) (entity : Entity) :
    store.timeless.page settings entity query =
      (store.page settings entity query).timeless := by
  rw [page, page, found, found, store.matching_timeless timeless.1,
    sortBy_timeless timeless.2]
  simp [Page.timeless]

theorem count_timeless {filter : Filter} (timeless : filter.IsTimeless)
    (entity : Entity) :
    store.timeless.count entity filter = store.count entity filter := by
  rw [count, store.matching_timeless timeless, List.length_map, count]

theorem lookup_timeless (settings : Settings) (entity : Entity)
    {field : Option String}
    (other : field.getD entity.displayField ∉ timeFields) (text : String)
    (limit : Option Nat) :
    store.timeless.lookup settings entity field text limit =
      store.lookup settings entity field text limit := by
  simp only [lookup, liveOf_timeless, List.map_map]
  have labels : ∀ record : Record,
      label record.timeless (field.getD entity.displayField) =
        label record (field.getD entity.displayField) := by
    intro record
    rw [label, record.sortText?_timeless other, label]
  simp [Function.comp_def, labels]

end Store

namespace Database

def timeless (db : Database) : Database :=
  { db with store := db.store.timeless, clock := fun _ => default }

/-- Times may be left out before or after. -/
def Forgets {α : Type} (timeless : α → α) (run : Database → Answer α) : Prop :=
  ∀ db : Database, run db.timeless =
    ((run db).1.timeless, (run db).2.map timeless)

@[simp] theorem store_timeless (db : Database) :
    db.timeless.store = db.store.timeless := rfl

theorem get_timeless (db : Database) (entity id : String) :
    db.timeless.get entity id = (db.get entity id).map Record.timeless := by
  have names : db.timeless.resolve entity = db.resolve entity := rfl
  rw [get, names, get]
  cases db.resolve entity with
  | error error => rfl
  | ok fullName => exact db.store.liveRecord_timeless fullName id

theorem incomingReferences_timeless (db : Database) (entity id : String) :
    db.timeless.incomingReferences entity id =
      db.incomingReferences entity id := by
  have names : db.timeless.resolve entity = db.resolve entity := rfl
  rw [incomingReferences, names, incomingReferences]
  cases db.resolve entity with
  | error error => rfl
  | ok fullName =>
      simp only [ok_bind, store_timeless, Store.storedRecord_timeless,
        Store.referencesTo_timeless]
      cases db.store.storedRecord fullName id <;> rfl

theorem runWrite_forgets (write : Write) :
    Forgets Record.timeless fun db => db.runWrite write := by
  intro db
  simp only [runWrite, timeless, Write.prepare_timeless]
  cases write.prepare db.settings db.store with
  | error error => rfl
  | ok checked =>
      simp only [commitWrite_eq_once]
      rw [checked.commit_timeless db.store db.settings _ (db.clock db.ticks)]
      rfl

theorem runDeletion_forgets (deletion : Deletion) :
    Forgets Deleted.timeless fun db => db.runDeletion deletion := by
  intro db
  simp only [runDeletion, tick, timeless,
    deletion.run_timeless db.store (db.clock db.ticks)]
  rfl

theorem runRestoration_forgets (restoration : Restoration) :
    Forgets Record.timeless fun db => db.runRestoration restoration := by
  intro db
  simp only [runRestoration, tick, timeless,
    restoration.run_timeless db.store (db.clock db.ticks)]
  rfl

theorem Forgets.map {α β : Type} {timeless : α → α} {left : β → β} {f : α → β}
    {run : Database → Answer α} (forgets : Forgets timeless run)
    (carries : ∀ a, f (timeless a) = left (f a)) :
    Forgets left fun db => ((run db).1, (run db).2.map f) := by
  intro db
  simp only [forgets db]
  cases (run db).2 with
  | error error => rfl
  | ok a => simp [Except.map, carries]

theorem Forgets.withEntity {α : Type} {timeless : α → α}
    {run : String → Database → Answer α}
    (forgets : ∀ fullName, Forgets timeless (run fullName)) (entity : String) :
    Forgets timeless fun db =>
      db.withEntity entity fun fullName => run fullName db := by
  intro db
  have same : db.timeless.resolve entity = db.resolve entity := rfl
  simp only [Database.withEntity, same]
  cases db.resolve entity with
  | error error => rfl
  | ok fullName => exact forgets fullName db

end Database

def Finding.timeless : Finding → Finding
  | .record found => .record found.timeless
  | .deleted done => .deleted done.timeless
  | .page found => .page found.timeless
  | finding => finding

def Outcome.timeless (outcome : Outcome) : Outcome :=
  { outcome with result := outcome.result.map Finding.timeless }

namespace Operation

open Database (Forgets)

/-- The operation is no query that filters, sorts or labels records by their
times. -/
def IsTimeless (operation : Operation) (schema : Schema) : Prop :=
  match operation.kind with
  | .list => ∀ query, Query.ofParams operation.params.items = .ok query →
    query.IsTimeless
  | .count => ∀ filter, Filter.ofParams operation.params.items = .ok filter →
    filter.IsTimeless
  | .lookup => ∀ entity ∈ schema.entities.items,
    (operation.params.value? "field").getD entity.displayField ∉ timeFields
  | _ => True

theorem inspect_timeless (operation : Operation) (db : Database)
    (timeless : operation.IsTimeless db.store.schema) :
    operation.inspect db.timeless =
      (operation.inspect db).map Finding.timeless := by
  have defines : db.timeless.definition operation.entity =
      db.definition operation.entity :=
    rfl
  cases kind : operation.kind with
  | list =>
      simp only [IsTimeless, kind] at timeless
      simp only [inspect, kind, Database.list, defines]
      cases read : Query.ofParams operation.params.items with
      | error fault => rfl
      | ok query =>
          cases db.definition operation.entity with
          | error error => rfl
          | ok entity =>
              have page :=
                db.store.page_timeless (timeless query read) db.settings entity
              simp only [Operation.orBadQuery, Except.mapError, ok_bind]
              exact congrArg (fun page => Except.ok (Finding.page page)) page
  | count =>
      simp only [IsTimeless, kind] at timeless
      simp only [inspect, kind, Database.count, defines]
      cases read : Filter.ofParams operation.params.items with
      | error fault => rfl
      | ok filter =>
          cases db.definition operation.entity with
          | error error => rfl
          | ok entity =>
              have count :=
                db.store.count_timeless (timeless filter read) entity
              exact congrArg (fun n => Except.ok (Finding.total n)) count
  | lookup =>
      simp only [IsTimeless, kind] at timeless
      simp only [inspect, kind, Database.lookup, defines]
      cases operation.lookupLimit with
      | error fault => rfl
      | ok limit =>
          cases defined : db.definition operation.entity with
          | error error => rfl
          | ok entity =>
              obtain ⟨fullName, -, found⟩ := bind_eq_ok_iff.mp defined
              have member := (Schema.entity?_eq_some_iff ..).mp
                ((Store.entity_eq_ok_iff ..).mp found)
              have items := db.store.lookup_timeless db.settings entity
                (timeless entity member.1)
                ((operation.params.value? "q").getD "") limit
              exact congrArg (fun items => Except.ok (Finding.items items))
                items
  | refs =>
      simp only [inspect, kind, db.incomingReferences_timeless operation.entity]
      cases operation.requireId with
      | error error => rfl
      | ok id =>
          simp only [ok_bind]
          cases db.incomingReferences operation.entity id <;> rfl
  | create | get | replace | patch | delete | restore =>
      simp only [inspect, kind, db.get_timeless operation.entity]
      cases operation.requireId with
      | error error => rfl
      | ok id =>
          simp only [ok_bind]
          cases db.get operation.entity id <;> rfl

theorem withId_forgets (operation : Operation) {α : Type} {timeless : α → α}
    {finding : α → Finding}
    (carries : ∀ a, finding (timeless a) = (finding a).timeless)
    {run : String → Database → Answer α}
    (forgets : ∀ id, Forgets timeless (run id)) :
    Forgets Finding.timeless fun db =>
      operation.withId db finding fun id => run id db := by
  intro db
  simp only [withId]
  cases operation.requireId with
  | error error => rfl
  | ok id => exact (forgets id).map carries db

theorem run_timeless (operation : Operation) (db : Database)
    (timeless : operation.IsTimeless db.store.schema) :
    operation.run db.timeless = ((operation.run db).1.timeless,
      (operation.run db).2.map Finding.timeless) := by
  have writes : ∀ goal, Forgets Record.timeless fun db =>
      db.withEntity operation.entity fun fullName =>
        db.runWrite ⟨fullName, goal, operation.payload⟩ :=
    fun goal =>
      .withEntity (fun fullName =>
        Database.runWrite_forgets ⟨fullName, goal, operation.payload⟩) _
  have records : ∀ record : Record, Finding.record record.timeless =
      (Finding.record record).timeless :=
    fun _ => rfl
  have deletions : ∀ deleted : Deleted,
      Finding.deleted deleted.timeless = (Finding.deleted deleted).timeless :=
    fun _ => rfl
  have inspects := operation.inspect_timeless db timeless
  cases kind : operation.kind with
  | create =>
      simp only [run, kind, Database.create]
      exact (writes .create).map records db
  | replace =>
      simp only [run, kind, Database.replace]
      exact operation.withId_forgets records
        (fun id => writes (.replace id operation.version)) db
  | patch =>
      simp only [run, kind, Database.patch]
      exact operation.withId_forgets records
        (fun id => writes (.patch id operation.version)) db
  | delete =>
      simp only [run, kind, Database.delete]
      exact operation.withId_forgets deletions (fun id =>
        .withEntity (fun fullName =>
          Database.runDeletion_forgets ⟨fullName, id, operation.version⟩)
          operation.entity) db
  | restore =>
      simp only [run, kind, Database.restore]
      exact operation.withId_forgets records (fun id =>
        .withEntity (fun fullName =>
          Database.runRestoration_forgets ⟨fullName, id⟩) operation.entity) db
  | get | list | count | lookup | refs => simp only [run, kind, inspects]

end Operation

theorem runScript_timeless (db : Database) (operations : List Operation)
    (timeless : ∀ operation ∈ operations,
      operation.IsTimeless db.store.schema) :
    runScript db.timeless operations = ((runScript db operations).1.timeless,
      (runScript db operations).2.map Outcome.timeless) := by
  induction operations generalizing db with
  | nil => rfl
  | cons operation rest ih =>
      obtain ⟨first, others⟩ := List.forall_mem_cons.mp timeless
      rw [← operation.run_isOrderly.schema db] at others
      rw [runScript_cons, operation.run_timeless db first, ih _ others,
        runScript_cons]
      rfl

theorem outcomes_withClock (db : Database) (operations : List Operation)
    (clock : Nat → Instant) (ticks : Nat)
    (timeless : ∀ operation ∈ operations,
      operation.IsTimeless db.store.schema) :
    (runScript (db.withClock clock ticks) operations).2.map Outcome.timeless =
      (runScript db operations).2.map Outcome.timeless := by
  have same : (db.withClock clock ticks).timeless =
      db.timeless.withClock (fun _ => default) ticks :=
    rfl
  have stopped := runScript_withClock db.timeless operations (fun _ => default)
    ticks fun _ _ => rfl
  have other :=
    runScript_timeless (db.withClock clock ticks) operations timeless
  have own := runScript_timeless db operations timeless
  rw [same, stopped] at other
  exact (congrArg Prod.snd other).symm.trans (congrArg Prod.snd own)

/-- Without an operation that has failed, the others of a script have the same
outcomes but for the times in them, whatever the clock shows. -/
theorem runScript_timeless_without_failed (db : Database)
    (before after : List Operation) (operation : Operation) {error : StoreError}
    (failed : (operation.run (runScript db before).1).2 = .error error)
    (clock : Nat → Instant) (ticks : Nat)
    (timeless : ∀ other ∈ before ++ after, other.IsTimeless db.store.schema) :
    (runScript (db.withClock clock ticks) (before ++ after)).2.map
      Outcome.timeless =
      ((runScript db (before ++ operation :: after)).2.eraseIdx
        before.length).map Outcome.timeless := by
  have others : ∀ other ∈ after,
      other.IsTimeless (runScript db before).1.store.schema := by
    intro other member
    rw [schema_runScript]
    exact timeless other (List.mem_append_right before member)
  rw [outcomes_withClock db _ clock ticks timeless, eraseIdx_runScript,
    runScript_append, operation.run_isOrderly.failed _ error failed]
  simp only [List.map_append, outcomes_withClock _ after _ _ others]

end RecordStore
