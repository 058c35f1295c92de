import RecordStore.Proofs.Concurrency.Atomic
import RecordStore.Proofs.Integrity.Conformance

namespace RecordStore

namespace Payload

variable {payload : Payload} {entity : Entity} {schema : Schema}
  {attributes : Attributes}

/-! Replacing a record and patching it. A payload that has a member for every
field leaves nothing of what the record held before, so that it does not matter
which of the two it is given for. -/

/-- The payload has a member for every field. -/
def IsWhole (payload : Payload) (entity : Entity) : Prop :=
  ∀ field ∈ entity.fields, payload.contains field.name = true

theorem IsWhole.withoutVersion (whole : payload.IsWhole entity)
    (unversioned : ∀ field ∈ entity.fields, field.name ≠ "version") :
    payload.withoutVersion.IsWhole entity := by
  intro field declared
  rw [Fields.contains_eq_isSome, Payload.withoutVersion,
    Fields.value?_erase_of_ne _ (unversioned field declared),
    ← Fields.contains_eq_isSome]
  exact whole field declared

theorem IsWhole.given (whole : payload.IsWhole entity) {field : Field}
    (declared : field ∈ entity.fields) :
    ∃ raw, payload.value? field.name = some raw :=
  (Fields.contains_iff_exists ..).mp (whole field declared)

theorem IsWhole.missingErrors_eq (whole : payload.IsWhole entity)
    (mode other : WriteMode) (current stored : Attributes) :
    missingErrors entity payload mode current =
      missingErrors entity payload other stored := by
  refine congrArg _ (List.filter_congr fun field declared => ?_)
  obtain ⟨raw, given⟩ := whole.given declared
  simp only [isMissing, given]

theorem IsWhole.check_eq (whole : payload.IsWhole entity)
    (stored : Attributes) :
    payload.check schema entity .patch stored =
      payload.check schema entity .replace ∅ := by
  have same : payload.effective entity .patch = payload ∧
      payload.effective entity .replace = payload :=
    ⟨if_neg (by decide), if_neg (by decide)⟩
  simp only [check, same, whole.missingErrors_eq .patch .replace stored ∅]

theorem IsWhole.isSome_of_check (whole : payload.IsWhole entity)
    (valid : payload.check schema entity .replace ∅ = .ok attributes)
    {field : Field} (declared : field ∈ entity.fields) :
    (attributes.value? field.name).isSome := by
  obtain ⟨-, gives, -⟩ := check_gives valid
  obtain ⟨raw, given⟩ := whole.given declared
  exact (gives.taken field declared raw given).2

end Payload

def Write.rewritten (write : Write) (id : String) (settings : Settings)
    (store : Store) (now : Instant) : Except StoreError Record := do
  let definition ← store.entity write.entity
  let hint ← write.payload.checkProtected definition
  let record ← store.liveRecord write.entity id
  checkVersion write.entity id (write.goal.expected?.or hint) record.version
  let attributes ← write.payload.withoutVersion.check store.schema definition
    write.goal.mode (if write.goal.mode = .patch then record.attributes else ∅)
  store.checkIntegrity settings store.schema definition (some id) attributes
  pure (record.rewrite write.goal.mode attributes now)

theorem Database.runWrite_eq_rewritten (db : Database) (write : Write)
    {id : String} (existing : write.goal.id? = some id) :
    db.runWrite write =
      match write.rewritten id db.settings db.store (db.clock db.ticks) with
      | .error error => (db, .error error)
      | .ok record =>
        ({ db with store := (db.store.put record).commit,
                   ticks := db.ticks + 1 }, .ok record) := by
  have old : write.goal ≠ .create := by
    intro new
    rw [new] at existing
    cases existing
  simp only [runWrite, Write.prepare, Write.read, Write.rewritten, existing,
    bind_assoc, pure_bind, Draft.check, Draft.attributes]
  rcases declared : db.store.entity write.entity with error | definition
  · rfl
  rcases permitted : write.payload.checkProtected definition with error | hint
  · simp only [ok_bind, permitted, error_bind]
  rcases live : db.store.liveRecord write.entity id with error | record
  · simp only [ok_bind, permitted, error_bind]
  rcases version : checkVersion write.entity id (write.goal.expected?.or hint)
    record.version with error | ⟨⟨⟩⟩
  · simp only [ok_bind, permitted, version, error_bind]
  simp only [ok_bind, permitted, version]
  rcases valid : write.payload.withoutVersion.check db.store.schema definition
    write.goal.mode
    (if write.goal.mode = .patch then record.attributes else ∅) with
      error | attributes
  · rfl
  rcases sound : db.store.checkIntegrity db.settings db.store.schema definition
    (some id) attributes with error | ⟨⟨⟩⟩
  · simp only [ok_bind, sound, error_bind]
  simp [ok_bind, sound, commitWrite, old, tick, CheckedWrite.commit,
    CheckedWrite.result, existing, live, version, CheckedWrite.recheck, pure,
    Except.pure, Record.rewrite]

theorem Record.rewrite_eq_of_covered {record : Record} {attributes : Attributes}
    (covered : ∀ name value, record.attributes.value? name = some value →
      (attributes.value? name).isSome) (now : Instant) :
    record.rewrite .replace attributes now =
      record.rewrite .patch attributes now := by
  simp [rewrite, Fields.merge_eq_right _ covered]

theorem Write.rewritten_replace {store : Store} (admits : store.Admits)
    {entity : String} {definition : Entity}
    (declared : store.schema.entity? entity = some definition)
    {payload : Payload} (whole : payload.withoutVersion.IsWhole definition)
    (id : String) (expected : Option UInt64) (settings : Settings)
    (now : Instant) :
    Write.rewritten ⟨entity, .replace id expected, payload⟩ id settings store
      now =
      Write.rewritten ⟨entity, .patch id expected, payload⟩ id settings store
        now := by
  have known := (Store.entity_eq_ok_iff ..).mpr declared
  simp only [rewritten, known, ok_bind, Goal.mode, Goal.expected?, reduceCtorEq,
    if_true, if_false, whole.check_eq]
  refine bind_congr fun hint => ?_
  rcases live : store.liveRecord entity id with error | record
  · rfl
  rw [ok_bind, ok_bind]
  refine bind_congr fun _ => ?_
  rcases valid : payload.withoutVersion.check store.schema definition .replace
    ∅ with error | attributes
  · rfl
  rw [ok_bind, ok_bind]
  refine bind_congr fun _ => congrArg pure ?_
  -- every field of the record is declared, and has been given a value
  refine Record.rewrite_eq_of_covered (fun name value held => ?_) now
  rw [Store.liveRecord_eq_ok_iff] at live
  obtain ⟨other, again, admissible⟩ :=
    admits ⟨entity, id⟩ record (Store.record?_of_live? live)
  obtain rfl := Option.some.inj (declared.symm.trans again)
  obtain ⟨field, member, rfl, -⟩ := (admissible name value held).typed
  exact whole.isSome_of_check valid member

theorem Database.definition_eq_ok_iff (db : Database) (name : String)
    (definition : Entity) :
    db.definition name = .ok definition ↔
      ∃ entity, db.resolve name = .ok entity ∧
        db.store.schema.entity? entity = some definition := by
  rw [Database.definition, bind_eq_ok_iff]
  simp only [Store.entity_eq_ok_iff]

/-- In every state that operations at work at once lead to under one schema,
replacing a record and patching it come to the same for a payload that has a
member for every field: the same record in the same store, or the same error
with nothing changed. -/
theorem Workload.replace_eq_patch (load : Workload) (schema : Schema)
    (sameSchema : ∀ i other, load.request i ≠ .reload other)
    (schedule : List Nat) {db : Database}
    (reached : db.store = (load.run (.initial { schema }) schedule).store)
    {name : String} {definition : Entity}
    (named : db.definition name = .ok definition)
    (unversioned : ∀ field ∈ definition.fields, field.name ≠ "version")
    {payload : Payload} (whole : payload.IsWhole definition) (id : String)
    (expected : Option UInt64) :
    db.replace name id expected payload = db.patch name id expected payload ∧
      ∀ error, (db.replace name id expected payload).2 = .error error →
        (db.replace name id expected payload).1 = db := by
  obtain ⟨entity, resolved, declared⟩ :=
    (Database.definition_eq_ok_iff ..).mp named
  have replaced :=
    db.runWrite_eq_rewritten ⟨entity, .replace id expected, payload⟩ rfl
  have patched :=
    db.runWrite_eq_rewritten ⟨entity, .patch id expected, payload⟩ rfl
  have admits : db.store.Admits :=
    reached ▸ (run_supplied schema sameSchema schedule).2.1
  rw [← Write.rewritten_replace admits declared (whole.withoutVersion
    unversioned) id expected db.settings (db.clock db.ticks)] at patched
  simp only [Database.replace, Database.patch, Database.withEntity, resolved]
  refine ⟨replaced.trans patched.symm, fun error failed => ?_⟩
  rw [replaced] at failed ⊢
  split at failed
  · rfl
  · cases failed

namespace Workload

def tagging : Workload :=
  ofList
    [.write ⟨"d.Tag", .create, .ofList [("name", .string "a")]⟩,
      .write ⟨"d.Post", .create, .ofList [("tags", .array [.string "0"])]⟩]

def taggingSchedule : List Nat :=
  [0, 0, 1, 0, 1, 1]

theorem tagging_sameSchema (i : Nat) (other : Schema) :
    tagging.request i ≠ .reload other :=
  ofList_sameSchema (by simp) i other

theorem tagging_replace_eq_patch :
    let db : Database :=
      { store := (tagging.run (.initial { schema := .tagging })
          taggingSchedule).store
        ids := fun _ => ""
        clock := fun _ => default }
    let payload : Payload :=
      .ofList [("tags", .array []), ("version", .int 1), ("likes", .int 0)]
    db.definition "Post" = .ok .post ∧ payload.IsWhole .post ∧
      db.replace "Post" "1" none payload = db.patch "Post" "1" none payload ∧
      (db.replace "Post" "1" none payload).2 = .ok ⟨"d.Post", "1", 2, default,
        default, false, .ofList [("tags", .array [])]⟩ := by
  intro db payload
  have reached : db.store = (tagging.run (.initial { schema := .tagging })
      taggingSchedule).store :=
    rfl
  have named : db.definition "Post" = .ok .post := rfl
  have whole : payload.IsWhole .post := by
    intro field member
    obtain rfl := List.mem_singleton.mp member
    rfl
  have unversioned : ∀ field ∈ Entity.post.fields, field.name ≠ "version" := by
    simp [Entity.post, Field.tags]
  obtain ⟨same, -⟩ :=
    replace_eq_patch tagging .tagging tagging_sameSchema taggingSchedule reached
      named unversioned whole "1" none
  exact ⟨named, whole, same, by decide +kernel⟩

end Workload

end RecordStore
