import RecordStore.Proofs.Concurrency.Guard

namespace RecordStore

def Record.rewrite (record : Record) (mode : WriteMode)
    (attributes : Attributes) (now : Instant) : Record :=
  { record with
    attributes := if mode = WriteMode.patch then
      record.attributes.merge attributes else attributes }.touch now

@[simp] theorem Record.rewrite_key (record : Record) (mode : WriteMode)
    (attributes : Attributes) (now : Instant) :
    (record.rewrite mode attributes now).key = record.key := rfl

@[simp] theorem Record.rewrite_version (record : Record) (mode : WriteMode)
    (attributes : Attributes) (now : Instant) :
    (record.rewrite mode attributes now).version = record.version + 1 := rfl

@[simp] theorem Record.rewrite_deleted (record : Record) (mode : WriteMode)
    (attributes : Attributes) (now : Instant) :
    (record.rewrite mode attributes now).deleted = record.deleted := rfl

@[simp] theorem Record.restore_key (record : Record) (now : Instant) :
    (record.restore now).key = record.key := rfl

@[simp] theorem Record.restore_version (record : Record) (now : Instant) :
    (record.restore now).version = record.version + 1 := rfl

/-- What a draft comes to on a store, all its checks made there. -/
def Draft.result (draft : Draft) (settings : Settings) (store : Store)
    (fresh : String) (now : Instant) : Except StoreError Record :=
  match draft.goal.id? with
  | none => do
    let attributes ← draft.validate settings store
    pure (Record.create draft.entity fresh attributes now)
  | some id => do
    let record ← store.liveRecord draft.entity id
    checkVersion draft.entity id draft.expected record.version
    let attributes ← draft.validate settings store
    pure (record.rewrite draft.goal.mode attributes now)

theorem Draft.cases_of_result {draft : Draft} {settings : Settings}
    {store : Store} {fresh : String} {now : Instant} {record : Record}
    (passed : draft.result settings store fresh now = .ok record) :
    ∃ attributes, draft.validate settings store = .ok attributes ∧
      ((draft.goal.id? = none ∧
        record = .create draft.entity fresh attributes now) ∨
        ∃ id old, draft.goal.id? = some id ∧
          store.live? draft.entity id = some old ∧
          draft.expected = some old.version ∧
          record = old.rewrite draft.goal.mode attributes now) := by
  rw [Draft.result] at passed
  split at passed
  next new =>
      obtain ⟨attributes, validated, same⟩ := bind_eq_ok_iff.mp passed
      cases same
      exact ⟨attributes, validated, .inl ⟨new, rfl⟩⟩
  next id existing =>
      obtain ⟨old, live, passed⟩ := bind_eq_ok_iff.mp passed
      obtain ⟨⟨⟩, version, passed⟩ := bind_eq_ok_iff.mp passed
      obtain ⟨attributes, validated, same⟩ := bind_eq_ok_iff.mp passed
      cases same
      rw [Store.liveRecord_eq_ok_iff] at live
      rw [checkVersion_eq_ok_iff] at version
      exact ⟨attributes, validated,
        .inr ⟨id, old, existing, live, version, rfl⟩⟩

theorem CheckedWrite.result_eq {checked : CheckedWrite} {settings : Settings}
    {store : Store}
    (repeated : checked.recheck settings store =
      checked.draft.validate settings store) (fresh : String) (now : Instant) :
    checked.result settings store fresh now =
      checked.draft.result settings store fresh now := by
  rw [CheckedWrite.result, Draft.result, repeated]
  rfl

/-- What a successful operation finds in the store, and what it leaves there and
replies. -/
inductive Store.Commits (settings : Settings) (fresh : String) (now : Instant)
    (store : Store) : Request → Store → Reply → Prop where
  | create {entity : String} {payload : Payload} {definition : Entity}
      {attributes : Attributes}
      (declared : store.schema.entity? entity = some definition)
      (valid : payload.withoutVersion.check store.schema definition .create ∅ =
        .ok attributes)
      (sound : store.checkIntegrity settings store.schema definition none
        attributes = .ok ()) :
      Commits settings fresh now store (.write ⟨entity, .create, payload⟩)
        (store.put (.create entity fresh attributes now)).commit
        (.record (.create entity fresh attributes now))
  | update {write : Write} {id : String} {definition : Entity} {record : Record}
      {current attributes : Attributes} (existing : write.goal.id? = some id)
      (declared : store.schema.entity? write.entity = some definition)
      (live : store.live? write.entity id = some record)
      (valid : write.payload.withoutVersion.check store.schema definition
        write.goal.mode current =
        .ok attributes)
      (sound : store.checkIntegrity settings store.schema definition (some id)
        attributes = .ok ()) :
      Commits settings fresh now store (.write write)
        (store.put (record.rewrite write.goal.mode attributes now)).commit
        (.record (record.rewrite write.goal.mode attributes now))
  | delete {deletion : Deletion} {target : Record} {plan : DeletePlan}
      (live : store.live? deletion.entity deletion.id = some target)
      (planned : store.planDelete deletion.entity deletion.id = .ok plan) :
      Commits settings fresh now store (.delete deletion)
        (plan.apply store now).1
        (.deleted ⟨target.markDeleted now, plan.cascade⟩)
  | restore {restoration : Restoration} {record : Record} {definition : Entity}
      (stored : store.record? restoration.entity restoration.id = some record)
      (deleted : record.deleted = true)
      (declared : store.schema.entity? restoration.entity = some definition)
      (unique : store.checkUniqueness definition (some record.id)
        record.attributes = .ok ()) :
      Commits settings fresh now store (.restore restoration)
        (store.put (record.restore now)).commit (.record (record.restore now))
  | restored {restoration : Restoration} {record : Record}
      (live : store.live? restoration.entity restoration.id = some record) :
      Commits settings fresh now store (.restore restoration) store
        (.record record)
  | reload {schema : Schema} (version : UInt64) :
      Commits settings fresh now store (.reload schema)
        (store.replaceSchema { schema with version }) (.version version)

def Deleted.plan (deleted : Deleted) : DeletePlan :=
  ⟨deleted.record.entity, deleted.record.id, deleted.cascade⟩

/-- The record that an operation is about; a new one has the id `fresh`. -/
def Request.target? (fresh : String) : Request → Option RecordKey
  | .write asked => some ⟨asked.entity, asked.goal.id?.getD fresh⟩
  | .delete deletion => some ⟨deletion.entity, deletion.id⟩
  | .restore restoration => some ⟨restoration.entity, restoration.id⟩
  | .reload _ => none

/-- The operation has deleted the record along with its target, or cleared a
field of it. -/
def Reply.InCascade (reply : Reply) (key : RecordKey) : Prop :=
  match reply with
  | .deleted done =>
    key ∈ done.cascade.deleted ∨
      ∃ name, ⟨key.entity, key.id, name⟩ ∈ done.cascade.cleared
  | .record _ | .version _ => False

/-- What comes of an operation: it fails and leaves the store alone, or it
commits. -/
inductive Store.Yields (settings : Settings) (fresh : String) (now : Instant)
    (store : Store) (request : Request) {α : Type} (reply : α → Reply) :
    Store × Except StoreError α → Prop where
  | failure (error : StoreError) :
      Yields settings fresh now store request reply (store, .error error)
  | success {after : Store} {a : α}
      (commits : store.Commits settings fresh now request after (reply a)) :
      Yields settings fresh now store request reply (after, .ok a)

/-- If what is tried on the store fails, the store is left as it is. -/
def Store.IsSparedBy (store : Store) {α : Type}
    (outcome : Store × Except StoreError α) : Prop :=
  ∀ error, outcome.2 = .error error → outcome.1 = store

theorem Store.Yields.spares {settings : Settings} {fresh : String}
    {now : Instant} {store : Store} {request : Request} {α : Type}
    {reply : α → Reply} {outcome : Store × Except StoreError α}
    (yields : store.Yields settings fresh now request reply outcome) :
    store.IsSparedBy outcome := by
  cases yields with
  | failure error => exact fun _ _ => rfl
  | success commits =>
      intro error failed
      cases failed

theorem Goal.eq_create_of_id?_eq_none {goal : Goal} (new : goal.id? = none) :
    goal = .create := by
  cases goal <;> simp [Goal.id?] at new ⊢

/-- A draft that passes its checks on a store is a commit there, whatever store
it was read from. -/
theorem Draft.ReadFrom.commits {draft : Draft} {write : Write} {seen : Store}
    (read : draft.ReadFrom write seen) {settings : Settings} {store : Store}
    {fresh : String} {now : Instant} {record : Record}
    (passed : draft.result settings store fresh now = .ok record) :
    store.Commits settings fresh now (.write write) (store.put record).commit
      (.record record) := by
  have goal := read.goal
  obtain ⟨attributes, validated,
    ⟨new, rfl⟩ | ⟨id, old, existing, live, -, rfl⟩⟩ :=
    Draft.cases_of_result passed
  · obtain ⟨definition, declared, valid, sound⟩ :=
      (Draft.validate_eq_ok_iff ..).mp validated
    rw [new] at sound
    have current : draft.current = ∅ := by
      have current := read.current
      rw [← goal, new] at current
      exact current
    rw [goal] at new
    have created := Goal.eq_create_of_id?_eq_none new
    rw [goal, created, current, read.payload] at valid
    rw [read.entity] at declared ⊢
    have written : write = ⟨write.entity, .create, write.payload⟩ := by
      rw [← created]
    rw [written]
    exact .create declared valid sound
  · obtain ⟨definition, declared, valid, sound⟩ :=
      (Draft.validate_eq_ok_iff ..).mp validated
    rw [existing] at sound
    rw [read.entity] at live declared
    rw [goal, read.payload] at valid
    rw [goal] at existing ⊢
    exact .update existing declared live valid sound

theorem CheckedWrite.commit_yields {checked : CheckedWrite} {write : Write}
    {seen middle store : Store} {settings : Settings}
    (read : checked.draft.ReadFrom write seen) (before : seen.Precedes middle)
    (passed : checked.draft.check settings middle = .ok checked)
    (after : middle.Precedes store) (fresh : String) (now : Instant) :
    store.Yields settings fresh now (.write write) .record
      (checked.commit settings store fresh now) := by
  have result :=
    checked.result_eq (recheck_eq_validate read before passed after) fresh now
  rw [commit, result]
  cases outcome : checked.draft.result settings store fresh now with
  | error error => exact .failure error
  | ok record => exact .success (read.commits outcome)

theorem Deletion.checkTarget_eq_ok {deletion : Deletion} {store : Store}
    (found : deletion.checkTarget store = .ok ()) :
    ∃ target, store.live? deletion.entity deletion.id = some target := by
  obtain ⟨target, live, -⟩ := bind_eq_ok_iff.mp found
  exact ⟨target, (Store.liveRecord_eq_ok_iff ..).mp live⟩

theorem Deletion.read_eq_ok_iff (deletion : Deletion) (store : Store)
    (planned : PlannedDeletion) :
    deletion.read store = .ok planned ↔
      deletion.checkTarget store = .ok () ∧ planned.deletion = deletion ∧
        store.planDelete deletion.entity deletion.id = .ok planned.plan ∧
        planned.epoch = store.epoch := by
  simp only [Deletion.read, bind_eq_ok_iff]
  constructor
  · rintro ⟨⟨⟩, found, plan, listed, same⟩
    cases same
    exact ⟨found, rfl, listed, rfl⟩
  · rintro ⟨found, rfl, listed, epoch⟩
    exact ⟨(), found, planned.plan, listed, by rw [← epoch]; rfl⟩

/-- A deletion commits what it would in one go, whether it keeps its plan or
makes another. -/
theorem PlannedDeletion.commit_eq_run {planned : PlannedDeletion}
    {deletion : Deletion} {seen store : Store}
    (read : deletion.read seen = .ok planned) (before : seen.Precedes store)
    (now : Instant) : planned.commit store now = deletion.run store now := by
  obtain ⟨-, rfl, listed, epoch⟩ := (Deletion.read_eq_ok_iff ..).mp read
  have current : planned.currentPlan store = (do
      planned.deletion.checkTarget store
      store.planDelete planned.deletion.entity planned.deletion.id) := by
    rw [currentPlan]
    split
    next unmoved =>
        obtain rfl := before.eq_of_epoch (by rw [unmoved, epoch])
        rw [listed]
        rfl
    next moved => rfl
  rw [commit, current, Deletion.run, Deletion.read]
  cases target : planned.deletion.checkTarget store with
  | error error => rfl
  | ok found =>
      simp only [ok_bind]
      cases made : store.planDelete planned.deletion.entity
        planned.deletion.id with
      | error error => rfl
      | ok plan =>
          simp [ok_bind, commit, currentPlan, target, pure, Except.pure]

theorem Deletion.run_yields (deletion : Deletion) (settings : Settings)
    (fresh : String) (now : Instant) (store : Store) :
    store.Yields settings fresh now (.delete deletion) .deleted
      (deletion.run store now) := by
  rw [run]
  cases read : deletion.read store with
  | error error => exact .failure error
  | ok planned =>
      obtain ⟨found, rfl, listed, epoch⟩ := (Deletion.read_eq_ok_iff ..).mp read
      obtain ⟨target, live⟩ := checkTarget_eq_ok found
      obtain ⟨fits, stored⟩ := Store.planDelete_target listed live
      have current : planned.currentPlan store = .ok planned.plan := by
        rw [PlannedDeletion.currentPlan, found, ok_bind, if_pos epoch.symm]
        rfl
      have applied : planned.plan.apply store now =
          ((planned.plan.apply store now).1,
            some (target.markDeleted now)) := by
        rw [← (fits.apply_commits now stored).2]
      have commits : store.Commits settings fresh now _ _ _ :=
        .delete live listed
      simp only [PlannedDeletion.commit, current]
      rw [applied]
      exact .success commits

theorem Restoration.read_eq_checked_iff (restoration other : Restoration)
    (store : Store) (epoch : Nat) :
    restoration.read store = .ok (.checked other epoch) ↔
      other = restoration ∧ epoch = store.epoch ∧
        ∃ record, restoration.stored store = .ok record ∧
          record.isLive = false ∧
          restoration.checkUnique store record = .ok () := by
  simp only [Restoration.read, bind_eq_ok_iff]
  constructor
  · rintro ⟨record, stored, read⟩
    split at read
    next => cases read
    next gone =>
        obtain ⟨⟨⟩, unique, same⟩ := bind_eq_ok_iff.mp read
        cases same
        exact ⟨rfl, rfl, record, stored, by simpa using gone, unique⟩
  · rintro ⟨rfl, rfl, record, stored, gone, unique⟩
    exact ⟨record, stored, by rw [gone, unique]; rfl⟩

theorem Restoration.live_of_read {restoration : Restoration} {store : Store}
    {record : Record}
    (read : restoration.read store = .ok (.alreadyLive record)) :
    store.live? restoration.entity restoration.id = some record := by
  obtain ⟨stored, found, read⟩ := bind_eq_ok_iff.mp read
  rw [Restoration.stored, Store.storedRecord_eq_ok_iff] at found
  split at read
  next live =>
      cases read
      exact (Store.live?_eq_some_iff ..).mpr
        ⟨found, by simpa [Record.isLive] using live⟩
  next gone =>
      obtain ⟨⟨⟩, -, impossible⟩ := bind_eq_ok_iff.mp read
      cases impossible

theorem Restoration.run_eq (restoration : Restoration) (store : Store)
    (now : Instant) :
    restoration.run store now = match restoration.stored store with
    | .error error => (store, .error error)
    | .ok record =>
      if record.isLive then (store, .ok record)
      else match restoration.checkUnique store record with
        | .error error => (store, .error error)
        | .ok () => ((store.put (record.restore now)).commit,
          .ok (record.restore now)) := by
  rw [run, read]
  cases stored : restoration.stored store with
  | error error => rfl
  | ok record =>
      simp only [ok_bind]
      cases live : record.isLive with
      | true => rfl
      | false =>
          cases unique : restoration.checkUnique store record with
          | error error => rfl
          | ok passed =>
              simp [ok_bind, PlannedRestoration.commit, current, stored, live,
                pure, Except.pure]

theorem PlannedRestoration.commit_eq_run {restoration other : Restoration}
    {epoch : Nat} {seen store : Store}
    (read : restoration.read seen = .ok (.checked other epoch))
    (before : seen.Precedes store) (now : Instant) :
    (PlannedRestoration.checked other epoch).commit store now =
      restoration.run store now := by
  obtain ⟨rfl, rfl, vetted, found, -, unique⟩ :=
    (Restoration.read_eq_checked_iff ..).mp read
  rw [Restoration.run_eq, commit, Restoration.current]
  cases stored : other.stored store with
  | error error => rfl
  | ok record =>
      simp only [ok_bind]
      cases live : record.isLive with
      | true => simp [live, pure, Except.pure]
      | false =>
          by_cases unmoved : store.epoch = seen.epoch
          · obtain rfl := before.eq_of_epoch unmoved.symm
            rw [found] at stored
            cases stored
            simp [unique, live, pure, Except.pure]
          · cases again : other.checkUnique store record with
            | error error => simp [unmoved]
            | ok passed => simp [unmoved, live, ok_bind, pure, Except.pure]

theorem Restoration.run_yields (restoration : Restoration) (settings : Settings)
    (fresh : String) (now : Instant) (store : Store) :
    store.Yields settings fresh now (.restore restoration) .record
      (restoration.run store now) := by
  rw [run_eq]
  cases found : restoration.stored store with
  | error error => exact .failure error
  | ok record =>
      rw [stored, Store.storedRecord_eq_ok_iff] at found
      dsimp only
      split
      next live =>
          exact .success (.restored ((Store.live?_eq_some_iff ..).mpr
            ⟨found, by simpa [Record.isLive] using live⟩))
      next gone =>
          cases checked : restoration.checkUnique store record with
          | error error => exact .failure error
          | ok passed =>
              obtain ⟨definition, declared, unique⟩ := bind_eq_ok_iff.mp checked
              rw [Store.entity_eq_ok_iff] at declared
              exact .success (.restore found
                (by simpa [Record.isLive] using gone) declared unique)

theorem Database.reload_yields (db : Database) (schema : Schema)
    (settings : Settings) (fresh : String) (now : Instant) :
    db.store.Yields settings fresh now (.reload schema) .version
      ((db.reload schema).1.store, (db.reload schema).2) := by
  rw [reload]
  cases checkSchema schema with
  | error error => exact .failure error
  | ok accepted => exact .success (.reload _)

namespace Store

variable {settings : Settings} {fresh : String} {now : Instant}
  {store after : Store} {request : Request} {reply : Reply}

theorem Precedes.commit (store : Store) (records : Index Record.key) :
    store.Precedes ({ store with records } : Store).commit where
  epoch_le := Nat.le_succ _
  eq_of_epoch := fun same => absurd same (Nat.ne_of_lt (Nat.lt_succ_self _))
  generation_le := Nat.le_refl _
  schema_of_generation := fun _ => rfl

theorem Precedes.replaceSchema (store : Store) (schema : Schema) :
    store.Precedes (store.replaceSchema schema) where
  epoch_le := Nat.le_succ _
  eq_of_epoch := fun same => absurd same (Nat.ne_of_lt (Nat.lt_succ_self _))
  generation_le := Nat.le_succ _
  schema_of_generation := fun same =>
    absurd same (Nat.ne_of_lt (Nat.lt_succ_self _))

theorem Commits.precedes
    (commits : store.Commits settings fresh now request after reply) :
    store.Precedes after := by
  cases commits with
  | create | update | restore => exact .commit store _
  | restored => exact .refl store
  | reload => exact .replaceSchema store _
  | delete live planned =>
      obtain ⟨fits, stored⟩ := planDelete_target planned live
      obtain ⟨⟨records, committed⟩, -⟩ := fits.apply_commits now stored
      rw [committed]
      exact .commit store records

theorem Commits.epoch_le
    (commits : store.Commits settings fresh now request after reply) :
    after.epoch ≤ store.epoch + 1 := by
  cases commits with
  | create | update | restore | reload => exact Nat.le_refl _
  | restored => exact Nat.le_succ _
  | delete live planned =>
      obtain ⟨fits, stored⟩ := planDelete_target planned live
      obtain ⟨⟨records, committed⟩, -⟩ := fits.apply_commits now stored
      rw [committed]
      exact Nat.le_refl _

theorem Commits.schema_kept
    (commits : store.Commits settings fresh now request after reply)
    (sameSchema : ∀ schema, request ≠ .reload schema) :
    after.schema = store.schema ∧ after.generation = store.generation := by
  cases commits with
  | create | update | restore | restored => exact ⟨rfl, rfl⟩
  | reload => exact absurd rfl (sameSchema _)
  | delete live planned =>
      obtain ⟨fits, stored⟩ := planDelete_target planned live
      obtain ⟨⟨records, committed⟩, -⟩ := fits.apply_commits now stored
      rw [committed]
      exact ⟨rfl, rfl⟩

theorem Yields.schema_kept {α : Type} {reply : α → Reply}
    {outcome : Store × Except StoreError α}
    (yields : store.Yields settings fresh now request reply outcome)
    (sameSchema : ∀ schema, request ≠ .reload schema) :
    outcome.1.schema = store.schema := by
  cases yields with
  | failure error => rfl
  | success commits => exact (commits.schema_kept sameSchema).1

theorem Commits.deletes {deleted : Deleted}
    (commits : store.Commits settings fresh now request after
      (.deleted deleted)) :
    deleted.plan.Fits store ∧ (∃ target,
      store.record? deleted.plan.entity deleted.plan.id = some target) ∧
      after = (deleted.plan.apply store now).1 := by
  cases commits with
  | @delete deletion target plan live planned =>
      obtain ⟨fits, stored⟩ := planDelete_target planned live
      have same : Deleted.plan ⟨target.markDeleted now, plan.cascade⟩ =
          plan := by
        obtain ⟨entity, id⟩ := key_of_record? stored
        change DeletePlan.mk target.entity target.id plan.cascade = plan
        rw [entity, id]
      rw [same]
      exact ⟨fits, ⟨target, stored⟩, rfl⟩

theorem Commits.entity_of_reply
    (commits : store.Commits settings fresh now request after reply)
    {record : Record}
    (replied : reply = .record record ∨
      ∃ cascade, reply = .deleted ⟨record, cascade⟩)
    {key : RecordKey} (target : request.target? fresh = some key) :
    record.entity = key.entity := by
  cases commits with
  | create =>
      cases target
      rcases replied with ⟨⟨⟩⟩ | ⟨_, ⟨⟩⟩
      rfl
  | update _ _ live | delete live | restored live =>
      cases target
      rcases replied with ⟨⟨⟩⟩ | ⟨_, ⟨⟩⟩
      exact (key_of_record? (record?_of_live? live)).1
  | restore stored =>
      cases target
      rcases replied with ⟨⟨⟩⟩ | ⟨_, ⟨⟩⟩
      exact (key_of_record? stored).1
  | reload => cases target

theorem Yields.entity_of_reply {α : Type} {reply : α → Reply}
    {outcome : Store × Except StoreError α}
    (yields : store.Yields settings fresh now request reply outcome) {a : α}
    (done : outcome.2 = .ok a) {record : Record}
    (replied : reply a = .record record ∨
      ∃ cascade, reply a = .deleted ⟨record, cascade⟩)
    {key : RecordKey} (target : request.target? fresh = some key) :
    record.entity = key.entity := by
  cases yields with
  | failure error => cases done
  | success commits =>
      cases done
      exact commits.entity_of_reply replied target

/-! Records in the place of others. -/

section put

variable {entity id other name : String} {old new : Record}

theorem record?_put_stored (stored : store.record? entity id = some old)
    (key : new.key = old.key) (other name : String) :
    (store.put new).record? other name =
      if (⟨entity, id⟩ : RecordKey) = ⟨other, name⟩ then some new
      else store.record? other name := by
  obtain ⟨rfl, rfl⟩ := key_of_record? stored
  rw [record?_put, key]
  rfl

theorem record?_put_create
    (unused : ∀ entity, store.record? entity fresh = none)
    (stored : store.record? entity id = some old) (created : String)
    (attributes : Attributes) :
    (store.put (.create created fresh attributes now)).record? entity id =
      some old := by
  rw [record?_put, if_neg]
  · exact stored
  · intro same
    have id : fresh = id := (RecordKey.mk.inj same).2
    rw [← id, unused] at stored
    contradiction

end put

/-- What becomes of the record of a key between two stores. -/
inductive Affects (store after : Store) (fresh : String) (now : Instant)
    (request : Request) (reply : Reply) (key : RecordKey) : Prop where
  | leaves
      (same : after.record? key.entity key.id = store.record? key.entity key.id)
  | inserts {attributes : Attributes} (drawn : key.id = fresh)
      (target : request.target? fresh = some key)
      (absent : store.record? key.entity key.id = none)
      (found : after.record? key.entity key.id =
        some (.create key.entity key.id attributes now))
  | changes {old : Record} {deleted : Bool} {attributes : Attributes}
      (involved : request.target? fresh = some key ∨ reply.InCascade key)
      (stored : store.record? key.entity key.id = some old)
      (found : after.record? key.entity key.id =
        some ({ old with deleted, attributes }.touch now))

theorem Affects.of_put {entity id : String} {old new : Record} {deleted : Bool}
    {attributes : Attributes} (stored : store.record? entity id = some old)
    (made : new = { old with deleted, attributes }.touch now)
    (target : request.target? fresh = some ⟨entity, id⟩) (key : RecordKey) :
    store.Affects (store.put new).commit fresh now request reply key := by
  have put := record?_put_stored stored
    (show new.key = old.key by rw [made]; rfl) key.entity key.id
  split at put
  next here =>
      obtain rfl : ⟨entity, id⟩ = key := here
      rw [made] at put ⊢
      exact .changes (.inl target) stored put
  next elsewhere => exact .leaves put

/-- A commit leaves the record of a key alone, inserts it, or puts the next
version in its place. -/
theorem Commits.affects
    (commits : store.Commits settings fresh now request after reply)
    (unused : ∀ entity, store.record? entity fresh = none) (key : RecordKey) :
    store.Affects after fresh now request reply key := by
  cases commits with
  | @create entity payload definition attributes =>
      have put := record?_put store (.create entity fresh attributes now)
        key.entity key.id
      split at put
      next here =>
          obtain rfl : ⟨entity, fresh⟩ = key := here
          exact .inserts rfl rfl (unused entity) put
      next elsewhere => exact .leaves put
  | @update write id definition record current attributes existing declared
    live =>
      refine .of_put (record?_of_live? live) rfl ?_ key
      rw [Request.target?, existing, Option.getD_some]
  | restore stored => exact .of_put stored rfl rfl key
  | restored => exact .leaves rfl
  | reload => exact .leaves rfl
  | @delete deletion target plan live planned =>
      obtain ⟨entity, id, fits⟩ := planDelete_fits planned
      obtain ⟨-, found⟩ := planDelete_target planned live
      have applied := fits.record?_apply now found key
      by_cases touches : plan.Touches key
      · cases stored : store.record? key.entity key.id with
        | none => exact .leaves (by rw [applied, stored, Option.map_none])
        | some old =>
            obtain ⟨deleted, attributes, changed⟩ :=
              DeletePlan.effect_of_touches now touches old
            refine .changes ?_ stored
              (by rw [applied, stored, Option.map_some, changed])
            rcases touches with goes | cleared
            · rw [DeletePlan.gone, List.mem_cons, entity, id] at goes
              exact goes.imp (fun target => by rw [target]; rfl) .inl
            · exact .inr (.inr cleared)
      · refine .leaves ?_
        rw [applied]
        cases store.record? key.entity key.id with
        | none => rfl
        | some old =>
            rw [Option.map_some, DeletePlan.effect_of_not_touches now touches]

theorem Commits.record?_kept
    (commits : store.Commits settings fresh now request after reply)
    (unused : ∀ entity, store.record? entity fresh = none) {entity id : String}
    {old : Record} (stored : store.record? entity id = some old) :
    ∃ new, after.record? entity id = some new ∧
      (new = old ∨
        ∃ deleted attributes,
          new = { old with deleted, attributes }.touch now) := by
  cases commits.affects unused ⟨entity, id⟩ with
  | leaves same => exact ⟨old, same.trans stored, .inl rfl⟩
  | inserts drawn target absent =>
      rw [stored] at absent
      cases absent
  | changes involved before found =>
      obtain rfl := Option.some.inj (stored.symm.trans before)
      exact ⟨_, found, .inr ⟨_, _, rfl⟩⟩

theorem Commits.record?_added
    (commits : store.Commits settings fresh now request after reply)
    (unused : ∀ entity, store.record? entity fresh = none) {entity id : String}
    (absent : store.record? entity id = none) (other : id ≠ fresh) :
    after.record? entity id = none := by
  cases commits.affects unused ⟨entity, id⟩ with
  | leaves same => exact same.trans absent
  | inserts drawn => exact absurd drawn other
  | changes involved stored =>
      rw [absent] at stored
      cases stored

end Store

end RecordStore
