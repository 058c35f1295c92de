import RecordStore.Proofs.Query.Listing
import RecordStore.Proofs.Schema.Targets
import RecordStore.Proofs.Script

namespace RecordStore

namespace Schema

/-! Full names that are looked up again. What a name is resolved to is the full
name of an entity. Taken as a name, it is cut at its first dot and loses the
white space at the ends of both parts, so that it is resolved to itself only if
nothing is lost and neither part is empty. -/

/-- A full name that says where it is cut and has nothing to lose there: neither
of the parts before and after its first dot is empty or has white space at its
ends. -/
inductive Qualified : String → Prop
  | parts {before after : String} (first : '.' ∉ before.toList)
      (place : before ≠ "") (name : after ≠ "")
      (trimmed : Text.trim before = before)
      (trimmedToo : Text.trim after = after) :
      Qualified (before ++ "." ++ after)

variable {schema : Schema} {owner name place fullName : String}

theorem Qualified.trim_eq (qualified : Qualified fullName) :
    Text.trim fullName = fullName := by
  obtain ⟨first, place, name, trimmed, trimmedToo⟩ := qualified
  rw [Text.trim_eq_self_iff] at trimmed trimmedToo ⊢
  have dot : Text.trimBoth ".".toList = ".".toList := by decide +kernel
  have start :=
    Text.trimBoth_append trimmed dot (by simpa using place) (by simp)
  rw [String.toList_append, String.toList_append]
  exact Text.trimBoth_append start trimmedToo (by simp) (by simpa using name)

theorem length_joined (before after : String) :
    (before ++ "." ++ after).toList.length =
      before.toList.length + 1 + after.toList.length := by
  rw [String.toList_append, String.toList_append, List.length_append,
    List.length_append]
  rfl

theorem resolveIn_cases (found : schema.resolveIn place name = some fullName) :
    ∃ entity ∈ schema.entities.items, entity.fullName = fullName ∧
      (entity.fullName = place ++ "." ++ name ∨
        entity.IsNamedIn place name) := by
  rcases schema.only_or_unspelt place name with ⟨entity, only⟩ | unspelt
  · rw [resolveIn_asSpelt only] at found
    exact ⟨entity, only.declared, Option.some.inj found, .inl only.holds⟩
  · obtain ⟨entity, foremost, same⟩ := (resolveIn_eq_some_iff unspelt).mp found
    exact ⟨entity, foremost.declared, same, .inr foremost.holds⟩

theorem length_of_resolveIn
    (found : schema.resolveIn place name = some fullName) :
    fullName.toList.length = place.toList.length + 1 + name.toList.length := by
  obtain ⟨entity, -, rfl, spelt | ⟨home, named⟩⟩ := resolveIn_cases found
  · rw [spelt, length_joined]
  · rw [Entity.fullName, length_joined, Text.length_of_equalUpToAsciiCase home,
      Text.length_of_equalUpToAsciiCase named]

theorem entity?_of_resolve (found : schema.resolve owner name = some fullName) :
    ∃ entity, schema.entity? fullName = some entity := by
  have declared : ∀ {place name}, schema.resolveIn place name = some fullName →
      ∃ entity, schema.entity? fullName = some entity := by
    intro place name found
    obtain ⟨entity, declared, same, -⟩ := resolveIn_cases found
    exact ⟨entity, (entity?_eq_some_iff ..).mpr ⟨declared, same⟩⟩
  simp only [resolve] at found
  split at found
  next => cases found
  split at found
  next => exact declared found
  split at found
  next =>
    split at found
    next => cases found
    next => exact declared found
  next =>
    obtain ⟨entity, only, same⟩ := resolveShort_eq_some_iff.mp found
    exact ⟨entity, (entity?_eq_some_iff ..).mpr ⟨only.declared, same⟩⟩

theorem resolve_qualified {entity : Entity}
    (declared : schema.entity? fullName = some entity)
    (qualified : Qualified fullName) :
    schema.resolve "" fullName = some fullName := by
  have spelt :=
    contains_eq_true_iff.mpr ⟨entity, (entity?_eq_some_iff ..).mp declared⟩
  have trimmed := qualified.trim_eq
  obtain ⟨first, place, name, ends, endsToo⟩ := qualified
  rw [resolve_homeless trimmed (by simp) Text.trim_empty,
    qualifier?_eq_some place first]
  simp only [ends, endsToo, name, if_false]
  rw [resolveIn, if_pos spelt]

theorem not_isNamed_trim_fullName (entity : Entity) :
    ¬entity.IsNamed (Text.trim entity.fullName) := by
  intro named
  have dots := Text.count_dot_of_equalUpToAsciiCase named
  rw [Text.toList_trim, Text.count_trimBoth (by decide)] at dots
  simp only [Entity.fullName, String.toList_append, List.count_append] at dots
  have own : ".".toList.count '.' = 1 := by decide
  omega

theorem not_resolveShort_trim (schema : Schema) (fullName : String) :
    schema.resolveShort (Text.trim fullName) ≠ some fullName := by
  intro found
  obtain ⟨entity, only, rfl⟩ := resolveShort_eq_some_iff.mp found
  exact not_isNamed_trim_fullName entity only.holds

theorem qualifier?_eq_some_iff {before after : String} :
    qualifier? name = some (before, after) ↔
      name = before ++ "." ++ after ∧ before ≠ "" ∧ '.' ∉ before.toList := by
  constructor
  · intro cut
    rcases dot_cases name with short | ⟨start, rest, rfl, first⟩
    · rw [qualifier?_of_short short] at cut
      cases cut
    by_cases empty : start = ""
    · rw [empty, String.empty_append, qualifier?_headless] at cut
      cases cut
    · rw [qualifier?_eq_some empty first] at cut
      cases cut
      exact ⟨rfl, empty, first⟩
  · rintro ⟨rfl, nonempty, first⟩
    exact qualifier?_eq_some nonempty first

theorem qualified_of_resolve
    (found : schema.resolve "" fullName = some fullName) :
    Qualified fullName := by
  have trimmed := Text.trim_idempotent fullName
  have again : schema.resolve "" (Text.trim fullName) = some fullName := by
    rw [← found, resolve, resolve, trimmed]
  have nonempty : Text.trim fullName ≠ "" := by
    intro empty
    simp [resolve, empty, Text.trim_empty] at again
  rw [resolve_homeless trimmed nonempty Text.trim_empty] at again
  split at again
  next before after cut =>
    obtain ⟨cut, place, first⟩ := qualifier?_eq_some_iff.mp cut
    split at again
    next => cases again
    next name =>
      -- What is trimmed off does not come back, so that the lengths leave no
      -- room for white space at any end.
      have length := length_of_resolveIn again
      have whole : (Text.trim fullName).toList.length =
          before.toList.length + 1 + after.toList.length := by
        rw [cut, length_joined]
      have outer := Text.length_trim_le fullName
      have start := Text.length_trim_le before
      have rest := Text.length_trim_le after
      have spared : Text.trim fullName = fullName :=
        Text.trim_eq_self_of_le (by omega)
      have before_eq : Text.trim before = before :=
        Text.trim_eq_self_of_le (by omega)
      have after_eq : Text.trim after = after :=
        Text.trim_eq_self_of_le (by omega)
      rw [after_eq] at name
      rw [← spared, cut]
      exact .parts first place name before_eq after_eq
  next => exact (not_resolveShort_trim _ _ again).elim

theorem resolve_self_iff {entity : Entity}
    (declared : schema.entity? fullName = some entity) :
    schema.resolve "" fullName = some fullName ↔ Qualified fullName :=
  ⟨qualified_of_resolve, resolve_qualified declared⟩

theorem eq_of_cut_eq {before after start rest : String}
    (same : before ++ "." ++ after = start ++ "." ++ rest)
    (first : '.' ∉ before.toList) (firstToo : '.' ∉ start.toList) :
    before = start ∧ after = rest := by
  have cut := splitFirst?_dot_iff.mpr ⟨same, firstToo⟩
  rw [splitFirst?_dot_iff.mpr ⟨rfl, first⟩, Option.some.injEq,
    Prod.mk.injEq] at cut
  exact ⟨String.toList_inj.mp cut.1, String.toList_inj.mp cut.2⟩

theorem qualified_fullName_iff {entity : Entity}
    (plain : '.' ∉ entity.namespaceName.toList) :
    Qualified entity.fullName ↔
      (entity.namespaceName ≠ "" ∧
        Text.trim entity.namespaceName = entity.namespaceName) ∧
        entity.name ≠ "" ∧ Text.trim entity.name = entity.name := by
  constructor
  · intro qualified
    generalize same : entity.fullName = fullName at qualified
    obtain ⟨first, place, name, trimmed, trimmedToo⟩ := qualified
    obtain ⟨rfl, rfl⟩ := eq_of_cut_eq same plain first
    exact ⟨⟨place, trimmed⟩, name, trimmedToo⟩
  · rintro ⟨⟨place, trimmed⟩, name, trimmedToo⟩
    exact .parts plain place name trimmed trimmedToo

end Schema

namespace Database

/-- An operation on an entity returns a record, and leaves a database. -/
inductive Returns (db : Database) (entity : String) : Database → Record → Prop
  | create {payload after record}
      (done : db.create entity payload = (after, .ok record)) :
      Returns db entity after record
  | replace {id expected payload after record}
      (done : db.replace entity id expected payload = (after, .ok record)) :
      Returns db entity after record
  | patch {id expected payload after record}
      (done : db.patch entity id expected payload = (after, .ok record)) :
      Returns db entity after record
  | delete {id expected after deleted}
      (done : db.delete entity id expected = (after, .ok deleted)) :
      Returns db entity after deleted.record
  | restore {id after record}
      (done : db.restore entity id = (after, .ok record)) :
      Returns db entity after record
  | get {id record} (done : db.get entity id = .ok record) :
      Returns db entity db record
  | list {query page record} (done : db.list entity query = .ok page)
      (member : record ∈ page.records) : Returns db entity db record
  | bulkCreate {payloads after results record}
      (done : db.bulkCreate entity payloads = (after, .ok results))
      (member : .ok record ∈ results) : Returns db entity after record
  | bulkPatch {items after results record}
      (done : db.bulkPatch entity items = (after, .ok results))
      (member : .ok record ∈ results) : Returns db entity after record
  | bulkDelete {ids after results deleted}
      (done : db.bulkDelete entity ids = (after, .ok results))
      (member : .ok deleted ∈ results) : Returns db entity after deleted.record
  | bulkRestore {ids after results record}
      (done : db.bulkRestore entity ids = (after, .ok results))
      (member : .ok record ∈ results) : Returns db entity after record

variable {α β : Type} {recordOf : β → Record} {db after : Database}
  {entity fullName : String}

/-- What is done keeps the schema in force, and its record, if there is one, is
of the entity. -/
structure IsAbout (fullName : String) (recordOf : β → Record)
    (run : Database → Answer β) : Prop where
  schema : ∀ db, (run db).1.store.schema = db.store.schema
  entity : ∀ db b, (run db).2 = .ok b → (recordOf b).entity = fullName

theorem runWrite_isAbout (goal : Goal) (payload : Payload) (fullName : String) :
    IsAbout fullName (fun record => record) fun db =>
      db.runWrite ⟨fullName, goal, payload⟩ where
  schema := (runWrite_isOrderly _).schema
  entity := by
    intro db record done
    obtain ⟨draft, read, passed⟩ := db.result_of_runWrite done
    exact (read.commits passed).entity_of_reply (.inl rfl) rfl

theorem runDeletion_isAbout (id : String) (expected : Option UInt64)
    (fullName : String) :
    IsAbout fullName Deleted.record fun db =>
      db.runDeletion ⟨fullName, id, expected⟩ where
  schema := (runDeletion_isOrderly _).schema
  entity := by
    intro db deleted done
    have yields := Deletion.run_yields ⟨fullName, id, expected⟩ db.settings ""
      (db.clock db.ticks) db.store
    exact yields.entity_of_reply done (.inr ⟨deleted.cascade, rfl⟩) rfl

theorem runRestoration_isAbout (id : String) (fullName : String) :
    IsAbout fullName (fun record => record) fun db =>
      db.runRestoration ⟨fullName, id⟩ where
  schema := (runRestoration_isOrderly _).schema
  entity := by
    intro db record done
    have yields := Restoration.run_yields ⟨fullName, id⟩ db.settings ""
      (db.clock db.ticks) db.store
    exact yields.entity_of_reply done (.inl rfl) rfl

theorem each_about {run : Database → α → Answer β}
    (about : ∀ item, IsAbout fullName recordOf fun db => run db item)
    (db : Database) (items : List α) :
    (each run db items).1.store.schema = db.store.schema ∧
      ∀ b, .ok b ∈ (each run db items).2 → (recordOf b).entity = fullName := by
  induction items generalizing db with
  | nil => simp [each]
  | cons item rest ih =>
      obtain ⟨kept, others⟩ := ih (run db item).1
      refine ⟨kept.trans ((about item).schema db), fun b member => ?_⟩
      rcases List.mem_cons.mp member with first | later
      · exact (about item).entity db b first.symm
      · exact others b later

theorem resolve_of_withEntity {run : String → Answer β} {b : β}
    (done : db.withEntity entity run = (after, .ok b)) :
    ∃ fullName, db.resolve entity = .ok fullName ∧
      run fullName = (after, .ok b) := by
  rw [withEntity] at done
  split at done
  next => cases done
  next fullName resolved => exact ⟨fullName, resolved, done⟩

/-- The entity of a record that is returned is what the name was resolved to. -/
structure Resolves (db : Database) (entity : String) (after : Database)
    (record : Record) : Prop where
  resolved : db.resolve entity = .ok record.entity
  schema : after.store.schema = db.store.schema

theorem IsAbout.resolves {run : String → Database → Answer β}
    (about : ∀ fullName, IsAbout fullName recordOf (run fullName)) {b : β}
    (done : db.withEntity entity (fun fullName => run fullName db) =
      (after, .ok b)) :
    db.Resolves entity after (recordOf b) := by
  obtain ⟨fullName, resolved, ran⟩ := resolve_of_withEntity done
  have kept := (about fullName).schema db
  have own := (about fullName).entity db b (by rw [ran])
  rw [ran] at kept
  exact ⟨own ▸ resolved, kept⟩

theorem IsAbout.resolves_bulk {run : String → Database → α → Answer β}
    (about : ∀ fullName item, IsAbout fullName recordOf fun db =>
      run fullName db item)
    {items : List α} {results : List (Except StoreError β)}
    (done : db.bulk entity items run = (after, .ok results)) {b : β}
    (member : .ok b ∈ results) : db.Resolves entity after (recordOf b) := by
  obtain ⟨fullName, resolved, ran⟩ := resolve_of_withEntity done
  obtain ⟨kept, own⟩ := each_about (about fullName) db items
  cases ran
  exact ⟨own b member ▸ resolved, kept⟩

theorem Returns.resolves {record : Record}
    (returns : db.Returns entity after record) :
    db.Resolves entity after record := by
  cases returns with
  | create done => exact IsAbout.resolves (runWrite_isAbout _ _) done
  | replace done => exact IsAbout.resolves (runWrite_isAbout _ _) done
  | patch done => exact IsAbout.resolves (runWrite_isAbout _ _) done
  | delete done => exact IsAbout.resolves (runDeletion_isAbout _ _) done
  | restore done => exact IsAbout.resolves (runRestoration_isAbout _) done
  | get done =>
      obtain ⟨fullName, resolved, live⟩ := bind_eq_ok_iff.mp done
      rw [Store.liveRecord_eq_ok_iff] at live
      obtain ⟨rfl, -⟩ := Store.key_of_record? (Store.record?_of_live? live)
      exact ⟨resolved, rfl⟩
  | list done member =>
      obtain ⟨definition, defined, paged⟩ := bind_eq_ok_iff.mp done
      obtain ⟨fullName, resolved, declared⟩ := bind_eq_ok_iff.mp defined
      cases paged
      have found := List.mem_of_mem_drop (List.mem_of_mem_take member)
      have live :=
        (((db.store.found_listing db.settings definition _).mem_iff record).mp
          found).1
      obtain ⟨own, -⟩ := Store.key_of_record? (Store.record?_of_live? live)
      rw [Store.entity_eq_ok_iff, Schema.entity?_eq_some_iff] at declared
      rw [← declared.2, ← own] at resolved
      exact ⟨resolved, rfl⟩
  | bulkCreate done member =>
      exact IsAbout.resolves_bulk (fun fullName payload =>
        runWrite_isAbout .create payload fullName) done member
  | bulkPatch done member =>
      exact IsAbout.resolves_bulk (fun fullName (item : PatchItem) =>
        runWrite_isAbout (.patch item.id item.expected) item.payload fullName)
        done member
  | bulkDelete done member =>
      exact IsAbout.resolves_bulk
        (fun fullName id => runDeletion_isAbout id none fullName) done member
  | bulkRestore done member =>
      exact IsAbout.resolves_bulk
        (fun fullName id => runRestoration_isAbout id fullName) done member

/-- Every operation takes a full name for what it is. -/
structure Takes (db : Database) (fullName : String) : Prop where
  resolved : db.resolve fullName = .ok fullName
  passed : ∀ {α : Type} (run : String → Answer α), db.withEntity fullName run =
    run fullName

theorem resolve_eq_ok_iff :
    db.resolve entity = .ok fullName ↔
      db.store.schema.resolve "" entity = some fullName := by
  rw [resolve]
  cases db.store.schema.resolve "" entity <;> simp

theorem takes_iff :
    db.Takes fullName ↔
      db.store.schema.resolve "" fullName = some fullName := by
  rw [← resolve_eq_ok_iff]
  refine ⟨Takes.resolved, fun resolved => ⟨resolved, fun run => ?_⟩⟩
  rw [withEntity, resolved]

/-- What a name is resolved to is the full name of an entity, and is resolved to
itself just if it is qualified. So the entity of a record that an operation
returns is declared, and every operation takes it for what it is just if it is
qualified. -/
theorem resolved_again_iff (schema : Schema) (db : Database) :
    (∀ owner name fullName, schema.resolve owner name = some fullName →
      (∃ definition, schema.entity? fullName = some definition) ∧
        (schema.resolve "" fullName = some fullName ↔
          Schema.Qualified fullName)) ∧
      ∀ entity after record, db.Returns entity after record →
        (∃ definition, after.store.schema.entity? record.entity =
          some definition) ∧
          (after.Takes record.entity ↔ Schema.Qualified record.entity) := by
  refine ⟨fun owner name fullName found => ?_,
    fun entity after record returns => ?_⟩
  · obtain ⟨definition, declared⟩ := Schema.entity?_of_resolve found
    exact ⟨⟨definition, declared⟩, Schema.resolve_self_iff declared⟩
  · obtain ⟨resolved, kept⟩ := returns.resolves
    rw [resolve_eq_ok_iff, ← kept] at resolved
    obtain ⟨definition, declared⟩ := Schema.entity?_of_resolve resolved
    rw [takes_iff]
    exact ⟨⟨definition, declared⟩, Schema.resolve_self_iff declared⟩

def offices : Database where
  store := {
    schema := { entities := .ofList
                  [⟨"crm", "Memo", [], []⟩, ⟨" crm", "Note", [], []⟩] }
    records := .ofList
      [.create "crm.Memo" "1" ∅ default, .create " crm.Note" "2" ∅ default] }
  ids := fun _ => ""
  clock := fun _ => default

theorem offices_names :
    offices.Returns "memo" offices (.create "crm.Memo" "1" ∅ default) ∧
      offices.Takes "crm.Memo" ∧
      offices.Returns "note" offices (.create " crm.Note" "2" ∅ default) ∧
      ¬offices.Takes " crm.Note" := by
  have got :
      offices.get "memo" "1" = .ok (.create "crm.Memo" "1" ∅ default) := by rfl
  have gotToo :
      offices.get "note" "2" = .ok (.create " crm.Note" "2" ∅ default) := by rfl
  have memo := Returns.get got
  have note := Returns.get gotToo
  obtain ⟨-, returned⟩ := resolved_again_iff offices.store.schema offices
  have memo_iff := (returned _ _ _ memo).2
  have note_iff := (returned _ _ _ note).2
  refine ⟨memo, memo_iff.mpr ?_, note, fun taken => ?_⟩
  · have plain :
        '.' ∉ (Entity.namespaceName ⟨"crm", "Memo", [], []⟩).toList := by
      decide +kernel
    exact (Schema.qualified_fullName_iff plain).mpr (by decide +kernel)
  · exact absurd (note_iff.mp taken).trim_eq (by decide +kernel)

theorem not_always_resolved_again :
    ¬∀ schema : Schema, schema.lint = [] →
      ∀ owner name fullName, schema.resolve owner name = some fullName →
        schema.resolve "" fullName = some fullName := by
  intro always
  have found := always offices.store.schema (by decide +kernel) "" "note"
    " crm.Note" (by decide +kernel)
  exact absurd (Schema.qualified_of_resolve found).trim_eq (by decide +kernel)

end Database

end RecordStore
