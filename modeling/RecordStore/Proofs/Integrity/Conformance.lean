import RecordStore.Proofs.Admission
import RecordStore.Proofs.Concurrency.Linearizable
import RecordStore.Proofs.Integrity.Uniqueness

namespace RecordStore

/-! What records hold is what the schema declares, whatever operations run at
once under it, but for one thing: a deletion clears a reference without asking
whether another field of the same name is required. -/

/-- There is a value for every required field. -/
def Attributes.Complete (attributes : Attributes) (entity : Entity) : Prop :=
  ∀ field ∈ entity.fields, field.required = true →
    (attributes.present? field.name).isSome

theorem Attributes.isSome_present?_iff (attributes : Attributes)
    (name : String) :
    (attributes.present? name).isSome ↔
      ∃ value, attributes.value? name = some value ∧ value.isNull = false := by
  simp [Option.isSome_iff_exists, present?_eq_some_iff]

/-- A required field has the name of a single reference that is cleared when its
target goes. -/
structure Entity.Conflicts (entity : Entity) (name : String) : Prop where
  required : ∃ field ∈ entity.fields, field.name = name ∧ field.required = true
  released : ∃ field ∈ entity.referenceFields,
    field.name = name ∧ field.type.many = false ∧ field.policy = .setNull

theorem Entity.Conflicts.not_nodup {schema : Schema} (clean : schema.lint = [])
    {entity : Entity} (declared : entity ∈ schema.entities.items)
    {name : String} (conflicts : entity.Conflicts name) :
    ¬(entity.fields.map Field.name).Nodup := by
  obtain ⟨field, member, own, required⟩ := conflicts.required
  obtain ⟨other, released, same, single, policy⟩ := conflicts.released
  obtain ⟨otherMember, reference⟩ := List.mem_filter.mp released
  intro distinct
  obtain rfl : field = other :=
    List.inj_on_of_nodup_map distinct member otherMember (own.trans same.symm)
  have flawless :=
    (Schema.lint_eq_nil_iff.mp clean entity declared).1 field member
  rw [FieldType.isReference] at reference
  cases element : field.type.element with
  | scalar | choice => simp [element] at reference
  | reference target =>
      simp [Schema.fieldFlaws, FieldType.target?, element, Schema.policyFlaws,
        single, required, policy] at flawless

namespace Store

/-- Every record, deleted or not, holds what its entity declares. -/
def Conforms (store : Store) : Prop :=
  ∀ key : RecordKey, ∀ record, store.record? key.entity key.id = some record →
    ∃ entity, store.schema.entity? key.entity = some entity ∧
      record.attributes.Admissible store.schema entity ∧
      record.attributes.Complete entity

variable {store : Store} {now : Instant} {reply : Reply} {key : RecordKey}
  {attributes : Attributes}

def Admits (store : Store) : Prop :=
  ∀ key : RecordKey, ∀ record, store.record? key.entity key.id = some record →
    ∃ entity, store.schema.entity? key.entity = some entity ∧
      record.attributes.Admissible store.schema entity

theorem Leaves.admissible (leaves : store.Leaves now reply key attributes)
    (admits : store.Admits) :
    ∃ entity, store.schema.entity? key.entity = some entity ∧
      attributes.Admissible store.schema entity := by
  cases leaves with
  | kept stored => exact admits key _ stored
  | written declared valid =>
      exact ⟨_, declared, Payload.check_admissible valid⟩
  | patched stored declared valid =>
      obtain ⟨entity, known, old⟩ := admits key _ stored
      rw [declared, Option.some.injEq] at known
      subst known
      exact ⟨_, declared, old.merge (Payload.check_admissible valid)⟩
  | pruned replied fits stored =>
      obtain ⟨entity, declared, admissible⟩ := admits key _ stored
      refine ⟨entity, declared, fits.forall_effect ?_ admissible now key⟩
      exact fun name value admissible => admissible.prune _

end Store

namespace DeletePlan

variable {plan : DeletePlan} {store : Store} {entity : Entity} {key : RecordKey}
  {name : String}

theorem Fits.released (fits : plan.Fits store)
    (declared : store.schema.entity? key.entity = some entity) {value : Value}
    (admissible : value.Admissible store.schema entity name)
    (listed : ⟨key.entity, key.id, name⟩ ∈ plan.cascade.cleared)
    (present : value.isNull = false)
    (emptied : (value.prune plan.removedIds).isNull = true) :
    ∃ field ∈ entity.referenceFields, field.name = name ∧
      field.type.many = false ∧ field.policy = .setNull := by
  obtain ⟨-, goal, -, owner, field, record, refers, policy, own, -, rfl⟩ :=
    fits.refers_of_cleared listed
  obtain rfl := Store.entity_eq declared refers.declared own
  refine ⟨field, refers.reference, rfl, ?_, policy⟩
  -- an array stays one, however many of its elements go
  have shaped :=
    admissible.shaped field (List.mem_filter.mp refers.reference).1 rfl
  cases value with
  | null => cases present
  | atom a => exact shaped
  | array items => cases emptied

theorem Fits.emptied (fits : plan.Fits store)
    (listed : ⟨key.entity, key.id, name⟩ ∈ plan.cascade.cleared) {field : Field}
    (member : field ∈ entity.fields) (own : field.name = name)
    (single : field.type.many = false) :
    ∃ record, store.record? key.entity key.id = some record ∧
      (record.attributes.Admissible store.schema entity →
        ∀ now,
          (plan.effect now key record).attributes.present? name = none) := by
  obtain ⟨-, goal, goes, owner, other, record, refers, -, entityName, id,
    fieldName⟩ :=
    fits.refers_of_cleared listed
  refine ⟨record, ?_, ?_⟩
  · rw [entityName, id]
    exact Store.record?_of_live? refers.live
  intro admissible now
  obtain ⟨value, held, names⟩ := refers.holds
  rw [← fieldName] at held
  -- the value is no array, as a field of its name is for one value: what it
  -- refers to is all it holds
  have shaped := (admissible name value held).shaped field member own
  have removed : goal.id ∈ plan.removedIds := by
    rw [removedIds_eq]
    exact List.mem_map_of_mem goes
  rw [Attributes.present?, fits.value?_effect now, if_pos listed, held]
  cases value with
  | null => simp [Value.references] at names
  | array items => simp [Value.Shaped, single] at shaped
  | atom a =>
      have named := (Value.references_iff_refId? (by simp) goal.id).mp names
      simp [Value.prune, named, removed, Value.isNull]

end DeletePlan

theorem Store.Leaves.supplied {store : Store} {now : Instant} {reply : Reply}
    {key : RecordKey} {attributes : Attributes}
    (leaves : store.Leaves now reply key attributes) (admits : store.Admits)
    {entity : Entity} (declared : store.schema.entity? key.entity = some entity)
    {field : Field} (member : field ∈ entity.fields)
    (required : field.required = true)
    (before : ∀ old, store.record? key.entity key.id = some old →
      (old.attributes.present? field.name).isSome) :
    (attributes.present? field.name).isSome ∨
      entity.Conflicts field.name ∧
        ∃ deleted, reply = .deleted deleted ∧
          ⟨key.entity, key.id, field.name⟩ ∈ deleted.cascade.cleared := by
  cases leaves with
  | kept stored => exact .inl (before _ stored)
  | written known valid whole =>
      obtain rfl := Option.some.inj (declared.symm.trans known)
      obtain ⟨present, given⟩ := Payload.check_required valid member required
      obtain ⟨value, found⟩ := Option.isSome_iff_exists.mp (given whole)
      exact .inl ((Attributes.isSome_present?_iff ..).mpr
        ⟨value, found, present value found⟩)
  | @patched old _ _ _ changes stored known valid =>
      obtain rfl := Option.some.inj (declared.symm.trans known)
      obtain ⟨present, -⟩ := Payload.check_required valid member required
      obtain ⟨value, found, some⟩ :=
        (Attributes.isSome_present?_iff ..).mp (before old stored)
      refine .inl ((Attributes.isSome_present?_iff ..).mpr ?_)
      rw [Fields.value?_merge]
      cases changed : changes.value? field.name with
      | none => exact ⟨value, found, some⟩
      | some other => exact ⟨other, rfl, present other changed⟩
  | @pruned old deleted replied fits stored =>
      obtain ⟨value, found, present⟩ :=
        (Attributes.isSome_present?_iff ..).mp (before old stored)
      by_cases listed :
        ⟨key.entity, key.id, field.name⟩ ∈ deleted.plan.cascade.cleared
      · cases emptied : (value.prune deleted.plan.removedIds).isNull with
        | false =>
            refine .inl
              ((Attributes.isSome_present?_iff ..).mpr ⟨_, ?_, emptied⟩)
            rw [fits.value?_effect now, if_pos listed, found]
            rfl
        | true =>
            obtain ⟨other, known, admissible⟩ := admits key old stored
            obtain rfl := Option.some.inj (declared.symm.trans known)
            have released := fits.released declared
              (admissible field.name value found) listed present emptied
            exact .inr ⟨⟨⟨field, member, rfl, required⟩, released⟩, deleted,
              replied, listed⟩
      · refine .inl
          ((Attributes.isSome_present?_iff ..).mpr ⟨value, ?_, present⟩)
        rw [fits.value?_effect now, if_neg listed, found]

def System.Supplied (system : System) : Prop :=
  ∀ key : RecordKey, ∀ record,
    system.store.record? key.entity key.id = some record →
      ∀ entity, system.store.schema.entity? key.entity = some entity →
        ∀ field ∈ entity.fields, field.required = true →
          (record.attributes.present? field.name).isSome ∨
            entity.Conflicts field.name ∧
              system.Pruned key.entity key.id field.name

namespace Workload

variable {load : Workload} {system : System}

theorem step_admits (sameSchema : ∀ i other, load.request i ≠ .reload other)
    (coherent : system.Coherent load) (admits : system.store.Admits) (i : Nat) :
    (load.step system i).store.Admits := by
  refine step_keeps coherent admits i fun commits => ?_
  intro key record found
  rw [(commits.schema_kept (sameSchema i)).1]
  exact (commits.leaves found).admissible admits

theorem step_supplied (sameSchema : ∀ i other, load.request i ≠ .reload other)
    (coherent : system.Coherent load) (admits : system.store.Admits)
    (supplied : system.Supplied) (i : Nat) : (load.step system i).Supplied := by
  intro key record found entity declared field member required
  rw [step_schema sameSchema coherent i] at declared
  -- what a deletion cleared before is accounted for already
  by_cases earlier : entity.Conflicts field.name ∧
    system.Pruned key.entity key.id field.name
  · exact .inr ⟨earlier.1, pruned_step earlier.2 i⟩
  · have before : ∀ old, system.store.record? key.entity key.id = some old →
        (old.attributes.present? field.name).isSome :=
      fun old stored =>
        (supplied key old stored entity declared field member
          required).resolve_right earlier
    rcases step_cases coherent i with ⟨same, -⟩ | ⟨reply, -, done, commits⟩
    · rw [same] at found
      exact .inl (before record found)
    · refine ((commits.leaves found).supplied admits declared member required
        before).imp_right ?_
      rintro ⟨conflicts, deleted, rfl, listed⟩
      exact ⟨conflicts, i, deleted, done, listed⟩

theorem pruned_run {entity id field : String}
    (pruned : system.Pruned entity id field) (schedule : List Nat) :
    (load.run system schedule).Pruned entity id field :=
  load.run_induction (P := (·.Pruned entity id field)) pruned
    (fun _ i earlier => pruned_step earlier i) schedule

theorem conforms_of_supplied (admits : system.store.Admits)
    (supplied : system.Supplied)
    (spares : ∀ key : RecordKey, ∀ entity,
      system.store.schema.entity? key.entity = some entity →
        ∀ name, entity.Conflicts name → ¬system.Pruned key.entity key.id name) :
    system.store.Conforms := by
  intro key record found
  obtain ⟨entity, declared, admissible⟩ := admits key record found
  refine ⟨entity, declared, admissible, ?_⟩
  intro field member required
  refine (supplied key record found entity declared field member
    required).resolve_right ?_
  rintro ⟨conflicts, pruned⟩
  exact spares key entity declared field.name conflicts pruned

theorem not_conforms_of_cleared {i : Nat} (coherent : system.Coherent load)
    (conforms : system.store.Conforms) {deleted : Deleted}
    (underway : (system.stage i).isFinished = false)
    (done : (load.step system i).stage i = .finished (.ok (.deleted deleted)))
    {entity : Entity} {key : RecordKey}
    (declared : system.store.schema.entity? key.entity = some entity)
    {name : String} (conflicts : entity.Conflicts name)
    (listed : ⟨key.entity, key.id, name⟩ ∈ deleted.cascade.cleared) :
    ¬(load.step system i).store.Conforms := by
  intro still
  rcases step_cases coherent i with
    ⟨-, unsuccessful⟩ | ⟨reply, -, finished, commits⟩
  · simp [unsuccessful _ done, Stage.isFinished] at underway
  obtain rfl : reply = .deleted deleted := by simpa [finished] using done
  obtain ⟨fits, ⟨target, stored⟩, same⟩ := commits.deletes
  obtain ⟨field, reference, own, single, -⟩ := conflicts.released
  obtain ⟨needed, member, needs, required⟩ := conflicts.required
  obtain ⟨record, found, emptied⟩ :=
    fits.emptied listed (List.mem_filter.mp reference).1 own single
  obtain ⟨other, known, admissible, -⟩ := conforms key record found
  obtain rfl := Option.some.inj (declared.symm.trans known)
  have left := fits.record?_apply (load.time i) stored key
  rw [← same, found, Option.map_some] at left
  obtain ⟨after, knownAfter, -, complete⟩ := still key _ left
  rw [same, fits.schema_apply (load.time i) stored, declared,
    Option.some.injEq] at knownAfter
  subst knownAfter
  have present := complete needed member required
  rw [needs, emptied admissible] at present
  cases present

theorem run_supplied (schema : Schema)
    (sameSchema : ∀ i other, load.request i ≠ .reload other)
    (schedule : List Nat) :
    (load.run (.initial { schema }) schedule).Coherent load ∧
      (load.run (.initial { schema }) schedule).store.Admits ∧
      (load.run (.initial { schema }) schedule).Supplied := by
  refine load.run_induction (P := fun system =>
    system.Coherent load ∧ system.store.Admits ∧ system.Supplied)
    ⟨.initial fun _ _ => rfl, ?_, ?_⟩ ?_ schedule
  · intro key record found
    cases found
  · intro key record found
    cases found
  · rintro system i ⟨coherent, admits, supplied⟩
    exact ⟨step_coherent coherent i, step_admits sameSchema coherent admits i,
      step_supplied sameSchema coherent admits supplied i⟩

theorem run_conforms_iff (schema : Schema)
    (sameSchema : ∀ i other, load.request i ≠ .reload other)
    (schedule : List Nat) :
    (∀ before, before <+: schedule →
      (load.run (.initial { schema }) before).store.Conforms) ↔
      ∀ key : RecordKey, ∀ entity, schema.entity? key.entity = some entity →
        ∀ name, entity.Conflicts name →
          ¬(load.run (.initial { schema }) schedule).Pruned key.entity key.id
            name := by
  constructor
  · rintro conforms key entity declared name conflicts
      ⟨i, deleted, done, listed⟩
    obtain ⟨before, part, underway, ends⟩ := finishing_step rfl done
    obtain ⟨coherent, -⟩ := run_supplied schema sameSchema before
    have same : (load.run (.initial { schema }) before).store.schema = schema :=
      run_schema sameSchema before
    rw [← same] at declared
    refine not_conforms_of_cleared coherent
      (conforms before ((List.prefix_append ..).trans part))
      underway ends declared conflicts listed ?_
    rw [← run_concat]
    exact conforms (before ++ [i]) part
  · rintro spares before ⟨rest, rfl⟩
    obtain ⟨-, admits, supplied⟩ := run_supplied schema sameSchema before
    refine conforms_of_supplied admits
      supplied fun key entity declared name conflicts pruned => ?_
    rw [run_schema sameSchema before] at declared
    refine spares key entity declared name conflicts ?_
    rw [run_append]
    exact pruned_run pruned rest

/-- Records hold what their entities declare throughout a schedule that starts
from nothing and keeps a schema without flaws, exactly if no deletion of it
clears a field of the name of a required one. Only such a field can be without
its value, and only if names of fields are not distinct. -/
theorem records_conform (load : Workload) (schema : Schema)
    (clean : schema.lint = [])
    (sameSchema : ∀ i other, load.request i ≠ .reload other)
    (schedule : List Nat) :
    let start : System := .initial { schema }
    let final := load.run start schedule
    (∀ key : RecordKey, ∀ record,
      final.store.record? key.entity key.id = some record →
        ∃ entity, schema.entity? key.entity = some entity ∧
          record.attributes.Admissible schema entity ∧
          ∀ field ∈ entity.fields, field.required = true →
            (record.attributes.present? field.name).isSome ∨
              entity.Conflicts field.name ∧
                final.Pruned key.entity key.id field.name) ∧
      ((∀ before, before <+: schedule →
        (load.run start before).store.Conforms) ↔
        ∀ key : RecordKey, ∀ entity, schema.entity? key.entity = some entity →
          ∀ name, entity.Conflicts name →
            ¬final.Pruned key.entity key.id name) ∧
      ∀ entity ∈ schema.entities.items, ∀ name, entity.Conflicts name →
        ¬(entity.fields.map Field.name).Nodup := by
  intro start final
  refine ⟨?_, run_conforms_iff schema sameSchema schedule,
    fun entity declared name conflicts => conflicts.not_nodup clean declared⟩
  intro key record found
  obtain ⟨-, admits, supplied⟩ := run_supplied schema sameSchema schedule
  obtain ⟨entity, declared, admissible⟩ := admits key record found
  have needs := supplied key record found entity declared
  rw [run_schema sameSchema schedule] at declared admissible
  exact ⟨entity, declared, admissible, needs⟩

end Workload

def Entity.labelled : Entity :=
  ⟨"d", "Post",
    [{ name := "tag", type := ⟨.scalar .string, false⟩, required := true },
      { name := "tag", type := ⟨.reference "Tag", false⟩,
        declaredPolicy := some .setNull }], []⟩

def Schema.labelling : Schema where
  entities := .ofList [.labelled, .tag]

namespace Workload

/-- A tag, a post that has it, and the end of the tag. -/
def unlabelling : Workload :=
  ofList
    [.write ⟨"d.Tag", .create, .ofList [("name", .string "a")]⟩,
      .write ⟨"d.Post", .create, .ofList [("tag", .string "0")]⟩,
      .delete ⟨"d.Tag", "0", none⟩]

def unlabellingSchedule : List Nat :=
  [0, 0, 0, 1, 1, 1, 2, 2]

theorem unlabelling_sameSchema (i : Nat) (other : Schema) :
    unlabelling.request i ≠ .reload other :=
  ofList_sameSchema (by simp) i other

theorem unlabelling_record :
    (unlabelling.run (.initial { schema := .labelling })
      unlabellingSchedule).store.record? "d.Post" "1" = some ⟨"d.Post", "1", 2,
        default, default, false, .ofList [("tag", .null)]⟩ := by
  decide +kernel

theorem unlabelling_conflicts :
    Entity.labelled.Conflicts "tag" ∧
      (unlabelling.run (.initial { schema := .labelling })
        unlabellingSchedule).Pruned "d.Post" "1" "tag" := by
  obtain ⟨records, -⟩ :=
    records_conform unlabelling .labelling (by decide +kernel)
      unlabelling_sameSchema unlabellingSchedule
  obtain ⟨entity, declared, -, needs⟩ :=
    records ⟨"d.Post", "1"⟩ _ unlabelling_record
  obtain rfl : .labelled = entity := Option.some.inj declared
  refine (needs _ (.head _) rfl).resolve_left ?_
  intro present
  cases present

theorem not_always_conforms :
    ¬∀ (load : Workload) (schema : Schema), schema.lint = [] →
      (∀ i other, load.request i ≠ .reload other) →
      ∀ schedule, (load.run (.initial { schema }) schedule).store.Conforms := by
  intro always
  have conforms :=
    always unlabelling .labelling (by decide +kernel) unlabelling_sameSchema
      unlabellingSchedule
  obtain ⟨entity, declared, -, complete⟩ :=
    conforms ⟨"d.Post", "1"⟩ _ unlabelling_record
  rw [run_schema unlabelling_sameSchema] at declared
  obtain rfl : .labelled = entity := Option.some.inj declared
  have present := complete _ (.head _) rfl
  cases present

end Workload

end RecordStore
