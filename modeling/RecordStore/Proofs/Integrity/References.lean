import RecordStore.Proofs.Concurrency.Progress
import RecordStore.Proofs.Deletion.Effect

namespace RecordStore

namespace Attributes

theorem present?_eq_some_iff (attributes : Attributes) (name : String)
    (value : Value) :
    attributes.present? name = some value ↔
      attributes.value? name = some value ∧ value.isNull = false := by
  simp [present?, Option.filter_eq_some_iff]

end Attributes

namespace Store

theorem isLiveRef_iff (store : Store) (target : String) (value : Value) :
    store.isLiveRef target value = true ↔
      ∃ id, value.refId? = some id ∧ (store.live? target id).isSome := by
  rw [isLiveRef]
  cases value.refId? <;> simp

/-- The value is a reference to a live record of the entity `target`, or an
array of such. -/
def LiveRefs (store : Store) (target : String) : Value → Prop
  | .array items => ∀ item ∈ items, store.isLiveRef target item = true
  | value => store.isLiveRef target value = true

/-- Every reference among the attributes leads to a live record of the entity
that its field is for. -/
def Resolves (store : Store) (entity : Entity) (attributes : Attributes) :
    Prop :=
  ∀ field ∈ entity.referenceFields, ∀ value,
    attributes.present? field.name = some value →
      ∃ target, store.schema.target? entity field = some target ∧
        store.LiveRefs target value

theorem elementErrors_eq_nil_iff (store : Store) (field target : String)
    (items : List Value) :
    store.elementErrors field target items = [] ↔
      ∀ item ∈ items, store.isLiveRef target item = true := by
  rw [elementErrors, List.filterMap_eq_nil_iff]
  constructor
  · intro passed item member
    obtain ⟨index, found⟩ := List.mem_iff_getElem?.mp member
    have here :=
      passed (item, index) (List.mk_mem_zipIdx_iff_getElem?.mpr found)
    simpa using here
  · rintro passed ⟨item, index⟩ member
    simp [passed item (List.fst_mem_of_mem_zipIdx member)]

theorem fieldReferenceErrors_eq_nil_iff (store : Store) (entity : Entity)
    (attributes : Attributes) (field : Field) :
    store.fieldReferenceErrors store.schema entity attributes field = [] ↔
      ∀ value, attributes.present? field.name = some value →
        ∃ target, store.schema.target? entity field = some target ∧
          store.LiveRefs target value := by
  rw [fieldReferenceErrors]
  cases attributes.present? field.name with
  | none => simp
  | some value =>
      cases store.schema.target? entity field with
      | none => simp
      | some target =>
          cases value with
          | array items => simp [elementErrors_eq_nil_iff, LiveRefs]
          | null => simp [LiveRefs]
          | atom a => simp [LiveRefs]

theorem referenceErrors_eq_nil_iff (store : Store) (entity : Entity)
    (attributes : Attributes) :
    store.referenceErrors store.schema entity attributes = [] ↔
      store.Resolves entity attributes := by
  simp only [referenceErrors, List.flatMap_eq_nil_iff,
    fieldReferenceErrors_eq_nil_iff, Resolves]

theorem resolves_of_checkIntegrity {store : Store} {settings : Settings}
    {entity : Entity} {own : Option String} {attributes : Attributes}
    (sound : store.checkIntegrity settings store.schema entity own attributes =
      .ok ()) :
    store.Resolves entity attributes := by
  rw [checkIntegrity, accept_eq_ok_iff, integrityErrors, List.append_eq_nil_iff,
    List.append_eq_nil_iff] at sound
  exact (store.referenceErrors_eq_nil_iff ..).mp sound.1.1

variable {store after : Store} {target : String} {value : Value}

theorem LiveRefs.isFlat (live : store.LiveRefs target value) :
    value.IsFlat := by
  cases value with
  | null | atom => trivial
  | array items =>
      intro item member inner same
      obtain ⟨id, named, -⟩ := (isLiveRef_iff ..).mp (live item member)
      simp [same, Value.refId?, Value.atom?] at named

theorem LiveRefs.imp (live : store.LiveRefs target value)
    (kept : ∀ id, value.references id = true → (store.live? target id).isSome →
      (after.live? target id).isSome) : after.LiveRefs target value := by
  have single : ∀ item, (∀ inner, item ≠ .array inner) →
      store.isLiveRef target item = true →
      (∀ id, item.references id = true → value.references id = true) →
      after.isLiveRef target item = true := by
    intro item single live part
    obtain ⟨id, named, found⟩ := (isLiveRef_iff ..).mp live
    have refers := (Value.references_iff_refId? single id).mpr named
    exact (isLiveRef_iff ..).mpr ⟨id, named, kept id (part id refers) found⟩
  have flat := live.isFlat
  cases value with
  | null => simp [LiveRefs, isLiveRef, Value.refId?, Value.atom?] at live
  | atom a => exact single _ (by simp) live (fun _ refers => refers)
  | array items =>
      intro item member
      refine single item (flat item member) (live item member) ?_
      intro id refers
      rw [Value.references_array, List.any_eq_true]
      exact ⟨item, member, refers⟩

theorem LiveRefs.live_of_references (live : store.LiveRefs target value)
    {id : String} (refers : value.references id = true) :
    (store.live? target id).isSome := by
  have flat := live.isFlat
  have single : ∀ item, (∀ inner, item ≠ .array inner) →
      store.isLiveRef target item = true →
      item.references id = true → (store.live? target id).isSome := by
    intro item single live refers
    obtain ⟨other, named, found⟩ := (isLiveRef_iff ..).mp live
    have same := (Value.references_iff_refId? single id).mp refers
    rw [named, Option.some.injEq] at same
    exact same ▸ found
  cases value with
  | null => simp [Value.references] at refers
  | atom a => exact single _ (by simp) live refers
  | array items =>
      rw [Value.references_array, List.any_eq_true] at refers
      obtain ⟨item, member, refers⟩ := refers
      exact single item (flat item member) (live item member) refers

theorem LiveRefs.prune (live : store.LiveRefs target value)
    (removed : List String) (left : (value.prune removed).isNull = false) :
    store.LiveRefs target (value.prune removed) := by
  cases value with
  | null => simp [LiveRefs, isLiveRef, Value.refId?, Value.atom?] at live
  | atom a =>
      rw [Value.prune_atom] at left ⊢
      split
      next gone => simp [gone, Value.isNull] at left
      next kept => exact live
  | array items =>
      rw [Value.prune_array]
      exact fun item member => live item (List.mem_filter.mp member).1

variable {entity : Entity}

theorem Resolves.imp {attributes : Attributes}
    (resolves : store.Resolves entity attributes)
    (schema : after.schema = store.schema)
    (kept : ∀ target id, (store.live? target id).isSome →
      (after.live? target id).isSome) :
    after.Resolves entity attributes := by
  intro field reference value held
  obtain ⟨target, found, live⟩ := resolves field reference value held
  exact ⟨target, schema ▸ found, live.imp fun id _ => kept target id⟩

theorem Resolves.merge {current changes : Attributes}
    (old : store.Resolves entity current)
    (new : store.Resolves entity changes) :
    store.Resolves entity (current.merge changes) := by
  intro field reference value held
  obtain ⟨held, some⟩ := (Attributes.present?_eq_some_iff ..).mp held
  rw [Fields.value?_merge, Option.or_eq_some_iff] at held
  rcases held with changed | ⟨-, kept⟩
  · exact new field reference value
      ((Attributes.present?_eq_some_iff ..).mpr ⟨changed, some⟩)
  · exact old field reference value
      ((Attributes.present?_eq_some_iff ..).mpr ⟨kept, some⟩)

/-- The references of all live records lead to live records. -/
def Intact (store : Store) : Prop :=
  ∀ entity ∈ store.schema.entities.items, ∀ record,
    store.live? entity.fullName record.id = some record →
      store.Resolves entity record.attributes

theorem Intact.put (intact : store.Intact) {record : Record}
    (live : record.deleted = false) {definition : Entity}
    (declared : store.schema.entity? record.entity = some definition)
    (resolves : store.Resolves definition record.attributes) :
    (store.put record).Intact := by
  have kept : ∀ target id, (store.live? target id).isSome →
      ((store.put record).live? target id).isSome := by
    intro target id found
    rw [live?_put store live]
    split
    · rfl
    · exact found
  intro entity member other found
  rw [live?_put store live] at found
  split at found
  next here =>
      obtain rfl : record = other := Option.some.inj found
      have own : record.entity = entity.fullName := (RecordKey.mk.inj here).1
      rw [own, (store.schema.entity?_eq_some_iff ..).mpr ⟨member, rfl⟩,
        Option.some.injEq] at declared
      subst declared
      exact resolves.imp rfl kept
  next elsewhere => exact (intact entity member other found).imp rfl kept

theorem Intact.apply (intact : store.Intact) {plan : DeletePlan}
    (fits : plan.Fits store) {goal : Record}
    (stored : store.record? plan.entity plan.id = some goal) (now : Instant) :
    (plan.apply store now).1.Intact := by
  have schema := fits.schema_apply now stored
  intro entity member record live field reference value held
  rw [schema] at member
  obtain ⟨held, some⟩ := (Attributes.present?_eq_some_iff ..).mp held
  obtain ⟨-, old, before, changed⟩ :=
    fits.live_before now stored ⟨entity.fullName, record.id⟩ live
  have id : old.id = record.id := (key_of_record? (record?_of_live? before)).2
  have resolves := intact entity member old (id ▸ before) field reference
  -- what is left of a value was resolved before, pruned or not
  obtain ⟨target, declared, refs⟩ :
      ∃ target, store.schema.target? entity field = .some target ∧
        store.LiveRefs target value := by
    have found := held
    rw [← changed, fits.value?_effect now] at found
    split at found
    next listed =>
        obtain ⟨value, before, rfl⟩ := Option.map_eq_some_iff.mp found
        have present : value.isNull = false := by
          cases value with
          | null =>
              simp [Value.prune, Value.refId?, Value.atom?,
                Value.isNull] at some
          | atom | array => rfl
        obtain ⟨target, declared, refs⟩ :=
          resolves value
            ((Attributes.present?_eq_some_iff ..).mpr ⟨before, present⟩)
        exact ⟨target, declared, refs.prune plan.removedIds some⟩
    next unlisted =>
      exact resolves value
        ((Attributes.present?_eq_some_iff ..).mpr ⟨found, some⟩)
  refine ⟨target, schema ▸ declared, refs.imp ?_⟩
  intro other refers found
  obtain ⟨referred, found⟩ := Option.isSome_iff_exists.mp found
  have stays : ⟨target, other⟩ ∉ plan.gone := by
    intro goes
    refine fits.unreferenced now stored goes ?_ record
      ⟨schema ▸ member, reference, schema ▸ declared, live, value, held, refers⟩
    intro record live value held
    cases present : value.isNull with
    | true =>
        cases value with
        | null => trivial
        | atom | array => simp [Value.isNull] at present
    | false =>
        obtain ⟨_, -, refs⟩ :=
          intact entity member record live field reference value
            ((Attributes.present?_eq_some_iff ..).mpr ⟨held, present⟩)
        exact refs.isFlat
  -- what is still referred to stays, and is live as it was
  rw [Option.isSome_iff_exists]
  refine ⟨plan.effect now ⟨target, other⟩ referred,
    (live?_eq_some_iff ..).mpr ⟨?_, ?_⟩⟩
  · rw [fits.record?_apply now stored ⟨target, other⟩, record?_of_live? found]
    rfl
  · rw [Bool.eq_false_iff, ne_eq, DeletePlan.effect_deleted]
    simp [stays, deleted_of_live? found]

variable {settings : Settings} {fresh : String} {now : Instant}
  {request : Request} {reply : Reply}

theorem Commits.intact
    (commits : store.Commits settings fresh now request after reply)
    (noRestore : ∀ restoration, request ≠ .restore restoration)
    (sameSchema : ∀ schema, request ≠ .reload schema) (intact : store.Intact) :
    after.Intact := by
  cases commits with
  | create declared valid sound =>
      exact intact.put rfl declared (resolves_of_checkIntegrity sound)
  | @update write id definition record current attributes existing declared live
    valid sound =>
      obtain ⟨own, same⟩ := key_of_record? (record?_of_live? live)
      have flag : (record.rewrite write.goal.mode attributes now).deleted =
          false := by
        rw [Record.rewrite_deleted]
        exact deleted_of_live? live
      have new := resolves_of_checkIntegrity sound
      have old : store.Resolves definition record.attributes := by
        obtain ⟨member, name⟩ :=
          (store.schema.entity?_eq_some_iff ..).mp declared
        exact intact definition member record (by rw [name, same]; exact live)
      have both : store.Resolves definition
          (record.rewrite write.goal.mode attributes now).attributes := by
        change store.Resolves definition (if _ then _ else _)
        split
        · exact old.merge new
        · exact new
      exact intact.put flag (own ▸ declared) both
  | delete live planned =>
      obtain ⟨fits, stored⟩ := planDelete_target planned live
      exact intact.apply fits stored now
  | restore => exact absurd rfl (noRestore _)
  | restored => exact absurd rfl (noRestore _)
  | reload => exact absurd rfl (sameSchema _)

theorem Commits.deleted_kept
    (commits : store.Commits settings fresh now request after reply)
    (unused : ∀ entity, store.record? entity fresh = none)
    (noRestore : ∀ restoration, request ≠ .restore restoration)
    {entity id : String} {old : Record}
    (stored : store.record? entity id = some old)
    (deleted : old.deleted = true) :
    ∃ new, after.record? entity id = some new ∧ new.deleted = true := by
  cases commits with
  | create =>
      rw [record?_commit]
      exact ⟨old, record?_put_create unused stored .., deleted⟩
  | update existing declared live =>
      refine ⟨old, ?_, deleted⟩
      rw [record?_commit,
        record?_put_stored (record?_of_live? live) (Record.rewrite_key ..),
        if_neg]
      · exact stored
      · intro same
        obtain ⟨rfl, rfl⟩ := RecordKey.mk.inj same
        rw [record?_of_live? live, Option.some.injEq] at stored
        rw [← stored, deleted_of_live? live] at deleted
        contradiction
  | delete live planned =>
      obtain ⟨fits, found⟩ := planDelete_target planned live
      refine ⟨_, by rw [fits.record?_apply now found ⟨entity, id⟩, stored]; rfl,
        ?_⟩
      exact (DeletePlan.effect_deleted now ⟨entity, id⟩ old).mpr (.inr deleted)
  | restore => exact absurd rfl (noRestore _)
  | restored => exact absurd rfl (noRestore _)
  | reload => exact ⟨old, stored, deleted⟩

theorem Commits.deleted_of_reply {deleted : Deleted}
    (commits : store.Commits settings fresh now request after
      (.deleted deleted)) {key : RecordKey} (goes : key ∈ deleted.plan.gone) :
    ∃ record, after.record? key.entity key.id = some record ∧
      record.deleted = true := by
  obtain ⟨fits, ⟨target, stored⟩, rfl⟩ := commits.deletes
  obtain ⟨record, before⟩ := fits.stored_of_touches stored (.inl goes)
  refine ⟨_, by rw [fits.record?_apply now stored, before]; rfl, ?_⟩
  exact (DeletePlan.effect_deleted now key record).mpr (.inl goes)

end Store

def System.KeepsDeleted (system : System) : Prop :=
  ∀ i deleted, system.stage i = .finished (.ok (.deleted deleted)) →
    ∀ key ∈ deleted.record.key :: deleted.cascade.deleted, ∃ record,
      system.store.record? key.entity key.id = some record ∧
        record.deleted = true

namespace Workload

variable {load : Workload} {system : System}

theorem step_keepsDeleted
    (noRestore : ∀ i restoration, load.request i ≠ .restore restoration)
    (coherent : system.Coherent load) (keeps : system.KeepsDeleted) (i : Nat) :
    (load.step system i).KeepsDeleted := by
  intro j deleted done key goes
  rcases step_cases coherent i with
    ⟨same, unsuccessful⟩ | ⟨reply, underway, finished, commits⟩
  · rw [same]
    by_cases own : j = i
    · subst own
      exact keeps j deleted (unsuccessful _ done) key goes
    · rw [load.step_stage_of_ne system own] at done
      exact keeps j deleted done key goes
  · by_cases own : j = i
    · subst own
      obtain rfl : reply = .deleted deleted := by simpa [finished] using done
      exact commits.deleted_of_reply goes
    · rw [load.step_stage_of_ne system own] at done
      obtain ⟨record, stored, flag⟩ := keeps j deleted done key goes
      exact commits.deleted_kept (coherent.unused i underway) (noRestore i)
        stored flag

theorem step_intact
    (noRestore : ∀ i restoration, load.request i ≠ .restore restoration)
    (sameSchema : ∀ i other, load.request i ≠ .reload other)
    (coherent : system.Coherent load) (intact : system.store.Intact) (i : Nat) :
    (load.step system i).store.Intact :=
  step_keeps coherent intact i fun commits =>
    commits.intact (noRestore i) (sameSchema i) intact

theorem step_schema (sameSchema : ∀ i other, load.request i ≠ .reload other)
    (coherent : system.Coherent load) (i : Nat) :
    (load.step system i).store.schema = system.store.schema :=
  step_keeps (P := (·.schema = system.store.schema)) coherent rfl i
    fun commits => (commits.schema_kept (sameSchema i)).1

theorem run_schema {schema : Schema}
    (sameSchema : ∀ i other, load.request i ≠ .reload other)
    (schedule : List Nat) :
    (load.run (.initial { schema }) schedule).store.schema = schema := by
  refine load.run_invariant (P := fun system => system.store.schema = schema)
    (fun _ _ => rfl) rfl ?_ schedule
  intro system i coherent same
  exact (step_schema sameSchema coherent i).trans same

/-- After every schedule of writes and deletions that starts from nothing,
references lead to live records, and nothing refers to what a deletion took. -/
theorem references_resolve (load : Workload) (schema : Schema)
    (noRestore : ∀ i restoration, load.request i ≠ .restore restoration)
    (sameSchema : ∀ i other, load.request i ≠ .reload other)
    (schedule : List Nat) :
    let final := load.run (.initial { schema }) schedule
    (∀ entity ∈ schema.entities.items, ∀ field ∈ entity.referenceFields,
      ∀ record, final.store.live? entity.fullName record.id = some record →
        ∀ value, record.attributes.value? field.name = some value →
          ∀ id, value.references id = true →
            ∃ target, schema.target? entity field = some target ∧
              (final.store.live? target id).isSome) ∧
      ∀ i deleted, final.stage i = .finished (.ok (.deleted deleted)) →
        ∀ key ∈ deleted.record.key :: deleted.cascade.deleted,
          final.store.live? key.entity key.id = none ∧
            ∀ entity field record,
              ¬final.store.Refers key entity field record := by
  intro final
  have same : final.store.schema = schema := run_schema sameSchema schedule
  have invariant : final.store.Intact ∧ final.KeepsDeleted := by
    refine load.run_invariant (P := fun system =>
      system.store.Intact ∧ system.KeepsDeleted)
      (fun _ _ => rfl) ⟨?_, ?_⟩ ?_ schedule
    · intro entity member record live
      cases live
    · intro i deleted done
      cases done
    · rintro system i coherent ⟨intact, keeps⟩
      exact ⟨step_intact noRestore sameSchema coherent intact i,
        step_keepsDeleted noRestore coherent keeps i⟩
  obtain ⟨intact, keeps⟩ := invariant
  have resolved : ∀ entity ∈ schema.entities.items,
      ∀ field ∈ entity.referenceFields, ∀ record,
        final.store.live? entity.fullName record.id = some record →
          ∀ value, record.attributes.value? field.name = some value →
            ∀ id, value.references id = true →
              ∃ target, schema.target? entity field = some target ∧
                (final.store.live? target id).isSome := by
    intro entity member field reference record live value held id refers
    have present : value.isNull = false := by
      cases value with
      | null => simp [Value.references] at refers
      | atom | array => rfl
    obtain ⟨target, declared, refs⟩ :=
      intact entity (same ▸ member) record live field reference value
        ((Attributes.present?_eq_some_iff ..).mpr ⟨held, present⟩)
    exact ⟨target, same ▸ declared, refs.live_of_references refers⟩
  refine ⟨resolved, ?_⟩
  intro i deleted done key goes
  have absent : final.store.live? key.entity key.id = none := by
    obtain ⟨record, stored, flag⟩ := keeps i deleted done key goes
    simp [Store.live?, stored, Record.isLive, flag]
  refine ⟨absent, ?_⟩
  intro entity field record refers
  obtain ⟨value, held, names⟩ := refers.holds
  obtain ⟨target, declared, found⟩ :=
    resolved entity (same ▸ refers.declared) field refers.reference
      record refers.live value held key.id names
  have own := refers.target
  rw [same, declared, Option.some.injEq] at own
  rw [own, absent] at found
  contradiction

/-- A post comes between the plan of a deletion and its commit, with the tag
that goes and another. -/
def straggler : Workload :=
  ofList [.write ⟨"d.Tag", .create, .ofList [("name", .string "a")]⟩,
    .write ⟨"d.Tag", .create, .ofList [("name", .string "b")]⟩,
    .write ⟨"d.Post", .create,
      .ofList [("tags", .array [.string "0", .string "1"])]⟩,
    .delete ⟨"d.Tag", "1", none⟩]

def stragglerSchedule : List Nat :=
  [0, 0, 0, 1, 1, 1, 3, 2, 2, 2, 3]

theorem straggler_references_resolve :
    let final :=
      straggler.run (.initial { schema := .tagging }) stragglerSchedule
    final.store.live? "d.Tag" "1" = none ∧
      final.store.live? Entity.post.fullName "2" = some (.tagged "2" 2) ∧
      ∃ target, Schema.tagging.target? .post .tags = some target ∧
        (final.store.live? target "0").isSome := by
  intro final
  have listed : ∀ i,
      (∀ restoration, straggler.request i ≠ .restore restoration) ∧
        ∀ other, straggler.request i ≠ .reload other :=
    ofList_request (P := fun request =>
      (∀ restoration, request ≠ .restore restoration) ∧
        ∀ other, request ≠ .reload other) (by simp) (by simp)
  obtain ⟨resolved, -⟩ :=
    references_resolve straggler .tagging (fun i => (listed i).1)
      (fun i => (listed i).2) stragglerSchedule
  have live : final.store.live? Entity.post.fullName "2" =
      some (.tagged "2" 2) := by decide +kernel
  refine ⟨by decide +kernel, live, ?_⟩
  exact resolved .post (.head _) .tags (.head _) (.tagged "2" 2) live _ rfl "0"
    (by decide +kernel)

end Workload

end RecordStore
