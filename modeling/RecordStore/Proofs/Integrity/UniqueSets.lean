import RecordStore.Proofs.Concurrency.Warrant
import RecordStore.Proofs.Integrity.Conformance

namespace RecordStore

/-! Sets of fields that together tell live records apart. A patch is checked by
what it writes itself, and a deletion is not checked at all: the sets do their
work in every run in which a patch writes all members of a set or none of them,
for the sets that have no member which deletions prune. -/

theorem mapM_eq_some_iff {α β : Type} {f : α → Option β} {items : List α}
    {results : List β} :
    items.mapM f = some results ↔ items.map f = results.map some := by
  induction items generalizing results with
  | nil => cases results <;> simp
  | cons a rest ih =>
      rw [List.mapM_cons, List.map_cons]
      cases f a with
      | none => cases results <;> simp
      | some b =>
          cases results with
          | nil => cases rest.mapM f <;> simp
          | cons c others =>
              rw [List.map_cons, List.cons.injEq, ← ih]
              cases rest.mapM f <;> simp

namespace Store

variable {set : List String} {attributes other : Attributes}

theorem setKey?_eq_some_iff {keys : List String} :
    setKey? set attributes = some keys ↔
      set ≠ [] ∧
        set.map (fun name => (attributes.present? name).map Value.key) =
          keys.map some := by
  rw [setKey?, ← mapM_eq_some_iff]
  cases set <;> simp

theorem setKey?_congr
    (same : ∀ name ∈ set, attributes.present? name = other.present? name) :
    setKey? set attributes = setKey? set other := by
  ext keys
  rw [setKey?_eq_some_iff, setKey?_eq_some_iff, List.map_congr_left]
  intro name member
  rw [same name member]

theorem present_of_setKey? {keys : List String}
    (told : setKey? set attributes = some keys) {name : String}
    (member : name ∈ set) : ∃ value, attributes.present? name = some value := by
  have listed := List.mem_map_of_mem
    (f := fun name => (attributes.present? name).map Value.key) member
  rw [(setKey?_eq_some_iff.mp told).2] at listed
  obtain ⟨key, -, same⟩ := List.mem_map.mp listed
  obtain ⟨value, held, -⟩ := Option.map_eq_some_iff.mp same.symm
  exact ⟨value, held⟩

theorem uniqueSetError?_eq_none_iff (store : Store) (entity : Entity)
    (own : Option String) (attributes : Attributes) (set : List String) :
    store.uniqueSetError? entity own attributes set = none ↔
      ∀ keys, setKey? set attributes = some keys →
        ∀ other, store.live? entity.fullName other.id = some other →
          some other.id ≠ own → setKey? set other.attributes ≠ some keys := by
  rw [uniqueSetError?]
  cases setKey? set attributes with
  | none => simp
  | some keys => simp [mem_others_iff]

variable {store : Store} {entity : Entity}

theorem free_of_checkUniqueness {own : Option String}
    (unique : store.checkUniqueness entity own attributes = .ok ())
    (listed : set ∈ entity.uniqueSets) {keys : List String}
    (told : setKey? set attributes = some keys) (other : Record)
    (live : store.live? entity.fullName other.id = some other)
    (apart : some other.id ≠ own) :
    setKey? set other.attributes ≠ some keys := by
  rw [checkUniqueness, accept_eq_ok_iff, uniquenessErrors,
    List.append_eq_nil_iff, List.filterMap_eq_nil_iff,
    List.filterMap_eq_nil_iff] at unique
  exact (store.uniqueSetError?_eq_none_iff ..).mp (unique.2 set listed) keys
    told other live apart

/-- Two live records of an entity hold the same key texts in all members of a
set. -/
structure SetClash (store : Store) (entity : Entity) (set : List String)
    (a b : Record) : Prop where
  apart : a.id ≠ b.id
  first : store.live? entity.fullName a.id = some a
  second : store.live? entity.fullName b.id = some b
  same : ∀ name ∈ set, ∃ x y, a.attributes.present? name = some x ∧
    b.attributes.present? name = some y ∧ x.key = y.key

theorem SetClash.coincide {a b : Record} (clash : store.SetClash entity set a b)
    (members : set ≠ []) :
    store.Coincide entity.fullName (setKey? set) a b := by
  refine ⟨clash.apart, clash.first, clash.second,
    set.map (fun name => ((a.attributes.present? name).map Value.key).getD ""),
    ?_, ?_⟩
  · rw [setKey?_eq_some_iff, List.map_map]
    refine ⟨members, List.map_congr_left fun name member => ?_⟩
    obtain ⟨x, -, held, -, -⟩ := clash.same name member
    simp [held]
  · rw [setKey?_eq_some_iff, List.map_map]
    refine ⟨members, List.map_congr_left fun name member => ?_⟩
    obtain ⟨x, y, held, found, same⟩ := clash.same name member
    simp [held, found, same]

end Store

theorem Schema.uniqueSet_ne_nil (schema : Schema) (clean : schema.lint = [])
    {entity : Entity} (declared : entity ∈ schema.entities.items)
    {set : List String} (listed : set ∈ entity.uniqueSets) : set ≠ [] := by
  rintro rfl
  have flawless := (lint_eq_nil_iff.mp clean entity declared).2 [] listed
  simp [uniqueSetFlaws] at flawless

/-- Deletions take elements out of what the field holds. -/
def Field.IsPruned (field : Field) : Prop :=
  field.type.isReference = true ∧ field.type.many = true ∧
    field.policy = .setNull

instance Field.decidableIsPruned (field : Field) : Decidable field.IsPruned :=
  inferInstanceAs (Decidable (_ ∧ _ ∧ _))

namespace DeletePlan

variable {plan : DeletePlan} {store : Store} {entity : Entity}
  {set : List String}

theorem Fits.setKey?_of_effect (fits : plan.Fits store)
    (unpruned : ∀ field ∈ entity.fields, field.name ∈ set → ¬field.IsPruned)
    {key : RecordKey} (declared : store.schema.entity? key.entity = some entity)
    {record : Record} (stored : store.record? key.entity key.id = some record)
    (admissible : record.attributes.Admissible store.schema entity)
    {now : Instant} {keys : List String}
    (told : Store.setKey? set (plan.effect now key record).attributes =
      some keys) :
    Store.setKey? set record.attributes = some keys := by
  rw [← told]
  refine Store.setKey?_congr fun name member => ?_
  by_cases listed : ⟨key.entity, key.id, name⟩ ∈ plan.cascade.cleared
  · obtain ⟨-, goal, -, owner, field, holder, refers, policy, own, -, rfl⟩ :=
      fits.refers_of_cleared listed
    obtain rfl := Store.entity_eq declared refers.declared own
    obtain ⟨reference, isReference⟩ := List.mem_filter.mp refers.reference
    have single : field.type.many = false := by
      rw [Bool.eq_false_iff]
      exact fun many =>
        unpruned field reference member ⟨isReference, many, policy⟩
    obtain ⟨found, same, emptied⟩ := fits.emptied listed reference rfl single
    rw [stored, Option.some.injEq] at same
    subst same
    obtain ⟨value, held⟩ := Store.present_of_setKey? told member
    rw [emptied admissible now] at held
    cases held
  · rw [Attributes.present?, Attributes.present?, fits.value?_effect now,
      if_neg listed]

end DeletePlan

namespace Store

/-- Between the two stores only records have changed. -/
structure KeepsSchema (earlier later : Store) : Prop where
  precedes : earlier.Precedes later
  schema : earlier.schema = later.schema

theorem KeepsSchema.refl (store : Store) : store.KeepsSchema store :=
  ⟨.refl store, rfl⟩

theorem KeepsSchema.trans {first second third : Store}
    (left : first.KeepsSchema second) (right : second.KeepsSchema third) :
    first.KeepsSchema third :=
  ⟨left.precedes.trans right.precedes, left.schema.trans right.schema⟩

/-- No two live records of the entity hold the same key texts in the members of
the set. -/
def SetApart (store : Store) (entity : Entity) (set : List String) : Prop :=
  ∀ a b, ¬store.Coincide entity.fullName (setKey? set) a b

variable {store : Store} {entity : Entity} {set : List String}

theorem SetApart.put (apart : store.SetApart entity set) {record : Record}
    (live : record.deleted = false)
    (distinct : record.entity = entity.fullName →
      store.Distinguishes entity.fullName (setKey? set) record) :
    (store.put record).commit.SetApart entity set := by
  intro a b coincide
  obtain ⟨old, other, before, -⟩ := coincide.of_put live distinct
  exact apart old other before

theorem SetApart.apply (apart : store.SetApart entity set)
    (admits : store.Admits) (declared : entity ∈ store.schema.entities.items)
    (unpruned : ∀ field ∈ entity.fields, field.name ∈ set → ¬field.IsPruned)
    {plan : DeletePlan} (fits : plan.Fits store) {target : Record}
    (stored : store.record? plan.entity plan.id = some target) (now : Instant) :
    (plan.apply store now).1.SetApart entity set := by
  have known : store.schema.entity? entity.fullName = some entity :=
    (Schema.entity?_eq_some_iff ..).mpr ⟨declared, rfl⟩
  have was : ∀ {record : Record} {keys : List String},
      (plan.apply store now).1.live? entity.fullName record.id = some record →
        setKey? set record.attributes = some keys →
        ∃ old, old.id = record.id ∧
          store.live? entity.fullName old.id = some old ∧
          setKey? set old.attributes = some keys := by
    intro record keys live told
    obtain ⟨-, old, before, changed⟩ :=
      fits.live_before now stored ⟨entity.fullName, record.id⟩ live
    have found := record?_of_live? before
    have id : old.id = record.id := (key_of_record? found).2
    obtain ⟨owner, same, admissible⟩ :=
      admits ⟨entity.fullName, record.id⟩ old found
    obtain rfl : entity = owner := Option.some.inj (known.symm.trans same)
    rw [← changed] at told
    exact ⟨old, id, id ▸ before,
      fits.setKey?_of_effect unpruned known found admissible told⟩
  rintro a b ⟨different, first, second, keys, left, right⟩
  obtain ⟨old, oldId, firstBefore, leftBefore⟩ := was first left
  obtain ⟨other, otherId, secondBefore, rightBefore⟩ := was second right
  exact apart old other ⟨by rwa [oldId, otherId], firstBefore, secondBefore,
    keys, leftBefore, rightBefore⟩

end Store

/-- The attributes are given for all members of the set or for none. -/
def Attributes.AllOrNone (attributes : Attributes) (set : List String) : Prop :=
  (∀ name ∈ set, (attributes.value? name).isSome) ∨
    ∀ name ∈ set, attributes.value? name = none

instance Attributes.decidableAllOrNone (attributes : Attributes)
    (set : List String) : Decidable (attributes.AllOrNone set) :=
  inferInstanceAs (Decidable (_ ∨ _))

theorem Attributes.AllOrNone.setKey?_merge {changes : Attributes}
    {set : List String} (whole : changes.AllOrNone set)
    (attributes : Attributes) :
    Store.setKey? set (attributes.merge changes) = Store.setKey? set changes ∨
      Store.setKey? set (attributes.merge changes) =
        Store.setKey? set attributes := by
  rcases whole with all | none
  · refine .inl (Store.setKey?_congr fun name member => ?_)
    obtain ⟨value, given⟩ := Option.isSome_iff_exists.mp (all name member)
    rw [present?, present?, Fields.value?_merge, given, Option.some_or]
  · refine .inr (Store.setKey?_congr fun name member => ?_)
    rw [present?, present?, Fields.value?_merge, none name member,
      Option.none_or]

namespace Workload

variable {load : Workload} {system : System} {i : Nat}

def acceptedPatch? (load : Workload) (entity : String) (system : System)
    (i : Nat) : Option Attributes :=
  match system.stage i, (load.step system i).stage i with
  | .checked ready, .finished (.ok _) =>
    if ready.draft.entity = entity ∧ ready.draft.goal.mode = .patch then
      some ready.attributes
    else none
  | _, _ => none

/-- The attributes of all patches of the entity that are accepted along a
schedule. -/
def acceptedPatches (load : Workload) (entity : String) :
    System → List Nat → List Attributes
  | _, [] => []
  | system, i :: rest =>
    (load.acceptedPatch? entity system i).toList ++
      acceptedPatches load entity (load.step system i) rest

section writes

variable {write : Write} {ready : CheckedWrite} {seen : Store} {record : Record}

theorem Writes.checked
    (writes : load.Writes Store.KeepsSchema system i write ready seen record) :
    (∃ definition, system.store.schema.entity? write.entity = some definition ∧
      system.store.checkUniqueness definition write.goal.id? ready.attributes =
        .ok ()) ∧
      ((write.goal.id? = none ∧
        record = .create write.entity (load.fresh i) ready.attributes
          (load.time i)) ∨
        ∃ id old, write.goal.id? = some id ∧
          system.store.live? write.entity id = some old ∧
          record = old.rewrite write.goal.mode ready.attributes
            (load.time i)) := by
  have read := writes.readFrom
  obtain ⟨attributes, validated, made⟩ := Draft.cases_of_result writes.result
  have again := read.validate_eq writes.since.schema load.settings
  rw [validated, writes.valid, ok_bind] at again
  obtain ⟨⟨⟩, -, same⟩ := bind_eq_ok_iff.mp again.symm
  cases same
  obtain ⟨definition, declared, -, sound⟩ :=
    (Draft.validate_eq_ok_iff ..).mp validated
  rw [read.goal] at sound made
  rw [read.entity] at declared made
  refine ⟨⟨definition, declared, Store.checkUniqueness_of_checkIntegrity sound⟩,
    ?_⟩
  exact made.imp id fun ⟨id, old, existing, live, _, same⟩ =>
    ⟨id, old, existing, live, same⟩

theorem Writes.distinguishes
    (writes : load.Writes Store.KeepsSchema system i write ready seen record)
    {entity : Entity} (declared : entity ∈ system.store.schema.entities.items)
    {set : List String} (listed : set ∈ entity.uniqueSets)
    (whole : write.goal.mode = .patch → write.entity = entity.fullName →
      ready.attributes.AllOrNone set) :
    record.deleted = false ∧
      (record.entity = entity.fullName →
        system.store.Distinguishes entity.fullName (Store.setKey? set)
          record) := by
  obtain ⟨⟨definition, known, unique⟩,
    ⟨new, rfl⟩ | ⟨id, old, existing, live, rfl⟩⟩ := writes.checked
  · refine ⟨rfl, fun own keys told => ?_⟩
    obtain rfl := Store.entity_eq known declared own
    rw [new] at unique
    exact .inl fun other there _ =>
      Store.free_of_checkUniqueness unique listed told other there (by simp)
  · obtain ⟨name, same⟩ := Store.key_of_record? (Store.record?_of_live? live)
    refine ⟨(Record.rewrite_deleted ..).trans (Store.deleted_of_live? live),
      fun own keys told => ?_⟩
    have owner : write.entity = entity.fullName := name.symm.trans own
    obtain rfl := Store.entity_eq known declared owner
    rw [existing, ← same] at unique
    have free : Store.setKey? set ready.attributes = some keys →
        ∀ other, system.store.live? definition.fullName other.id = some other →
          other.id ≠ old.id → Store.setKey? set other.attributes ≠ some keys :=
      fun told other there apart =>
        Store.free_of_checkUniqueness unique listed told other there
          (by simpa using apart)
    change Store.setKey? set (if _ then _ else _) = some keys at told
    split at told
    next patch =>
        rcases (whole patch owner).setKey?_merge old.attributes with
          written | kept
        · exact .inl (free (written ▸ told))
        · refine .inr ⟨old, ?_, kept ▸ told⟩
          rw [← owner, Record.rewrite, Record.touch, same]
          exact live
    next replace => exact .inl (free told)

theorem Writes.acceptedPatch?_eq
    (writes : load.Writes Store.KeepsSchema system i write ready seen record)
    {reply : Reply}
    (done : (load.step system i).stage i = .finished (.ok reply))
    (patch : write.goal.mode = .patch) :
    load.acceptedPatch? write.entity system i = some ready.attributes := by
  have read := writes.readFrom
  rw [acceptedPatch?, writes.stage, done]
  exact if_pos ⟨read.entity, read.goal ▸ patch⟩

end writes

variable {entity : Entity} {set : List String}

theorem step_keepsSchema
    (sameSchema : ∀ i other, load.request i ≠ .reload other)
    (coherent : system.Coherent load) (i : Nat) :
    system.store.KeepsSchema (load.step system i).store :=
  ⟨step_precedes coherent i, (step_schema sameSchema coherent i).symm⟩

theorem step_setApart (sameSchema : ∀ i other, load.request i ≠ .reload other)
    (coherent : system.Coherent load)
    (sound : system.Sound load Store.KeepsSchema) (admits : system.store.Admits)
    (declared : entity ∈ system.store.schema.entities.items)
    (listed : set ∈ entity.uniqueSets)
    (unpruned : ∀ field ∈ entity.fields, field.name ∈ set → ¬field.IsPruned)
    (apart : system.store.SetApart entity set) {i : Nat}
    (whole : ∀ attributes ∈ load.acceptedPatch? entity.fullName system i,
      attributes.AllOrNone set) :
    (load.step system i).store.SetApart entity set := by
  rcases step_cases coherent i with ⟨same, -⟩ | ⟨reply, underway, done, commits⟩
  · rw [same]
    exact apart
  cases asked : load.request i with
  | write write =>
      obtain ⟨ready, seen, record, -, writes⟩ :=
        writes_of_success Store.KeepsSchema.precedes
          Store.KeepsSchema.trans sound asked underway done
      obtain ⟨live, distinct⟩ :=
        writes.distinguishes declared listed fun patch own =>
          whole ready.attributes (own ▸ writes.acceptedPatch?_eq done patch)
      rw [writes.after]
      exact apart.put live distinct
  | delete deletion =>
      rw [asked] at commits
      generalize (load.step system i).store = after at commits
      cases commits with
      | delete live planned =>
          obtain ⟨fits, stored⟩ := Store.planDelete_target planned live
          exact apart.apply admits declared unpruned fits stored (load.time i)
  | restore restoration =>
      rw [asked] at commits
      generalize (load.step system i).store = after at commits
      cases commits with
      | restored => exact apart
      | @restore _ record definition stored deleted known unique =>
          obtain ⟨name, id⟩ := Store.key_of_record? stored
          refine apart.put rfl fun own keys told =>
            .inl fun other live elsewhere => ?_
          obtain rfl := Store.entity_eq known declared (name.symm.trans own)
          exact Store.free_of_checkUniqueness unique listed told other live
            fun same => elsewhere (Option.some.inj same)
  | reload schema => exact absurd asked (sameSchema i schema)

theorem run_setApart {schema : Schema}
    (sameSchema : ∀ i other, load.request i ≠ .reload other)
    (declared : entity ∈ schema.entities.items)
    (listed : set ∈ entity.uniqueSets)
    (unpruned : ∀ field ∈ entity.fields, field.name ∈ set → ¬field.IsPruned)
    (same : system.store.schema = schema) (coherent : system.Coherent load)
    (sound : system.Sound load Store.KeepsSchema) (admits : system.store.Admits)
    (apart : system.store.SetApart entity set) {schedule : List Nat}
    (whole : ∀ attributes ∈ load.acceptedPatches entity.fullName system
      schedule, attributes.AllOrNone set) :
    (load.run system schedule).store.SetApart entity set := by
  induction schedule generalizing system with
  | nil => exact apart
  | cons i rest ih =>
      rw [acceptedPatches, List.forall_mem_append] at whole
      refine ih ((step_schema sameSchema coherent i).trans same)
        (step_coherent coherent i)
        (sound.step .refl .trans (step_keepsSchema sameSchema coherent i))
        (step_admits sameSchema coherent admits i) ?_ whole.2
      refine step_setApart sameSchema coherent sound admits (same ▸ declared)
        listed unpruned apart ?_
      exact fun attributes accepted =>
        whole.1 attributes (Option.mem_toList.mpr accepted)

/-- After every schedule that starts from nothing and keeps a schema without
flaws, live records differ in the members of a set of which deletions prune
none, as long as every patch that was accepted gave all its members or none. -/
theorem sets_unique (load : Workload) (schema : Schema)
    (clean : schema.lint = [])
    (sameSchema : ∀ i other, load.request i ≠ .reload other) (entity : Entity)
    (declared : entity ∈ schema.entities.items) (set : List String)
    (listed : set ∈ entity.uniqueSets)
    (unpruned : ∀ field ∈ entity.fields, field.name ∈ set → ¬field.IsPruned)
    (schedule : List Nat)
    (whole : ∀ attributes ∈ load.acceptedPatches entity.fullName
      (.initial { schema }) schedule, attributes.AllOrNone set) (a b : Record) :
    ¬(load.run (.initial { schema }) schedule).store.SetClash entity set a
      b := by
  intro clash
  have same : (System.initial { schema }).store.schema = schema := rfl
  refine run_setApart sameSchema declared listed unpruned same
    (.initial fun _ _ => rfl) (fun _ => trivial) ?_ ?_ whole a b
    (clash.coincide (schema.uniqueSet_ne_nil clean declared listed))
  · intro key record found
    cases found
  · rintro a b ⟨-, first, -⟩
    cases first

end Workload

def Entity.ranked : Entity :=
  ⟨"d", "Post",
    [{ name := "tag", type := ⟨.reference "Tag", false⟩,
       declaredPolicy := some .setNull },
      { name := "rank", type := ⟨.scalar .int, false⟩ }], [["tag", "rank"]]⟩

def Schema.ranking : Schema where
  entities := .ofList [.ranked, .tag]

namespace Workload

/-- Two posts race for the first rank. A third gets it when the winner is
deleted, which then cannot be restored. -/
def overtaking : Workload :=
  ofList [.write ⟨"d.Tag", .create, .ofList [("name", .string "a")]⟩,
    .write ⟨"d.Post", .create,
      .ofList [("tag", .string "0"), ("rank", .int 1)]⟩,
    .write ⟨"d.Post", .create,
      .ofList [("tag", .string "0"), ("rank", .int 1)]⟩,
    .write
      ⟨"d.Post", .create, .ofList [("tag", .string "0"), ("rank", .int 2)]⟩,
    .delete ⟨"d.Post", "1", none⟩,
    .write ⟨"d.Post", .patch "3" (some 1),
      .ofList [("tag", .string "0"), ("rank", .int 1)]⟩,
    .restore ⟨"d.Post", "1"⟩]

def overtakingSchedule : List Nat :=
  [0, 0, 0, 1, 2, 1, 2, 1, 2, 3, 3, 3, 4, 5, 4, 5, 5, 6]

theorem overtaking_sameSchema (i : Nat) (other : Schema) :
    overtaking.request i ≠ .reload other :=
  ofList_sameSchema (by simp) i other

theorem overtaking_setApart :
    (overtaking.successes (.initial { schema := .ranking })
      overtakingSchedule).map Prod.fst = [0, 1, 3, 4, 5] ∧
      (overtaking.acceptedPatches "d.Post" (.initial { schema := .ranking })
        overtakingSchedule).length =
        1 ∧
      ∀ a b, ¬(overtaking.run (.initial { schema := .ranking })
        overtakingSchedule).store.SetClash .ranked ["tag", "rank"] a b := by
  refine ⟨by decide +kernel, by decide +kernel, ?_⟩
  exact sets_unique overtaking .ranking (by decide +kernel)
    overtaking_sameSchema .ranked (.head _)
    ["tag", "rank"] (.head _) (by decide) overtakingSchedule (by decide +kernel)

end Workload

end RecordStore
