import Mathlib.Data.List.Induction
import RecordStore.Proofs.Integrity.References
import RecordStore.Proofs.Integrity.Types

namespace RecordStore

namespace Store

/-! Unique fields tell live records apart, whatever operations run at once, but
for one thing: a deletion that prunes an array of references looks at no other
record, and may leave it with the key text of another. -/

theorem mem_others_iff (store : Store) (entity : Entity) (own : Option String)
    (record : Record) :
    record ∈ store.others entity own ↔
      store.live? entity.fullName record.id = some record ∧
        some record.id ≠ own := by
  rw [others, List.mem_filter, mem_liveOf_iff, bne_iff_ne]

/-- No live record of the entity but the one with the id `own` has the key text
of the value. -/
def Untaken (store : Store) (entity : Entity) (own : Option String)
    (name : String) (value : Value) : Prop :=
  ∀ other, store.live? entity.fullName other.id = some other →
    some other.id ≠ own →
    ∀ taken, other.attributes.present? name = some taken → taken.key ≠ value.key

theorem uniqueError?_eq_none_iff (store : Store) (entity : Entity)
    (own : Option String) (attributes : Attributes) (field : Field) :
    store.uniqueError? entity own attributes field = none ↔
      ∀ value, attributes.present? field.name = some value →
        store.Untaken entity own field.name value := by
  rw [uniqueError?]
  cases attributes.present? field.name with
  | none => simp
  | some value =>
      simp only [Option.bind_some, ite_eq_right_iff, reduceCtorEq, imp_false,
        Bool.not_eq_true, List.any_eq_false, mem_others_iff, Option.some.injEq,
        forall_eq', Untaken]
      constructor
      · intro free other live apart taken held same
        have here := free other ⟨live, apart⟩
        simp [held, same] at here
      · rintro free other ⟨live, apart⟩
        cases held : other.attributes.present? field.name with
        | none => simp
        | some taken => simpa using free other live apart taken held

theorem untaken_of_checkUniqueness {store : Store} {entity : Entity}
    {own : Option String} {attributes : Attributes}
    (unique : store.checkUniqueness entity own attributes = .ok ())
    {field : Field} (member : field ∈ entity.uniqueFields) {value : Value}
    (held : attributes.present? field.name = some value) :
    store.Untaken entity own field.name value := by
  rw [checkUniqueness, accept_eq_ok_iff, uniquenessErrors,
    List.append_eq_nil_iff, List.filterMap_eq_nil_iff] at unique
  exact (store.uniqueError?_eq_none_iff ..).mp (unique.1 field member) value
    held

theorem checkUniqueness_of_checkIntegrity {store : Store} {settings : Settings}
    {entity : Entity} {own : Option String} {attributes : Attributes}
    {schema : Schema}
    (sound : store.checkIntegrity settings schema entity own attributes =
      .ok ()) :
    store.checkUniqueness entity own attributes = .ok () := by
  rw [checkIntegrity, accept_eq_ok_iff, integrityErrors, List.append_eq_nil_iff,
    List.append_eq_nil_iff] at sound
  rw [checkUniqueness, accept_eq_ok_iff, sound.1.2]

section coincide

variable {κ : Type}

structure Coincide (store : Store) (entity : String)
    (tell : Attributes → Option κ) (a b : Record) : Prop where
  apart : a.id ≠ b.id
  first : store.live? entity a.id = some a
  second : store.live? entity b.id = some b
  same : ∃ k, tell a.attributes = some k ∧ tell b.attributes = some k

variable {store : Store} {entity : String} {tell : Attributes → Option κ}
  {a b : Record}

theorem Coincide.symm (coincide : store.Coincide entity tell a b) :
    store.Coincide entity tell b a := by
  obtain ⟨k, left, right⟩ := coincide.same
  exact ⟨coincide.apart.symm, coincide.second, coincide.first, k, right, left⟩

def Coincided (store : Store) (entity : String) (tell : Attributes → Option κ)
    (a b : Record) : Prop :=
  ∃ old other, store.Coincide entity tell old other ∧ old.id = a.id ∧
    other.id = b.id

theorem Coincided.symm (before : store.Coincided entity tell a b) :
    store.Coincided entity tell b a := by
  obtain ⟨old, other, coincide, left, right⟩ := before
  exact ⟨other, old, coincide.symm, right, left⟩

/-- What a record tells no other live record of the entity does, or the record
did so before. -/
def Distinguishes (store : Store) (entity : String)
    (tell : Attributes → Option κ) (record : Record) : Prop :=
  ∀ k, tell record.attributes = some k →
    (∀ other, store.live? entity other.id = some other → other.id ≠ record.id →
      tell other.attributes ≠ some k) ∨
      ∃ old, store.live? entity record.id = some old ∧
        tell old.attributes = some k

theorem Coincide.of_put {record : Record}
    (coincide : (store.put record).commit.Coincide entity tell a b)
    (live : record.deleted = false)
    (distinct : record.entity = entity →
      store.Distinguishes entity tell record) :
    store.Coincided entity tell a b := by
  -- one of the two is the record that was put there
  have half : ∀ {a b : Record},
      (store.put record).commit.Coincide entity tell a b →
        record.key = ⟨entity, a.id⟩ → store.Coincided entity tell a b := by
    intro a b coincide here
    obtain ⟨own, id⟩ := RecordKey.mk.inj here
    have first := coincide.first
    have second := coincide.second
    have elsewhere : record.key ≠ ⟨entity, b.id⟩ := by
      intro there
      exact coincide.apart (id.symm.trans (RecordKey.mk.inj there).2)
    rw [live?_commit, live?_put store live, if_pos here,
      Option.some.injEq] at first
    rw [live?_commit, live?_put store live, if_neg elsewhere] at second
    subst first
    obtain ⟨k, left, right⟩ := coincide.same
    rcases distinct own k left with free | ⟨old, found, told⟩
    · exact absurd right (free b second coincide.apart.symm)
    · have oldId : old.id = record.id :=
        (key_of_record? (record?_of_live? found)).2
      exact ⟨old, b,
        ⟨oldId ▸ coincide.apart, oldId ▸ found, second, k, told, right⟩, oldId,
        rfl⟩
  by_cases isFirst : record.key = ⟨entity, a.id⟩
  · exact half coincide isFirst
  · by_cases isSecond : record.key = ⟨entity, b.id⟩
    · exact (half coincide.symm isSecond).symm
    · have first := coincide.first
      have second := coincide.second
      rw [live?_commit, live?_put store live, if_neg isFirst] at first
      rw [live?_commit, live?_put store live, if_neg isSecond] at second
      exact ⟨a, b, ⟨coincide.apart, first, second, coincide.same⟩, rfl, rfl⟩

end coincide

/-- Two live records of an entity hold the same key text in a field that is to
be unique. -/
structure Clash (store : Store) (entity : Entity) (field : Field)
    (a b : Record) : Prop where
  declared : entity ∈ store.schema.entities.items
  unique : field ∈ entity.uniqueFields
  apart : a.id ≠ b.id
  first : store.live? entity.fullName a.id = some a
  second : store.live? entity.fullName b.id = some b
  same : ∃ x y, a.attributes.present? field.name = some x ∧
    b.attributes.present? field.name = some y ∧ x.key = y.key

variable {store after : Store} {entity : Entity} {field : Field} {a b : Record}

def Clashed (store : Store) (entity : Entity) (field : Field) (a b : Record) :
    Prop :=
  ∃ old other, store.Clash entity field old other ∧ old.id = a.id ∧
    other.id = b.id

def Distinct (store : Store) (record : Record) : Prop :=
  ∀ entity, entity ∈ store.schema.entities.items →
    record.entity = entity.fullName →
    ∀ field ∈ entity.uniqueFields, ∀ value,
      record.attributes.present? field.name = some value →
        store.Untaken entity (some record.id) field.name value ∨
          ∃ old, store.live? entity.fullName record.id = some old ∧
            old.attributes.present? field.name = some value

def fieldKey? (name : String) (attributes : Attributes) : Option String :=
  (attributes.present? name).map Value.key

theorem Clash.coincide (clash : store.Clash entity field a b) :
    store.Coincide entity.fullName (fieldKey? field.name) a b := by
  obtain ⟨x, y, left, right, same⟩ := clash.same
  exact ⟨clash.apart, clash.first, clash.second, x.key,
    by simp [fieldKey?, left], by simp [fieldKey?, right, same]⟩

theorem Clash.of_put {record : Record}
    (clash : (store.put record).commit.Clash entity field a b)
    (live : record.deleted = false) (distinct : store.Distinct record) :
    store.Clashed entity field a b := by
  obtain ⟨old, other, before, left, right⟩ := clash.coincide.of_put live (by
    intro own k told
    obtain ⟨value, held, rfl⟩ := Option.map_eq_some_iff.mp told
    rcases distinct entity clash.declared own field clash.unique value held with
      free | ⟨old, found, kept⟩
    · refine .inl fun other live apart taken => ?_
      obtain ⟨rival, present, same⟩ := Option.map_eq_some_iff.mp taken
      exact free other live (by simpa using apart) rival present same
    · exact .inr ⟨old, found, by simp [fieldKey?, kept]⟩)
  obtain ⟨k, first, second⟩ := before.same
  obtain ⟨x, held, rfl⟩ := Option.map_eq_some_iff.mp first
  obtain ⟨y, found, same⟩ := Option.map_eq_some_iff.mp second
  exact ⟨old, other,
    ⟨clash.declared, clash.unique, before.apart, before.first, before.second, x,
      y, held, found, same.symm⟩, left, right⟩

end Store

/-- Deletions take elements out of what this field holds: it is one for many
references, and it is cleared when a record that it refers to goes. -/
structure Entity.Prunes (entity : Entity) (name : String) : Prop where
  many :
    ∃ field ∈ entity.referenceFields, field.name = name ∧ field.type.many = true
  cleared : ∃ field ∈ entity.referenceFields, field.name = name ∧
    field.policy = .setNull

theorem DeletePlan.Fits.prunes {plan : DeletePlan} {store : Store}
    (fits : plan.Fits store) (typed : store.WellTyped) {entity : Entity}
    (declared : entity ∈ store.schema.entities.items) {record : Record}
    (live : store.live? entity.fullName record.id = some record) {name : String}
    {value : Value} (held : record.attributes.value? name = some value)
    (listed : ⟨entity.fullName, record.id, name⟩ ∈ plan.cascade.cleared)
    (left : (value.prune plan.removedIds).isNull = false) :
    entity.Prunes name := by
  obtain ⟨-, key, goes, owner, field, holder, refers, policy, own, id, rfl⟩ :=
    fits.refers_of_cleared listed
  obtain rfl :=
    store.schema.entities.eq_of_key_eq refers.declared declared own.symm
  have isRecord : record = holder := by
    have found := refers.live
    rw [← id, live] at found
    exact Option.some.inj found
  obtain rfl := isRecord
  obtain ⟨whole, found, names⟩ := refers.holds
  obtain rfl : value = whole := Option.some.inj (held.symm.trans found)
  have removed : key.id ∈ plan.removedIds := by
    rw [removedIds_eq]
    exact List.mem_map_of_mem goes
  refine ⟨?_, field, refers.reference, rfl, policy⟩
  cases value with
  | null => simp [Value.references] at names
  | atom a =>
      have named := (Value.references_iff_refId? (by simp) key.id).mp names
      simp [Value.prune, named, removed, Value.isNull] at left
  | array items =>
      obtain ⟨source, member, sourceName, fit⟩ :=
        typed owner declared record (Store.record?_of_live? live) field.name _
          held
      obtain ⟨many, isReference⟩ := fit.isReference names
      exact ⟨source, List.mem_filter.mpr ⟨member, isReference⟩, sourceName,
        many⟩

namespace DeletePlan

def left? (plan : DeletePlan) (record : Record) (name : String) :
    Option Value :=
  (if ⟨record.entity, record.id, name⟩ ∈ plan.cascade.cleared then
    (record.attributes.value? name).map (Value.prune plan.removedIds)
  else record.attributes.value? name).filter (!·.isNull)

/-- Two records that stay will hold the same key text in a field that is to be
unique. -/
structure Collides (plan : DeletePlan) (store : Store) (entity : Entity)
    (field : Field) (a b : Record) : Prop where
  declared : entity ∈ store.schema.entities.items
  unique : field ∈ entity.uniqueFields
  apart : a.id ≠ b.id
  first : store.live? entity.fullName a.id = some a
  second : store.live? entity.fullName b.id = some b
  stay : a.key ∉ plan.gone ∧ b.key ∉ plan.gone
  same : ∃ x y, plan.left? a field.name = some x ∧
    plan.left? b field.name = some y ∧ x.key = y.key

variable {plan : DeletePlan} {store : Store} {entity : Entity} {field : Field}
  {a b : Record}

theorem Collides.symm (collides : plan.Collides store entity field a b) :
    plan.Collides store entity field b a := by
  obtain ⟨x, y, left, right, same⟩ := collides.same
  exact ⟨collides.declared, collides.unique, collides.apart.symm,
    collides.second, collides.first, collides.stay.symm, y, x, right, left,
    same.symm⟩

theorem Fits.present?_effect (fits : plan.Fits store) (now : Instant)
    (record : Record) (name : String) :
    (plan.effect now record.key record).attributes.present? name =
      plan.left? record name := by
  rw [Attributes.present?, fits.value?_effect now]
  rfl

theorem Collides.clash (collides : plan.Collides store entity field a b)
    (fits : plan.Fits store) {target : Record}
    (stored : store.record? plan.entity plan.id = some target) (now : Instant) :
    (plan.apply store now).1.Clash entity field (plan.effect now a.key a)
      (plan.effect now b.key b) := by
  have survives : ∀ {record : Record},
      store.live? entity.fullName record.id = some record →
        record.key ∉ plan.gone →
        (plan.effect now record.key record).id = record.id ∧
          (plan.apply store now).1.live? entity.fullName record.id =
            some (plan.effect now record.key record) := by
    intro record live stays
    refine ⟨congrArg RecordKey.id (effect_key now record.key record),
      (Store.live?_eq_some_iff ..).mpr ⟨?_, ?_⟩⟩
    · have found := fits.record?_apply now stored record.key
      change (plan.apply store now).1.record? record.entity record.id =
        _ at found
      change _ = (store.record? record.entity record.id).map _ at found
      rw [(Store.key_of_record? (Store.record?_of_live? live)).1,
        Store.record?_of_live? live] at found
      exact found
    · rw [Bool.eq_false_iff, ne_eq, effect_deleted]
      simp [stays, Store.deleted_of_live? live]
  obtain ⟨firstId, first⟩ := survives collides.first collides.stay.1
  obtain ⟨secondId, second⟩ := survives collides.second collides.stay.2
  obtain ⟨x, y, left, right, same⟩ := collides.same
  refine ⟨?_, collides.unique, ?_, ?_, ?_, x, y, ?_, ?_, same⟩
  · rw [fits.schema_apply now stored]
    exact collides.declared
  · rw [firstId, secondId]
    exact collides.apart
  · rw [firstId]
    exact first
  · rw [secondId]
    exact second
  · rw [fits.present?_effect, left]
  · rw [fits.present?_effect, right]

theorem Fits.collides_of_clash (fits : plan.Fits store) {target : Record}
    (stored : store.record? plan.entity plan.id = some target) (now : Instant)
    (clash : (plan.apply store now).1.Clash entity field a b) :
    ∃ old other, plan.Collides store entity field old other ∧ old.id = a.id ∧
      other.id = b.id := by
  have was : ∀ {record : Record} {value : Value},
      (plan.apply store now).1.live? entity.fullName record.id = some record →
        record.attributes.present? field.name = some value →
        ∃ old, old.id = record.id ∧
          store.live? entity.fullName old.id = some old ∧ old.key ∉ plan.gone ∧
          plan.left? old field.name = some value := by
    intro record value live held
    obtain ⟨stays, old, found, changed⟩ :=
      fits.live_before now stored ⟨entity.fullName, record.id⟩ live
    obtain ⟨name, id⟩ := Store.key_of_record? (Store.record?_of_live? found)
    have own : old.key = ⟨entity.fullName, record.id⟩ :=
      congrArg₂ RecordKey.mk name id
    rw [← own] at changed stays
    refine ⟨old, id, id ▸ found, stays, ?_⟩
    rw [← fits.present?_effect now, changed, held]
  obtain ⟨x, y, left, right, same⟩ := clash.same
  obtain ⟨old, oldId, first, firstStays, leftOld⟩ := was clash.first left
  obtain ⟨other, otherId, second, secondStays, rightOther⟩ :=
    was clash.second right
  refine ⟨old, other,
    ⟨?_, clash.unique, ?_, first, second, ⟨firstStays, secondStays⟩, x, y,
      leftOld, rightOther, same⟩, oldId, otherId⟩
  · have declared := clash.declared
    rw [fits.schema_apply now stored] at declared
    exact declared
  · rw [oldId, otherId]
    exact clash.apart

theorem Collides.cases (collides : plan.Collides store entity field a b) :
    store.Clash entity field a b ∨
      ⟨a.entity, a.id, field.name⟩ ∈ plan.cascade.cleared ∨
      ⟨b.entity, b.id, field.name⟩ ∈ plan.cascade.cleared := by
  by_cases first : ⟨a.entity, a.id, field.name⟩ ∈ plan.cascade.cleared
  · exact .inr (.inl first)
  · by_cases second : ⟨b.entity, b.id, field.name⟩ ∈ plan.cascade.cleared
    · exact .inr (.inr second)
    · refine .inl ⟨collides.declared, collides.unique, collides.apart,
        collides.first, collides.second, ?_⟩
      obtain ⟨x, y, left, right, same⟩ := collides.same
      rw [left?, if_neg first] at left
      rw [left?, if_neg second] at right
      exact ⟨x, y, left, right, same⟩

theorem Collides.prunes (collides : plan.Collides store entity field a b)
    (fits : plan.Fits store) (typed : store.WellTyped)
    (listed : ⟨a.entity, a.id, field.name⟩ ∈ plan.cascade.cleared) :
    entity.Prunes field.name := by
  obtain ⟨x, -, left, -, -⟩ := collides.same
  rw [left?, if_pos listed, Option.filter_eq_some_iff,
    Option.map_eq_some_iff] at left
  obtain ⟨⟨value, held, rfl⟩, present⟩ := left
  have own := (Store.key_of_record? (Store.record?_of_live? collides.first)).1
  rw [own] at listed
  exact fits.prunes typed collides.declared collides.first held listed
    (by simpa using present)

end DeletePlan

namespace Store

variable {store after : Store} {entity : Entity} {field : Field} {a b : Record}
variable {settings : Settings} {fresh : String} {now : Instant}
  {request : Request} {reply : Reply}

/-- No two live records clash. -/
def Unique (store : Store) : Prop :=
  ∀ entity field a b, ¬store.Clash entity field a b

/-- The deletion left two records with the same key text, as it pruned the field
of the first. -/
def PrunedInto (store : Store) (deleted : Deleted) (entity : Entity)
    (field : Field) (a b : Record) : Prop :=
  deleted.plan.Collides store entity field a b ∧
    ⟨a.entity, a.id, field.name⟩ ∈ deleted.cascade.cleared

theorem Untaken.mono {name : String} {value : Value}
    (free : store.Untaken entity none name value) (own : Option String) :
    store.Untaken entity own name value :=
  fun other live _ => free other live (by simp)

/-- A clash after a commit was there before, or the commit is a deletion that
pruned one of the two into the other. -/
theorem Commits.clash
    (commits : store.Commits settings fresh now request after reply)
    (sameSchema : ∀ schema, request ≠ .reload schema)
    (clash : after.Clash entity field a b) :
    store.Clashed entity field a b ∨
      ∃ deleted old other, reply = .deleted deleted ∧
        old.id = a.id ∧ other.id = b.id ∧
        (store.PrunedInto deleted entity field old other ∨
          store.PrunedInto deleted entity field other old) := by
  cases commits with
  | @create name payload definition attributes declared valid sound =>
      refine .inl (clash.of_put rfl ?_)
      intro entity member own field unique value held
      obtain rfl := entity_eq declared member own
      have free := untaken_of_checkUniqueness
        (checkUniqueness_of_checkIntegrity sound) unique held
      exact .inl (free.mono _)
  | @update write id definition record current attributes existing declared live
    valid sound =>
      obtain ⟨name, same⟩ := key_of_record? (record?_of_live? live)
      refine .inl (clash.of_put ?_ ?_)
      · rw [Record.rewrite_deleted]
        exact deleted_of_live? live
      intro entity member own field unique value held
      obtain rfl := entity_eq declared member (name.symm.trans own)
      have checked : ∀ value, attributes.present? field.name = some value →
          store.Untaken definition (some record.id) field.name value := by
        intro value held
        rw [same]
        exact untaken_of_checkUniqueness
          (checkUniqueness_of_checkIntegrity sound) unique held
      change Attributes.present? (if _ then _ else _) field.name =
        some value at held
      split at held
      next patch =>
          obtain ⟨held, present⟩ := (Attributes.present?_eq_some_iff ..).mp held
          rw [Fields.value?_merge, Option.or_eq_some_iff] at held
          rcases held with changed | ⟨-, kept⟩
          · exact .inl (checked value
              ((Attributes.present?_eq_some_iff ..).mpr ⟨changed, present⟩))
          · refine .inr ⟨record, ?_,
              (Attributes.present?_eq_some_iff ..).mpr ⟨kept, present⟩⟩
            change record.entity = _ at own
            change store.live? _ record.id = _
            rw [← own, name, same]
            exact live
      next replace => exact .inl (checked value held)
  | @delete deletion target plan live planned =>
      have carried : store.Commits settings fresh now (.delete deletion)
          (plan.apply store now).1
          (.deleted ⟨target.markDeleted now, plan.cascade⟩) :=
        .delete live planned
      obtain ⟨fits, ⟨_, stored⟩, same⟩ := carried.deletes
      rw [same] at clash
      obtain ⟨old, other, collides, oldId, otherId⟩ :=
        fits.collides_of_clash stored now clash
      rcases collides.cases with before | listed | listed
      · exact .inl ⟨old, other, before, oldId, otherId⟩
      · exact .inr ⟨_, old, other, rfl, oldId, otherId, .inl ⟨collides, listed⟩⟩
      · exact .inr
          ⟨_, old, other, rfl, oldId, otherId, .inr ⟨collides.symm, listed⟩⟩
  | @restore restoration record definition stored deleted declared unique =>
      obtain ⟨name, same⟩ := key_of_record? stored
      refine .inl (clash.of_put rfl ?_)
      intro entity member own field listed value held
      obtain rfl := entity_eq declared member (name.symm.trans own)
      exact .inl (untaken_of_checkUniqueness unique listed held)
  | restored => exact .inl ⟨a, b, clash, rfl, rfl⟩
  | reload => exact absurd rfl (sameSchema _)

end Store

def System.Pruned (system : System) (entity id field : String) : Prop :=
  ∃ i deleted, system.stage i = .finished (.ok (.deleted deleted)) ∧
    ⟨entity, id, field⟩ ∈ deleted.cascade.cleared

def System.ClashesPruned (system : System) : Prop :=
  ∀ entity field a b, system.store.Clash entity field a b →
    entity.Prunes field.name ∧
      (system.Pruned entity.fullName a.id field.name ∨
        system.Pruned entity.fullName b.id field.name)

namespace Workload

variable {load : Workload} {system : System}

theorem pruned_step {entity id field : String}
    (pruned : system.Pruned entity id field) (i : Nat) :
    (load.step system i).Pruned entity id field := by
  obtain ⟨j, deleted, done, listed⟩ := pruned
  have still := load.run_finished system done [i]
  exact ⟨j, deleted, still, listed⟩

theorem step_clashesPruned
    (sameSchema : ∀ i other, load.request i ≠ .reload other)
    (coherent : system.Coherent load) (typed : system.store.WellTyped)
    (traced : system.ClashesPruned) (i : Nat) :
    (load.step system i).ClashesPruned := by
  intro entity field a b clash
  have earlier : system.store.Clashed entity field a b →
      entity.Prunes field.name ∧
        ((load.step system i).Pruned entity.fullName a.id field.name ∨
          (load.step system i).Pruned entity.fullName b.id field.name) := by
    rintro ⟨old, other, clash, left, right⟩
    obtain ⟨prunes, pruned⟩ := traced entity field old other clash
    rw [left, right] at pruned
    exact ⟨prunes, pruned.imp (pruned_step · i) (pruned_step · i)⟩
  rcases step_cases coherent i with ⟨same, -⟩ | ⟨reply, -, finished, commits⟩
  · rw [same] at clash
    exact earlier ⟨a, b, clash, rfl, rfl⟩
  · rcases commits.clash (sameSchema i) clash with
      clashed | ⟨deleted, old, other, rfl, oldId, otherId, into⟩
    · exact earlier clashed
    · have pruned : ∀ {old other : Record}, system.store.PrunedInto deleted
          entity field old other →
          entity.Prunes field.name ∧
            (load.step system i).Pruned entity.fullName old.id field.name := by
        rintro old other ⟨collides, listed⟩
        refine ⟨collides.prunes commits.deletes.1 typed listed, i, deleted,
          finished, ?_⟩
        rw [← (Store.key_of_record? (Store.record?_of_live? collides.first)).1]
        exact listed
      rw [← oldId, ← otherId]
      rcases into with into | into
      · exact ⟨(pruned into).1, .inl (pruned into).2⟩
      · exact ⟨(pruned into).1, .inr (pruned into).2⟩

theorem step_unique_iff (sameSchema : ∀ i other, load.request i ≠ .reload other)
    (coherent : system.Coherent load) (unique : system.store.Unique) (i : Nat) :
    (load.step system i).store.Unique ↔
      ∀ deleted, (system.stage i).isFinished = false →
        (load.step system i).stage i = .finished (.ok (.deleted deleted)) →
        ∀ entity field a b,
          ¬system.store.PrunedInto deleted entity field a b := by
  rcases step_cases coherent i with
    ⟨same, unsuccessful⟩ | ⟨reply, underway, finished, commits⟩
  · refine iff_of_true (same ▸ unique) ?_
    intro deleted underway done
    simp [unsuccessful _ done, Stage.isFinished] at underway
  · constructor
    · rintro apart deleted - done entity field a b ⟨collides, -⟩
      obtain rfl : reply = .deleted deleted := by simpa [finished] using done
      obtain ⟨fits, ⟨target, stored⟩, after⟩ := commits.deletes
      rw [after] at apart
      exact apart entity field _ _ (collides.clash fits stored (load.time i))
    · intro apart entity field a b clash
      rcases commits.clash (sameSchema i) clash with
        ⟨old, other, clashed, -⟩ | ⟨deleted, old, other, rfl, -, -, into | into⟩
      · exact unique entity field old other clashed
      · exact apart deleted underway finished entity field old other into
      · exact apart deleted underway finished entity field other old into

/-- No deletion of the schedule prunes a unique field of a record into the key
text of another. -/
def PrunesApart (load : Workload) (start : System) (schedule : List Nat) :
    Prop :=
  ∀ before i deleted, before ++ [i] <+: schedule →
    ((load.run start before).stage i).isFinished = false →
    (load.run start (before ++ [i])).stage i =
      .finished (.ok (.deleted deleted)) →
    ∀ entity field a b,
      ¬(load.run start before).store.PrunedInto deleted entity field a b

theorem run_unique_iff (sameSchema : ∀ i other, load.request i ≠ .reload other)
    (coherent : system.Coherent load) (unique : system.store.Unique)
    (schedule : List Nat) :
    (∀ before, before <+: schedule → (load.run system before).store.Unique) ↔
      load.PrunesApart system schedule := by
  have along : ∀ before, (load.run system before).Coherent load :=
    run_coherent coherent
  constructor
  · intro apart before i deleted part underway done
    have here := apart before ((List.prefix_append ..).trans part)
    have next := apart (before ++ [i]) part
    rw [run_concat] at next done
    exact (step_unique_iff sameSchema (along before) here i).mp next deleted
      underway done
  · intro apart before part
    induction before using List.reverseRecOn with
    | nil => exact unique
    | append_singleton before i ih =>
        have here := ih ((List.prefix_append ..).trans part)
        rw [run_concat]
        refine (step_unique_iff sameSchema (along before) here i).mpr ?_
        intro deleted underway done
        rw [← run_concat] at done
        exact apart before i deleted part underway done

/-- Live records differ in their unique fields throughout a schedule that starts
from nothing and keeps the schema, exactly if none of its deletions prunes one
into another. Two that have come not to differ owe it to a finished deletion
that pruned the field of one of them, an array of references. -/
theorem unique_iff_prunesApart (load : Workload) (schema : Schema)
    (sameSchema : ∀ i other, load.request i ≠ .reload other)
    (schedule : List Nat) :
    let start : System := .initial { schema }
    ((∀ before, before <+: schedule → (load.run start before).store.Unique) ↔
      load.PrunesApart start schedule) ∧
      ∀ entity field a b,
        (load.run start schedule).store.Clash entity field a b →
          entity.Prunes field.name ∧
            ((load.run start schedule).Pruned entity.fullName a.id field.name ∨
              (load.run start schedule).Pruned entity.fullName b.id
                field.name) := by
  intro start
  have empty : start.store.Unique := by
    intro entity field a b clash
    cases clash.first
  have invariant : (load.run start schedule).store.WellTyped ∧
      (load.run start schedule).ClashesPruned := by
    refine load.run_invariant (P := fun system =>
      system.store.WellTyped ∧ system.ClashesPruned)
      (fun _ _ => rfl) ⟨?_, ?_⟩ ?_ schedule
    · intro entity member record found
      cases found
    · intro entity field a b clash
      exact absurd clash (empty entity field a b)
    · rintro system i coherent ⟨typed, traced⟩
      exact ⟨step_wellTyped sameSchema coherent typed i,
        step_clashesPruned sameSchema coherent typed traced i⟩
  exact ⟨run_unique_iff sameSchema (.initial fun _ _ => rfl) empty schedule,
    invariant.2⟩

/-- Two tags, a post with the first, a post with both, and the end of the second
tag. -/
def untagging : Workload :=
  ofList [.write ⟨"d.Tag", .create, .ofList [("name", .string "a")]⟩,
    .write ⟨"d.Tag", .create, .ofList [("name", .string "b")]⟩,
    .write ⟨"d.Post", .create, .ofList [("tags", .array [.string "0"])]⟩,
    .write ⟨"d.Post", .create,
      .ofList [("tags", .array [.string "0", .string "1"])]⟩,
    .delete ⟨"d.Tag", "1", none⟩]

theorem untagging_sameSchema (i : Nat) (other : Schema) :
    untagging.request i ≠ .reload other :=
  ofList_sameSchema (by simp) i other

def untaggingSchedule : List Nat :=
  [0, 0, 0, 1, 1, 1, 2, 2, 2, 3, 3, 3, 4, 4]

theorem untagging_clash :
    (untagging.run (.initial { schema := .tagging })
      untaggingSchedule).store.Clash .post .tags
        (.tagged "2" 1) (.tagged "3" 2) where
  declared := by
    rw [run_schema untagging_sameSchema]
    exact .head _
  unique := .head _
  apart := by decide
  first := by decide +kernel
  second := by decide +kernel
  same := ⟨_, _, rfl, rfl, rfl⟩

theorem untagging_not_prunesApart :
    ¬untagging.PrunesApart (.initial { schema := .tagging }) untaggingSchedule ∧
      Entity.post.Prunes Field.tags.name := by
  obtain ⟨unique, traced⟩ :=
    unique_iff_prunesApart untagging .tagging untagging_sameSchema
      untaggingSchedule
  refine ⟨?_, (traced _ _ _ _ untagging_clash).1⟩
  intro apart
  exact unique.mpr apart _ (List.prefix_refl _) _ _ _ _ untagging_clash

theorem not_always_unique :
    ¬∀ (load : Workload) (schema : Schema), schema.lint = [] →
      (∀ i other, load.request i ≠ .reload other) →
        ∀ schedule, (load.run (.initial { schema }) schedule).store.Unique := by
  intro always
  have unique := always untagging .tagging (by decide +kernel)
    untagging_sameSchema untaggingSchedule
  exact unique _ _ _ _ untagging_clash

end Workload

end RecordStore
