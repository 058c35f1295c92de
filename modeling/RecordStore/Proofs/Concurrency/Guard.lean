import RecordStore.Proofs.Concurrency.System
import RecordStore.Proofs.Deletion.Apply

namespace RecordStore

/-! What an operation may rely on when it commits. An equal epoch means an equal
store, so that a commit which skips its checks has passed them all on the store
it finds: every commit is one that a fresh check on that store allows. -/

theorem checkVersion_eq_ok_iff (entity id : String) (expected : Option UInt64)
    (current : UInt64) :
    checkVersion entity id expected current = .ok () ↔
      expected = some current := by
  rw [checkVersion]
  split <;> simp_all

structure Draft.ReadFrom (draft : Draft) (write : Write) (store : Store) :
    Prop where
  entity : draft.entity = write.entity
  goal : draft.goal = write.goal
  payload : draft.payload = write.payload.withoutVersion
  schema : draft.schema = store.schema
  generation : draft.generation = store.generation
  epoch : draft.epoch = store.epoch
  declared : store.schema.entity? write.entity = some draft.definition
  permitted : ∃ hint, write.payload.checkProtected draft.definition = .ok hint ∧
    draft.expected = write.goal.expected?.or hint
  current : match write.goal.id? with
    | none => draft.current = ∅
    | some id => ∃ record, store.live? write.entity id = some record ∧
      draft.expected = some record.version ∧
      draft.current = if write.goal.mode = .patch then record.attributes else ∅

theorem Write.read_eq_ok_iff (write : Write) (store : Store) (draft : Draft) :
    write.read store = .ok draft ↔ draft.ReadFrom write store := by
  rw [Write.read]
  cases target : write.goal.id? with
  | none =>
      simp only [bind_eq_ok_iff, Store.entity_eq_ok_iff, pure_bind]
      constructor
      · rintro ⟨definition, declared, hint, permitted, read⟩
        cases read
        exact ⟨rfl, rfl, rfl, rfl, rfl, rfl, declared, ⟨hint, permitted, rfl⟩,
          by
            rw [target]
            simp⟩
      · rintro ⟨entity, goal, payload, schema, generation, epoch, declared,
          ⟨hint, permitted, expected⟩, current⟩
        refine ⟨draft.definition, declared, hint, permitted, ?_⟩
        simp only [target] at current
        cases draft
        simp_all [pure, Except.pure]
  | some id =>
      simp only [bind_eq_ok_iff, Store.entity_eq_ok_iff,
        Store.liveRecord_eq_ok_iff, pure_bind]
      constructor
      · rintro ⟨definition, declared, hint, permitted, record, live, ⟨⟩,
          version, read⟩
        rw [checkVersion_eq_ok_iff] at version
        cases read
        exact ⟨rfl, rfl, rfl, rfl, rfl, rfl, declared, ⟨hint, permitted, rfl⟩,
          by
            rw [target]
            exact ⟨record, live, version, rfl⟩⟩
      · rintro ⟨entity, goal, payload, schema, generation, epoch, declared,
          ⟨hint, permitted, expected⟩, current⟩
        simp only [target] at current
        obtain ⟨record, live, version, current⟩ := current
        refine ⟨draft.definition, declared, hint, permitted, record, live, (),
          ?_, ?_⟩
        · rw [checkVersion_eq_ok_iff, ← expected, version]
        · cases draft
          simp_all [pure, Except.pure]

theorem Write.draft_eq_ok_iff (write : Write) (store : Store) (draft : Draft) :
    write.draft store = .ok draft ↔
      draft.ReadFrom write store ∧
        ∃ attributes, draft.attributes = .ok attributes := by
  rw [Write.draft, bind_eq_ok_iff]
  constructor
  · rintro ⟨read, isRead, admitted⟩
    obtain ⟨attributes, valid, same⟩ := bind_eq_ok_iff.mp admitted
    cases same
    exact ⟨(Write.read_eq_ok_iff ..).mp isRead, attributes, valid⟩
  · rintro ⟨isRead, attributes, valid⟩
    exact ⟨draft, (Write.read_eq_ok_iff ..).mpr isRead,
      bind_eq_ok_iff.mpr ⟨attributes, valid, rfl⟩⟩

theorem Draft.check_eq_ok_iff (draft : Draft) (settings : Settings)
    (store : Store) (checked : CheckedWrite) :
    draft.check settings store = .ok checked ↔
      checked.draft = draft ∧ draft.attributes = .ok checked.attributes ∧
        store.checkIntegrity settings draft.schema draft.definition
          draft.goal.id? checked.attributes = .ok () := by
  rw [Draft.check, bind_eq_ok_iff]
  constructor
  · rintro ⟨attributes, valid, rest⟩
    obtain ⟨⟨⟩, sound, same⟩ := bind_eq_ok_iff.mp rest
    cases same
    exact ⟨rfl, valid, sound⟩
  · rintro ⟨rfl, valid, sound⟩
    exact ⟨checked.attributes, valid, bind_eq_ok_iff.mpr ⟨(), sound, rfl⟩⟩

/-- Between the two stores anything may have been committed, and every commit
has been counted. -/
structure Store.Precedes (earlier later : Store) : Prop where
  epoch_le : earlier.epoch ≤ later.epoch
  eq_of_epoch : earlier.epoch = later.epoch → earlier = later
  generation_le : earlier.generation ≤ later.generation
  schema_of_generation :
    earlier.generation = later.generation → earlier.schema = later.schema

theorem Store.Precedes.refl (store : Store) : store.Precedes store :=
  ⟨Nat.le_refl _, fun _ => rfl, Nat.le_refl _, fun _ => rfl⟩

theorem Store.Precedes.trans {first second third : Store}
    (left : first.Precedes second) (right : second.Precedes third) :
    first.Precedes third where
  epoch_le := Nat.le_trans left.epoch_le right.epoch_le
  eq_of_epoch := by
    intro same
    have middle : first.epoch = second.epoch :=
      Nat.le_antisymm left.epoch_le (same ▸ right.epoch_le)
    obtain rfl := left.eq_of_epoch middle
    exact right.eq_of_epoch same
  generation_le := Nat.le_trans left.generation_le right.generation_le
  schema_of_generation := by
    intro same
    have middle : first.generation = second.generation :=
      Nat.le_antisymm left.generation_le (same ▸ right.generation_le)
    exact (left.schema_of_generation middle).trans
      (right.schema_of_generation (middle.symm.trans same))

/-- All checks of a draft at once, by the schema in force. -/
def Draft.validate (draft : Draft) (settings : Settings) (store : Store) :
    Except StoreError Attributes := do
  let definition ← store.entity draft.entity
  let attributes ← draft.payload.check store.schema definition draft.goal.mode
    draft.current
  store.checkIntegrity settings store.schema definition draft.goal.id?
    attributes
  pure attributes

theorem Draft.validate_eq_ok_iff (draft : Draft) (settings : Settings)
    (store : Store) (attributes : Attributes) :
    draft.validate settings store = .ok attributes ↔
      ∃ definition, store.schema.entity? draft.entity = some definition ∧
        draft.payload.check store.schema definition draft.goal.mode
          draft.current = .ok attributes ∧
        store.checkIntegrity settings store.schema definition draft.goal.id?
          attributes = .ok () := by
  simp only [Draft.validate, bind_eq_ok_iff, Store.entity_eq_ok_iff]
  constructor
  · rintro ⟨definition, declared, taken, valid, ⟨⟩, sound, same⟩
    cases same
    exact ⟨definition, declared, valid, sound⟩
  · rintro ⟨definition, declared, valid, sound⟩
    exact ⟨definition, declared, attributes, valid, (), sound, rfl⟩

theorem Draft.ReadFrom.validate_eq {draft : Draft} {write : Write}
    {seen store : Store} (read : draft.ReadFrom write seen)
    (same : seen.schema = store.schema) (settings : Settings) :
    draft.validate settings store = (do
      let attributes ← draft.attributes
      store.checkIntegrity settings draft.schema draft.definition draft.goal.id?
        attributes
      pure attributes) := by
  have schema : draft.schema = store.schema := read.schema.trans same
  have declared : store.entity draft.entity = .ok draft.definition := by
    rw [Store.entity_eq_ok_iff, ← same, read.entity]
    exact read.declared
  rw [Draft.validate, declared, ok_bind, Draft.attributes, schema]

/-- Whether a commit repeats the checks or skips them, it comes to what a fresh
check on the store it finds comes to. -/
theorem CheckedWrite.recheck_eq_validate {checked : CheckedWrite}
    {write : Write} {seen middle store : Store} {settings : Settings}
    (read : checked.draft.ReadFrom write seen) (before : seen.Precedes middle)
    (passed : checked.draft.check settings middle = .ok checked)
    (after : middle.Precedes store) :
    checked.recheck settings store = checked.draft.validate settings store := by
  obtain ⟨-, valid, sound⟩ := (Draft.check_eq_ok_iff ..).mp passed
  have precedes := before.trans after
  rw [recheck]
  split
  next unmoved =>
      -- nothing was committed, so the store in between is this one as well
      have same : seen = store :=
        precedes.eq_of_epoch (by rw [unmoved.1, read.epoch])
      subst same
      have still : middle = seen :=
        after.eq_of_epoch (Nat.le_antisymm after.epoch_le before.epoch_le)
      rw [still] at sound
      rw [read.validate_eq rfl, valid, ok_bind, sound]
      rfl
  next moved =>
      by_cases swapped : store.generation = checked.draft.generation
      · have schema : seen.schema = store.schema :=
          precedes.schema_of_generation (by rw [swapped, read.generation])
        have declared : store.entity checked.draft.entity =
            .ok checked.draft.definition := by
          rw [Store.entity_eq_ok_iff, ← schema, read.entity]
          exact read.declared
        rw [read.validate_eq schema, valid, declared, ok_bind, ok_bind,
          read.schema, schema]
        simp only [swapped, if_true, pure_bind]
      · simp only [swapped, if_false]
        rfl

end RecordStore
