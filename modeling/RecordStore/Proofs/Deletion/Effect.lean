import RecordStore.Proofs.Deletion.Apply

namespace RecordStore

/-- No record holds an array inside an array. -/
def Store.IsFlat (store : Store) : Prop :=
  ∀ record ∈ store.records.items, ∀ name value,
    record.attributes.value? name = some value → value.IsFlat

instance Store.decidableIsFlat (store : Store) : Decidable store.IsFlat :=
  decidable_of_iff (∀ record ∈ store.records.items,
      ∀ entry ∈ record.attributes.items, entry.2.IsFlat) (by
    refine forall₂_congr fun record _ => ?_
    simp only [Prod.forall, Fields.value?_eq_some_iff])

namespace DeletePlan

/-- The store `after` is what carrying out the plan at the time `now` makes of
the store `before`. -/
structure Effect (plan : DeletePlan) (before after : Store) (now : Instant) :
    Prop where
  deleted : ∀ key ∈ plan.gone, ∃ record,
    after.record? key.entity key.id = some record ∧ record.deleted = true
  unreferenced : ∀ key ∈ plan.gone, ∀ entity field record,
    ¬after.Refers key entity field record
  counted :
    ∀ key : RecordKey, plan.Touches key →
      ∃ old new, before.record? key.entity key.id = some old ∧
        after.record? key.entity key.id = some new ∧
        new.version = old.version + 1 ∧ new.updatedAt = now
  untouched : ∀ key : RecordKey, ¬plan.Touches key →
    after.record? key.entity key.id = before.record? key.entity key.id
  attributes :
    ∀ (key : RecordKey) (name : String),
      ⟨key.entity, key.id, name⟩ ∉ plan.cascade.cleared →
        ∀ old new, before.record? key.entity key.id = some old →
          after.record? key.entity key.id = some new →
          new.attributes.value? name = old.attributes.value? name
  epoch : after.epoch = before.epoch + 1

variable {plan : DeletePlan} {store : Store}

theorem Fits.stored_of_touches (fits : plan.Fits store) {target : Record}
    (stored : store.record? plan.entity plan.id = some target) {key : RecordKey}
    (touches : plan.Touches key) :
    ∃ record, store.record? key.entity key.id = some record := by
  rcases touches with goes | ⟨name, listed⟩
  · rcases Store.live?_of_reached (fits.reached key goes) with
      rfl | ⟨record, live⟩
    · exact ⟨target, stored⟩
    · exact ⟨record, Store.record?_of_live? live⟩
  · obtain ⟨-, other, -, owner, field, record, refers, -, entity, id, -⟩ :=
      fits.refers_of_cleared listed
    rw [entity, id]
    exact ⟨record, Store.record?_of_live? refers.live⟩

theorem Fits.live_before (fits : plan.Fits store) (now : Instant)
    {target : Record} (stored : store.record? plan.entity plan.id = some target)
    (key : RecordKey) {record : Record}
    (live : (plan.apply store now).1.live? key.entity key.id = some record) :
    key ∉ plan.gone ∧
      ∃ old, store.live? key.entity key.id = some old ∧
        plan.effect now key old = record := by
  obtain ⟨found, flag⟩ := (Store.live?_eq_some_iff ..).mp live
  rw [fits.record?_apply now stored, Option.map_eq_some_iff] at found
  obtain ⟨old, found, rfl⟩ := found
  have kept : ¬(key ∈ plan.gone ∨ old.deleted = true) := by
    rw [← effect_deleted now, flag]
    simp
  rw [not_or, Bool.not_eq_true] at kept
  exact ⟨kept.1, old, (Store.live?_eq_some_iff ..).mpr ⟨found, kept.2⟩, rfl⟩

theorem Fits.unreferenced (fits : plan.Fits store) (now : Instant)
    {target : Record} (stored : store.record? plan.entity plan.id = some target)
    {key : RecordKey} (goes : key ∈ plan.gone) {entity : Entity} {field : Field}
    (flat : ∀ record, store.live? entity.fullName record.id = some record →
      ∀ value, record.attributes.value? field.name = some value → value.IsFlat)
    (record : Record) :
    ¬(plan.apply store now).1.Refers key entity field record := by
  intro refers
  have schema := fits.schema_apply now stored
  obtain ⟨stays, old, live, changed⟩ :=
    fits.live_before now stored ⟨entity.fullName, record.id⟩ refers.live
  have id : old.id = record.id :=
    (Store.key_of_record? (Store.record?_of_live? live)).2
  obtain ⟨value, found, holds⟩ := refers.holds
  rw [← changed, fits.value?_effect now] at found
  split at found
  next listed =>
      obtain ⟨value, before, rfl⟩ := Option.map_eq_some_iff.mp found
      have removed : key.id ∈ plan.removedIds := by
        rw [removedIds_eq]
        exact List.mem_map_of_mem goes
      have pruned :=
        Value.not_references_prune (flat old (id ▸ live) value before) removed
      rw [pruned] at holds
      contradiction
  next unlisted =>
      have before : store.Refers key entity field old :=
        ⟨schema ▸ refers.declared, refers.reference, schema ▸ refers.target,
          id ▸ live, value, found, holds⟩
      have listed :=
        (store.mem_referencesTo_iff ..).mpr ⟨entity, field, old, before, rfl⟩
      rcases fits.settled key goes _ listed with along | ⟨-, cleared⟩
      · exact stays (id ▸ along)
      · exact unlisted (id ▸ cleared)

end DeletePlan

/-- Carrying out the plan of a live target's deletion, on the store it was made
for, deletes what the plan lists and leaves no reference to it. -/
theorem Store.apply_planDelete_effect (store : Store) (flat : store.IsFlat)
    {entity id : String} {target : Record}
    (live : store.live? entity id = some target) {plan : DeletePlan}
    (planned : store.planDelete entity id = .ok plan) (now : Instant) :
    plan.gone = ⟨entity, id⟩ :: plan.cascade.deleted ∧
      plan.Effect store (plan.apply store now).1 now ∧
      (plan.apply store now).2 =
        (plan.apply store now).1.record? entity id := by
  obtain ⟨rfl, rfl, fits⟩ := planDelete_fits planned
  have stored := record?_of_live? live
  obtain ⟨⟨records, committed⟩, reply⟩ := fits.apply_commits now stored
  have found := fits.record?_apply now stored
  refine ⟨rfl, ⟨?_, ?_, ?_, ?_, ?_, ?_⟩, ?_⟩
  · intro key goes
    obtain ⟨record, before⟩ := fits.stored_of_touches stored (.inl goes)
    refine ⟨plan.effect now key record, by rw [found, before]; rfl, ?_⟩
    exact (DeletePlan.effect_deleted now key record).mpr (.inl goes)
  · intro key goes entity field record
    refine fits.unreferenced now stored goes ?_ record
    intro record live value held
    have member := (store.mem_records_iff record).mpr (by
      have before := record?_of_live? live
      rwa [(key_of_record? before).1])
    exact flat record member field.name value held
  · intro key touches
    obtain ⟨record, before⟩ := fits.stored_of_touches stored touches
    obtain ⟨deleted, attributes, changed⟩ :=
      DeletePlan.effect_of_touches now touches record
    exact ⟨record, _, before, by rw [found, before]; rfl, by rw [changed]; rfl,
      by rw [changed]; rfl⟩
  · intro key apart
    rw [found]
    cases store.record? key.entity key.id with
    | none => rfl
    | some record =>
        rw [Option.map_some, DeletePlan.effect_of_not_touches now apart]
  · intro key name unlisted old new before after
    rw [found, before, Option.map_some, Option.some.injEq] at after
    rw [← after, fits.value?_effect, if_neg unlisted]
  · rw [committed]
    rfl
  · rw [reply, found ⟨plan.entity, plan.id⟩, stored, Option.map_some,
      DeletePlan.effect_of_gone now plan.target_mem_gone]

/-- Folders that go with the one above them, and refer to others as long as
those are there. -/
def Schema.folders : Schema where
  entities := .ofList [⟨"d", "Folder",
    [{ name := "up", type := ⟨.reference "Folder", false⟩,
       declaredPolicy := some .cascade },
      { name := "see", type := ⟨.reference "Folder", true⟩,
        declaredPolicy := some .setNull }], []⟩]

/-- Folders 1 and 2 are above each other. Folder 3 refers to both, and to folder
4. -/
def Store.folders : Store where
  schema := .folders
  records := .ofList
    [⟨"d.Folder", "1", 1, default, default, false,
      .ofList [("up", .atom (.ref "2"))]⟩,
      ⟨"d.Folder", "2", 1, default, default, false,
        .ofList [("up", .atom (.ref "1"))]⟩,
      ⟨"d.Folder", "3", 1, default, default, false,
        .ofList [("see",
          .array [.atom (.ref "1"), .atom (.ref "4"), .atom (.ref "2")])]⟩,
      ⟨"d.Folder", "4", 1, default, default, false, ∅⟩]

theorem Store.folders_effect :
    let plan : DeletePlan :=
      ⟨"d.Folder", "1", [⟨"d.Folder", "2"⟩], [⟨"d.Folder", "3", "see"⟩]⟩
    Store.folders.planDelete "d.Folder" "1" = .ok plan ∧
      plan.Effect .folders (plan.apply .folders default).1 default := by
  intro plan
  have planned : Store.folders.planDelete "d.Folder" "1" = .ok plan := by
    decide +kernel
  have live : Store.folders.live? "d.Folder" "1" = some ⟨"d.Folder", "1", 1,
      default, default, false, .ofList [("up", .atom (.ref "2"))]⟩ := by
    decide +kernel
  exact ⟨planned,
    (apply_planDelete_effect .folders (by decide +kernel) live planned
      default).2.1⟩

end RecordStore
