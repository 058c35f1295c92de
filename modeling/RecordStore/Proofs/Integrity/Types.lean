import RecordStore.Proofs.Concurrency.Progress
import RecordStore.Proofs.Payload

namespace RecordStore

namespace Store

/-- What a commit with this reply makes of the attributes of the record of a
key. -/
inductive Leaves (store : Store) (now : Instant) (reply : Reply)
    (key : RecordKey) : Attributes → Prop where
  | kept {old : Record} (stored : store.record? key.entity key.id = some old) :
      Leaves store now reply key old.attributes
  | written {entity : Entity} {payload : Payload} {mode : WriteMode}
      {current attributes : Attributes}
      (declared : store.schema.entity? key.entity = some entity)
      (valid : payload.check store.schema entity mode current = .ok attributes)
      (whole : mode ≠ .patch) : Leaves store now reply key attributes
  | patched {old : Record} {entity : Entity} {payload : Payload}
      {current changes : Attributes}
      (stored : store.record? key.entity key.id = some old)
      (declared : store.schema.entity? key.entity = some entity)
      (valid : payload.check store.schema entity .patch current = .ok changes) :
      Leaves store now reply key (old.attributes.merge changes)
  | pruned {old : Record} {deleted : Deleted}
      (replied : reply = .deleted deleted) (fits : deleted.plan.Fits store)
      (stored : store.record? key.entity key.id = some old) :
      Leaves store now reply key (deleted.plan.effect now key old).attributes

variable {store after : Store} {settings : Settings} {fresh : String}
  {now : Instant} {request : Request} {reply : Reply} {key : RecordKey}
  {attributes : Attributes}

theorem Commits.leaves
    (commits : store.Commits settings fresh now request after reply)
    {record : Record} (found : after.record? key.entity key.id = some record) :
    store.Leaves now reply key record.attributes := by
  cases commits with
  | @create entity payload definition attributes declared valid =>
      rw [record?_commit, record?_put] at found
      split at found
      next here =>
          obtain rfl : ⟨entity, fresh⟩ = key := here
          obtain rfl := Option.some.inj found
          exact .written declared valid (by simp)
      next elsewhere => exact .kept found
  | @update write id definition old current changes existing declared live
    valid =>
      have stored := record?_of_live? live
      rw [record?_commit,
        record?_put_stored stored (Record.rewrite_key ..)] at found
      split at found
      next here =>
          obtain rfl : ⟨write.entity, id⟩ = key := here
          obtain rfl := Option.some.inj found
          change store.Leaves now _ _ (if _ then _ else _)
          split
          next patch =>
              rw [patch] at valid
              exact .patched stored declared valid
          next whole => exact .written declared valid whole
      next elsewhere => exact .kept found
  | @delete deletion target plan live planned =>
      have carried : store.Commits settings fresh now (.delete deletion)
          (plan.apply store now).1
          (.deleted ⟨target.markDeleted now, plan.cascade⟩) :=
        .delete live planned
      obtain ⟨fits, ⟨_, stored⟩, same⟩ := carried.deletes
      rw [same, fits.record?_apply now stored key,
        Option.map_eq_some_iff] at found
      obtain ⟨old, before, rfl⟩ := found
      exact .pruned rfl fits before
  | @restore restoration old definition stored =>
      rw [record?_commit,
        record?_put_stored stored (Record.restore_key ..)] at found
      split at found
      next here =>
          obtain rfl : ⟨restoration.entity, restoration.id⟩ = key := here
          obtain rfl := Option.some.inj found
          change store.Leaves now _ _ old.attributes
          exact .kept stored
      next elsewhere => exact .kept found
  | restored => exact .kept found
  | reload => exact .kept found

def WellTyped (store : Store) : Prop :=
  ∀ entity ∈ store.schema.entities.items, ∀ record,
    store.record? entity.fullName record.id = some record →
      record.attributes.Fit entity

theorem entity_eq {definition entity : Entity} {name : String}
    (declared : store.schema.entity? name = some definition)
    (member : entity ∈ store.schema.entities.items)
    (same : name = entity.fullName) : definition = entity := by
  rw [same, (store.schema.entity?_eq_some_iff ..).mpr ⟨member, rfl⟩,
    Option.some.injEq] at declared
  exact declared.symm

theorem Leaves.fit (leaves : store.Leaves now reply key attributes)
    (typed : store.WellTyped) {entity : Entity}
    (member : entity ∈ store.schema.entities.items)
    (own : key.entity = entity.fullName) : attributes.Fit entity := by
  have before : ∀ old, store.record? key.entity key.id = some old →
      old.attributes.Fit entity := by
    intro old stored
    refine typed entity member old ?_
    rw [← own, (key_of_record? stored).2]
    exact stored
  cases leaves with
  | kept stored => exact before _ stored
  | written declared valid =>
      obtain rfl := entity_eq declared member own
      exact Payload.check_fit valid
  | patched stored declared valid =>
      obtain rfl := entity_eq declared member own
      exact (before _ stored).merge (Payload.check_fit valid)
  | pruned replied fits stored =>
      refine fits.forall_effect ?_ (before _ stored) now key
      rintro name value ⟨field, declared, same, typed⟩
      exact ⟨field, declared, same, typed.prune _⟩

theorem Commits.wellTyped
    (commits : store.Commits settings fresh now request after reply)
    (sameSchema : ∀ schema, request ≠ .reload schema)
    (typed : store.WellTyped) : after.WellTyped := by
  intro entity member record found
  rw [(commits.schema_kept sameSchema).1] at member
  have leaves : store.Leaves now reply ⟨entity.fullName, record.id⟩
      record.attributes :=
    commits.leaves found
  exact leaves.fit typed member rfl

end Store

namespace Workload

variable {load : Workload} {system : System}

theorem step_wellTyped (sameSchema : ∀ i other, load.request i ≠ .reload other)
    (coherent : system.Coherent load) (typed : system.store.WellTyped)
    (i : Nat) : (load.step system i).store.WellTyped :=
  step_keeps coherent typed i fun commits =>
    commits.wellTyped (sameSchema i) typed

end Workload

end RecordStore
