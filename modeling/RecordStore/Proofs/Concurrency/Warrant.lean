import RecordStore.Proofs.Concurrency.Progress

namespace RecordStore

/-! What a success rests on holds of the store that its commit finds, also if
the schema has changed since the operation began: attributes that were checked
before would pass the same checks there, a record that was read before is still
as it was, and a plan that was made before would be made again. -/

/-- Between the two stores every change of a record has been counted, by its
version and by the epoch. -/
structure Store.Counts (earlier later : Store) : Prop where
  precedes : earlier.Precedes later
  counted :
    ∀ entity id old, earlier.record? entity id = some old →
      ∃ new changes, later.record? entity id = some new ∧
        earlier.epoch + changes ≤ later.epoch ∧
        new.version = old.version + UInt64.ofNat changes ∧
        (changes = 0 → new = old)

namespace Store.Counts

theorem refl (store : Store) : store.Counts store where
  precedes := .refl store
  counted := fun _ _ old stored =>
    ⟨old, 0, stored, Nat.le_refl _, by simp, fun _ => rfl⟩

theorem trans {first second third : Store} (left : first.Counts second)
    (right : second.Counts third) : first.Counts third where
  precedes := left.precedes.trans right.precedes
  counted := by
    intro entity id old stored
    obtain ⟨middle, before, found, room, version, same⟩ :=
      left.counted entity id old stored
    obtain ⟨new, after, found, moreRoom, onward, still⟩ :=
      right.counted entity id middle found
    refine ⟨new, before + after, found, by omega, ?_, ?_⟩
    · rw [onward, version, UInt64.ofNat_add, UInt64.add_assoc]
    · intro none
      rw [still (by omega), same (by omega)]

/-- A version tells the states of a record apart as long as the epoch fits in a
word like it. -/
theorem eq_of_version {earlier later : Store} (counts : earlier.Counts later)
    (fits : later.epoch < UInt64.size) {entity id : String} {old new : Record}
    (before : earlier.record? entity id = some old)
    (after : later.record? entity id = some new)
    (same : old.version = new.version) : new = old := by
  obtain ⟨found, changes, stored, room, version, still⟩ :=
    counts.counted entity id old before
  rw [after, Option.some.injEq] at stored
  subst stored
  apply still
  have none : UInt64.ofNat changes = 0 := by
    rw [same] at version
    exact UInt64.left_eq_add.mp version
  have small : changes < UInt64.size := by omega
  have zero := congrArg UInt64.toNat none
  rwa [UInt64.toNat_ofNat_of_lt' small] at zero

end Store.Counts

theorem Store.Commits.counts {settings : Settings} {fresh : String}
    {now : Instant} {store after : Store} {request : Request} {reply : Reply}
    (commits : store.Commits settings fresh now request after reply)
    (unused : ∀ entity, store.record? entity fresh = none) :
    store.Counts after where
  precedes := commits.precedes
  counted := by
    intro entity id old stored
    have precedes := commits.precedes
    obtain ⟨new, found, rfl | ⟨deleted, attributes, rfl⟩⟩ :=
      commits.record?_kept unused stored
    · exact ⟨new, 0, found, precedes.epoch_le, by simp, fun _ => rfl⟩
    · by_cases unmoved : store.epoch = after.epoch
      · obtain rfl := precedes.eq_of_epoch unmoved
        rw [stored, Option.some.injEq] at found
        exact ⟨old, 0, stored, Nat.le_refl _, by simp, fun _ => rfl⟩
      · have moved := precedes.epoch_le
        exact ⟨_, 1, found, by omega, rfl, by omega⟩

/-- The attributes are what the payload of the write comes to by the schema in
force, beside `current`, and they go with the other records of the store. -/
def Write.Passes (write : Write) (settings : Settings) (store : Store)
    (current attributes : Attributes) : Prop :=
  ∃ definition, store.schema.entity? write.entity = some definition ∧
    write.payload.withoutVersion.check store.schema definition write.goal.mode
      current =
      .ok attributes ∧
    store.checkIntegrity settings store.schema definition write.goal.id?
      attributes = .ok ()

/-- What a successful operation leaves and replies is what the store that its
commit finds warrants. -/
inductive Store.Warrants (settings : Settings) (fresh : String) (now : Instant)
    (store : Store) : Request → Store → Reply → Prop where
  | created {entity : String} {payload : Payload} {attributes : Attributes}
      (passes : Write.Passes ⟨entity, .create, payload⟩ settings store ∅
        attributes) :
      Warrants settings fresh now store (.write ⟨entity, .create, payload⟩)
        (store.put (.create entity fresh attributes now)).commit
        (.record (.create entity fresh attributes now))
  | replaced {entity id : String} {expected : Option UInt64} {payload : Payload}
      {record : Record} {attributes : Attributes}
      (live : store.live? entity id = some record)
      (passes : Write.Passes ⟨entity, .replace id expected, payload⟩ settings
        store ∅ attributes) :
      Warrants settings fresh now store
        (.write ⟨entity, .replace id expected, payload⟩)
        (store.put ({ record with attributes }.touch now)).commit
        (.record ({ record with attributes }.touch now))
  /-- The patch has been checked beside the attributes that the record has now,
  at every epoch that fits in a machine word. -/
  | patched {entity id : String} {expected : Option UInt64} {payload : Payload}
      {record : Record} {current attributes : Attributes}
      (live : store.live? entity id = some record)
      (passes : Write.Passes ⟨entity, .patch id expected, payload⟩ settings
        store current attributes)
      (recent : store.epoch < UInt64.size → current = record.attributes) :
      Warrants settings fresh now store
        (.write ⟨entity, .patch id expected, payload⟩) (store.put ({ record with
          attributes := record.attributes.merge attributes }.touch now)).commit
        (.record ({ record with
          attributes := record.attributes.merge attributes }.touch now))
  | deleted {deletion : Deletion} {target : Record} {plan : DeletePlan}
      (live : store.live? deletion.entity deletion.id = some target)
      (planned : store.planDelete deletion.entity deletion.id = .ok plan) :
      Warrants settings fresh now store (.delete deletion)
        (plan.apply store now).1
        (.deleted ⟨target.markDeleted now, plan.cascade⟩)
  | restored {restoration : Restoration} {record : Record} {definition : Entity}
      (stored : store.record? restoration.entity restoration.id = some record)
      (deleted : record.deleted = true)
      (declared : store.schema.entity? restoration.entity = some definition)
      (unique : store.checkUniqueness definition (some record.id)
        record.attributes = .ok ()) :
      Warrants settings fresh now store (.restore restoration)
        (store.put (record.restore now)).commit (.record (record.restore now))
  | alreadyLive {restoration : Restoration} {record : Record}
      (live : store.live? restoration.entity restoration.id = some record) :
      Warrants settings fresh now store (.restore restoration) store
        (.record record)
  | reloaded {schema : Schema} (version : UInt64) :
      Warrants settings fresh now store (.reload schema)
        (store.replaceSchema { schema with version }) (.version version)

section writes

variable {draft : Draft} {write : Write} {seen store : Store}
  {settings : Settings}

theorem Draft.ReadFrom.passes (read : draft.ReadFrom write seen)
    {attributes : Attributes}
    (validated : draft.validate settings store = .ok attributes) :
    write.Passes settings store draft.current attributes := by
  obtain ⟨definition, declared, valid, sound⟩ :=
    (Draft.validate_eq_ok_iff ..).mp validated
  rw [read.entity] at declared
  rw [read.payload, read.goal] at valid
  rw [read.goal] at sound
  exact ⟨definition, declared, valid, sound⟩

theorem Draft.ReadFrom.warrants (read : draft.ReadFrom write seen)
    (counts : seen.Counts store) {fresh : String} {now : Instant}
    {record : Record}
    (passed : draft.result settings store fresh now = .ok record) :
    store.Warrants settings fresh now (.write write) (store.put record).commit
      (.record record) := by
  obtain ⟨entity, goal, payload⟩ := write
  have current := read.current
  rw [Draft.result, read.goal, read.entity] at passed
  cases goal with
  | create =>
      obtain ⟨attributes, validated, same⟩ := bind_eq_ok_iff.mp passed
      cases same
      have passes := read.passes validated
      rw [show draft.current = ∅ from current] at passes
      exact .created passes
  | replace id expected =>
      obtain ⟨old, live, passed⟩ := bind_eq_ok_iff.mp passed
      obtain ⟨⟨⟩, -, passed⟩ := bind_eq_ok_iff.mp passed
      obtain ⟨attributes, validated, same⟩ := bind_eq_ok_iff.mp passed
      cases same
      have passes := read.passes validated
      obtain ⟨first, -, -, whole⟩ := current
      rw [show draft.current = ∅ from whole] at passes
      exact .replaced ((Store.liveRecord_eq_ok_iff ..).mp live) passes
  | patch id expected =>
      obtain ⟨old, live, passed⟩ := bind_eq_ok_iff.mp passed
      obtain ⟨⟨⟩, version, passed⟩ := bind_eq_ok_iff.mp passed
      obtain ⟨attributes, validated, same⟩ := bind_eq_ok_iff.mp passed
      cases same
      rw [Store.liveRecord_eq_ok_iff] at live
      rw [checkVersion_eq_ok_iff] at version
      refine .patched live (read.passes validated) ?_
      intro fits
      -- the record has the version that was read, so that it is the one that
      -- was read
      obtain ⟨first, before, firstVersion, merged⟩ := current
      rw [firstVersion, Option.some.injEq] at version
      have same := counts.eq_of_version fits (Store.record?_of_live? before)
        (Store.record?_of_live? live) version
      rw [merged, same]
      rfl

end writes

namespace Workload

variable {load : Workload} {system : System} {i : Nat}

theorem step_counts (coherent : system.Coherent load) (i : Nat) :
    system.store.Counts (load.step system i).store := by
  rcases step_cases coherent i with ⟨same, -⟩ | ⟨reply, underway, -, commits⟩
  · rw [same]
    exact .refl system.store
  · exact commits.counts (coherent.unused i underway)

theorem checked_of_success {R : Store → Store → Prop} {store after : Store}
    {stage : Stage} (sound : stage.Sound load R i store) {write : Write}
    (asked : load.request i = .write write)
    (underway : stage.isFinished = false) {reply : Reply}
    (done : load.advance i store stage = (after, .finished (.ok reply))) :
    ∃ ready, stage = .checked ready := by
  cases stage with
  | checked ready => exact ⟨ready, rfl⟩
  | finished verdict => cases underway
  | submitted =>
      rw [advance, start, asked] at done
      cases read : write.draft store <;> simp [read, proceed] at done
  | drafted draft =>
      rw [advance] at done
      cases passed : draft.check load.settings store <;>
        simp [passed, proceed] at done
  | planned plan =>
      obtain ⟨deletion, -, other, -⟩ := sound
      rw [asked] at other
      cases other
  | vetted sought epoch =>
      obtain ⟨restoration, -, other, -⟩ := sound
      rw [asked] at other
      cases other

/-- The operation is about to write the record that its draft, read from the
store `seen`, comes to. -/
structure Writes (load : Workload) (R : Store → Store → Prop) (system : System)
    (i : Nat) (write : Write) (ready : CheckedWrite) (seen : Store)
    (record : Record) : Prop where
  stage : system.stage i = .checked ready
  read : write.draft seen = .ok ready.draft
  since : R seen system.store
  valid : ready.draft.attributes = .ok ready.attributes
  result :
    ready.draft.result load.settings system.store (load.fresh i) (load.time i) =
      .ok record
  after : (load.step system i).store = (system.store.put record).commit

theorem Writes.readFrom {R : Store → Store → Prop} {write : Write}
    {ready : CheckedWrite} {seen : Store} {record : Record}
    (writes : load.Writes R system i write ready seen record) :
    ready.draft.ReadFrom write seen :=
  ((Write.draft_eq_ok_iff ..).mp writes.read).1

theorem writes_of_success {R : Store → Store → Prop}
    (precedes : ∀ {x y}, R x y → x.Precedes y)
    (trans : ∀ {x y z}, R x y → R y z → R x z) (sound : system.Sound load R)
    {write : Write} (asked : load.request i = .write write)
    (underway : (system.stage i).isFinished = false) {reply : Reply}
    (done : (load.step system i).stage i = .finished (.ok reply)) :
    ∃ ready seen record, reply = .record record ∧
      load.Writes R system i write ready seen record := by
  have ends : load.advance i system.store (system.stage i) =
      ((load.step system i).store, .finished (.ok reply)) := by
    rw [← done, step_store, step_stage_self]
  obtain ⟨ready, stage⟩ := checked_of_success (sound i) asked underway ends
  have held := sound i
  rw [stage] at held ends
  obtain ⟨write, seen, middle, other, drafted, before, passed, since⟩ := held
  obtain rfl := Request.write.inj (asked.symm.trans other)
  obtain ⟨read, -⟩ := (Write.draft_eq_ok_iff ..).mp drafted
  obtain ⟨-, valid, -⟩ := (Draft.check_eq_ok_iff ..).mp passed
  have result := ready.result_eq (CheckedWrite.recheck_eq_validate read
    (precedes before) passed (precedes since)) (load.fresh i) (load.time i)
  simp only [advance, CheckedWrite.commit, result] at ends
  cases outcome : ready.draft.result load.settings system.store (load.fresh i)
    (load.time i) with
  | error error =>
      rw [outcome] at ends
      simp [Except.map] at ends
  | ok record =>
      rw [outcome] at ends
      obtain ⟨left, same⟩ := Prod.mk.inj ends
      cases same
      exact ⟨ready, seen, record, rfl, stage, drafted, trans before since,
        valid, outcome, left.symm⟩

theorem write_warranted (sound : system.Sound load Store.Counts) {write : Write}
    (asked : load.request i = .write write)
    (underway : (system.stage i).isFinished = false) {reply : Reply}
    (done : (load.step system i).stage i = .finished (.ok reply)) :
    system.store.Warrants load.settings (load.fresh i) (load.time i)
      (.write write) (load.step system i).store reply := by
  obtain ⟨ready, seen, record, rfl, writes⟩ :=
    writes_of_success Store.Counts.precedes Store.Counts.trans sound asked
      underway done
  rw [writes.after]
  exact writes.readFrom.warrants writes.since writes.result

theorem step_warranted (coherent : system.Coherent load)
    (sound : system.Sound load Store.Counts) (i : Nat) :
    ((load.step system i).store = system.store ∧
      ∀ reply, (load.step system i).stage i = .finished (.ok reply) →
        system.stage i = .finished (.ok reply)) ∨
      ∃ reply, (system.stage i).isFinished = false ∧
        (load.step system i).stage i = .finished (.ok reply) ∧
        system.store.Warrants load.settings (load.fresh i) (load.time i)
          (load.request i) (load.step system i).store reply := by
  rcases step_cases coherent i with idle | ⟨reply, underway, done, commits⟩
  · exact .inl idle
  · refine .inr ⟨reply, underway, done, ?_⟩
    cases asked : load.request i with
    | write write => exact write_warranted sound asked underway done
    | delete deletion =>
        rw [asked] at commits
        generalize (load.step system i).store = after at commits
        cases commits with
        | delete live planned => exact .deleted live planned
    | restore restoration =>
        rw [asked] at commits
        generalize (load.step system i).store = after at commits
        cases commits with
        | restore stored deleted declared unique =>
            exact .restored stored deleted declared unique
        | restored live => exact .alreadyLive live
    | reload schema =>
        rw [asked] at commits
        generalize (load.step system i).store = after at commits
        cases commits with
        | reload version => exact .reloaded version

/-- Whatever operations and changes of schema come before, a phase leaves the
store as it is without a success, or its operation succeeds in it with a store
and a reply that the store before it warrants. -/
theorem commits_warranted (load : Workload) (start : Store)
    (unused : ∀ i entity, start.record? entity (load.fresh i) = none)
    (schedule : List Nat) (i : Nat) :
    let before := load.run (.initial start) schedule
    let after := load.run (.initial start) (schedule ++ [i])
    (after.store = before.store ∧
      ∀ reply, after.stage i = .finished (.ok reply) →
        before.stage i = .finished (.ok reply)) ∨
      ∃ reply, (before.stage i).isFinished = false ∧
        after.stage i = .finished (.ok reply) ∧
        before.store.Warrants load.settings (load.fresh i) (load.time i)
          (load.request i) after.store reply := by
  intro before after
  have invariant : before.Coherent load ∧ before.Sound load Store.Counts := by
    refine load.run_invariant (P := fun system =>
      system.Coherent load ∧ system.Sound load Store.Counts)
      unused ⟨.initial unused, fun _ => trivial⟩ ?_ schedule
    rintro system i coherent ⟨-, sound⟩
    exact ⟨step_coherent coherent i,
      sound.step .refl .trans (step_counts coherent i)⟩
  have last : after = load.step before i := load.run_concat ..
  rw [last]
  exact step_warranted invariant.1 invariant.2 i

end Workload

def Schema.truthTags : Schema where
  entities := .ofList
    [⟨"d", "Tag", [{ name := "name", type := ⟨.scalar .bool, false⟩ }], []⟩]

namespace Workload

/-- A name that is checked as a text is written as a truth value. -/
def retyping : Workload :=
  ofList
    [.write ⟨"d.Tag", .create, .ofList [("name", .string "a")]⟩,
      .write ⟨"d.Tag", .patch "0" (some 1), .ofList [("name", .string "yes")]⟩,
      .reload .truthTags]

theorem retyping_warranted :
    (retyping.run (.initial { schema := .tagging })
      [0, 0, 0, 1, 1, 2]).store.Warrants {} "1" default (.write ⟨"d.Tag",
        .patch "0" (some 1), .ofList [("name", .string "yes")]⟩) (retyping.run
          (.initial { schema := .tagging }) [0, 0, 0, 1, 1, 2, 1]).store
        (.record ⟨"d.Tag", "0", 2, default, default, false,
          .ofList [("name", .atom (.bool true))]⟩) := by
  have ends : (retyping.run (.initial { schema := .tagging })
      [0, 0, 0, 1, 1, 2, 1]).stage 1 = .finished (.ok (.record ⟨"d.Tag", "0", 2,
        default, default, false, .ofList [("name", .atom (.bool true))]⟩)) :=
    rfl
  rcases commits_warranted retyping { schema := .tagging } (fun _ _ => rfl)
    [0, 0, 0, 1, 1, 2] 1 with ⟨-, idle⟩ | ⟨reply, -, done, warranted⟩
  · cases idle _ ends
  · cases done
    exact warranted

end Workload

end RecordStore
