import RecordStore.Proofs.Admission
import RecordStore.Proofs.Concurrency.Protection
import RecordStore.Proofs.Integrity.References

namespace RecordStore

namespace Payload

variable {payload : Payload} {schema : Schema} {entity : Entity}
  {mode : WriteMode} {current attributes : Attributes} {name : String}

theorem value?_of_check_unnamed
    (valid : payload.check schema entity mode current = .ok attributes)
    (existing : mode ≠ .create) (unnamed : payload.contains name = false) :
    attributes.value? name = none := by
  by_contra some
  obtain ⟨value, held⟩ := Option.ne_none_iff_exists'.mp some
  exact existing (default_of_check valid
    ((Fields.contains_eq_false_iff ..).mp unnamed) held).1

theorem not_required_of_check_unnamed
    (valid : payload.check schema entity .replace current = .ok attributes)
    (unnamed : payload.contains name = false) {field : Field}
    (declared : field ∈ entity.fields) (own : field.name = name) :
    field.required = false := by
  by_contra required
  have given :=
    (check_required valid declared (by simpa using required)).2 (by simp)
  rw [own, value?_of_check_unnamed valid (by simp) unnamed] at given
  cases given

end Payload

/-- What a write makes of a record that exists, in a field that it does not
name. -/
structure Store.PassesOver (store : Store) (write : Write) (name : String)
    (old new : Record) : Prop where
  value : new.attributes.value? name =
    if write.goal.mode = .patch then old.attributes.value? name else none
  optional :
    write.goal.mode = .replace →
      ∀ definition, store.schema.entity? write.entity = some definition →
        ∀ field ∈ definition.fields, field.name = name → field.required = false

theorem Goal.mode_of_id? {goal : Goal} {id : String}
    (existing : goal.id? = some id) :
    goal.mode = .replace ∨ goal.mode = .patch := by
  cases goal with
  | create => cases existing
  | replace => exact .inl rfl
  | patch => exact .inr rfl

theorem Store.Commits.passesOver {settings : Settings} {fresh : String}
    {now : Instant} {store after : Store} {write : Write} {new : Record}
    (commits : store.Commits settings fresh now (.write write) after
      (.record new)) {id : String} (existing : write.goal.id? = some id) :
    ∃ old, store.live? write.entity id = some old ∧
      after.record? write.entity id = some new ∧
      ∀ name, write.payload.withoutVersion.contains name = false →
        store.PassesOver write name old new := by
  cases commits with
  | create => cases existing
  | @update _ other definition old current changes target declared live valid =>
      obtain rfl := Option.some.inj (existing.symm.trans target)
      have stored := record?_of_live? live
      refine ⟨old, live, ?_, fun name unnamed => ?_⟩
      · rw [record?_commit, record?_put_stored stored (Record.rewrite_key ..),
          if_pos rfl]
      have old : write.goal.mode ≠ .create := by
        rcases Goal.mode_of_id? existing with mode | mode <;> simp [mode]
      have untouched := Payload.value?_of_check_unnamed valid old unnamed
      constructor
      · change Fields.value? (if _ then _ else _) name = _
        split
        · rw [Fields.value?_merge, untouched, Option.none_or]
        · exact untouched
      · intro whole other again field member same
        obtain rfl := Option.some.inj (declared.symm.trans again)
        rw [whole] at valid
        exact Payload.not_required_of_check_unnamed valid unnamed member same

namespace Workload

theorem not_oversteps_of_draft {load : Workload} {schema : Schema}
    (sameSchema : ∀ i other, load.request i ≠ .reload other)
    {schedule : List Nat} {i : Nat} {write : Write}
    (asked : load.request i = .write write) {draft : Draft}
    (held : ((load.run (.initial { schema }) schedule).stage i).draft? =
      some draft) (name : String) :
    ¬write.Oversteps (load.run (.initial { schema }) schedule).store.schema
      name := by
  intro oversteps
  obtain ⟨before, later, -, -, -, reloads, -⟩ :=
    lockedMeanwhile_of_draft (fun _ _ => rfl) asked held oversteps
  obtain ⟨-, j, -, other, -, -, reload, -⟩ := reloads
  exact sameSchema j other reload

/-- Whatever operations run at once under one schema, an accepted patch leaves
the values of locked fields as they are. An accepted replacement leaves no value
in them: it keeps what is stored exactly where nothing is, and it is never
accepted where such a field is required. -/
theorem locked_kept_iff (load : Workload) (schema : Schema)
    (sameSchema : ∀ i other, load.request i ≠ .reload other)
    (schedule : List Nat) (i : Nat) {write : Write}
    (asked : load.request i = .write write) {id : String}
    (existing : write.goal.id? = some id) {record : Record}
    (underway : ((load.run (.initial { schema }) schedule).stage i).isFinished =
      false)
    (accepted : (load.run (.initial { schema }) (schedule ++ [i])).stage i =
      .finished (.ok (.record record))) :
    ∃ old,
      (load.run (.initial { schema }) schedule).store.live? write.entity id =
        some old ∧
        (load.run (.initial { schema }) (schedule ++ [i])).store.record?
          write.entity id = some record ∧
        ∀ name, schema.Locks write.entity name →
          (record.attributes.value? name = old.attributes.value? name ↔
            write.goal.mode = .patch ∨ old.attributes.value? name = none) ∧
            (write.goal.mode = .replace →
              record.attributes.value? name = none ∧
                ∀ definition, schema.entity? write.entity = some definition →
                  ∀ field ∈ definition.fields, field.name = name →
                    field.required = false) := by
  have coherent : (load.run (.initial { schema }) schedule).Coherent load :=
    run_coherent (.initial fun _ _ => rfl) schedule
  have same : (load.run (.initial { schema }) schedule).store.schema = schema :=
    run_schema sameSchema schedule
  rw [run_concat] at accepted
  obtain ⟨ready, seen, written, reply, writes⟩ :=
    writes_of_success (fun before => before) Store.Precedes.trans coherent.sound
      asked underway accepted
  cases reply
  have held : ((load.run (.initial { schema }) schedule).stage i).draft? =
      some ready.draft := by
    rw [writes.stage]
    rfl
  obtain ⟨old, live, stored, passes⟩ :=
    (writes.readFrom.commits writes.result).passesOver existing
  refine ⟨old, live, ?_, fun name locks => ?_⟩
  · rw [run_concat, writes.after]
    exact stored
  · have free := not_oversteps_of_draft sameSchema asked held name
    rw [same] at free
    obtain ⟨value, optional⟩ :=
      passes name (Bool.eq_false_iff.mpr fun named => free ⟨named, locks⟩)
    rw [same] at optional
    rcases Goal.mode_of_id? existing with whole | patch
    · simp only [value, whole, reduceCtorEq, if_false, false_or]
      exact ⟨eq_comm, fun _ => ⟨trivial, optional whole⟩⟩
    · simp [value, patch]

end Workload

def Schema.stamping : Schema where
  entities := .ofList
    [⟨"d", "Tag",
      [{ name := "name", type := ⟨.scalar .string, false⟩ },
        { name := "state", type := ⟨.scalar .string, false⟩, readonly := true,
          default := some (.string "new") }], []⟩]

theorem Schema.stamping_locks : Schema.stamping.Locks "d.Tag" "state" :=
  ⟨_, rfl, _, .tail _ (.head _), rfl, rfl⟩

def Record.stamped (version : UInt64) (attributes : List (String × String)) :
    Record :=
  ⟨"d.Tag", "0", version, default, default, false,
    .ofList (attributes.map fun (name, s) => (name, .atom (.string s)))⟩

namespace Workload

/-- A tag that is given another name by a patch, and then by a replacement. -/
def stamping : Workload :=
  ofList
    [.write ⟨"d.Tag", .create, .ofList [("name", .string "a")]⟩,
      .write ⟨"d.Tag", .patch "0" (some 1), .ofList [("name", .string "b")]⟩,
      .write ⟨"d.Tag", .replace "0" (some 2), .ofList [("name", .string "c")]⟩]

def stampingPatch : List Nat :=
  [0, 0, 0, 1, 1]

def stampingReplacement : List Nat :=
  stampingPatch ++ [1, 2, 2]

theorem stamping_sameSchema (i : Nat) (other : Schema) :
    stamping.request i ≠ .reload other :=
  ofList_sameSchema (by simp) i other

theorem stamping_patched :
    ((stamping.run (.initial { schema := .stamping }) stampingPatch).stage
      1).isFinished = false ∧
      (stamping.run (.initial { schema := .stamping })
        (stampingPatch ++ [1])).stage 1 = .finished
          (.ok (.record (.stamped 2 [("name", "b"), ("state", "new")]))) :=
  ⟨rfl, rfl⟩

theorem stamping_replaced :
    ((stamping.run (.initial { schema := .stamping }) stampingReplacement).stage
      2).isFinished = false ∧
      (stamping.run (.initial { schema := .stamping })
        (stampingReplacement ++ [2])).stage 2 =
        .finished (.ok (.record (.stamped 3 [("name", "c")]))) :=
  ⟨rfl, rfl⟩

theorem stamping_live :
    (stamping.run (.initial { schema := .stamping })
      stampingReplacement).store.live? "d.Tag" "0" =
      some (.stamped 2 [("name", "b"), ("state", "new")]) :=
  rfl

theorem stamping_kept_iff :
    (∃ old, (stamping.run (.initial { schema := .stamping })
      stampingPatch).store.live? "d.Tag" "0" = some old ∧
      (Record.stamped 2 [("name", "b"), ("state", "new")]).attributes.value?
        "state" =
        old.attributes.value? "state") ∧
      (Record.stamped 3 [("name", "c")]).attributes.value? "state" ≠
        (Record.stamped 2 [("name", "b"), ("state", "new")]).attributes.value?
          "state" := by
  obtain ⟨first, live, -, patched⟩ :=
    locked_kept_iff stamping .stamping stamping_sameSchema stampingPatch 1 rfl
      rfl stamping_patched.1 stamping_patched.2
  obtain ⟨second, liveAgain, -, replaced⟩ :=
    locked_kept_iff stamping .stamping stamping_sameSchema
      stampingReplacement 2 rfl rfl stamping_replaced.1 stamping_replaced.2
  obtain rfl := Option.some.inj (stamping_live.symm.trans liveAgain)
  refine ⟨⟨first, live,
    (patched "state" Schema.stamping_locks).1.mpr (.inl rfl)⟩, ?_⟩
  intro same
  rcases (replaced "state" Schema.stamping_locks).1.mp same with patch | none
  · cases patch
  · cases none

theorem not_always_kept :
    ¬∀ (load : Workload) (schema : Schema), schema.lint = [] →
      (∀ i other, load.request i ≠ .reload other) →
      ∀ schedule i write id record old, load.request i = .write write →
        write.goal.id? = some id →
        ((load.run (.initial { schema }) schedule).stage i).isFinished = false →
        (load.run (.initial { schema }) (schedule ++ [i])).stage i =
          .finished (.ok (.record record)) →
        (load.run (.initial { schema }) schedule).store.live? write.entity id =
          some old →
        ∀ name, schema.Locks write.entity name →
          record.attributes.value? name = old.attributes.value? name := by
  intro always
  have kept := always stamping .stamping (by decide +kernel) stamping_sameSchema
    stampingReplacement 2 _ _ _ _ rfl rfl stamping_replaced.1
    stamping_replaced.2 stamping_live "state" Schema.stamping_locks
  cases kept

end Workload

end RecordStore
