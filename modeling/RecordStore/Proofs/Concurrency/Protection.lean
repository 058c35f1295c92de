import Mathlib.Data.List.Induction
import RecordStore.Proofs.Concurrency.Warrant
import RecordStore.Proofs.Payload

namespace RecordStore

/-! Fields that clients may not write. What a write names is compared with the
protected fields once, by the schema of its first look: it names a field that
the schema in force at its commit locks exactly if that schema has come into
force in between. -/

/-- Clients may not write the field of an entity. -/
def Schema.Locks (schema : Schema) (entity name : String) : Prop :=
  ∃ definition, schema.entity? entity = some definition ∧
    ∃ field ∈ definition.fields, field.name = name ∧ field.readonly = true

/-- The write names a field that the schema locks. The version hint is no
field. -/
def Write.Oversteps (write : Write) (schema : Schema) (name : String) : Prop :=
  write.payload.withoutVersion.contains name = true ∧
    schema.Locks write.entity name

namespace Payload

theorem mem_names_withoutVersion {payload : Payload} {name : String}
    (member : name ∈ payload.names) (other : name ≠ "version") :
    name ∈ payload.withoutVersion.names := by
  obtain ⟨entry, listed, rfl⟩ := List.mem_map.mp member
  exact List.mem_map_of_mem (List.mem_filter.mpr ⟨listed, by simpa using other⟩)

theorem checkProtected_eq_ok_iff (entity : Entity) (payload : Payload)
    (hint : Option UInt64) :
    payload.checkProtected entity = .ok hint ↔
      (∀ name ∈ payload.withoutVersion.names, isSystemField name = false) ∧
        (∀ field ∈ entity.fields, field.readonly = true →
          payload.withoutVersion.contains field.name = false) ∧
        (payload.value? "version").bind versionHint? = hint := by
  have clean : protectedErrors entity payload.withoutVersion = [] ↔
      (∀ name ∈ payload.withoutVersion.names, isSystemField name = false) ∧
      ∀ field ∈ entity.fields, field.readonly = true →
        payload.withoutVersion.contains field.name = false := by
    simp [protectedErrors, List.filter_eq_nil_iff]
  rw [checkProtected, ← and_assoc, ← clean]
  split
  next none => simp [none]
  next errors some =>
      refine iff_of_false (by simp) ?_
      rintro ⟨none, -⟩
      exact some none

end Payload

theorem Write.draft_free {write : Write} {store : Store} {draft : Draft}
    (drafted : write.draft store = .ok draft) :
    (∀ name ∈ write.payload.names, isSystemField name = true →
      name = "version") ∧
      ∀ name, ¬write.Oversteps store.schema name := by
  obtain ⟨read, -⟩ := (Write.draft_eq_ok_iff ..).mp drafted
  obtain ⟨hint, permitted, -⟩ := read.permitted
  obtain ⟨system, locked, -⟩ :=
    (Payload.checkProtected_eq_ok_iff ..).mp permitted
  constructor
  · intro name member reserved
    by_contra other
    rw [system name (Payload.mem_names_withoutVersion member other)] at reserved
    contradiction
  · rintro name ⟨named, definition, declared, field, member, rfl, readonly⟩
    rw [read.declared, Option.some.injEq] at declared
    subst declared
    rw [locked field member readonly] at named
    contradiction

/-- The value is one that the record of the write has already, or a default of
the entity. -/
inductive Store.Provides (store : Store) (write : Write) (name : String)
    (value : Value) : Prop where
  | kept {id : String} {record : Record} (existing : write.goal.id? = some id)
      (live : store.live? write.entity id = some record)
      (held : record.attributes.value? name = some value)
  | default {definition : Entity} {field source : Field} {raw : Json}
      (new : write.goal = .create)
      (declared : store.schema.entity? write.entity = some definition)
      (reader : field ∈ definition.fields ∧ field.name = name)
      (giver : source ∈ definition.fields ∧ source.name = name)
      (given : source.default = some raw)
      (read : Payload.ofMember field raw = .ok value)

theorem Store.Commits.provides {settings : Settings} {fresh : String}
    {now : Instant} {store after : Store} {write : Write} {record : Record}
    (commits : store.Commits settings fresh now (.write write) after
      (.record record)) {name : String}
    (unnamed : write.payload.withoutVersion.contains name = false)
    {value : Value} (held : record.attributes.value? name = some value) :
    store.Provides write name value := by
  have absent := (Fields.contains_eq_false_iff ..).mp unnamed
  cases commits with
  | create declared valid sound =>
      obtain ⟨-, field, source, reader, giver, raw, given, read⟩ :=
        Payload.default_of_check valid absent held
      exact .default rfl declared reader giver given read
  | @update _ id definition old current changes existing declared live valid =>
      change Fields.value? (if _ then _ else _) name = some value at held
      split at held
      next patch =>
          rw [Fields.value?_merge, Option.or_eq_some_iff] at held
          rcases held with changed | ⟨-, kept⟩
          · obtain ⟨new, -⟩ := Payload.default_of_check valid absent changed
            rw [patch] at new
            cases new
          · exact .kept existing live kept
      next =>
          obtain ⟨new, -⟩ := Payload.default_of_check valid absent held
          cases goal : write.goal <;>
            simp [goal, Goal.mode, Goal.id?] at new existing

def Stage.draft? : Stage → Option Draft
  | .drafted draft => some draft
  | .checked ready => some ready.draft
  | _ => none

namespace Workload

variable {load : Workload}

theorem advance_draft? {i : Nat} {store : Store} {stage : Stage} {draft : Draft}
    (held : (load.advance i store stage).2.draft? = some draft) :
    stage.draft? = some draft ∨
      stage = .submitted ∧
        ∃ write, load.request i = .write write ∧
          write.draft store = .ok draft := by
  cases stage with
  | submitted =>
      refine .inr ⟨rfl, ?_⟩
      rw [advance, start] at held
      cases asked : load.request i with
      | write write =>
          simp only [asked] at held
          cases read : write.draft store with
          | error error => simp [read, proceed, Stage.draft?] at held
          | ok drafted =>
              simp only [read, proceed, Stage.draft?, Option.some.injEq] at held
              exact ⟨write, rfl, held ▸ read⟩
      | delete deletion =>
          simp only [asked] at held
          cases read : deletion.read store <;>
            simp [read, proceed, Stage.draft?] at held
      | restore restoration =>
          simp only [asked] at held
          cases read : restoration.read store with
          | error error => simp [read, proceed, Stage.draft?] at held
          | ok planned =>
              cases planned <;> simp [read, proceed, Stage.draft?] at held
      | reload schema => simp [asked, Stage.draft?] at held
  | drafted drafted =>
      rw [advance] at held
      cases passed : drafted.check load.settings store with
      | error error => simp [passed, proceed, Stage.draft?] at held
      | ok ready =>
          obtain ⟨same, -⟩ := (Draft.check_eq_ok_iff ..).mp passed
          simp only [passed, proceed, Stage.draft?] at held
          rw [same] at held
          exact .inl held
  | checked | planned | vetted | finished =>
      simp [advance, Stage.draft?] at held

theorem first_look {start : Store} {schedule : List Nat} {i : Nat}
    {draft : Draft}
    (held : ((load.run (.initial start) schedule).stage i).draft? =
      some draft) :
    ∃ before later, schedule = before ++ i :: later ∧
      (load.run (.initial start) before).stage i = .submitted ∧
      ∃ write, load.request i = .write write ∧
        write.draft (load.run (.initial start) before).store = .ok draft := by
  induction schedule using List.reverseRecOn with
  | nil => cases held
  | append_singleton schedule j ih =>
      have earlier :
          ((load.run (.initial start) schedule).stage i).draft? = some draft →
            ∃ before later, schedule ++ [j] = before ++ i :: later ∧
              (load.run (.initial start) before).stage i = .submitted ∧
              ∃ write, load.request i = .write write ∧
                write.draft (load.run (.initial start) before).store =
                  .ok draft := by
        intro held
        obtain ⟨before, later, rfl, first⟩ := ih held
        exact ⟨before, later ++ [j], by simp, first⟩
      rw [run_concat] at held
      by_cases own : i = j
      · subst own
        rw [step_stage_self] at held
        rcases advance_draft? held with kept | ⟨first, read⟩
        · exact earlier kept
        · exact ⟨schedule, [], rfl, first, read⟩
      · rw [load.step_stage_of_ne _ own] at held
        exact earlier held

end Workload

theorem Store.Commits.schema_changed {settings : Settings} {fresh : String}
    {now : Instant} {store after : Store} {request : Request} {reply : Reply}
    (commits : store.Commits settings fresh now request after reply)
    (changed : after.schema ≠ store.schema) :
    ∃ schema version, request = .reload schema ∧
      reply = .version version ∧ after.schema = { schema with version } := by
  by_cases reloads : ∃ schema, request = .reload schema
  · obtain ⟨schema, rfl⟩ := reloads
    cases commits with
    | reload version => exact ⟨schema, version, rfl, rfl, rfl⟩
  · exact absurd
      (commits.schema_kept fun schema same => reloads ⟨schema, same⟩).1 changed

namespace Workload

variable {load : Workload}

/-- The schema in force after the schedule has come into force in its course. -/
def Reloads (load : Workload) (system : System) (schedule : List Nat) : Prop :=
  ∃ before j after schema version, schedule = before ++ j :: after ∧
    load.request j = .reload schema ∧
    ((load.run system before).stage j).isFinished = false ∧
    (load.run system (before ++ [j])).stage j =
      .finished (.ok (.version version)) ∧
    (load.run system schedule).store.schema = { schema with version }

theorem Reloads.concat {system : System} {schedule : List Nat}
    (reloads : load.Reloads system schedule) (i : Nat)
    (kept : (load.step (load.run system schedule) i).store.schema =
      (load.run system schedule).store.schema) :
    load.Reloads system (schedule ++ [i]) := by
  obtain ⟨before, j, after, schema, version, rfl, asked, underway, done,
    inForce⟩ := reloads
  refine ⟨before, j, after ++ [i], schema, version, by simp, asked, underway,
    done, ?_⟩
  rw [run_concat, kept, inForce]

theorem reloads_of_schema_ne {system : System} (coherent : system.Coherent load)
    {schedule : List Nat}
    (changed : (load.run system schedule).store.schema ≠ system.store.schema) :
    load.Reloads system schedule := by
  induction schedule using List.reverseRecOn with
  | nil => exact absurd rfl changed
  | append_singleton schedule i ih =>
      rw [run_concat] at changed
      by_cases kept : (load.step (load.run system schedule) i).store.schema =
          (load.run system schedule).store.schema
      · exact (ih (kept ▸ changed)).concat i kept
      · rcases step_cases (run_coherent coherent schedule) i with
          ⟨same, -⟩ | ⟨reply, underway, done, commits⟩
        · exact absurd (congrArg Store.schema same) kept
        · obtain ⟨schema, version, asked, rfl, inForce⟩ :=
            commits.schema_changed kept
          rw [← run_concat] at done inForce
          exact ⟨schedule, i, [], schema, version, rfl, asked, underway, done,
            inForce⟩

/-- Since the first look of the operation a schema has come into force that
locks a field which the write names, and which was free at that look. -/
def LockedMeanwhile (load : Workload) (start : System) (schedule : List Nat)
    (i : Nat) (write : Write) (name : String) : Prop :=
  ∃ before later, schedule = before ++ i :: later ∧
    (load.run start before).stage i = .submitted ∧
    ¬write.Oversteps (load.run start before).store.schema name ∧
    load.Reloads (load.run start (before ++ [i])) later ∧
    write.Oversteps (load.run start schedule).store.schema name

theorem lockedMeanwhile_of_draft {start : Store}
    (unused : ∀ i entity, start.record? entity (load.fresh i) = none)
    {schedule : List Nat} {i : Nat} {write : Write}
    (asked : load.request i = .write write) {draft : Draft}
    (held : ((load.run (.initial start) schedule).stage i).draft? = some draft)
    {name : String}
    (oversteps : write.Oversteps
      (load.run (.initial start) schedule).store.schema name) :
    load.LockedMeanwhile (.initial start) schedule i write name := by
  obtain ⟨before, later, rfl, first, other, again, drafted⟩ := first_look held
  obtain rfl := Request.write.inj (asked.symm.trans again)
  have free := (Write.draft_free drafted).2 name
  refine ⟨before, later, rfl, first, free, ?_, oversteps⟩
  have split : load.run (.initial start) (before ++ i :: later) =
      load.run (load.run (.initial start) (before ++ [i])) later := by
    rw [← run_append, List.append_assoc]
    rfl
  have looked : (load.run (.initial start) (before ++ [i])).store =
      (load.run (.initial start) before).store := by
    rw [run_concat, step_store, first, advance, Workload.start, asked]
  rw [split] at oversteps
  refine reloads_of_schema_ne (run_coherent (.initial unused) _) ?_
  intro same
  rw [same, looked] at oversteps
  exact free oversteps

/-- Whatever operations and changes of schema run at once, a write that commits
names no system field but the version hint. It names a field that the schema in
force locks exactly if that schema has come into force since its first look, at
which the field was free. What a record holds in fields that the write does not
name comes from no client. -/
theorem oversteps_iff_lockedMeanwhile (load : Workload) (start : Store)
    (unused : ∀ i entity, start.record? entity (load.fresh i) = none)
    (schedule : List Nat) (i : Nat) {write : Write}
    (asked : load.request i = .write write) {record : Record}
    (underway : ((load.run (.initial start) schedule).stage i).isFinished =
      false)
    (accepted : (load.run (.initial start) (schedule ++ [i])).stage i =
      .finished (.ok (.record record))) :
    let store := (load.run (.initial start) schedule).store
    (∀ name ∈ write.payload.names, isSystemField name = true →
      name = "version") ∧ (∀ name, write.Oversteps store.schema name ↔
        load.LockedMeanwhile (.initial start) schedule i write name) ∧
      ∀ name, store.schema.Locks write.entity name →
        ¬write.Oversteps store.schema name →
        ∀ value, record.attributes.value? name = some value →
          store.Provides write name value := by
  intro store
  have coherent := run_coherent (.initial unused) schedule
  rw [run_concat] at accepted
  obtain ⟨ready, seen, written, same, writes⟩ :=
    writes_of_success id Store.Precedes.trans coherent.sound asked underway
      accepted
  cases same
  have held : ((load.run (.initial start) schedule).stage i).draft? =
      some ready.draft := by
    rw [writes.stage]
    rfl
  refine ⟨(Write.draft_free writes.read).1, fun name => ⟨?_, ?_⟩, ?_⟩
  · exact lockedMeanwhile_of_draft unused asked held
  · rintro ⟨-, -, -, -, -, -, oversteps⟩
    exact oversteps
  · intro name locks free value found
    have commits := writes.readFrom.commits writes.result
    refine commits.provides ?_ found
    rw [Bool.eq_false_iff]
    exact fun named => free ⟨named, locks⟩

end Workload

def Schema.lockedTags : Schema where
  entities := .ofList [⟨"d", "Tag",
    [{ name := "name", type := ⟨.scalar .string, false⟩, readonly := true }],
    []⟩]

def Write.naming : Write :=
  ⟨"d.Tag", .create, .ofList [("name", .string "a")]⟩

namespace Workload

/-- A tag is given a name, and names of tags are locked. -/
def locking : Workload :=
  ofList [.write .naming, .reload .lockedTags]

def lockingSchedule : List Nat :=
  [0, 0, 1]

theorem locking_commits :
    ((locking.run (.initial { schema := .tagging }) lockingSchedule).stage
      0).isFinished = false ∧
      (locking.run (.initial { schema := .tagging })
        (lockingSchedule ++ [0])).stage 0 =
        .finished (.ok (.record ⟨"d.Tag", "0", 1, default, default, false,
          .ofList [("name", .atom (.string "a"))]⟩)) :=
  ⟨rfl, rfl⟩

theorem locking_oversteps :
    Write.naming.Oversteps (locking.run (.initial { schema := .tagging })
      lockingSchedule).store.schema "name" :=
  ⟨rfl, _, rfl, _, .head _, rfl, rfl⟩

theorem locking_lockedMeanwhile :
    locking.LockedMeanwhile (.initial { schema := .tagging }) lockingSchedule 0
      .naming "name" := by
  obtain ⟨underway, accepted⟩ := locking_commits
  obtain ⟨-, locked, -⟩ :=
    oversteps_iff_lockedMeanwhile locking { schema := .tagging }
      (fun _ _ => rfl) lockingSchedule 0 rfl underway accepted
  exact (locked "name").mp locking_oversteps

theorem not_always_within_bounds :
    ¬∀ (load : Workload) (schema : Schema), schema.lint = [] →
      ∀ schedule i write record,
        (∀ j ∈ schedule, (∃ other, load.request j = .write other) ∨
          ∃ other, load.request j = .reload other) →
          load.request i = .write write →
          ((load.run (.initial { schema }) schedule).stage i).isFinished =
            false →
          (load.run (.initial { schema }) (schedule ++ [i])).stage i =
            .finished (.ok (.record record)) →
          ∀ name, ¬write.Oversteps
            (load.run (.initial { schema }) schedule).store.schema name := by
  intro always
  obtain ⟨underway, accepted⟩ := locking_commits
  refine always locking .tagging (by decide +kernel) lockingSchedule 0 .naming _
    ?_ rfl underway accepted "name" locking_oversteps
  intro j scheduled
  rcases List.mem_cons.mp scheduled with rfl | scheduled
  · exact .inl ⟨_, rfl⟩
  · rcases List.mem_cons.mp scheduled with rfl | scheduled
    · exact .inl ⟨_, rfl⟩
    · obtain rfl := List.mem_singleton.mp scheduled
      exact .inr ⟨_, rfl⟩

end Workload

end RecordStore
