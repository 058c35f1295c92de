import RecordStore.Proofs.Concurrency.Progress

namespace RecordStore

/-! Operations in one go beside operations in phases. As long as versions are
counted without end, the phase that ends an operation ends it as the operation
in one go would, on the store that this phase finds. -/

/-- Between the two stores there were only commits, and a record with the same
version is the same. -/
structure Store.Evolves (earlier later : Store) : Prop where
  precedes : earlier.Precedes later
  generation : earlier.generation = later.generation
  kept : ∀ entity id old, earlier.record? entity id = some old →
    ∃ new, later.record? entity id = some new ∧ old.version ≤ new.version ∧
      (old.version = new.version → old = new)

namespace Store.Evolves

theorem refl (store : Store) : store.Evolves store :=
  ⟨.refl store, rfl,
    fun _ _ old stored => ⟨old, stored, Nat.le_refl _, fun _ => rfl⟩⟩

theorem trans {first second third : Store} (left : first.Evolves second)
    (right : second.Evolves third) : first.Evolves third where
  precedes := left.precedes.trans right.precedes
  generation := left.generation.trans right.generation
  kept := by
    intro entity id old stored
    obtain ⟨middle, found, atMost, same⟩ := left.kept entity id old stored
    obtain ⟨new, found, onward, still⟩ := right.kept entity id middle found
    refine ⟨new, found, UInt64.le_trans atMost onward, ?_⟩
    intro equal
    have stays : old.version = middle.version :=
      UInt64.le_antisymm atMost (equal ▸ onward)
    exact (same stays).trans (still (stays.symm.trans equal))

theorem schema {earlier later : Store} (evolves : earlier.Evolves later) :
    earlier.schema = later.schema :=
  evolves.precedes.schema_of_generation evolves.generation

theorem eq_of_version {earlier later : Store} (evolves : earlier.Evolves later)
    {entity id : String} {old new : Record}
    (before : earlier.live? entity id = some old)
    (after : later.live? entity id = some new)
    (same : old.version = new.version) : old = new := by
  obtain ⟨found, stored, -, still⟩ :=
    evolves.kept entity id old (record?_of_live? before)
  rw [record?_of_live? after, Option.some.injEq] at stored
  subst stored
  exact still same

end Store.Evolves

theorem Draft.ReadFrom.unique {draft other : Draft} {write : Write}
    {seen store : Store} (read : draft.ReadFrom write seen)
    (again : other.ReadFrom write store) (evolves : seen.Evolves store) :
    other = { draft with epoch := store.epoch } := by
  have definition : other.definition = draft.definition := by
    have declared := read.declared
    rw [evolves.schema, again.declared, Option.some.injEq] at declared
    exact declared
  have expected : other.expected = draft.expected := by
    obtain ⟨hint, permitted, fromHint⟩ := read.permitted
    obtain ⟨second, permittedAgain, fromSecond⟩ := again.permitted
    rw [definition, permitted, Except.ok.injEq] at permittedAgain
    rw [fromHint, fromSecond, permittedAgain]
  have current : other.current = draft.current := by
    have first := read.current
    have second := again.current
    cases target : write.goal.id? with
    | none =>
        simp only [target] at first second
        rw [first, second]
    | some id =>
        simp only [target] at first second
        obtain ⟨old, before, version, first⟩ := first
        obtain ⟨new, after, versionAgain, second⟩ := second
        rw [expected, version, Option.some.injEq] at versionAgain
        obtain rfl := evolves.eq_of_version before after versionAgain
        rw [first, second]
  have entity := again.entity.trans read.entity.symm
  have goal := again.goal.trans read.goal.symm
  have payload := again.payload.trans read.payload.symm
  have schema := again.schema.trans (evolves.schema.symm.trans read.schema.symm)
  have generation :=
    again.generation.trans (evolves.generation.symm.trans read.generation.symm)
  have epoch := again.epoch
  cases other
  cases draft
  simp_all

theorem Draft.ReadFrom.again {draft : Draft} {write : Write}
    {seen store : Store} (read : draft.ReadFrom write seen)
    (evolves : seen.Evolves store)
    (unchanged : ∀ id, draft.goal.id? = some id →
      ∃ record, store.live? draft.entity id = some record ∧
        draft.expected = some record.version) :
    ({ draft with epoch := store.epoch } : Draft).ReadFrom write store where
  entity := read.entity
  goal := read.goal
  payload := read.payload
  schema := read.schema.trans evolves.schema
  generation := read.generation.trans evolves.generation
  epoch := rfl
  declared := evolves.schema ▸ read.declared
  permitted := read.permitted
  current := by
    have first := read.current
    cases target : write.goal.id? with
    | none =>
        simp only [target] at first
        exact first
    | some id =>
        simp only [target] at first
        obtain ⟨old, before, version, first⟩ := first
        obtain ⟨record, live, expected⟩ := unchanged id (read.goal ▸ target)
        rw [read.entity] at live
        have same : old.version = record.version := by
          rw [version, Option.some.injEq] at expected
          exact expected
        obtain rfl := evolves.eq_of_version before live same
        exact ⟨old, live, version, first⟩

theorem Draft.ReadFrom.check_of_result {draft : Draft} {write : Write}
    {store : Store} (read : draft.ReadFrom write store) {settings : Settings}
    {fresh : String} {now : Instant} {record : Record}
    (passed : draft.result settings store fresh now = .ok record) :
    ∃ checked, checked.draft = draft ∧
      draft.check settings store = .ok checked := by
  obtain ⟨attributes, validated, -⟩ := Draft.cases_of_result passed
  rw [read.validate_eq rfl, bind_eq_ok_iff] at validated
  obtain ⟨taken, valid, rest⟩ := validated
  obtain ⟨⟨⟩, sound, same⟩ := bind_eq_ok_iff.mp rest
  cases same
  exact ⟨⟨draft, attributes⟩, rfl,
    (Draft.check_eq_ok_iff ..).mpr ⟨rfl, valid, sound⟩⟩

theorem Draft.ReadFrom.result_of_check {draft : Draft} {write : Write}
    {store : Store} (read : draft.ReadFrom write store) {settings : Settings}
    {checked : CheckedWrite} (passed : draft.check settings store = .ok checked)
    (fresh : String) (now : Instant) :
    ∃ record, draft.result settings store fresh now = .ok record := by
  obtain ⟨rfl, valid, sound⟩ := (Draft.check_eq_ok_iff ..).mp passed
  have validated : checked.draft.validate settings store =
      .ok checked.attributes := by
    rw [read.validate_eq rfl, valid, ok_bind, sound]
    rfl
  have current := read.current
  rw [← read.goal, ← read.entity] at current
  rw [Draft.result]
  cases target : checked.draft.goal.id? with
  | none => exact ⟨_, by rw [validated]; rfl⟩
  | some id =>
      rw [target] at current
      obtain ⟨record, live, version, -⟩ := current
      refine ⟨record.rewrite checked.draft.goal.mode checked.attributes now, ?_⟩
      simp only [(Store.liveRecord_eq_ok_iff ..).mpr live,
        (checkVersion_eq_ok_iff ..).mpr version, validated, ok_bind]
      rfl

namespace Database

theorem commitWrite_eq (db : Database) {checked : CheckedWrite} {write : Write}
    (read : checked.draft.ReadFrom write db.store)
    (passed : checked.draft.check db.settings db.store = .ok checked) :
    ((db.commitWrite checked).1.store, (db.commitWrite checked).2) =
      checked.commit db.settings db.store (db.ids db.drawn)
        (db.clock db.ticks) := by
  by_cases created : checked.draft.goal = .create
  · simp [commitWrite, created, drawId, tick]
  · have same : checked.result db.settings db.store "" (db.clock db.ticks) =
        checked.result db.settings db.store (db.ids db.drawn)
          (db.clock db.ticks) := by
      have validate := CheckedWrite.recheck_eq_validate read (.refl db.store)
        passed (.refl db.store)
      rw [CheckedWrite.result_eq validate, CheckedWrite.result_eq validate,
        Draft.result, Draft.result]
      cases target : checked.draft.goal.id? with
      | none => exact absurd (Goal.eq_create_of_id?_eq_none target) created
      | some id => rfl
    simp [commitWrite, created, tick, CheckedWrite.commit, same]

theorem runWrite_of_result (db : Database) {write : Write} {draft : Draft}
    (read : draft.ReadFrom write db.store) {record : Record}
    (passed : draft.result db.settings db.store (db.ids db.drawn)
      (db.clock db.ticks) = .ok record) :
    ((db.runWrite write).1.store, (db.runWrite write).2) =
      ((db.store.put record).commit, .ok record) := by
  obtain ⟨checked, rfl, sound⟩ := read.check_of_result passed
  have prepared : write.prepare db.settings db.store = .ok checked :=
    bind_eq_ok_iff.mpr
      ⟨checked.draft, (Write.read_eq_ok_iff ..).mpr read, sound⟩
  have validate := CheckedWrite.recheck_eq_validate read (.refl db.store) sound
    (.refl db.store)
  rw [runWrite, prepared]
  simp only
  rw [db.commitWrite_eq read sound, CheckedWrite.commit,
    CheckedWrite.result_eq validate, passed]

theorem result_of_runWrite (db : Database) {write : Write} {record : Record}
    (done : (db.runWrite write).2 = .ok record) :
    ∃ draft : Draft, draft.ReadFrom write db.store ∧
      draft.result db.settings db.store (db.ids db.drawn) (db.clock db.ticks) =
        .ok record := by
  rw [runWrite] at done
  cases prepared : write.prepare db.settings db.store with
  | error error => simp [prepared] at done
  | ok checked =>
      rw [prepared] at done
      obtain ⟨draft, read, passed⟩ := bind_eq_ok_iff.mp prepared
      rw [Write.read_eq_ok_iff] at read
      obtain ⟨rfl, -⟩ := (Draft.check_eq_ok_iff ..).mp passed
      have validate := CheckedWrite.recheck_eq_validate read (.refl db.store)
        passed (.refl db.store)
      have committed := congrArg Prod.snd (db.commitWrite_eq read passed)
      rw [CheckedWrite.commit, CheckedWrite.result_eq validate,
        done] at committed
      refine ⟨checked.draft, read, ?_⟩
      cases outcome : checked.draft.result db.settings db.store
        (db.ids db.drawn) (db.clock db.ticks) with
      | error error => simp [outcome] at committed
      | ok written =>
          rw [outcome] at committed
          exact committed.symm

end Database

namespace Workload

variable {load : Workload} {i : Nat} {store after : Store}

def Matches (load : Workload) (i : Nat) (store after : Store) : Verdict → Prop
  | .ok reply => load.atomically i store = (after, .ok reply)
  | .error _ => ∃ error, (load.atomically i store).2 = .error error

theorem Matches.of_eq {verdict : Verdict}
    (same : load.atomically i store = (after, verdict)) :
    load.Matches i store after verdict := by
  cases verdict with
  | ok reply => exact same
  | error error => exact ⟨error, by rw [same]⟩

theorem atomically_write {write : Write}
    (asked : load.request i = .write write) :
    load.atomically i store = (((load.database i store).runWrite write).1.store,
      ((load.database i store).runWrite write).2.map .record) := by
  rw [atomically, asked]
  rfl

theorem atomically_delete {deletion : Deletion}
    (asked : load.request i = .delete deletion) :
    load.atomically i store = ((deletion.run store (load.time i)).1,
      (deletion.run store (load.time i)).2.map .deleted) := by
  rw [atomically, asked]
  rfl

theorem atomically_restore {restoration : Restoration}
    (asked : load.request i = .restore restoration) :
    load.atomically i store = ((restoration.run store (load.time i)).1,
      (restoration.run store (load.time i)).2.map .record) := by
  rw [atomically, asked]
  rfl

theorem error_of_write {write : Write} (asked : load.request i = .write write)
    (refused : ∀ draft : Draft, draft.ReadFrom write store →
      ∀ record, draft.result load.settings store (load.fresh i) (load.time i) ≠
        .ok record) :
    ∃ error, (load.atomically i store).2 = .error error := by
  rw [atomically_write asked]
  cases done : ((load.database i store).runWrite write).2 with
  | error error => exact ⟨error, rfl⟩
  | ok record =>
      obtain ⟨draft, read, passed⟩ :=
        (load.database i store).result_of_runWrite done
      exact absurd passed (refused draft read record)

theorem prepare_of_draft {write : Write} (settings : Settings)
    {error : StoreError} (refused : write.draft store = .error error) :
    write.prepare settings store = .error error := by
  rw [Write.draft] at refused
  rw [Write.prepare]
  cases read : write.read store with
  | error other =>
      rw [read, error_bind] at refused
      cases refused
      rfl
  | ok draft =>
      rw [read, ok_bind] at refused
      rw [ok_bind, Draft.check]
      cases valid : draft.attributes with
      | error other =>
          rw [valid, error_bind] at refused
          cases refused
          rfl
      | ok attributes =>
          rw [valid, ok_bind] at refused
          cases refused

variable {verdict : Verdict}

theorem atomically_of_start
    (done : load.start i store = (after, .finished verdict)) :
    load.atomically i store = (after, verdict) := by
  rw [start] at done
  cases asked : load.request i with
  | write write =>
      rw [asked] at done
      rw [atomically_write asked, Database.runWrite]
      cases admitted : write.draft store with
      | ok draft => simp [admitted, proceed] at done
      | error error =>
          have refused := prepare_of_draft load.settings admitted
          simp only [admitted, proceed] at done
          cases done
          simp [database, refused, Except.map]
  | delete deletion =>
      rw [asked] at done
      rw [atomically_delete asked, Deletion.run]
      cases read : deletion.read store with
      | ok planned => simp [read, proceed] at done
      | error error =>
          simp only [read, proceed] at done
          cases done
          rfl
  | restore restoration =>
      rw [asked] at done
      rw [atomically_restore asked, Restoration.run]
      cases read : restoration.read store with
      | error error =>
          simp only [read, proceed] at done
          cases done
          rfl
      | ok planned =>
          cases planned with
          | checked sought epoch => simp [read, proceed] at done
          | alreadyLive record =>
              simp only [read, proceed] at done
              cases done
              rfl
  | reload schema =>
      rw [asked] at done
      rw [atomically, asked]
      cases done
      rfl

variable {write : Write} {seen : Store}

theorem error_of_check {draft : Draft} (asked : load.request i = .write write)
    (read : draft.ReadFrom write seen) (evolves : seen.Evolves store)
    {error : StoreError}
    (refused : draft.check load.settings store = .error error) :
    ∃ error, (load.atomically i store).2 = .error error := by
  refine error_of_write asked ?_
  intro other again record succeeds
  obtain ⟨checked, -, sound⟩ := again.check_of_result succeeds
  obtain ⟨-, valid, sound⟩ := (Draft.check_eq_ok_iff ..).mp sound
  obtain rfl := read.unique again evolves
  have passed : draft.check load.settings store =
      .ok ⟨draft, checked.attributes⟩ :=
    (Draft.check_eq_ok_iff ..).mpr ⟨rfl, valid, sound⟩
  rw [passed] at refused
  cases refused

theorem matches_result {draft : Draft} (asked : load.request i = .write write)
    (read : draft.ReadFrom write seen) (evolves : seen.Evolves store) :
    match draft.result load.settings store (load.fresh i) (load.time i) with
    | .ok record => load.atomically i store =
      ((store.put record).commit, .ok (.record record))
    | .error _ => ∃ error, (load.atomically i store).2 = .error error := by
  cases outcome : draft.result load.settings store (load.fresh i)
    (load.time i) with
  | error error =>
      refine error_of_write asked ?_
      intro other again record succeeds
      obtain rfl := read.unique again evolves
      rw [show draft.result _ _ _ _ = .ok record from succeeds] at outcome
      cases outcome
  | ok record =>
      have unchanged : ∀ id, draft.goal.id? = some id →
          ∃ record, store.live? draft.entity id = some record ∧
            draft.expected = some record.version := by
        intro id existing
        obtain ⟨-, -, ⟨new, -⟩ | ⟨own, old, same, live, version, -⟩⟩ :=
          Draft.cases_of_result outcome
        · rw [existing] at new
          cases new
        · obtain rfl := Option.some.inj (existing.symm.trans same)
          exact ⟨old, live, version⟩
      have once := (load.database i store).runWrite_of_result
        (read.again evolves unchanged) outcome
      obtain ⟨left, reply⟩ := Prod.mk.inj once
      rw [atomically_write asked, left, reply]
      rfl

theorem matches_advance {stage : Stage}
    (sound : stage.Sound load Store.Evolves i store)
    (underway : stage.isFinished = false)
    (done : load.advance i store stage = (after, .finished verdict)) :
    load.Matches i store after verdict := by
  cases stage with
  | finished verdict => cases underway
  | submitted => exact .of_eq (atomically_of_start done)
  | drafted draft =>
      obtain ⟨write, seen, asked, read, evolves⟩ := sound
      obtain ⟨read, -⟩ := (Write.draft_eq_ok_iff ..).mp read
      cases passed : draft.check load.settings store with
      | ok checked => simp [advance, passed, proceed] at done
      | error error =>
          simp only [advance, passed, proceed] at done
          cases done
          exact error_of_check asked read evolves passed
  | checked ready =>
      obtain ⟨write, seen, middle, asked, read, before, passed, since⟩ := sound
      obtain ⟨read, -⟩ := (Write.draft_eq_ok_iff ..).mp read
      have result := ready.result_eq (CheckedWrite.recheck_eq_validate read
        before.precedes passed since.precedes) (load.fresh i) (load.time i)
      have once := matches_result asked read (before.trans since)
      simp only [advance, CheckedWrite.commit, result] at done
      cases outcome : ready.draft.result load.settings store (load.fresh i)
        (load.time i) with
      | error error =>
          rw [outcome] at done once
          cases done
          exact once
      | ok record =>
          rw [outcome] at done once
          cases done
          exact once
  | planned plan =>
      obtain ⟨deletion, seen, asked, read, evolves⟩ := sound
      refine .of_eq ?_
      rw [atomically_delete asked,
        ← PlannedDeletion.commit_eq_run read evolves.precedes]
      cases done
      rfl
  | vetted sought epoch =>
      obtain ⟨restoration, seen, asked, read, evolves⟩ := sound
      refine .of_eq ?_
      rw [atomically_restore asked,
        ← PlannedRestoration.commit_eq_run read evolves.precedes]
      cases done
      rfl

theorem advance_alone (load : Workload) (i : Nat) (store : Store) :
    let first := load.advance i store .submitted
    let second := load.advance i first.1 first.2
    load.advance i second.1 second.2 =
      ((load.atomically i store).1, .finished (load.atomically i store).2) := by
  intro first second
  have ended : ∀ verdict, (load.start i store).2 = .finished verdict →
      load.advance i second.1 second.2 = ((load.atomically i store).1,
        .finished (load.atomically i store).2) := by
    intro verdict done
    simp only [first, second, advance, done,
      atomically_of_start (Prod.ext rfl done)]
  cases asked : load.request i with
  | write write =>
      cases admitted : write.draft store with
      | error error =>
          exact ended (.error error)
            (by simp only [start, asked, admitted, proceed])
      | ok draft =>
          obtain ⟨read, -⟩ := (Write.draft_eq_ok_iff ..).mp admitted
          have prepared : write.prepare load.settings store =
              draft.check load.settings store := by
            rw [Write.prepare, (Write.read_eq_ok_iff ..).mpr read, ok_bind]
          simp only [first, second, advance, start, asked, admitted, proceed]
          rw [atomically_write asked]
          cases passed : draft.check load.settings store with
          | error error =>
              rw [passed] at prepared
              simp [Database.runWrite, database, prepared, Except.map]
          | ok checked =>
              obtain ⟨rfl, -⟩ := (Draft.check_eq_ok_iff ..).mp passed
              have once : (load.database i store).runWrite write =
                  (load.database i store).commitWrite checked := by
                simp only [Database.runWrite, database, prepared, passed]
              obtain ⟨after, record⟩ :=
                Prod.mk.inj ((load.database i store).commitWrite_eq read passed)
              rw [once, after, record]
              rfl
  | delete deletion =>
      cases read : deletion.read store with
      | error error =>
          exact ended (.error error)
            (by simp only [start, asked, read, proceed])
      | ok planned =>
          have committed :=
            planned.commit_eq_run read (.refl store) (load.time i)
          simp only [first, second, advance, start, asked, read, proceed,
            committed]
          rw [atomically_delete asked]
  | restore restoration =>
      cases read : restoration.read store with
      | error error =>
          exact ended (.error error)
            (by simp only [start, asked, read, proceed])
      | ok planned =>
          cases planned with
          | alreadyLive record =>
              exact ended (.ok (.record record))
                (by simp only [start, asked, read, proceed])
          | checked sought epoch =>
              have committed := PlannedRestoration.commit_eq_run read
                (.refl store) (load.time i)
              simp only [first, second, advance, start, asked, read, proceed,
                committed]
              rw [atomically_restore asked]
  | reload schema => exact ended _ (by rw [start, asked])

end Workload

end RecordStore
