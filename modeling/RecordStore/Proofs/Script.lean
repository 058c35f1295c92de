import RecordStore.Proofs.Concurrency.Atomic
import RecordStore.Script

namespace RecordStore

/-! Scripts, one operation after another. An operation that fails leaves nothing
behind but the times at which it looked at the clock, and what operations do
depends on a clock only by the times that they take from it. -/

theorem CheckedWrite.schema_commit (checked : CheckedWrite)
    (settings : Settings) (store : Store) (fresh : String) (now : Instant) :
    (checked.commit settings store fresh now).1.schema = store.schema := by
  rw [commit]
  split <;> rfl

namespace Database

theorem commitWrite_succeeds (db : Database) {write : Write}
    {checked : CheckedWrite}
    (prepared : write.prepare db.settings db.store = .ok checked) :
    ∃ record, (db.commitWrite checked).2 = .ok record := by
  obtain ⟨draft, read, passed⟩ := bind_eq_ok_iff.mp prepared
  rw [Write.read_eq_ok_iff] at read
  obtain ⟨rfl, -⟩ := (Draft.check_eq_ok_iff ..).mp passed
  obtain ⟨record, result⟩ :=
    read.result_of_check passed (db.ids db.drawn) (db.clock db.ticks)
  have validate := CheckedWrite.recheck_eq_validate read (.refl db.store) passed
    (.refl db.store)
  have committed := congrArg Prod.snd (db.commitWrite_eq read passed)
  rw [CheckedWrite.commit, CheckedWrite.result_eq validate, result] at committed
  exact ⟨record, committed⟩

def withClock (db : Database) (clock : Nat → Instant) (ticks : Nat) :
    Database :=
  { db with clock, ticks }

@[simp] theorem withClock_self (db : Database) :
    db.withClock db.clock db.ticks = db := rfl

@[simp] theorem withClock_withClock (db : Database)
    (clock other : Nat → Instant) (ticks n : Nat) :
    (db.withClock clock ticks).withClock other n = db.withClock other n := rfl

/-- What is done with a database keeps its schema and its clock, on which it
depends by the times that are taken from it and by nothing else; and an error
changes nothing but how many they are. -/
structure IsOrderly {α : Type} (run : Database → Answer α) : Prop where
  schema : ∀ db, (run db).1.store.schema = db.store.schema
  clock : ∀ db, (run db).1.clock = db.clock
  ticks_le : ∀ db, db.ticks ≤ (run db).1.ticks
  withClock :
    ∀ (db : Database) (clock : Nat → Instant) (ticks : Nat),
      (∀ n, db.ticks + n < (run db).1.ticks →
        clock (ticks + n) = db.clock (db.ticks + n)) →
        run (db.withClock clock ticks) =
          ((run db).1.withClock clock (ticks + ((run db).1.ticks - db.ticks)),
            (run db).2)
  failed : ∀ db error, (run db).2 = .error error →
    (run db).1 = db.withClock db.clock (run db).1.ticks

namespace IsOrderly

variable {α β : Type} {run : Database → Answer α}

theorem of_chosen {other : Database → Answer α}
    (chosen : ∀ db : Database, ∃ run, IsOrderly run ∧
      ∀ clock ticks, other (db.withClock clock ticks) =
        run (db.withClock clock ticks)) :
    IsOrderly other where
  schema := by
    intro db
    obtain ⟨run, orderly, same⟩ := chosen db
    exact same db.clock db.ticks ▸ orderly.schema db
  clock := by
    intro db
    obtain ⟨run, orderly, same⟩ := chosen db
    exact same db.clock db.ticks ▸ orderly.clock db
  ticks_le := by
    intro db
    obtain ⟨run, orderly, same⟩ := chosen db
    exact same db.clock db.ticks ▸ orderly.ticks_le db
  withClock := by
    intro db clock ticks
    obtain ⟨run, orderly, same⟩ := chosen db
    rw [same, show other db = run db from same db.clock db.ticks]
    exact orderly.withClock db clock ticks
  failed := by
    intro db
    obtain ⟨run, orderly, same⟩ := chosen db
    exact same db.clock db.ticks ▸ orderly.failed db

theorem of_eq {other : Database → Answer α} (orderly : IsOrderly run)
    (same : ∀ db, other db = run db) : IsOrderly other :=
  .of_chosen fun _ => ⟨run, orderly, fun _ _ => same _⟩

theorem inspection (look : Database → Except StoreError α)
    (timeless : ∀ db clock ticks, look (db.withClock clock ticks) = look db) :
    IsOrderly fun db => (db, look db) where
  schema _ := rfl
  clock _ := rfl
  ticks_le _ := Nat.le_refl _
  withClock := by
    intro db clock ticks times
    simp [timeless]
  failed _ _ _ := rfl

theorem map (orderly : IsOrderly run) (f : α → β) :
    IsOrderly fun db => ((run db).1, (run db).2.map f) where
  schema := orderly.schema
  clock := orderly.clock
  ticks_le := orderly.ticks_le
  withClock := by
    intro db clock ticks times
    simp only [orderly.withClock db clock ticks times]
  failed := by
    intro db error failed
    cases result : (run db).2 with
    | error other => exact orderly.failed db other result
    | ok a =>
        rw [result] at failed
        cases failed

theorem error (error : StoreError) :
    IsOrderly fun db => (db, (.error error : Except StoreError α)) :=
  inspection (fun _ => .error error) fun _ _ _ => rfl

theorem withEntity {run : String → Database → Answer α}
    (orderly : ∀ fullName, IsOrderly (run fullName)) (entity : String) :
    IsOrderly fun db =>
      db.withEntity entity fun fullName => run fullName db := by
  refine .of_chosen fun db => ?_
  have same : ∀ clock ticks, (db.withClock clock ticks).resolve entity =
      db.resolve entity := by
    intro clock ticks
    simp only [resolve, Database.withClock]
  cases name : db.resolve entity with
  | error error =>
      exact ⟨_, .error error,
        fun clock ticks => by simp only [Database.withEntity, same, name]⟩
  | ok fullName =>
      exact ⟨_, orderly fullName,
        fun clock ticks => by simp only [Database.withEntity, same, name]⟩

theorem once {act : Store → Instant → Store × Except StoreError α}
    (keeps : ∀ store now, (act store now).1.schema = store.schema)
    (spares : ∀ (store : Store) (now : Instant),
      store.IsSparedBy (act store now)) :
    IsOrderly fun db => ({ db with
      store := (act db.store (db.clock db.ticks)).1, ticks := db.ticks + 1 },
      (act db.store (db.clock db.ticks)).2) where
  schema db := keeps db.store (db.clock db.ticks)
  clock _ := rfl
  ticks_le _ := Nat.le_succ _
  withClock := by
    intro db clock ticks times
    have now := times 0 (Nat.lt_succ_self _)
    simp only [Nat.add_zero] at now
    simp [Database.withClock, now]
  failed := by
    intro db error failed
    simp only [spares _ _ error failed]
    rfl

end IsOrderly

theorem commitWrite_eq_once (db : Database) (checked : CheckedWrite) :
    db.commitWrite checked =
      let isNew := checked.draft.goal = .create
      let outcome := checked.commit db.settings db.store
        (if isNew then db.ids db.drawn else "") (db.clock db.ticks)
      ({ db with
        store := outcome.1
        drawn := if isNew then db.drawn + 1 else db.drawn
        ticks := db.ticks + 1 }, outcome.2) := by
  by_cases isNew : checked.draft.goal = .create <;>
    simp [commitWrite, isNew, drawId, tick]

theorem runWrite_isOrderly (write : Write) :
    IsOrderly fun db => db.runWrite write where
  schema := by
    intro db
    cases prepared : write.prepare db.settings db.store with
    | error error => simp [runWrite, prepared]
    | ok checked =>
        simp [runWrite, prepared, commitWrite_eq_once, checked.schema_commit]
  clock := by
    intro db
    cases prepared : write.prepare db.settings db.store with
    | error error => simp [runWrite, prepared]
    | ok checked => simp [runWrite, prepared, commitWrite_eq_once]
  ticks_le := by
    intro db
    cases prepared : write.prepare db.settings db.store with
    | error error => simp [runWrite, prepared]
    | ok checked => simp [runWrite, prepared, commitWrite_eq_once]
  withClock := by
    intro db clock ticks times
    have same : write.prepare (db.withClock clock ticks).settings
        (db.withClock clock ticks).store =
        write.prepare db.settings db.store :=
      rfl
    cases prepared : write.prepare db.settings db.store with
    | error error => simp [runWrite, same, prepared]
    | ok checked =>
        simp only [runWrite, prepared, commitWrite_eq_once] at times
        have now := times 0 (Nat.lt_succ_self _)
        simp only [Nat.add_zero] at now
        simp [runWrite, prepared, commitWrite_eq_once, withClock, now]
  failed := by
    intro db error failed
    simp only [runWrite] at failed ⊢
    cases prepared : write.prepare db.settings db.store with
    | error other => rfl
    | ok checked =>
        obtain ⟨record, succeeds⟩ := db.commitWrite_succeeds prepared
        rw [prepared] at failed
        simp only [succeeds] at failed
        cases failed

theorem runDeletion_isOrderly (deletion : Deletion) :
    IsOrderly fun db => db.runDeletion deletion :=
  .once (fun store now =>
    (deletion.run_yields {} "" now store).schema_kept (by simp))
    fun store now => (deletion.run_yields {} "" now store).spares

theorem runRestoration_isOrderly (restoration : Restoration) :
    IsOrderly fun db => db.runRestoration restoration :=
  .once (fun store now =>
    (restoration.run_yields {} "" now store).schema_kept (by simp))
    fun store now => (restoration.run_yields {} "" now store).spares

end Database

open Database (IsOrderly)

theorem Operation.inspect_withClock (operation : Operation) (db : Database)
    (clock : Nat → Instant) (ticks : Nat) :
    operation.inspect (db.withClock clock ticks) = operation.inspect db := by
  simp only [inspect, Database.get, Database.list, Database.count,
    Database.lookup, Database.incomingReferences, Database.definition,
    Database.resolve, Database.withClock]

theorem Operation.withId_isOrderly (operation : Operation) {α : Type}
    (finding : α → Finding) {run : String → Database → Answer α}
    (orderly : ∀ id, IsOrderly (run id)) :
    IsOrderly fun db => operation.withId db finding fun id => run id db := by
  simp only [withId]
  cases operation.requireId with
  | error error => exact .error error
  | ok id => exact (orderly id).map finding

theorem Operation.run_isOrderly (operation : Operation) :
    IsOrderly operation.run := by
  have writes : ∀ goal, IsOrderly fun db =>
      db.withEntity operation.entity fun fullName =>
        db.runWrite ⟨fullName, goal, operation.payload⟩ :=
    fun goal =>
      .withEntity (fun fullName =>
        Database.runWrite_isOrderly ⟨fullName, goal, operation.payload⟩) _
  have inspects : IsOrderly fun db => (db, operation.inspect db) :=
    .inspection operation.inspect operation.inspect_withClock
  cases kind : operation.kind with
  | create =>
      refine ((writes .create).map .record).of_eq fun db => ?_
      simp only [run, kind, Database.create]
  | replace =>
      refine (operation.withId_isOrderly .record fun id =>
        writes (.replace id operation.version)).of_eq fun db => ?_
      simp only [run, kind, Database.replace]
  | patch =>
      refine (operation.withId_isOrderly .record fun id =>
        writes (.patch id operation.version)).of_eq fun db => ?_
      simp only [run, kind, Database.patch]
  | delete =>
      refine (operation.withId_isOrderly .deleted fun id =>
        .withEntity (fun fullName =>
          Database.runDeletion_isOrderly ⟨fullName, id, operation.version⟩)
          operation.entity).of_eq fun db => ?_
      simp only [run, kind, Database.delete]
  | restore =>
      refine (operation.withId_isOrderly .record fun id =>
        .withEntity (fun fullName =>
          Database.runRestoration_isOrderly ⟨fullName, id⟩)
          operation.entity).of_eq fun db => ?_
      simp only [run, kind, Database.restore]
  | get | list | count | lookup | refs =>
      refine inspects.of_eq fun db => ?_
      simp only [run, kind]

theorem runScript_cons (db : Database) (operation : Operation)
    (rest : List Operation) :
    runScript db (operation :: rest) = ((runScript (operation.run db).1 rest).1,
      ⟨operation.kind, (operation.run db).2⟩ ::
        (runScript (operation.run db).1 rest).2) :=
  rfl

theorem runScript_append (db : Database) (first second : List Operation) :
    runScript db (first ++ second) =
      ((runScript (runScript db first).1 second).1,
        (runScript db first).2 ++
          (runScript (runScript db first).1 second).2) := by
  induction first generalizing db with
  | nil => rfl
  | cons operation rest ih =>
      rw [List.cons_append, runScript_cons, ih, runScript_cons]; rfl

theorem length_runScript (db : Database) (operations : List Operation) :
    (runScript db operations).2.length = operations.length := by
  induction operations generalizing db with
  | nil => rfl
  | cons operation rest ih =>
      rw [runScript_cons, List.length_cons, ih, List.length_cons]

theorem schema_runScript (db : Database) (operations : List Operation) :
    (runScript db operations).1.store.schema = db.store.schema := by
  induction operations generalizing db with
  | nil => rfl
  | cons operation rest ih =>
      rw [runScript_cons, ih, operation.run_isOrderly.schema]

theorem clock_runScript (db : Database) (operations : List Operation) :
    (runScript db operations).1.clock = db.clock := by
  induction operations generalizing db with
  | nil => rfl
  | cons operation rest ih =>
      rw [runScript_cons, ih, operation.run_isOrderly.clock]

theorem ticks_le_runScript (db : Database) (operations : List Operation) :
    db.ticks ≤ (runScript db operations).1.ticks := by
  induction operations generalizing db with
  | nil => exact Nat.le_refl _
  | cons operation rest ih =>
      exact Nat.le_trans (operation.run_isOrderly.ticks_le db) (ih _)

theorem eraseIdx_runScript (db : Database) (before after : List Operation)
    (operation : Operation) :
    (runScript db (before ++ operation :: after)).2.eraseIdx before.length =
      (runScript db before).2 ++
        (runScript (operation.run (runScript db before).1).1 after).2 := by
  rw [runScript_append, runScript_cons, ← length_runScript db before,
    List.eraseIdx_append_of_length_le (Nat.le_refl _), Nat.sub_self,
    List.eraseIdx_cons_zero]

theorem runScript_withClock (db : Database) (operations : List Operation)
    (clock : Nat → Instant) (ticks : Nat)
    (times : ∀ n, db.ticks + n < (runScript db operations).1.ticks →
      clock (ticks + n) = db.clock (db.ticks + n)) :
    runScript (db.withClock clock ticks) operations =
      ((runScript db operations).1.withClock clock
        (ticks + ((runScript db operations).1.ticks - db.ticks)),
        (runScript db operations).2) := by
  induction operations generalizing db ticks with
  | nil => simp [runScript]
  | cons operation rest ih =>
      have orderly := operation.run_isOrderly
      have first := orderly.ticks_le db
      have others := ticks_le_runScript (operation.run db).1 rest
      simp only [runScript_cons] at times
      have here := orderly.withClock db clock ticks fun n before =>
        times n (Nat.lt_of_lt_of_le before others)
      have onward := ih (operation.run db).1
        (ticks + ((operation.run db).1.ticks - db.ticks)) (by
          intro n before
          have later :=
            times ((operation.run db).1.ticks - db.ticks + n) (by omega)
          rw [orderly.clock, Nat.add_assoc, later]
          congr 1
          omega)
      have total : ticks + ((operation.run db).1.ticks - db.ticks) +
          ((runScript (operation.run db).1 rest).1.ticks -
            (operation.run db).1.ticks) =
          ticks + ((runScript (operation.run db).1 rest).1.ticks -
            db.ticks) := by omega
      simp only [runScript_cons, here, onward, total]

theorem getElem?_runScript (db : Database) (operations : List Operation)
    (k : Nat) :
    (runScript db operations).2[k]? = operations[k]?.map fun operation =>
      ⟨operation.kind,
        (operation.run (runScript db (operations.take k)).1).2⟩ := by
  induction operations generalizing db k with
  | nil => rfl
  | cons operation rest ih =>
      cases k with
      | zero =>
          rw [runScript_cons]
          rfl
      | succ k =>
          rw [runScript_cons, List.getElem?_cons_succ, ih,
            List.getElem?_cons_succ, List.take_succ_cons, runScript_cons]

theorem split_of_failed {db : Database} {operations : List Operation} {k : Nat}
    {outcome : Outcome} (found : (runScript db operations).2[k]? = some outcome)
    (failed : outcome.ok = false) :
    ∃ before operation after error, operations = before ++ operation :: after ∧
      before.length = k ∧
      (operation.run (runScript db before).1).2 = .error error := by
  rw [getElem?_runScript] at found
  obtain ⟨operation, listed, rfl⟩ := Option.map_eq_some_iff.mp found
  obtain ⟨inside, rfl⟩ := List.getElem?_eq_some_iff.mp listed
  cases result : (operations[k].run (runScript db (operations.take k)).1).2 with
  | ok finding => simp [Outcome.ok, result, Except.toBool] at failed
  | error error =>
      refine ⟨operations.take k, operations[k], operations.drop (k + 1), error,
        ?_, ?_, result⟩
      · rw [List.getElem_cons_drop, List.take_append_drop]
      · exact List.length_take_of_le (Nat.le_of_lt inside)

/-- Without an operation that has failed, the others of a script have the same
outcomes, as long as they take the same times from the clock. -/
theorem runScript_without_failed (db : Database) (before after : List Operation)
    (operation : Operation) {error : StoreError}
    (failed : (operation.run (runScript db before).1).2 = .error error)
    (clock : Nat → Instant)
    (earlier : ∀ n < (runScript db before).1.ticks, clock n = db.clock n)
    (later : ∀ n, clock ((runScript db before).1.ticks + n) =
      db.clock ((operation.run (runScript db before).1).1.ticks + n)) :
    (runScript (db.withClock clock db.ticks) (before ++ after)).2 =
      (runScript db (before ++ operation :: after)).2.eraseIdx
        before.length := by
  have reached := ticks_le_runScript db before
  have start :=
    runScript_withClock db before clock db.ticks fun n below => earlier _ below
  rw [Nat.add_sub_of_le reached] at start
  have orderly := operation.run_isOrderly
  have spared : (operation.run (runScript db before).1).1.withClock clock
      (runScript db before).1.ticks =
      (runScript db before).1.withClock clock
        (runScript db before).1.ticks := by
    rw [orderly.failed _ error failed, Database.withClock_withClock]
  have onward :=
    runScript_withClock (operation.run (runScript db before).1).1 after clock
      (runScript db before).1.ticks fun n _ => by
        rw [later, orderly.clock, clock_runScript]
  rw [spared] at onward
  rw [eraseIdx_runScript, runScript_append, start, onward]

end RecordStore
