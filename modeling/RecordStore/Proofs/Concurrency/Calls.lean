import RecordStore.Proofs.Concurrency.Atomic
import RecordStore.Script

namespace RecordStore

/-! Calls of clients at work on one store. A call names its entity as it likes:
its first look at the store finds the full name, under which it goes on. One
that is answered with an error has left the store alone, with every look that it
took. -/

inductive Mutation where
  | create (payload : Payload)
  | replace (id : String) (expected : Option UInt64) (payload : Payload)
  | patch (id : String) (expected : Option UInt64) (payload : Payload)
  | delete (id : String) (expected : Option UInt64)
  | restore (id : String)

def Mutation.request (entity : String) : Mutation → Request
  | .create payload => .write ⟨entity, .create, payload⟩
  | .replace id expected payload =>
    .write ⟨entity, .replace id expected, payload⟩
  | .patch id expected payload => .write ⟨entity, .patch id expected, payload⟩
  | .delete id expected => .delete ⟨entity, id, expected⟩
  | .restore id => .restore ⟨entity, id⟩

def Mutation.perform (db : Database) (entity : String) :
    Mutation → Store × Verdict
  | .create payload => Workload.answer .record (db.create entity payload)
  | .replace id expected payload =>
    Workload.answer .record (db.replace entity id expected payload)
  | .patch id expected payload =>
    Workload.answer .record (db.patch entity id expected payload)
  | .delete id expected =>
    Workload.answer .deleted (db.delete entity id expected)
  | .restore id => Workload.answer .record (db.restore entity id)

inductive Inspection where
  | get (id : String)
  | list (query : Query)
  | count (filter : Filter)
  | lookup (field : Option String) (text : String) (limit : Option Nat)
  | references (id : String)

namespace Inspection

/-- What is found by one look at the store, under the full name of the
entity. -/
def look (settings : Settings) (store : Store) (entity : String) :
    Inspection → Except StoreError Finding
  | .get id => do pure (.record (← store.liveRecord entity id))
  | .list query => do
    pure (.page (store.page settings (← store.entity entity) query))
  | .count filter => do
    pure (.total (store.count (← store.entity entity) filter))
  | .lookup field text limit => do
    pure (.items
      (store.lookup settings (← store.entity entity) field text limit))
  | .references id => do
    let _ ← store.storedRecord entity id
    pure (.references (store.referencesTo entity id))

def perform (db : Database) (entity : String) :
    Inspection → Except StoreError Finding
  | .get id => do pure (.record (← db.get entity id))
  | .list query => do pure (.page (← db.list entity query))
  | .count filter => do pure (.total (← db.count entity filter))
  | .lookup field text limit => do
    pure (.items (← db.lookup entity field text limit))
  | .references id => do pure (.references (← db.incomingReferences entity id))

theorem perform_eq (db : Database) (entity : String) (inspection : Inspection) :
    inspection.perform db entity = (do
      let fullName ← db.resolve entity
      inspection.look db.settings db.store fullName) := by
  cases inspection with
  | get | list | count | lookup | references =>
      simp only [perform, look, Database.get, Database.list, Database.count,
        Database.lookup, Database.incomingReferences, Database.definition,
        bind_assoc, pure_bind]

end Inspection

inductive Call where
  | mutate (entity : String) (mutation : Mutation)
  | inspect (entity : String) (inspection : Inspection)
  | reload (schema : Schema)

inductive Response where
  | reply (reply : Reply)
  | finding (finding : Finding)

/-- What is done by a call, and how it is answered, if nothing comes between. -/
def Call.perform (db : Database) : Call → Store × Except StoreError Response
  | .mutate entity mutation =>
    (mutation.perform db entity).map id (·.map .reply)
  | .inspect entity inspection =>
    (db.store, (inspection.perform db entity).map .finding)
  | .reload schema =>
    (Workload.answer .version (db.reload schema)).map id (·.map .reply)

inductive Progression where
  | called
  | named (entity : String)
  | underway (request : Request) (stage : Stage)
  | answered (response : Except StoreError Response)

def Progression.ofStage (request : Request) : Stage → Progression
  | .finished verdict => .answered (verdict.map .reply)
  | stage => .underway request stage

/-- Calls without end, each with the id that it draws if it creates a record and
the time at which it commits. Ids may come again. -/
structure Session where
  settings : Settings
  call : Nat → Call
  fresh : Nat → String
  time : Nat → Instant

structure Service where
  store : Store
  progress : Nat → Progression

def Service.initial (store : Store) : Service :=
  ⟨store, fun _ => .called⟩

/-- One request over and over. The first has the given id; those of the others
are longer. -/
def Workload.repeating (settings : Settings) (request : Request) (id : String)
    (time : Instant) : Workload where
  settings := settings
  request := fun _ => request
  fresh := fun i => id ++ String.ofList (List.replicate i 'x')
  time := fun _ => time
  fresh_injective := by
    intro i j same
    have lengths := congrArg String.length same
    simpa using lengths

namespace Session

variable (session : Session)

def workload (i : Nat) (request : Request) : Workload :=
  .repeating session.settings request (session.fresh i) (session.time i)

def operate (i : Nat) (request : Request) (store : Store) (stage : Stage) :
    Store × Progression :=
  let (store, stage) := (session.workload i request).advance 0 store stage
  (store, .ofStage request stage)

def resolve (store : Store) (entity : String) : Store × Progression :=
  match store.schema.resolve "" entity with
  | some fullName => (store, .named fullName)
  | none => (store, .answered (.error (.unknownEntity entity)))

def advance (i : Nat) (store : Store) : Progression → Store × Progression
  | .called =>
    match session.call i with
    | .mutate entity _ => resolve store entity
    | .inspect entity _ => resolve store entity
    | .reload schema => session.operate i (.reload schema) store .submitted
  | .named fullName =>
    match session.call i with
    | .mutate _ mutation =>
      session.operate i (mutation.request fullName) store .submitted
    | .inspect _ inspection =>
      (store,
        .answered
          ((inspection.look session.settings store fullName).map .finding))
    | .reload schema => session.operate i (.reload schema) store .submitted
  | .underway request stage => session.operate i request store stage
  | .answered response => (store, .answered response)

def step (service : Service) (i : Nat) : Service :=
  let (store, progress) := session.advance i service.store (service.progress i)
  ⟨store, Function.update service.progress i progress⟩

def run (service : Service) (schedule : List Nat) : Service :=
  schedule.foldl session.step service

theorem run_append (service : Service) (first second : List Nat) :
    session.run service (first ++ second) =
      session.run (session.run service first) second :=
  List.foldl_append

theorem run_concat (service : Service) (schedule : List Nat) (i : Nat) :
    session.run service (schedule ++ [i]) =
      session.step (session.run service schedule) i :=
  List.foldl_append

theorem step_store (service : Service) (i : Nat) :
    (session.step service i).store =
      (session.advance i service.store (service.progress i)).1 := rfl

theorem step_progress_self (service : Service) (i : Nat) :
    (session.step service i).progress i =
      (session.advance i service.store (service.progress i)).2 :=
  Function.update_self ..

theorem step_progress_of_ne (service : Service) {i j : Nat} (other : j ≠ i) :
    (session.step service i).progress j = service.progress j :=
  Function.update_of_ne other ..

theorem step_answered (service : Service) {i : Nat}
    {response : Except StoreError Response}
    (done : service.progress i = .answered response) (j : Nat) :
    (session.step service j).progress i = .answered response := by
  by_cases own : i = j
  · subst own
    rw [step_progress_self, done]
    rfl
  · rw [step_progress_of_ne session service own, done]

theorem run_answered (service : Service) {i : Nat}
    {response : Except StoreError Response}
    (done : service.progress i = .answered response) (schedule : List Nat) :
    (session.run service schedule).progress i = .answered response := by
  induction schedule generalizing service with
  | nil => exact done
  | cons j rest ih => exact ih _ (session.step_answered service done j)

end Session

/-! Calls that nothing comes between. -/

namespace Session

variable (session : Session)

def database (i : Nat) (store : Store) : Database where
  store := store
  settings := session.settings
  ids := fun _ => session.fresh i
  clock := fun _ => session.time i

theorem database_workload (i : Nat) (request : Request) (store : Store) :
    (session.workload i request).database 0 store =
      session.database i store := by
  simp [workload, Workload.repeating, Workload.database, database]

theorem advance_ofStage (i : Nat) (request : Request) (store : Store)
    (stage : Stage) :
    session.advance i store (.ofStage request stage) =
      session.operate i request store stage := by
  cases stage <;> rfl

/-- Three phases bring any request to its end. -/
theorem operate_alone (i : Nat) (request : Request) (store : Store) :
    let first := session.operate i request store .submitted
    let second := session.advance i first.1 first.2
    session.advance i second.1 second.2 =
      (((session.workload i request).atomically 0 store).1, .answered
        (((session.workload i request).atomically 0 store).2.map .reply)) := by
  have alone := (session.workload i request).advance_alone 0 store
  intro first second
  simp only [first, second, operate, advance_ofStage] at alone ⊢
  rw [alone]
  rfl

theorem perform_mutation (i : Nat) (store : Store) (entity : String)
    (mutation : Mutation) :
    mutation.perform (session.database i store) entity =
      match store.schema.resolve "" entity with
      | some fullName =>
        (session.workload i (mutation.request fullName)).atomically 0 store
      | none => (store, .error (.unknownEntity entity)) := by
  cases named : store.schema.resolve "" entity with
  | none =>
      cases mutation with
      | create | replace | patch | delete | restore =>
          simp only [Mutation.perform, Database.create, Database.replace,
            Database.patch, Database.delete, Database.restore,
            Database.withEntity, Database.resolve, database, named]
          rfl
  | some fullName =>
      cases mutation with
      | create | replace | patch | delete | restore =>
          simp only [Mutation.perform, Database.create, Database.replace,
            Database.patch, Database.delete, Database.restore,
            Database.withEntity, Database.resolve, database, named,
            Workload.atomically, database_workload]
          rfl

theorem run_alone (service : Service) {i : Nat}
    (untried : service.progress i = .called) :
        let final := session.run service [i, i, i, i]
        final.store =
          ((session.call i).perform (session.database i service.store)).1 ∧
          final.progress i = .answered ((session.call i).perform
            (session.database i service.store)).2 := by
  intro final
  simp only [final, run, List.foldl, step_store, step_progress_self, untried]
  have answers : ∀ response,
      session.advance i service.store (.answered response) =
        (service.store, .answered response) :=
    fun _ => rfl
  cases asked : session.call i with
  | mutate entity mutation =>
      have looks : session.advance i service.store .called =
          resolve service.store entity := by
        simp only [advance, asked]
      rw [Call.perform, perform_mutation, looks, resolve]
      cases named : service.store.schema.resolve "" entity with
      | none => exact ⟨rfl, rfl⟩
      | some fullName =>
          have begins : session.advance i service.store (.named fullName) =
              session.operate i (mutation.request fullName) service.store
                .submitted := by
            simp only [advance, asked]
          have alone :=
            session.operate_alone i (mutation.request fullName) service.store
          simp only [begins, alone]
          exact ⟨rfl, rfl⟩
  | inspect entity inspection =>
      have looks : session.advance i service.store .called =
          resolve service.store entity := by
        simp only [advance, asked]
      rw [Call.perform, Inspection.perform_eq, looks, resolve, Database.resolve,
        database]
      cases named : service.store.schema.resolve "" entity with
      | none => exact ⟨rfl, rfl⟩
      | some fullName =>
          have ends : session.advance i service.store (.named fullName) =
              (service.store,
                .answered
                  ((inspection.look session.settings service.store fullName).map
                    .finding)) := by
            simp only [advance, asked]
          simp only [ends, answers, ok_bind, and_self]
  | reload schema =>
      have begins : session.advance i service.store .called =
          session.operate i (.reload schema) service.store .submitted := by
        simp only [advance, asked]
      have alone := session.operate_alone i (.reload schema) service.store
      simp only [begins, alone, Call.perform,
        ← session.database_workload i (.reload schema)]
      exact ⟨rfl, rfl⟩

end Session

/-! Commits that fail. -/

section spared

variable {store : Store}

theorem CheckedWrite.commit_spares (checked : CheckedWrite)
    (settings : Settings) (fresh : String) (now : Instant) :
    store.IsSparedBy (checked.commit settings store fresh now) := by
  intro error failed
  rw [commit] at failed ⊢
  cases outcome : checked.result settings store fresh now with
  | error other => rfl
  | ok record =>
      rw [outcome] at failed
      cases failed

/-- The plan is one for the target of the deletion. -/
def PlannedDeletion.IsAimed (planned : PlannedDeletion) : Prop :=
  planned.plan.entity = planned.deletion.entity ∧
    planned.plan.id = planned.deletion.id

theorem PlannedDeletion.stored_of_currentPlan {planned : PlannedDeletion}
    (aimed : planned.IsAimed) {plan : DeletePlan}
    (chosen : planned.currentPlan store = .ok plan) :
    (store.record? plan.entity plan.id).isSome := by
  obtain ⟨⟨⟩, found, chosen⟩ := bind_eq_ok_iff.mp chosen
  obtain ⟨target, live⟩ := Deletion.checkTarget_eq_ok found
  have own : plan.entity = planned.deletion.entity ∧
      plan.id = planned.deletion.id := by
    split at chosen
    next unmoved => exact Except.ok.inj chosen ▸ aimed
    next moved =>
        obtain ⟨entity, id, -⟩ := Store.planDelete_fits chosen
        exact ⟨entity, id⟩
  rw [own.1, own.2, Store.record?_of_live? live, Option.isSome_some]

/-- By the time that a cascade begins nothing is left that could fail: the
target has been found in the same look at the store. -/
theorem PlannedDeletion.commit_spares {planned : PlannedDeletion}
    (aimed : planned.IsAimed) (now : Instant) :
    store.IsSparedBy (planned.commit store now) := by
  intro error failed
  rw [commit] at failed ⊢
  cases chosen : planned.currentPlan store with
  | error other => rfl
  | ok plan =>
      obtain ⟨record, applied⟩ :=
        Option.isSome_iff_exists.mp
          (plan.isSome_apply (stored_of_currentPlan aimed chosen) now)
      have whole : plan.apply store now =
          ((plan.apply store now).1, some record) := by rw [← applied]
      simp only [chosen] at failed
      rw [whole] at failed
      cases failed

theorem PlannedRestoration.commit_spares (planned : PlannedRestoration)
    (now : Instant) : store.IsSparedBy (planned.commit store now) := by
  intro error failed
  cases planned with
  | alreadyLive record => rfl
  | checked restoration epoch =>
      simp only [commit] at failed ⊢
      cases found : restoration.current epoch store with
      | error other => rfl
      | ok record =>
          simp only [found] at failed
          split at failed <;> cases failed

theorem Database.reload_spares (db : Database) (schema : Schema) :
    db.store.IsSparedBy ((db.reload schema).1.store, (db.reload schema).2) := by
  intro error failed
  simp only [reload] at failed ⊢
  cases accepted : checkSchema schema with
  | error other => rfl
  | ok passed =>
      rw [accepted] at failed
      cases failed

end spared

def Stage.IsAimed : Stage → Prop
  | .planned plan => plan.IsAimed
  | _ => True

namespace Workload

variable (load : Workload) (i : Nat) (store : Store)

theorem advance_store {stage : Stage} (aimed : stage.IsAimed) :
    (load.advance i store stage).1 = store ∨
      ∃ reply, (load.advance i store stage).2 = .finished (.ok reply) := by
  have ends : ∀ {α : Type} (reply : α → Reply)
      (outcome : Store × Except StoreError α), store.IsSparedBy outcome →
        outcome.1 = store ∨
          ∃ answer, Stage.finished (outcome.2.map reply) =
            .finished (.ok answer) := by
    intro α reply outcome spared
    cases verdict : outcome.2 with
    | error error => exact .inl (spared error verdict)
    | ok a => exact .inr ⟨reply a, rfl⟩
  cases stage with
  | submitted =>
      rw [advance, start]
      cases load.request i with
      | write write => exact .inl rfl
      | delete deletion => exact .inl rfl
      | restore restoration => exact .inl rfl
      | reload schema =>
          exact ends _ _ ((load.database i store).reload_spares schema)
  | drafted draft => exact .inl rfl
  | checked ready =>
      exact ends _ _
        (ready.commit_spares load.settings (load.fresh i) (load.time i))
  | planned plan =>
      exact ends _ _ (PlannedDeletion.commit_spares aimed (load.time i))
  | vetted sought epoch =>
      exact ends _ _
        ((PlannedRestoration.checked sought epoch).commit_spares (load.time i))
  | finished verdict => exact .inl rfl

theorem advance_isAimed (stage : Stage) :
    (load.advance i store stage).2.IsAimed := by
  cases stage with
  | submitted =>
      rw [advance, start]
      cases load.request i with
      | write write =>
          cases read : write.draft store <;> simp [proceed, Stage.IsAimed, read]
      | delete deletion =>
          cases read : deletion.read store with
          | error error => simp [proceed, Stage.IsAimed, read]
          | ok planned =>
              obtain ⟨-, rfl, made, -⟩ := (Deletion.read_eq_ok_iff ..).mp read
              obtain ⟨entity, id, -⟩ := Store.planDelete_fits made
              simp only [read]
              exact ⟨entity, id⟩
      | restore restoration =>
          cases read : restoration.read store with
          | error error => simp [proceed, Stage.IsAimed, read]
          | ok planned => cases planned <;> simp [proceed, Stage.IsAimed, read]
      | reload schema => trivial
  | drafted draft =>
      rw [advance]
      cases draft.check load.settings store <;> trivial
  | checked | planned | vetted | finished => trivial

end Workload

def Progression.IsAimed : Progression → Prop
  | .underway _ stage => stage.IsAimed
  | _ => True

namespace Session

variable (session : Session)

theorem operate_store (i : Nat) (request : Request) (store : Store)
    {stage : Stage} (aimed : stage.IsAimed) :
    (session.operate i request store stage).1 = store ∨
      ∃ response, (session.operate i request store stage).2 =
        .answered (.ok response) := by
  refine ((session.workload i request).advance_store 0 store aimed).imp_right ?_
  rintro ⟨reply, done⟩
  exact ⟨.reply reply, congrArg (Progression.ofStage request) done⟩

theorem operate_isAimed (i : Nat) (request : Request) (store : Store)
    (stage : Stage) : (session.operate i request store stage).2.IsAimed := by
  have aimed := (session.workload i request).advance_isAimed 0 store stage
  simp only [operate]
  cases ends : ((session.workload i request).advance 0 store stage).2 with
  | finished verdict => trivial
  | submitted | drafted | checked | planned | vetted =>
      rw [ends] at aimed
      exact aimed

theorem resolve_eq (store : Store) (entity : String) :
    (resolve store entity).1 = store ∧ (resolve store entity).2.IsAimed := by
  rw [resolve]
  split <;> exact ⟨rfl, trivial⟩

theorem advance_isAimed (i : Nat) (store : Store) (progress : Progression) :
    (session.advance i store progress).2.IsAimed := by
  cases progress with
  | called =>
      rw [advance]
      split
      · exact (resolve_eq ..).2
      · exact (resolve_eq ..).2
      · exact session.operate_isAimed ..
  | named fullName =>
      rw [advance]
      split
      · exact session.operate_isAimed ..
      · trivial
      · exact session.operate_isAimed ..
  | underway request stage => exact session.operate_isAimed ..
  | answered response => trivial

theorem advance_store (i : Nat) (store : Store) {progress : Progression}
    (aimed : progress.IsAimed) :
    (session.advance i store progress).1 = store ∨
      ∃ response, (session.advance i store progress).2 =
        .answered (.ok response) := by
  cases progress with
  | called =>
      rw [advance]
      split
      · exact .inl (resolve_eq ..).1
      · exact .inl (resolve_eq ..).1
      · exact session.operate_store i _ store
          (show Stage.submitted.IsAimed from trivial)
  | named fullName =>
      rw [advance]
      split
      · exact session.operate_store i _ store
          (show Stage.submitted.IsAimed from trivial)
      · exact .inl rfl
      · exact session.operate_store i _ store
          (show Stage.submitted.IsAimed from trivial)
  | underway request stage => exact session.operate_store i request store aimed
  | answered response => exact .inl rfl

theorem run_isAimed {service : Service}
    (aimed : ∀ i, (service.progress i).IsAimed) (schedule : List Nat)
    (i : Nat) : ((session.run service schedule).progress i).IsAimed := by
  induction schedule generalizing service with
  | nil => exact aimed i
  | cons j rest ih =>
      refine ih fun k => ?_
      by_cases own : k = j
      · subst own
        rw [step_progress_self]
        exact session.advance_isAimed ..
      · rw [step_progress_of_ne session service own]
        exact aimed k

/-- Whatever other calls come between, no look of a call that is answered with
an error has changed the store. -/
theorem store_of_failed (store : Store) {schedule : List Nat} {i : Nat}
    {error : StoreError}
    (failed : (session.run (.initial store) schedule).progress i =
      .answered (.error error))
    {before : List Nat} (part : before ++ [i] <+: schedule) :
    (session.run (.initial store) (before ++ [i])).store =
      (session.run (.initial store) before).store := by
  rw [run_concat]
  have untried : ∀ j, ((Service.initial store).progress j).IsAimed :=
    fun _ => trivial
  have aimed := session.run_isAimed untried before i
  refine (session.advance_store i _ aimed).resolve_right ?_
  rintro ⟨response, done⟩
  rw [← step_progress_self, ← run_concat] at done
  obtain ⟨rest, rfl⟩ := part
  have still := session.run_answered _ done rest
  rw [← run_append, failed] at still
  cases still

end Session

end RecordStore
