import RecordStore.Query.Page
import RecordStore.Write

namespace RecordStore

/-! A database: a store with its settings, and the ids and times that its writes
use up. Entities may be named in full, or by a short name that only one of them
has. -/

structure Database where
  store : Store
  settings : Settings := {}
  ids : Nat → String
  clock : Nat → Instant
  drawn : Nat := 0
  ticks : Nat := 0

abbrev Answer (α : Type) := Database × Except StoreError α

namespace Database

def checkSchema (schema : Schema) : Except StoreError Unit :=
  match schema.lint with
  | [] => .ok ()
  | issues => .error (.schemaRejected issues)

def start (schema : Schema) (settings : Settings) (ids : Nat → String)
    (clock : Nat → Instant) : Except StoreError Database := do
  checkSchema schema
  pure { store := { schema }, settings, ids, clock }

/-- The version of a schema that takes the place of another: its own if it is
greater, else the next. -/
def nextVersion (current proposed : UInt64) : UInt64 :=
  if proposed ≤ current then current + 1 else proposed

/-- Puts another schema in force; records stay as they are stored. -/
def reload (db : Database) (schema : Schema) : Answer UInt64 :=
  match checkSchema schema with
  | .error error => (db, .error error)
  | .ok () =>
    let version := nextVersion db.store.schema.version schema.version
    ({ db with store := db.store.replaceSchema { schema with version } },
      .ok version)

def resolve (db : Database) (entity : String) : Except StoreError String :=
  match db.store.schema.resolve "" entity with
  | some fullName => .ok fullName
  | none => .error (.unknownEntity entity)

def tick (db : Database) : Database × Instant :=
  ({ db with ticks := db.ticks + 1 }, db.clock db.ticks)

def drawId (db : Database) : Database × String :=
  ({ db with drawn := db.drawn + 1 }, db.ids db.drawn)

/-- Commits a checked write. A new record draws its id even if the commit is
refused. -/
def commitWrite (db : Database) (checked : CheckedWrite) : Answer Record :=
  let (db, fresh) :=
    if checked.draft.goal = .create then db.drawId else (db, "")
  let (db, now) := db.tick
  let (store, result) := checked.commit db.settings db.store fresh now
  ({ db with store }, result)

def runWrite (db : Database) (write : Write) : Answer Record :=
  match write.prepare db.settings db.store with
  | .error error => (db, .error error)
  | .ok checked => db.commitWrite checked

def runDeletion (db : Database) (deletion : Deletion) : Answer Deleted :=
  let (db, now) := db.tick
  let (store, result) := deletion.run db.store now
  ({ db with store }, result)

def runRestoration (db : Database) (restoration : Restoration) :
    Answer Record :=
  let (db, now) := db.tick
  let (store, result) := restoration.run db.store now
  ({ db with store }, result)

def each {σ α β : Type} (run : σ → α → σ × Except StoreError β) (state : σ) :
    List α → σ × List (Except StoreError β)
  | [] => (state, [])
  | item :: items =>
    let (state, result) := run state item
    let (state, results) := each run state items
    (state, result :: results)

def withEntity {α : Type} (db : Database) (entity : String)
    (run : String → Answer α) : Answer α :=
  match db.resolve entity with
  | .error error => (db, .error error)
  | .ok fullName => run fullName

def create (db : Database) (entity : String) (payload : Payload) :
    Answer Record :=
  db.withEntity entity fun fullName => db.runWrite ⟨fullName, .create, payload⟩

def replace (db : Database) (entity id : String) (expected : Option UInt64)
    (payload : Payload) : Answer Record :=
  db.withEntity entity fun fullName =>
    db.runWrite ⟨fullName, .replace id expected, payload⟩

def patch (db : Database) (entity id : String) (expected : Option UInt64)
    (payload : Payload) : Answer Record :=
  db.withEntity entity fun fullName =>
    db.runWrite ⟨fullName, .patch id expected, payload⟩

def delete (db : Database) (entity id : String) (expected : Option UInt64) :
    Answer Deleted :=
  db.withEntity entity fun fullName => db.runDeletion ⟨fullName, id, expected⟩

def restore (db : Database) (entity id : String) : Answer Record :=
  db.withEntity entity fun fullName => db.runRestoration ⟨fullName, id⟩

def get (db : Database) (entity id : String) : Except StoreError Record := do
  db.store.liveRecord (← db.resolve entity) id

def definition (db : Database) (entity : String) :
    Except StoreError Entity := do
  db.store.entity (← db.resolve entity)

def list (db : Database) (entity : String) (query : Query) :
    Except StoreError Page := do
  pure (db.store.page db.settings (← db.definition entity) query)

def count (db : Database) (entity : String) (filter : Filter) :
    Except StoreError Nat := do
  pure (db.store.count (← db.definition entity) filter)

def lookup (db : Database) (entity : String) (field : Option String)
    (text : String) (limit : Option Nat) :
    Except StoreError (List LookupItem) := do
  pure (db.store.lookup db.settings (← db.definition entity) field text limit)

def incomingReferences (db : Database) (entity id : String) :
    Except StoreError (List Reference) := do
  let fullName ← db.resolve entity
  let _ ← db.store.storedRecord fullName id
  pure (db.store.referencesTo fullName id)

/-! Many records at once. -/

structure PatchItem where
  id : String
  expected : Option UInt64
  payload : Payload

def bulk {α β : Type} (db : Database) (entity : String) (items : List α)
    (run : String → Database → α → Answer β) :
    Answer (List (Except StoreError β)) :=
  db.withEntity entity fun fullName =>
    let (db, results) := each (run fullName) db items
    (db, .ok results)

def bulkCreate (db : Database) (entity : String) (payloads : List Payload) :
    Answer (List (Except StoreError Record)) :=
  db.bulk entity payloads fun fullName db payload =>
    db.runWrite ⟨fullName, .create, payload⟩

def bulkPatch (db : Database) (entity : String) (items : List PatchItem) :
    Answer (List (Except StoreError Record)) :=
  db.bulk entity items fun fullName db item =>
    db.runWrite ⟨fullName, .patch item.id item.expected, item.payload⟩

def bulkDelete (db : Database) (entity : String) (ids : List String) :
    Answer (List (Except StoreError Deleted)) :=
  db.bulk entity ids fun fullName db id => db.runDeletion ⟨fullName, id, none⟩

def bulkRestore (db : Database) (entity : String) (ids : List String) :
    Answer (List (Except StoreError Record)) :=
  db.bulk entity ids fun fullName db id => db.runRestoration ⟨fullName, id⟩

end Database

end RecordStore
