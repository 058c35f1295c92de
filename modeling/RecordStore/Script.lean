import RecordStore.Database
import RecordStore.Json.Shape
import RecordStore.Query.Params

namespace RecordStore

open Json (Document)
open Json.Document

inductive OperationKind where
  | create
  | get
  | list
  | count
  | lookup
  | replace
  | patch
  | delete
  | restore
  | refs
deriving DecidableEq, Inhabited

namespace OperationKind

def name : OperationKind → String
  | .create => "create"
  | .get => "get"
  | .list => "list"
  | .count => "count"
  | .lookup => "lookup"
  | .replace => "replace"
  | .patch => "patch"
  | .delete => "delete"
  | .restore => "restore"
  | .refs => "refs"

def all : List OperationKind :=
  [.create, .get, .list, .count, .lookup, .replace, .patch, .delete, .restore,
    .refs]

end OperationKind

structure Operation where
  kind : OperationKind
  entity : String
  id : Option String := none
  version : Option UInt64 := none
  data : Option Payload := none
  params : Fields String := ∅
deriving Inhabited

namespace Operation

def dataRoom : Nat := deepest - 2

def payloadOfDocument? (document : Document) : Option Payload :=
  (toJson? dataRoom document).bind Json.fields?

def paramsOfDocument? : Document → Option (Fields String)
  | .object members => do
    let members ← namedMembers? members
    let members ← members.mapM fun (name, value) => (text? value).map (name, ·)
    pure (Index.ofList members)
  | _ => none

def kindOfDocument? : Document → Option OperationKind :=
  plainChoice? (OperationKind.all.map fun kind => (kind.name, kind))

def ofDocument? (document : Document) : Option Operation :=
  match structure? ["op", "entity", "id", "version", "data", "params"]
    document with
  | some [kind, entity, id, version, data, params] => do
    pure {
      kind := ← required? kindOfDocument? kind
      entity := ← required? text? entity
      id := ← optional? none (nullable? text?) id
      version := (← optional? none (nullable? word?) version).map Nat.toUInt64
      data := ← optional? none (nullable? payloadOfDocument?) data
      params := ← optional? ∅ paramsOfDocument? params }
  | _ => none

def readScript? (text : String) : Option (List Operation) :=
  (Document.read? text).bind (list? ofDocument?)

end Operation

inductive Finding where
  | record (record : Record)
  | deleted (deleted : Deleted)
  | page (page : Page)
  | total (n : Nat)
  | items (items : List LookupItem)
  | references (references : List Reference)

structure Outcome where
  kind : OperationKind
  result : Except StoreError Finding

def Outcome.ok (outcome : Outcome) : Bool :=
  outcome.result.toBool

namespace Operation

def requireId (operation : Operation) : Except StoreError String :=
  match operation.id with
  | some id => .ok id
  | none => .error (.invalid [⟨"id", .noId⟩])

def payload (operation : Operation) : Payload :=
  operation.data.getD ∅

def orBadQuery {α : Type} (result : Except QueryFault α) :
    Except StoreError α :=
  result.mapError .badQuery

def lookupLimit (operation : Operation) : Except QueryFault (Option Nat) :=
  match operation.params.value? "limit" with
  | some value => (Query.readCount "limit" (Text.trim value)).map some
  | none => .ok none

def inspect (operation : Operation) (db : Database) :
    Except StoreError Finding := do
  let entity := operation.entity
  let params := operation.params.items
  match operation.kind with
  | .list => do
    let query ← orBadQuery (Query.ofParams params)
    pure (.page (← db.list entity query))
  | .count => do
    let filter ← orBadQuery (Filter.ofParams params)
    pure (.total (← db.count entity filter))
  | .lookup => do
    let limit ← orBadQuery operation.lookupLimit
    let text := (operation.params.value? "q").getD ""
    pure (.items
      (← db.lookup entity (operation.params.value? "field") text limit))
  | .refs => do
    let id ← operation.requireId
    pure (.references (← db.incomingReferences entity id))
  | _ => do
    let id ← operation.requireId
    pure (.record (← db.get entity id))

def withId {α : Type} (operation : Operation) (db : Database)
    (finding : α → Finding) (run : String → Answer α) : Answer Finding :=
  match operation.requireId with
  | .error error => (db, .error error)
  | .ok id =>
    let (db, result) := run id
    (db, result.map finding)

def run (operation : Operation) (db : Database) : Answer Finding :=
  let entity := operation.entity
  match operation.kind with
  | .create =>
    let (db, result) := db.create entity operation.payload
    (db, result.map .record)
  | .replace =>
    operation.withId db .record fun id =>
      db.replace entity id operation.version operation.payload
  | .patch =>
    operation.withId db .record fun id =>
      db.patch entity id operation.version operation.payload
  | .delete =>
    operation.withId db .deleted fun id => db.delete entity id operation.version
  | .restore => operation.withId db .record fun id => db.restore entity id
  | _ => (db, operation.inspect db)

end Operation

def runScript (db : Database) : List Operation → Database × List Outcome
  | [] => (db, [])
  | operation :: rest =>
    let (db, result) := operation.run db
    let (db, outcomes) := runScript db rest
    (db, ⟨operation.kind, result⟩ :: outcomes)

namespace Outcome

def attributesJson (attributes : Attributes) : Json :=
  .object (attributes.items.map fun (name, value) => (name, value.toJson))

def recordJson (time : Instant → String) (record : Record) : Json :=
  .object [("id", .string record.id), ("entity", .string record.entity),
    ("version", .int record.version.toNat),
    ("created_at", .string (time record.createdAt)),
    ("updated_at", .string (time record.updatedAt)),
    ("deleted", .bool record.deleted),
    ("attributes", attributesJson record.attributes)]

def cascadeJson (cascade : Cascade) : Json :=
  .object [
    ("deleted_entities", .array (cascade.deleted.map fun key =>
      .array [.string key.entity, .string key.id])),
    ("nullified_fields", .array (cascade.cleared.map fun key =>
      .array [.string key.entity, .string key.id, .string key.field]))]

def itemJson (item : LookupItem) : Json :=
  .object [("id", .string item.id), ("label", .string item.label)]

def referenceJson (reference : Reference) : Json :=
  .object [("entity", .string reference.entity),
    ("field", .string reference.field), ("id", .string reference.id)]

def reportJson (report : Report) : Json :=
  .object [("field", .string report.field), ("code", .string report.code.name),
    ("message", .string report.message)]

def findingMembers (time : Instant → String) : Finding → List (String × Json)
  | .record record => [("record", recordJson time record)]
  | .deleted deleted =>
    [("record", recordJson time deleted.record),
      ("cascade", cascadeJson deleted.cascade)]
  | .page page =>
    [("records", .array (page.records.map (recordJson time))),
      ("total", .int page.total)]
  | .total n => [("total", .int n)]
  | .items items => [("items", .array (items.map itemJson))]
  | .references references =>
    [("references", .array (references.map referenceJson))]

def toJson (time : Instant → String) (outcome : Outcome) : Json :=
  .object (("op", .string outcome.kind.name) :: ("ok", .bool outcome.ok) ::
    match outcome.result with
    | .ok finding => findingMembers time finding
    | .error error => [("errors", .array (error.reports.map reportJson))])

end Outcome

end RecordStore
