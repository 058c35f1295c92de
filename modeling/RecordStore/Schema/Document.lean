import RecordStore.Json.Shape
import RecordStore.Schema.Basic

namespace RecordStore

open Json (Document)
open Json.Document

def Scalar.ofDocument? : Document → Option Scalar :=
  plainChoice? (Scalar.all.map fun s => (s.name, s))

def DeletePolicy.ofDocument? : Document → Option DeletePolicy :=
  plainChoice? DeletePolicy.table

namespace FieldType

def choiceOfDocument? (many : Bool) (document : Document) : Option FieldType :=
  match structure? ["values"] document with
  | some [values] => do
    pure ⟨.choice (← optional? [] (list? text?) values), many⟩
  | _ => none

def referenceOfDocument? (many : Bool) (document : Document) :
    Option FieldType :=
  match structure? ["target"] document with
  | some [target] => do pure ⟨.reference (← required? text? target), many⟩
  | _ => none

def scalarOfDocument? (many : Bool) (document : Document) :
    Option FieldType := do
  pure ⟨.scalar (← Scalar.ofDocument? document), many⟩

def ofDocument? (document : Document) : Option FieldType :=
  match choice? document with
  | some ("scalar", content) => scalarOfDocument? false content
  | some ("enum", content) => choiceOfDocument? false content
  | some ("ref", content) => referenceOfDocument? false content
  | some ("array_scalar", content) => scalarOfDocument? true content
  | some ("array_enum", content) => choiceOfDocument? true content
  | some ("array_ref", content) => referenceOfDocument? true content
  | _ => none

end FieldType

namespace Field

def isOwnMember (name : String) : Bool :=
  ["name", "type", "on_delete"].contains name

/-- A field is written as an object only. Its options have to be values even
where they are not declared; `room` bounds their nesting. -/
def ofDocument? (room : Nat) : Document → Option Field
  | .object members => do
    let members ← namedMembers? members
    let name ← required? text? (← uniqueMember? members "name")
    let type ← required? FieldType.ofDocument? (← uniqueMember? members "type")
    let policy ← optional? none (nullable? DeletePolicy.ofDocument?)
      (← uniqueMember? members "on_delete")
    let options := members.filter fun (name, _) => !isOwnMember name
    guard (options.all fun option => (toJson? room option.2).isSome)
    let required ← optional? false flag? (← uniqueMember? options "required")
    let unique ← optional? false flag? (← uniqueMember? options "unique")
    let readonly ← optional? false flag? (← uniqueMember? options "readonly")
    let default ← optional? none (nullable? (toJson? room))
      (← uniqueMember? options "default")
    let catalog ← optional? none (nullable? text?)
      (← uniqueMember? options "catalog")
    pure ⟨name, type, policy, required, unique, readonly, default, catalog⟩
  | _ => none

end Field

/-- What may still be nested inside a field of an entity in the list of a
schema. -/
def fieldRoom : Nat := deepest - 5

namespace Entity

def ofDocument? (document : Document) : Option Entity :=
  match structure? ["name", "namespace", "fields", "unique_together"]
    document with
  | some [name, namespaceName, fields, sets] => do
    let name ← required? text? name
    let namespaceName ← required? text? namespaceName
    let fields ← required? (list? (Field.ofDocument? fieldRoom)) fields
    let sets ← optional? [] (list? (list? text?)) sets
    pure ⟨namespaceName, name, fields, sets⟩
  | _ => none

end Entity

namespace CatalogItem

def ofDocument? (document : Document) : Option CatalogItem :=
  match structure? ["code", "name"] document with
  | some [code, name] => do
    pure ⟨← required? text? code, ← optional? "" text? name⟩
  | _ => none

end CatalogItem

namespace Catalog

def ofDocument? (document : Document) : Option Catalog :=
  match structure? ["name", "items"] document with
  | some [name, items] => do
    pure ⟨← optional? "" text? name,
      ← optional? [] (list? CatalogItem.ofDocument?) items⟩
  | _ => none

/-- A catalog in a file of its own: its items alone, or a catalog whose name may
be left blank. The file lends it its name then. -/
def ofFileDocument? (fileName : String) (document : Document) :
    Option Catalog := do
  guard (toJson? deepest document).isSome
  match list? CatalogItem.ofDocument? document with
  | some items => pure ⟨fileName, items⟩
  | none =>
    let catalog ← ofDocument? document
    pure (if Text.isBlankText catalog.name then
      { catalog with name := fileName } else catalog)

end Catalog

inductive SchemaProblem where
  | malformed
  | declaredTwice (fullName : String)

namespace Schema

structure Parts where
  version : UInt64
  entities : List Entity
  catalogs : List Catalog

def Parts.ofDocument? (document : Document) : Option Parts :=
  match structure? ["version", "entities", "catalogs"] document with
  | some [version, entities, catalogs] => do
    let version ← optional? 1 word? version
    let entities ← required? (list? Entity.ofDocument?) entities
    let catalogs ← optional? [] (list? Catalog.ofDocument?) catalogs
    pure ⟨version.toUInt64, entities, catalogs⟩
  | _ => none

def addEntities (schema : Schema) : List Entity → Except SchemaProblem Schema
  | [] => .ok schema
  | entity :: rest =>
    if schema.entities.contains entity.fullName then
      .error (.declaredTwice entity.fullName)
    else (schema.addEntity entity).addEntities rest

def ofDocument (document : Document) : Except SchemaProblem Schema := do
  let some parts := Parts.ofDocument? document | throw .malformed
  let schema ← addEntities { version := parts.version } parts.entities
  pure (parts.catalogs.foldl addCatalog schema)

def read (text : String) : Except SchemaProblem Schema :=
  match Document.read? text with
  | some document => ofDocument document
  | none => .error .malformed

end Schema

end RecordStore
