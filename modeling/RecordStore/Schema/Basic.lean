import RecordStore.Json.Basic
import RecordStore.Text.Lowercase
import RecordStore.Text.Quoted

namespace RecordStore

/-! What happens to a reference when the record it names is deleted. -/

inductive DeletePolicy where
  | restrict
  | setNull
  | cascade
deriving DecidableEq, Inhabited

namespace DeletePolicy

def name : DeletePolicy → String
  | .restrict => "restrict"
  | .setNull => "set_null"
  | .cascade => "cascade"

def all : List DeletePolicy := [.restrict, .setNull, .cascade]

def table : List (String × DeletePolicy) :=
  all.map fun policy => (policy.name, policy)

structure Unknown where
  text : String

def Unknown.message (unknown : Unknown) : String :=
  "unknown on_delete policy " ++ Text.quoted unknown.text ++
    " (allowed: restrict|set_null|cascade)"

/-- Reads a policy by name, in any case and with white space around it; no text
means restrict. -/
def read (s : String) : Except Unknown DeletePolicy :=
  let word := Text.lowerAscii (Text.trim s)
  if word = "" then .ok .restrict
  else match table.find? (·.1 == word) with
    | some (_, policy) => .ok policy
    | none => .error ⟨word⟩

end DeletePolicy

inductive Scalar where
  | string
  | int
  | float
  | bool
  | date
  | timestamp
deriving DecidableEq, Inhabited

def Scalar.name : Scalar → String
  | .string => "string"
  | .int => "int"
  | .float => "float"
  | .bool => "bool"
  | .date => "date"
  | .timestamp => "datetime"

def Scalar.all : List Scalar :=
  [.string, .int, .float, .bool, .date, .timestamp]

inductive ElementType where
  | scalar (s : Scalar)
  /-- One of the values; without values, any code of the field's catalog. -/
  | choice (values : List String)
  | reference (target : String)
deriving DecidableEq, Inhabited

def ElementType.describe : ElementType → String
  | .scalar s => s.name
  | .choice _ => "enum"
  | .reference target => "ref[" ++ target ++ "]"

structure FieldType where
  element : ElementType
  many : Bool
deriving DecidableEq, Inhabited

namespace FieldType

def isReference (type : FieldType) : Bool :=
  match type.element with
  | .reference _ => true
  | _ => false

def target? (type : FieldType) : Option String :=
  match type.element with
  | .reference target => some target
  | _ => none

def scalar? (type : FieldType) : Option Scalar :=
  match type.element with
  | .scalar s => some s
  | _ => none

def choices? (type : FieldType) : Option (List String) :=
  match type.element with
  | .choice values => some values
  | _ => none

def describe (type : FieldType) : String :=
  if type.many then "array[" ++ type.element.describe ++ "]"
  else type.element.describe

end FieldType

/-- Names of catalogs are compared without white space at the ends and without
case. -/
def catalogKey (name : String) : String :=
  Text.lower (Text.trim name)

structure CatalogItem where
  code : String
  name : String
deriving DecidableEq, Inhabited

structure Catalog where
  name : String
  items : List CatalogItem
deriving DecidableEq, Inhabited

def Catalog.key (catalog : Catalog) : String :=
  catalogKey catalog.name

def Catalog.contains (catalog : Catalog) (code : String) : Bool :=
  catalog.items.any (·.code == code)

structure Field where
  name : String
  type : FieldType
  declaredPolicy : Option DeletePolicy := none
  required : Bool := false
  unique : Bool := false
  readonly : Bool := false
  default : Option Json := none
  catalog : Option String := none
deriving Inhabited

namespace Field

def policy (field : Field) : DeletePolicy :=
  field.declaredPolicy.getD .restrict

def catalogKey? (field : Field) : Option String :=
  (field.catalog.map catalogKey).filter (· != "")

end Field

structure Entity where
  namespaceName : String
  name : String
  fields : List Field
  /-- Sets of fields that together tell live records apart. -/
  uniqueSets : List (List String) := []
deriving Inhabited

namespace Entity

def fullName (entity : Entity) : String :=
  entity.namespaceName ++ "." ++ entity.name

def field? (entity : Entity) (name : String) : Option Field :=
  entity.fields.find? (·.name == name)

def uniqueFields (entity : Entity) : List Field :=
  entity.fields.filter (·.unique)

def referenceFields (entity : Entity) : List Field :=
  entity.fields.filter (·.type.isReference)

/-- The field that labels a record: one with a customary name, else the first
string, else the id. -/
def displayField (entity : Entity) : String :=
  match ["name", "title", "email", "code"].find? fun name =>
    (entity.field? name).isSome with
  | some name => name
  | none =>
    match entity.fields.find? (·.type = ⟨.scalar .string, false⟩) with
    | some field => field.name
    | none => "id"

end Entity

structure Schema where
  version : UInt64 := 1
  entities : Index Entity.fullName := ∅
  catalogs : Index Catalog.key := ∅
deriving Inhabited

namespace Schema

def addEntity (schema : Schema) (entity : Entity) : Schema :=
  { schema with entities := schema.entities.insert entity }

def addCatalog (schema : Schema) (catalog : Catalog) : Schema :=
  { schema with catalogs := schema.catalogs.insert catalog }

def entity? (schema : Schema) (fullName : String) : Option Entity :=
  schema.entities.get? fullName

def catalog? (schema : Schema) (name : String) : Option Catalog :=
  schema.catalogs.get? (catalogKey name)

def entityNames (schema : Schema) : List String :=
  schema.entities.items.map Entity.fullName

end Schema

end RecordStore
