import RecordStore.Schema.Basic
import RecordStore.Text.Split

namespace RecordStore.Schema

/-- The entity of a namespace with a name: as spelt, else the first that differs
only in ASCII case. -/
def resolveIn (schema : Schema) (namespaceName name : String) : Option String :=
  let exact := namespaceName ++ "." ++ name
  if schema.entities.contains exact then some exact
  else (schema.entities.items.find? fun entity =>
      Text.equalUpToAsciiCase entity.namespaceName namespaceName &&
        Text.equalUpToAsciiCase entity.name name).map Entity.fullName

def resolveShort (schema : Schema) (name : String) : Option String :=
  match schema.entities.items.filter fun entity =>
    Text.equalUpToAsciiCase entity.name name with
  | [entity] => some entity.fullName
  | _ => none

def qualifier? (name : String) : Option (String × String) :=
  match Text.splitFirst? '.' name.toList with
  | some (before, after) =>
    if before.isEmpty then none
    else some (String.ofList before, String.ofList after)
  | none => none

/-- The full name of the entity that `name` means in a namespace. Without a
namespace, a dotted name spells its own, and a short one has to be unique. -/
def resolve (schema : Schema) (namespaceName name : String) : Option String :=
  let namespaceName := Text.trim namespaceName
  let name := Text.trim name
  if name = "" then none
  else if namespaceName ≠ "" then schema.resolveIn namespaceName name
  else match qualifier? name with
    | some (before, after) =>
      let after := Text.trim after
      if after = "" then none else schema.resolveIn (Text.trim before) after
    | none => schema.resolveShort name

/-- The entity a reference declared in a namespace points to: a short target is
looked for there first, then everywhere. -/
def resolveTarget (schema : Schema) (namespaceName target : String) :
    Option String :=
  let target := Text.trim target
  if target.toList.contains '.' then schema.resolve "" target
  else match schema.resolve namespaceName target with
    | some fullName => some fullName
    | none => schema.resolve "" target

def target? (schema : Schema) (entity : Entity) (field : Field) :
    Option String :=
  field.type.target?.bind (schema.resolveTarget entity.namespaceName)

structure IncomingField where
  entity : String
  field : String
  policy : DeletePolicy
deriving DecidableEq, Inhabited

def incomingFrom (schema : Schema) (fullName : String) (entity : Entity) :
    List IncomingField :=
  (entity.referenceFields.filter fun field =>
    schema.target? entity field = some fullName).map
    fun field => ⟨entity.fullName, field.name, field.policy⟩

def incoming (schema : Schema) (fullName : String) : List IncomingField :=
  schema.entities.items.flatMap (schema.incomingFrom fullName)

end RecordStore.Schema
