import RecordStore.Number.Decimal
import RecordStore.Payload.Coerce
import RecordStore.Record

namespace RecordStore

inductive WriteMode where
  | create
  | replace
  | patch
deriving DecidableEq, Inhabited

namespace Payload

/-- The version that a payload names: a natural number, or a text that reads as
one. -/
def versionHint? : Json → Option UInt64
  | .int i => if 0 ≤ i then some i.toNat.toUInt64 else none
  | .string s => (Decimal.word? (Text.trimBoth s.toList)).map Nat.toUInt64
  | _ => none

def protectedErrors (entity : Entity) (payload : Payload) : List FieldError :=
  ((payload.names.filter isSystemField).map fun name => ⟨name, .readonly⟩) ++
    (entity.fields.filter fun field =>
      field.readonly && payload.contains field.name).map
      fun field => ⟨field.name, .readonly⟩

def withoutVersion (payload : Payload) : Payload :=
  payload.erase "version"

/-- Takes the version hint out of a payload and refuses protected fields. -/
def checkProtected (entity : Entity) (payload : Payload) :
    Except StoreError (Option UInt64) :=
  match protectedErrors entity (withoutVersion payload) with
  | [] => .ok ((payload.value? "version").bind versionHint?)
  | errors => .error (.invalid errors)

/-- The default of a field, if it has the type of the field; a reference has
none. -/
def usableDefault? (field : Field) : Option Json :=
  if field.type.isReference then none
  else field.default.filter fun raw => (Value.ofJson field raw).toBool

/-- A default stands in for a value that is missing or null. -/
def applyDefault (payload : Payload) (field : Field) : Payload :=
  match usableDefault? field with
  | some raw =>
    if (payload.value? field.name).all Json.isNull then
      payload.put field.name raw
    else payload
  | none => payload

def withDefaults (entity : Entity) (payload : Payload) : Payload :=
  entity.fields.foldl applyDefault payload

def effective (entity : Entity) (mode : WriteMode) (payload : Payload) :
    Payload :=
  if mode = .create then payload.withDefaults entity else payload

/-- A required field may be left out of a patch if the record has a value for
it. -/
def isMissing (payload : Payload) (mode : WriteMode) (current : Attributes)
    (field : Field) : Bool :=
  match payload.value? field.name with
  | some raw => raw.isNull
  | none => mode != .patch || (current.present? field.name).isNone

def missingErrors (entity : Entity) (payload : Payload) (mode : WriteMode)
    (current : Attributes) : List FieldError :=
  (entity.fields.filter fun field =>
    field.required && isMissing payload mode current field).map
    fun field => ⟨field.name, .missing⟩

structure Progress where
  attributes : Attributes := ∅
  errors : List FieldError := []
deriving Inhabited

def takeField (payload : Payload) (progress : Progress) (field : Field) :
    Progress :=
  if progress.errors.any (·.field == field.name) then progress
  else match payload.value? field.name with
    | none => progress
    | some .null =>
      { progress with attributes := progress.attributes.put field.name .null }
    | some raw =>
      match Value.ofJson field raw with
      | .ok value =>
        { progress with attributes := progress.attributes.put field.name value }
      | .error error => { progress with errors := progress.errors ++ [error] }

def elements : Value → List Value
  | .null => []
  | .array items => items
  | value => [value]

def choiceFault? (field : Field) (values : List Value) : Option Fault :=
  match field.type.choices? with
  | some choices =>
    if !choices.isEmpty &&
      values.any (fun value => !choices.contains value.key) then
      some .notAllowed
    else none
  | none => none

def catalogFault? (schema : Schema) (field : Field) (values : List Value) :
    Option Fault :=
  match field.catalogKey? with
  | none => none
  | some name =>
    match schema.catalog? name with
    | none => some (.unknownCatalog name)
    | some catalog =>
      if values.any (fun value => !catalog.contains value.key) then
        some .notAllowed
      else none

def membershipError? (schema : Schema) (entity : Entity) (name : String)
    (value : Value) : Option FieldError :=
  if value.isNull then none
  else (entity.field? name).bind fun field =>
    ((choiceFault? field (elements value)).or
      (catalogFault? schema field (elements value))).map (FieldError.mk name)

/-- The attributes that a payload gives for the declared fields, or everything
that is wrong with it: missing fields, then types, then membership. Undeclared
members are dropped. -/
def check (schema : Schema) (entity : Entity) (mode : WriteMode)
    (current : Attributes) (payload : Payload) : Except StoreError Attributes :=
  let payload := payload.effective entity mode
  let start : Progress :=
    { errors := missingErrors entity payload mode current }
  let taken := entity.fields.foldl (takeField payload) start
  let strangers := taken.attributes.items.filterMap fun (name, value) =>
    membershipError? schema entity name value
  match taken.errors ++ strangers with
  | [] => .ok taken.attributes
  | errors => .error (.invalid errors)

def hasUndeclared (entity : Entity) (payload : Payload) : Bool :=
  payload.names.any fun name => (entity.field? name).isNone

end Payload

end RecordStore
