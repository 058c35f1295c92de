import RecordStore.Integrity.ParentChain

namespace RecordStore.Store

def isLiveRef (store : Store) (target : String) (value : Value) : Bool :=
  match value.refId? with
  | some id => (store.live? target id).isSome
  | none => false

def elementErrors (store : Store) (field target : String) (items : List Value) :
    List FieldError :=
  items.zipIdx.filterMap fun (item, index) =>
    if store.isLiveRef target item then none
    else some ⟨field, .elementTargetMissing index⟩

/-- References of one field that do not name a live record of its target. The
target is found in the schema the write was checked against. -/
def fieldReferenceErrors (store : Store) (schema : Schema) (entity : Entity)
    (attributes : Attributes) (field : Field) : List FieldError :=
  match attributes.present? field.name with
  | none => []
  | some value =>
    match schema.target? entity field with
    | none => [⟨field.name, .targetUnresolved⟩]
    | some target =>
      match value with
      | .array items => store.elementErrors field.name target items
      | value =>
        if store.isLiveRef target value then []
        else [⟨field.name, .targetMissing⟩]

def referenceErrors (store : Store) (schema : Schema) (entity : Entity)
    (attributes : Attributes) : List FieldError :=
  entity.referenceFields.flatMap
    (store.fieldReferenceErrors schema entity attributes)

def others (store : Store) (entity : Entity) (own : Option String) :
    List Record :=
  (store.liveOf entity.fullName).filter fun record => some record.id != own

def uniqueError? (store : Store) (entity : Entity) (own : Option String)
    (attributes : Attributes) (field : Field) : Option FieldError :=
  (attributes.present? field.name).bind fun value =>
    let taken := (store.others entity own).any fun record =>
      match record.attributes.present? field.name with
      | some other => other.key == value.key
      | none => false
    if taken then some ⟨field.name, .taken⟩ else none

def setKey? (set : List String) (attributes : Attributes) :
    Option (List String) :=
  if set.isEmpty then none
  else set.mapM fun name => (attributes.present? name).map Value.key

def uniqueSetError? (store : Store) (entity : Entity) (own : Option String)
    (attributes : Attributes) (set : List String) : Option FieldError :=
  (setKey? set attributes).bind fun key =>
    if (store.others entity own).any fun record =>
      setKey? set record.attributes = some key then
      some ⟨set.headD "", .setTaken set⟩
    else none

def uniquenessErrors (store : Store) (entity : Entity) (own : Option String)
    (attributes : Attributes) : List FieldError :=
  entity.uniqueFields.filterMap (store.uniqueError? entity own attributes) ++
    entity.uniqueSets.filterMap (store.uniqueSetError? entity own attributes)

def integrityErrors (store : Store) (settings : Settings) (schema : Schema)
    (entity : Entity) (own : Option String) (attributes : Attributes) :
    List FieldError :=
  store.referenceErrors schema entity attributes ++
    store.uniquenessErrors entity own attributes ++
    (store.parentError? settings entity own attributes).toList

def accept : List FieldError → Except StoreError Unit
  | [] => .ok ()
  | errors => .error (.invalid errors)

def checkIntegrity (store : Store) (settings : Settings) (schema : Schema)
    (entity : Entity) (own : Option String) (attributes : Attributes) :
    Except StoreError Unit :=
  accept (store.integrityErrors settings schema entity own attributes)

def checkUniqueness (store : Store) (entity : Entity) (own : Option String)
    (attributes : Attributes) : Except StoreError Unit :=
  accept (store.uniquenessErrors entity own attributes)

end RecordStore.Store
