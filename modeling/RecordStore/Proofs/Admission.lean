import RecordStore.Proofs.Payload

namespace RecordStore

namespace Value

/-- The value is an array exactly if the type is for many, unless it is null. -/
def Shaped : Value → FieldType → Prop
  | .null, _ => True
  | .atom _, type => type.many = false
  | .array _, type => type.many = true

variable {value : Value} {type : FieldType}

theorem Fits.shaped (fits : value.Fits type) {other : FieldType}
    (same : type.many = other.many) : value.Shaped other := by
  cases value with
  | null => trivial
  | atom a => exact same.symm.trans fits.1
  | array items => exact same.symm.trans fits.1

theorem Shaped.prune (shaped : value.Shaped type) (removed : List String) :
    (value.prune removed).Shaped type := by
  cases value with
  | null => trivial
  | atom a =>
      rw [prune_atom]
      split
      · trivial
      · exact shaped
  | array items => exact shaped

theorem isNull_of_ofJson {field : Field} {raw : Json}
    (read : ofJson field raw = .ok value) : value.isNull = false := by
  rcases ofJson_cases read with
    ⟨-, a, -, rfl⟩ | ⟨-, items, values, -, -, rfl⟩ <;> rfl

theorem ofJson?_array (type : ElementType) (items : List Json) :
    Atom.ofJson? type (.array items) = none := by
  cases type with
  | scalar scalar => cases scalar <;> rfl
  | choice | reference => rfl

theorem many_iff_of_ofJson {field : Field} {raw : Json}
    (read : ofJson field raw = .ok value) :
    field.type.many = true ↔ ∃ items, raw = .array items := by
  rcases ofJson_cases read with ⟨single, a, found, -⟩ | ⟨many, items, -, rfl, -⟩
  · refine iff_of_false (by simp [single]) ?_
    rintro ⟨items, rfl⟩
    rw [ofJson?_array] at found
    cases found
  · exact iff_of_true many ⟨items, rfl⟩

/-- Every element of the value is one of the choices of the field, and a code of
its catalog. -/
def Listed (value : Value) (schema : Schema) (field : Field) : Prop :=
  ∀ item ∈ Payload.elements value, (∀ choices,
    field.type.choices? = some choices → choices ≠ [] → item.key ∈ choices) ∧
    ∀ name, field.catalogKey? = some name →
      ∃ catalog, schema.catalog? name = some catalog ∧
        catalog.contains item.key = true

theorem mem_elements_of_prune {removed : List String} {item : Value}
    (member : item ∈ Payload.elements (value.prune removed)) :
    item ∈ Payload.elements value := by
  cases value with
  | null => exact member
  | atom a =>
      rw [prune_atom] at member
      split at member
      · simp [Payload.elements] at member
      · exact member
  | array items => exact (List.mem_filter.mp member).1

theorem Listed.prune {schema : Schema} {field : Field}
    (listed : value.Listed schema field) (removed : List String) :
    (value.prune removed).Listed schema field :=
  fun item member => listed item (mem_elements_of_prune member)

end Value

namespace Payload

theorem choiceFault?_eq_none_iff (field : Field) (values : List Value) :
    choiceFault? field values = none ↔
      ∀ choices, field.type.choices? = some choices → choices ≠ [] →
        ∀ value ∈ values, value.key ∈ choices := by
  rw [choiceFault?]
  cases field.type.choices? with
  | none => simp
  | some choices => simp

theorem catalogFault?_eq_none_iff (schema : Schema) (field : Field)
    (values : List Value) :
    catalogFault? schema field values = none ↔
      ∀ name, field.catalogKey? = some name →
        ∃ catalog, schema.catalog? name = some catalog ∧
          ∀ value ∈ values, catalog.contains value.key = true := by
  rw [catalogFault?]
  cases field.catalogKey? with
  | none => simp
  | some name => cases found : schema.catalog? name <;> simp [found]

theorem listed_of_membershipError? {schema : Schema} {entity : Entity}
    {name : String} {value : Value}
    (passed : membershipError? schema entity name value = none) {field : Field}
    (found : entity.field? name = some field) : value.Listed schema field := by
  intro item member
  have present : value.isNull = false := by
    cases value with
    | null => simp [elements] at member
    | atom | array => rfl
  simp only [membershipError?, present, found, Bool.false_eq_true, if_false,
    Option.bind_some, Option.map_eq_none_iff, Option.or_eq_none_iff] at passed
  obtain ⟨chosen, catalogued⟩ := passed
  rw [choiceFault?_eq_none_iff] at chosen
  rw [catalogFault?_eq_none_iff] at catalogued
  refine ⟨fun choices own some => chosen choices own some item member, ?_⟩
  intro name own
  obtain ⟨catalog, known, codes⟩ := catalogued name own
  exact ⟨catalog, known, codes item member⟩

end Payload

/-- A value that a record may hold under a name: it has the type of a field of
that name and the shape of all of them, and the choices and the catalog of the
one that the name finds admit it. -/
structure Value.Admissible (value : Value) (schema : Schema) (entity : Entity)
    (name : String) : Prop where
  typed : ∃ field ∈ entity.fields, field.name = name ∧ value.Fits field.type
  shaped : ∀ field ∈ entity.fields, field.name = name → value.Shaped field.type
  listed : ∀ field, entity.field? name = some field → value.Listed schema field

theorem Value.Admissible.prune {value : Value} {schema : Schema}
    {entity : Entity} {name : String}
    (admissible : value.Admissible schema entity name) (removed : List String) :
    (value.prune removed).Admissible schema entity name where
  typed := by
    obtain ⟨field, declared, own, fits⟩ := admissible.typed
    exact ⟨field, declared, own, fits.prune removed⟩
  shaped := fun field declared own =>
    (admissible.shaped field declared own).prune removed
  listed := fun field found => (admissible.listed field found).prune removed

def Attributes.Admissible (attributes : Attributes) (schema : Schema)
    (entity : Entity) : Prop :=
  ∀ name value, attributes.value? name = some value →
    value.Admissible schema entity name

theorem Attributes.Admissible.merge {attributes changes : Attributes}
    {schema : Schema} {entity : Entity}
    (old : attributes.Admissible schema entity)
    (new : changes.Admissible schema entity) :
    Attributes.Admissible (attributes.merge changes) schema entity :=
  Fields.forall_merge attributes old new

namespace Payload

variable {payload : Payload} {attributes : Attributes} {schema : Schema}
  {entity : Entity} {mode : WriteMode} {current : Attributes}

theorem Gives.shaped (gives : payload.Gives entity.fields attributes)
    {name : String} {value : Value}
    (found : attributes.value? name = some value) {field : Field}
    (declared : field ∈ entity.fields) (own : field.name = name) :
    value.Shaped field.type := by
  obtain ⟨origin, -, -, raw, present, read⟩ := gives.source name value found
  -- the field has read the same member
  obtain ⟨⟨other, again⟩, -⟩ := gives.taken field declared raw (own ▸ present)
  by_cases null : raw = .null
  · subst null
    cases read
    trivial
  · rw [ofMember_of_ne null] at read again
    refine (Value.ofJson_fits read).shaped ?_
    rw [Bool.eq_iff_iff, Value.many_iff_of_ofJson read,
      Value.many_iff_of_ofJson again]

theorem check_admissible
    (valid : payload.check schema entity mode current = .ok attributes) :
    attributes.Admissible schema entity := by
  obtain ⟨-, gives, members⟩ := check_gives valid
  intro name value found
  exact ⟨check_fit valid name value found,
    fun _ declared own => gives.shaped found declared own,
    fun _ known => listed_of_membershipError? (members name value found) known⟩

theorem check_required
    (valid : payload.check schema entity mode current = .ok attributes)
    {field : Field} (declared : field ∈ entity.fields)
    (required : field.required = true) :
    (∀ value, attributes.value? field.name = some value →
      value.isNull = false) ∧
      (mode ≠ .patch → (attributes.value? field.name).isSome) := by
  obtain ⟨present, gives, -⟩ := check_gives valid
  have here := present field declared required
  rw [isMissing] at here
  constructor
  · intro value found
    obtain ⟨origin, -, -, raw, given, read⟩ :=
      gives.source field.name value found
    have present : raw ≠ .null := by
      rintro rfl
      simp [given, Json.isNull] at here
    rw [ofMember_of_ne present] at read
    exact Value.isNull_of_ofJson read
  · intro whole
    cases given : (payload.effective entity mode).value? field.name with
    | none => simp [given, whole] at here
    | some raw => exact (gives.taken field declared raw given).2

end Payload

end RecordStore
