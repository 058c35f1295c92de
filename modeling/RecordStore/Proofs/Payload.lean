import Mathlib.Data.List.Induction
import RecordStore.Payload.Check
import RecordStore.Proofs.Reference

namespace RecordStore

def Atom.Fits : Atom → ElementType → Prop
  | .string _, .scalar .string | .string _, .choice _ => True
  | .int _, .scalar .int => True
  | .float _, .scalar .float => True
  | .bool _, .scalar .bool => True
  | .date _, .scalar .date => True
  | .timestamp _, .scalar .timestamp => True
  | .ref _, .reference _ => True
  | _, _ => False

/-- Null has every type; an array holds single values of the element type. -/
def Value.Fits : Value → FieldType → Prop
  | .null, _ => True
  | .atom a, type => type.many = false ∧ a.Fits type.element
  | .array items, type =>
    type.many = true ∧ ∀ item ∈ items, ∃ a, item = .atom a ∧ a.Fits type.element

namespace Atom

theorem intOfJson?_fits {raw : Json} {a : Atom}
    (read : intOfJson? raw = some a) : a.Fits (.scalar .int) := by
  unfold intOfJson? at read
  split at read
  · split at read
    · cases read
      trivial
    · obtain ⟨i, -, rfl⟩ := Option.map_eq_some_iff.mp read
      trivial
  · obtain ⟨i, -, rfl⟩ := Option.map_eq_some_iff.mp read
    trivial
  · cases read

theorem scalarOfJson?_fits {scalar : Scalar} {raw : Json} {a : Atom}
    (read : scalarOfJson? scalar raw = some a) : a.Fits (.scalar scalar) := by
  unfold scalarOfJson? at read
  split at read
  · cases read
    trivial
  · exact intOfJson?_fits read
  · obtain ⟨x, -, rfl⟩ := Option.map_eq_some_iff.mp read
    trivial
  · cases read
    trivial
  · obtain ⟨b, -, rfl⟩ := Option.map_eq_some_iff.mp read
    trivial
  · obtain ⟨d, -, rfl⟩ := Option.map_eq_some_iff.mp read
    trivial
  · obtain ⟨t, -, rfl⟩ := Option.map_eq_some_iff.mp read
    trivial
  · cases read

theorem ofJson?_fits {type : ElementType} {raw : Json} {a : Atom}
    (read : ofJson? type raw = some a) : a.Fits type := by
  unfold ofJson? at read
  split at read
  · exact scalarOfJson?_fits read
  · cases read
    trivial
  · split at read
    · cases read
    · cases read
      trivial
  · cases read

theorem Fits.isReference {a : Atom} {type : FieldType}
    (fits : a.Fits type.element) {id : String} (named : a.refId? = some id) :
    type.isReference = true := by
  cases a with
  | ref id =>
      rw [FieldType.isReference]
      cases element : type.element with
      | reference target => rfl
      | scalar | choice => simp [element, Fits] at fits
  | string | int | float | bool | date | timestamp => simp [refId?] at named

end Atom

namespace Value

theorem elementsOfJson_cases {type : ElementType} {index : Nat}
    {raws : List Json} {values : List Value}
    (read : elementsOfJson type index raws = .ok values) :
    ∃ items : List Atom, values = items.map .atom ∧
      ∀ a ∈ items, ∃ raw ∈ raws, Atom.ofJson? type raw = some a := by
  induction raws generalizing index values with
  | nil =>
      cases read
      exact ⟨[], rfl, by simp⟩
  | cons raw rest ih =>
      rw [elementsOfJson] at read
      split at read
      next a first =>
          cases others : elementsOfJson type (index + 1) rest with
          | error index => simp [others, Except.map] at read
          | ok taken =>
              rw [others] at read
              cases read
              obtain ⟨items, rfl, each⟩ := ih others
              refine ⟨a :: items, rfl,
                List.forall_mem_cons.mpr
                  ⟨⟨raw, by simp, first⟩, fun b member => ?_⟩⟩
              obtain ⟨given, listed, found⟩ := each b member
              exact ⟨given, List.mem_cons_of_mem raw listed, found⟩
      next => cases read

theorem elementsOfJson_fit {type : ElementType} {index : Nat} {raws : List Json}
    {values : List Value} (read : elementsOfJson type index raws = .ok values) :
    ∀ value ∈ values, ∃ a, value = .atom a ∧ a.Fits type := by
  obtain ⟨items, rfl, each⟩ := elementsOfJson_cases read
  intro value member
  obtain ⟨a, listed, rfl⟩ := List.mem_map.mp member
  obtain ⟨raw, -, found⟩ := each a listed
  exact ⟨a, rfl, Atom.ofJson?_fits found⟩

theorem ofJson_cases {field : Field} {raw : Json} {value : Value}
    (read : ofJson field raw = .ok value) :
    (field.type.many = false ∧
      ∃ a, Atom.ofJson? field.type.element raw = some a ∧ value = .atom a) ∨
      field.type.many = true ∧
        ∃ items values, raw = .array items ∧
          elementsOfJson field.type.element 0 items = .ok values ∧
          value = .array values := by
  simp only [ofJson] at read
  split at read
  next single =>
      split at read
      next a found =>
          cases read
          exact .inl ⟨by simpa using single, a, found, rfl⟩
      next => cases read
  next many =>
      split at read
      next items =>
          split at read
          next values found =>
              cases read
              exact .inr ⟨by simpa using many, items, values, rfl, found, rfl⟩
          next => cases read
      next => cases read

theorem ofJson_fits {field : Field} {raw : Json} {value : Value}
    (read : ofJson field raw = .ok value) : value.Fits field.type := by
  rcases ofJson_cases read with
    ⟨single, a, found, rfl⟩ | ⟨many, items, values, -, found, rfl⟩
  · exact ⟨single, Atom.ofJson?_fits found⟩
  · exact ⟨many, elementsOfJson_fit found⟩

theorem Fits.prune {value : Value} {type : FieldType} (fits : value.Fits type)
    (removed : List String) : (value.prune removed).Fits type := by
  cases value with
  | null => exact fits
  | atom a =>
      rw [prune_atom]
      split
      · trivial
      · exact fits
  | array items =>
      exact ⟨fits.1,
        fun item member => fits.2 item (List.mem_filter.mp member).1⟩

theorem Fits.isReference {items : List Value} {type : FieldType}
    (fits : (array items).Fits type) {id : String}
    (refers : (array items).references id = true) :
    type.many = true ∧ type.isReference = true := by
  refine ⟨fits.1, ?_⟩
  rw [references, anyReferences_eq_any, List.any_eq_true] at refers
  obtain ⟨item, member, refers⟩ := refers
  obtain ⟨a, rfl, typed⟩ := fits.2 item member
  exact typed.isReference (by simpa [references] using refers)

end Value

/-- Each attribute belongs to a field of the entity and has its type. -/
def Attributes.Fit (attributes : Attributes) (entity : Entity) : Prop :=
  ∀ name value, attributes.value? name = some value →
    ∃ field ∈ entity.fields, field.name = name ∧ value.Fits field.type

theorem Attributes.Fit.merge {attributes changes : Attributes} {entity : Entity}
    (old : attributes.Fit entity) (new : changes.Fit entity) :
    Attributes.Fit (attributes.merge changes) entity :=
  Fields.forall_merge attributes old new

namespace Payload

/-- The value that a member gives for a field; null stays null. -/
def ofMember (field : Field) (raw : Json) : Except FieldError Value :=
  match raw with
  | .null => .ok .null
  | raw => Value.ofJson field raw

theorem ofMember_of_ne {field : Field} {raw : Json} (present : raw ≠ .null) :
    ofMember field raw = Value.ofJson field raw := by
  rw [ofMember]
  exact present

theorem ofMember_fits {field : Field} {raw : Json} {value : Value}
    (read : ofMember field raw = .ok value) : value.Fits field.type := by
  by_cases null : raw = .null
  · subst null
    cases read
    trivial
  · rw [ofMember_of_ne null] at read
    exact Value.ofJson_fits read

/-- The members of the payload that are meant for the fields are read as the
attributes. -/
structure Gives (payload : Payload) (fields : List Field)
    (attributes : Attributes) : Prop where
  source :
    ∀ name value, attributes.value? name = some value →
      ∃ field ∈ fields, field.name = name ∧
        ∃ raw, payload.value? name = some raw ∧ ofMember field raw = .ok value
  taken :
    ∀ field ∈ fields, ∀ raw, payload.value? field.name = some raw →
      (∃ value, ofMember field raw = .ok value) ∧
        (attributes.value? field.name).isSome

theorem Gives.nil (payload : Payload) : payload.Gives [] ∅ where
  source := by simp
  taken := by simp

variable {payload : Payload} {fields : List Field} {field : Field}
  {attributes : Attributes}

theorem Gives.absent (gives : payload.Gives fields attributes)
    (absent : payload.value? field.name = none) :
    payload.Gives (fields ++ [field]) attributes where
  source := by
    intro name value found
    obtain ⟨origin, member, read⟩ := gives.source name value found
    exact ⟨origin, by simp [member], read⟩
  taken := by
    intro other member raw present
    rcases List.mem_append.mp member with member | last
    · exact gives.taken other member raw present
    · obtain rfl := List.mem_singleton.mp last
      simp [absent] at present

theorem Gives.put (gives : payload.Gives fields attributes) {raw : Json}
    {value : Value} (present : payload.value? field.name = some raw)
    (read : ofMember field raw = .ok value) :
    payload.Gives (fields ++ [field]) (attributes.put field.name value) where
  source := by
    intro name other found
    rw [Fields.value?_put] at found
    split at found
    next here =>
        cases found
        exact ⟨field, by simp, here, raw, here ▸ present, read⟩
    next elsewhere =>
        obtain ⟨origin, member, known⟩ := gives.source name other found
        exact ⟨origin, by simp [member], known⟩
  taken := by
    intro other member given found
    rw [Fields.value?_put]
    rcases List.mem_append.mp member with member | last
    · obtain ⟨reads, kept⟩ := gives.taken other member given found
      refine ⟨reads, ?_⟩
      split
      · rfl
      · exact kept
    · obtain rfl := List.mem_singleton.mp last
      rw [present, Option.some.injEq] at found
      exact ⟨⟨value, found ▸ read⟩, by simp⟩

theorem takeField_cases {progress : Progress}
    (clean : (takeField payload progress field).errors = []) :
    progress.errors = [] ∧
      (payload.value? field.name = none ∧
        takeField payload progress field = progress ∨
        ∃ raw value, payload.value? field.name = some raw ∧
          ofMember field raw = .ok value ∧
          takeField payload progress field = { progress with
            attributes := progress.attributes.put field.name value }) := by
  rw [takeField] at clean ⊢
  split at clean
  next failed => simp [clean] at failed
  next unfailed =>
      rw [if_neg unfailed]
      split at clean
      next absent => exact ⟨clean, .inl ⟨absent, rfl⟩⟩
      next null => exact ⟨clean, .inr ⟨.null, .null, null, rfl, rfl⟩⟩
      next raw present some =>
          split at clean
          next value read =>
              rw [← ofMember_of_ne present] at read
              exact ⟨clean, .inr ⟨raw, value, some, read, rfl⟩⟩
          next => simp at clean

theorem gives_of_takeFields {errors : List FieldError}
    (clean : (fields.foldl (takeField payload) { errors }).errors = []) :
    errors = [] ∧
      payload.Gives fields
        (fields.foldl (takeField payload) { errors }).attributes := by
  -- errors are only added, so that none in the end means none before the last
  -- field
  induction fields using List.reverseRecOn with
  | nil => exact ⟨clean, .nil payload⟩
  | append_singleton fields field ih =>
      rw [List.foldl_append, List.foldl_cons, List.foldl_nil] at clean ⊢
      obtain ⟨before, taken⟩ := takeField_cases clean
      obtain ⟨none, gives⟩ := ih before
      refine ⟨none, ?_⟩
      rcases taken with ⟨absent, same⟩ | ⟨raw, value, present, read, same⟩
      · rw [same]
        exact gives.absent absent
      · rw [same]
        exact gives.put present read

variable {schema : Schema} {entity : Entity} {mode : WriteMode}
  {current : Attributes}

theorem check_gives
    (valid : payload.check schema entity mode current = .ok attributes) :
    (∀ field ∈ entity.fields, field.required = true →
      isMissing (payload.effective entity mode) mode current field = false) ∧
      (payload.effective entity mode).Gives entity.fields attributes ∧
      ∀ name value, attributes.value? name = some value →
        membershipError? schema entity name value = none := by
  simp only [check] at valid
  split at valid
  next clean =>
      cases valid
      obtain ⟨taken, members⟩ := List.append_eq_nil_iff.mp clean
      obtain ⟨missing, gives⟩ := gives_of_takeFields taken
      refine ⟨?_, gives, ?_⟩
      · intro field declared required
        rw [missingErrors, List.map_eq_nil_iff,
          List.filter_eq_nil_iff] at missing
        simpa [required] using missing field declared
      · intro name value found
        rw [List.filterMap_eq_nil_iff] at members
        exact members (name, value) ((Fields.value?_eq_some_iff ..).mp found)
  next => cases valid

theorem check_fit
    (valid : payload.check schema entity mode current = .ok attributes) :
    attributes.Fit entity := by
  obtain ⟨-, gives, -⟩ := check_gives valid
  intro name value found
  obtain ⟨field, declared, own, raw, -, read⟩ := gives.source name value found
  exact ⟨field, declared, own, ofMember_fits read⟩

theorem applyDefault_cases (payload : Payload) (field : Field) :
    payload.applyDefault field = payload ∨
      ∃ raw, field.default = some raw ∧
        payload.applyDefault field = payload.put field.name raw := by
  rw [applyDefault]
  split
  next raw usable =>
      rw [usableDefault?] at usable
      split at usable
      next => cases usable
      next =>
          split
          next => exact .inr ⟨raw, (Option.filter_eq_some_iff.mp usable).1, rfl⟩
          next => exact .inl rfl
  next => exact .inl rfl

theorem default_of_withDefaults {name : String} {raw : Json}
    (absent : payload.value? name = none)
    (found : (payload.withDefaults entity).value? name = some raw) :
    ∃ field ∈ entity.fields, field.name = name ∧ field.default = some raw := by
  rw [withDefaults] at found
  generalize entity.fields = fields at found ⊢
  induction fields using List.reverseRecOn with
  | nil =>
      rw [List.foldl_nil, absent] at found
      cases found
  | append_singleton fields field ih =>
      rw [List.foldl_append, List.foldl_cons, List.foldl_nil] at found
      have earlier :
          (fields.foldl applyDefault payload).value? name = some raw →
            ∃ source ∈ fields ++ [field], source.name = name ∧
              source.default = some raw := by
        intro found
        obtain ⟨source, member, own, given⟩ := ih found
        exact ⟨source, List.mem_append_left _ member, own, given⟩
      rcases applyDefault_cases (fields.foldl applyDefault payload) field with
        same | ⟨other, given, put⟩
      · rw [same] at found
        exact earlier found
      · rw [put, Fields.value?_put] at found
        split at found
        next here =>
            cases found
            exact ⟨field, by simp, here, given⟩
        next elsewhere => exact earlier found

theorem default_of_check
    (valid : payload.check schema entity mode current = .ok attributes)
    {name : String} (absent : payload.value? name = none) {value : Value}
    (held : attributes.value? name = some value) :
    mode = .create ∧
      ∃ field source, (field ∈ entity.fields ∧ field.name = name) ∧
        (source ∈ entity.fields ∧ source.name = name) ∧
        ∃ raw, source.default = some raw ∧ ofMember field raw = .ok value := by
  obtain ⟨-, gives, -⟩ := check_gives valid
  obtain ⟨field, reader, own, raw, found, read⟩ := gives.source name value held
  rw [effective] at found
  split at found
  next new =>
      obtain ⟨source, giver, same, given⟩ :=
        default_of_withDefaults absent found
      exact ⟨new, field, source, ⟨reader, own⟩, ⟨giver, same⟩, raw, given, read⟩
  next =>
      rw [absent] at found
      cases found

end Payload

end RecordStore
