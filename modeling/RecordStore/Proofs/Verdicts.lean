import RecordStore.Proofs.Admission

namespace RecordStore

namespace Payload

/-! Every field of a payload is judged on its own. Although the check goes over
the fields three times and passes over those that have failed, it reports for
each field what is wrong with its own member, and nothing else. -/

/-- The member that counts for a field: in a new record the default, if it can
be used, stands in for one that is missing or null. -/
def given? (payload : Payload) (mode : WriteMode) (field : Field) :
    Option Json :=
  let own := payload.value? field.name
  if mode = .create ∧ own.all Json.isNull then (usableDefault? field).or own
  else own

/-- The field is null, or absent where it has no stored value to fall back
to. -/
def Lacks (payload : Payload) (mode : WriteMode) (current : Attributes)
    (field : Field) : Prop :=
  payload.given? mode field = some .null ∨
    payload.given? mode field = none ∧
      (mode = .patch → current.present? field.name = none)

/-- Values that are not all among the choices of a field, or not all codes of
its catalog. -/
inductive Outside (schema : Schema) (field : Field) (values : List Value) :
    Fault → Prop
  | choices {choices : List String} {value : Value}
      (declared : field.type.choices? = some choices) (some : choices ≠ [])
      (member : value ∈ values) (outside : value.key ∉ choices) :
      Outside schema field values .notAllowed
  | unknownCatalog {name : String}
      (chosen : ∀ choices, field.type.choices? = some choices → choices ≠ [] →
        ∀ value ∈ values, value.key ∈ choices)
      (bound : field.catalogKey? = some name)
      (unknown : schema.catalog? name = none) :
      Outside schema field values (.unknownCatalog name)
  | catalog {name : String} {catalog : Catalog} {value : Value}
      (bound : field.catalogKey? = some name)
      (known : schema.catalog? name = some catalog) (member : value ∈ values)
      (outside : catalog.contains value.key = false) :
      Outside schema field values .notAllowed

/-- What is wrong with a field by itself, whatever the other fields are. -/
inductive Fails (schema : Schema) (mode : WriteMode) (current : Attributes)
    (payload : Payload) (field : Field) : Fault → Prop
  | missing (required : field.required = true)
      (lacks : payload.Lacks mode current field) :
      Fails schema mode current payload field .missing
  | mistyped {raw : Json} {error : FieldError}
      (given : payload.given? mode field = some raw)
      (unread : ofMember field raw = .error error) :
      Fails schema mode current payload field error.fault
  | outside {raw : Json} {value : Value} {fault : Fault}
      (given : payload.given? mode field = some raw)
      (read : Value.ofJson field raw = .ok value)
      (outside : Outside schema field (elements value) fault) :
      Fails schema mode current payload field fault

theorem Fails.congr {schema : Schema} {mode : WriteMode}
    {current other : Attributes} {payload changed : Payload} {field : Field}
    {fault : Fault}
    (sameMember : changed.value? field.name = payload.value? field.name)
    (sameValue : other.value? field.name = current.value? field.name)
    (fails : Fails schema mode current payload field fault) :
    Fails schema mode other changed field fault := by
  have given : changed.given? mode field = payload.given? mode field := by
    rw [given?, sameMember, ← given?]
  have present : other.present? field.name = current.present? field.name := by
    rw [Attributes.present?, sameValue, ← Attributes.present?]
  cases fails with
  | missing required lacks =>
      rw [Lacks, ← given, ← present] at lacks
      exact .missing required lacks
  | mistyped found unread => exact .mistyped (given.trans found) unread
  | outside found read outside =>
      exact .outside (given.trans found) read outside

end Payload

theorem Value.field_of_ofJson {field : Field} {raw : Json} {error : FieldError}
    (unread : ofJson field raw = .error error) : error.field = field.name := by
  simp only [ofJson] at unread
  split at unread
  · split at unread
    · cases unread
    · cases unread
      rfl
  · split at unread
    · split at unread
      · cases unread
      · cases unread
        rfl
    · cases unread
      rfl

namespace Payload

theorem field_of_ofMember {field : Field} {raw : Json} {error : FieldError}
    (unread : ofMember field raw = .error error) :
    error.field = field.name := by
  by_cases null : raw = .null
  · subst null
    cases unread
  · rw [ofMember_of_ne null] at unread
    exact Value.field_of_ofJson unread

variable {fields : List Field}

theorem eq_of_name_eq (distinct : (fields.map Field.name).Nodup) {a b : Field}
    (memberA : a ∈ fields) (memberB : b ∈ fields) (same : a.name = b.name) :
    a = b :=
  List.inj_on_of_nodup_map distinct memberA memberB same

theorem field?_name {entity : Entity}
    (distinct : (entity.fields.map Field.name).Nodup) {field : Field}
    (declared : field ∈ entity.fields) :
    entity.field? field.name = some field := by
  cases found : entity.field? field.name with
  | none =>
      have missed := List.find?_eq_none.mp found field declared
      simp at missed
  | some other =>
      have same : other.name = field.name := by
        simpa using List.find?_some found
      rw [eq_of_name_eq distinct (List.mem_of_find?_eq_some found) declared
        same]

theorem value?_applyDefault (payload : Payload) (field : Field)
    (name : String) :
    (payload.applyDefault field).value? name =
      if field.name = name then payload.given? .create field
      else payload.value? name := by
  rw [applyDefault, given?]
  by_cases here : field.name = name
  · subst here
    cases usableDefault? field with
    | none => simp
    | some raw =>
        by_cases null : (payload.value? field.name).all Json.isNull
        · simp [null, Fields.value?_put]
        · simp [null]
  · rw [if_neg here]
    cases usableDefault? field with
    | none => rfl
    | some raw =>
        dsimp only
        split
        · rw [Fields.value?_put, if_neg here]
        · rfl

theorem value?_applyDefaults_of_not_mem (payload : Payload) {name : String}
    (undeclared : name ∉ fields.map Field.name) :
    (fields.foldl applyDefault payload).value? name = payload.value? name := by
  induction fields generalizing payload with
  | nil => rfl
  | cons field rest ih =>
      rw [List.map_cons, List.mem_cons, not_or] at undeclared
      rw [List.foldl_cons, ih _ undeclared.2, value?_applyDefault,
        if_neg (Ne.symm undeclared.1)]

theorem value?_applyDefaults (payload : Payload)
    (distinct : (fields.map Field.name).Nodup) {field : Field}
    (declared : field ∈ fields) :
    (fields.foldl applyDefault payload).value? field.name =
      payload.given? .create field := by
  induction fields generalizing payload with
  | nil => cases declared
  | cons first rest ih =>
      obtain ⟨absent, distinct⟩ := List.nodup_cons.mp distinct
      rw [List.foldl_cons]
      rcases List.mem_cons.mp declared with rfl | declared
      · rw [value?_applyDefaults_of_not_mem _ absent, value?_applyDefault,
          if_pos rfl]
      · have apart : first.name ≠ field.name :=
          fun same => absent (same ▸ List.mem_map_of_mem declared)
        rw [ih _ distinct declared, given?, value?_applyDefault, if_neg apart,
          ← given?]

variable {entity : Entity}

theorem value?_effective (distinct : (entity.fields.map Field.name).Nodup)
    (mode : WriteMode) (payload : Payload) {field : Field}
    (declared : field ∈ entity.fields) :
    (payload.effective entity mode).value? field.name =
      payload.given? mode field := by
  rw [effective]
  split
  next new =>
      subst new
      exact value?_applyDefaults payload distinct declared
  next => simp [given?, *]

theorem isMissing_iff (distinct : (entity.fields.map Field.name).Nodup)
    (mode : WriteMode) (payload : Payload) (current : Attributes)
    {field : Field} (declared : field ∈ entity.fields) :
    isMissing (payload.effective entity mode) mode current field = true ↔
      payload.Lacks mode current field := by
  rw [isMissing, value?_effective distinct mode payload declared, Lacks]
  cases payload.given? mode field with
  | none =>
      by_cases patch : mode = .patch <;> simp [patch]
  | some raw => cases raw <;> simp [Json.isNull]

def Takes (payload : Payload) (field : Field) (value : Value) : Prop :=
  ∃ raw, payload.value? field.name = some raw ∧ ofMember field raw = .ok value

def Refuses (payload : Payload) (field : Field) (error : FieldError) : Prop :=
  ∃ raw, payload.value? field.name = some raw ∧
    ofMember field raw = .error error

theorem reading_unique {payload : Payload} {field : Field}
    {first second : Except FieldError Value}
    (once : ∃ raw, payload.value? field.name = some raw ∧
      ofMember field raw = first)
    (again : ∃ raw, payload.value? field.name = some raw ∧
      ofMember field raw = second) : first = second := by
  obtain ⟨raw, present, read⟩ := once
  obtain ⟨other, same, reread⟩ := again
  obtain rfl := Option.some.inj (present.symm.trans same)
  exact read.symm.trans reread

theorem takeField_eq (payload : Payload) (progress : Progress) (field : Field) :
    takeField payload progress field =
      if progress.errors.any (·.field == field.name) then progress
      else match payload.value? field.name with
        | none => progress
        | some raw =>
          match ofMember field raw with
          | .ok value => { progress with
            attributes := progress.attributes.put field.name value }
          | .error error =>
            { progress with errors := progress.errors ++ [error] } := by
  rw [takeField]
  split
  · rfl
  · cases payload.value? field.name with
    | none => rfl
    | some raw => cases raw <;> rfl

/-- Where the second pass stands after some of the fields: those that had failed
before are passed over, the others have given a value or an error of their
own. -/
structure Judges (payload : Payload) (failed : List FieldError)
    (fields : List Field) (progress : Progress) : Prop where
  errors :
    ∀ error, error ∈ progress.errors ↔
      error ∈ failed ∨
        ∃ field ∈ fields, field.name ∉ failed.map FieldError.field ∧
          payload.Refuses field error
  nodup : (progress.errors.map FieldError.field).Nodup
  values :
    ∀ name value, progress.attributes.value? name = some value ↔
      ∃ field ∈ fields, field.name = name ∧ name ∉ failed.map FieldError.field ∧
        payload.Takes field value

theorem Judges.nil (payload : Payload) {failed : List FieldError}
    (distinct : (failed.map FieldError.field).Nodup) :
    payload.Judges failed [] { errors := failed } where
  errors := by simp
  nodup := distinct
  values := by simp

theorem exists_mem_concat {α : Type} {items : List α} {a : α} {P : α → Prop} :
    (∃ x ∈ items ++ [a], P x) ↔ (∃ x ∈ items, P x) ∨ P a := by
  simp [or_and_right, exists_or]

section step

variable {payload : Payload} {failed : List FieldError} {progress : Progress}
  {field : Field}

theorem Judges.mem_failed (judges : payload.Judges failed fields progress)
    (new : field.name ∉ fields.map Field.name) {error : FieldError}
    (member : error ∈ progress.errors) (own : error.field = field.name) :
    field.name ∈ failed.map FieldError.field := by
  rcases (judges.errors error).mp member with
    earlier | ⟨other, declared, -, raw, -, unread⟩
  · exact own ▸ List.mem_map_of_mem earlier
  · have same := (field_of_ofMember unread).symm.trans own
    exact absurd (same ▸ List.mem_map_of_mem declared) new

theorem Judges.pass (judges : payload.Judges failed fields progress)
    (refuses : ∀ error, field.name ∉ failed.map FieldError.field →
      ¬payload.Refuses field error)
    (takes : ∀ value, field.name ∉ failed.map FieldError.field →
      ¬payload.Takes field value) :
    payload.Judges failed (fields ++ [field]) progress where
  errors := by
    intro error
    rw [judges.errors, exists_mem_concat]
    have none : ¬(field.name ∉ failed.map FieldError.field ∧
        payload.Refuses field error) :=
      fun ⟨free, refused⟩ => refuses error free refused
    simp only [none, or_false]
  nodup := judges.nodup
  values := by
    intro name value
    rw [judges.values, exists_mem_concat]
    have none : ¬(field.name = name ∧ name ∉ failed.map FieldError.field ∧
        payload.Takes field value) := by
      rintro ⟨rfl, free, taken⟩
      exact takes value free taken
    simp only [none, or_false]

theorem Judges.take (judges : payload.Judges failed fields progress)
    (new : field.name ∉ fields.map Field.name)
    (free : field.name ∉ failed.map FieldError.field) {value : Value}
    (takes : payload.Takes field value) :
    payload.Judges failed (fields ++ [field]) { progress with
      attributes := progress.attributes.put field.name value } where
  errors := by
    intro error
    have accepted : ¬payload.Refuses field error := by
      intro refuses
      cases reading_unique takes refuses
    rw [judges.errors, exists_mem_concat]
    simp [accepted]
  nodup := judges.nodup
  values := by
    intro name other
    rw [Fields.value?_put, exists_mem_concat]
    split
    next here =>
        subst here
        constructor
        · intro same
          exact .inr ⟨rfl, free, Option.some.inj same ▸ takes⟩
        · rintro (⟨earlier, declared, same, -⟩ | ⟨-, -, again⟩)
          · exact absurd (same ▸ List.mem_map_of_mem declared) new
          · rw [Except.ok.inj (reading_unique takes again)]
    next elsewhere =>
        rw [judges.values]
        simp [elsewhere]

theorem Judges.refuse (judges : payload.Judges failed fields progress)
    (new : field.name ∉ fields.map Field.name)
    (free : field.name ∉ failed.map FieldError.field) {error : FieldError}
    (refuses : payload.Refuses field error) :
    payload.Judges failed (fields ++ [field])
      { progress with errors := progress.errors ++ [error] } where
  errors := by
    intro other
    rw [List.mem_append, List.mem_singleton, judges.errors, exists_mem_concat,
      or_assoc]
    have own : other = error ↔ payload.Refuses field other := by
      constructor
      · rintro rfl
        exact refuses
      · intro again
        exact Except.error.inj (reading_unique again refuses)
    simp [own, free]
  nodup := by
    obtain ⟨raw, -, unread⟩ := refuses
    rw [List.map_append, List.map_singleton, ← List.concat_eq_append]
    refine judges.nodup.concat ?_
    intro member
    obtain ⟨earlier, member, same⟩ := List.mem_map.mp member
    exact free
      (judges.mem_failed new member (same.trans (field_of_ofMember unread)))
  values := by
    intro name value
    have refused : ¬payload.Takes field value := by
      intro takes
      cases reading_unique takes refuses
    rw [judges.values, exists_mem_concat]
    simp [refused]

theorem Judges.step (judges : payload.Judges failed fields progress)
    (new : field.name ∉ fields.map Field.name) :
    payload.Judges failed (fields ++ [field])
      (takeField payload progress field) := by
  rw [takeField_eq]
  split
  next passed =>
      obtain ⟨error, member, own⟩ := List.any_eq_true.mp passed
      have before := judges.mem_failed new member (beq_iff_eq.mp own)
      exact judges.pass (fun _ free => absurd before free) fun _ free =>
        absurd before free
  next unfailed =>
      have free : field.name ∉ failed.map FieldError.field := by
        intro before
        obtain ⟨error, member, own⟩ := List.mem_map.mp before
        refine unfailed (List.any_eq_true.mpr
          ⟨error, (judges.errors error).mpr (.inl member), ?_⟩)
        exact beq_iff_eq.mpr own
      split
      next absent =>
          refine judges.pass ?_ ?_
          · rintro _ - ⟨raw, present, -⟩
            rw [absent] at present
            cases present
          · rintro _ - ⟨raw, present, -⟩
            rw [absent] at present
            cases present
      next raw present =>
          split
          next value read => exact judges.take new free ⟨raw, present, read⟩
          next error unread =>
            exact judges.refuse new free ⟨raw, present, unread⟩

end step

theorem judges_takeFields (payload : Payload) {failed : List FieldError}
    (apart : (failed.map FieldError.field).Nodup)
    (distinct : (fields.map Field.name).Nodup) :
    payload.Judges failed fields
      (fields.foldl (takeField payload) { errors := failed }) := by
  induction fields using List.reverseRecOn with
  | nil => exact .nil payload apart
  | append_singleton fields field ih =>
      rw [List.map_append, List.nodup_append] at distinct
      obtain ⟨distinct, -, apart⟩ := distinct
      rw [List.foldl_append, List.foldl_cons, List.foldl_nil]
      exact (ih distinct).step fun again => apart _ again _ (by simp) rfl

section verdict

variable {schema : Schema} {mode : WriteMode} {current : Attributes}
  {payload : Payload} {field : Field}

theorem mem_missingErrors_iff (distinct : (entity.fields.map Field.name).Nodup)
    (error : FieldError) :
    error ∈ missingErrors entity (payload.effective entity mode) mode current ↔
      ∃ field ∈ entity.fields, field.required = true ∧
        payload.Lacks mode current field ∧ ⟨field.name, .missing⟩ = error := by
  simp only [missingErrors, List.mem_map, List.mem_filter, Bool.and_eq_true,
    and_assoc]
  refine exists_congr fun field => and_congr_right fun declared => ?_
  rw [isMissing_iff distinct mode payload current declared]

theorem nodup_missingErrors (distinct : (entity.fields.map Field.name).Nodup) :
    ((missingErrors entity payload mode current).map
      FieldError.field).Nodup := by
  rw [missingErrors, List.map_map]
  exact distinct.sublist (List.filter_sublist.map _)

theorem name_mem_missing_iff (distinct : (entity.fields.map Field.name).Nodup)
    (declared : field ∈ entity.fields) :
    field.name ∈ (missingErrors entity (payload.effective entity mode) mode
      current).map FieldError.field ↔
      field.required = true ∧ payload.Lacks mode current field := by
  simp only [List.mem_map, mem_missingErrors_iff distinct]
  constructor
  · rintro ⟨_, ⟨other, member, required, lacks, rfl⟩, same⟩
    rw [← eq_of_name_eq distinct member declared same]
    exact ⟨required, lacks⟩
  · rintro ⟨required, lacks⟩
    exact ⟨_, ⟨field, declared, required, lacks, rfl⟩, rfl⟩

theorem not_lacks_of_given {raw : Json}
    (given : payload.given? mode field = some raw) (present : raw ≠ .null) :
    ¬payload.Lacks mode current field := by
  rw [Lacks, given]
  rintro (null | ⟨absent, -⟩)
  · exact present (Option.some.inj null)
  · cases absent

theorem choiceFault?_eq_some_iff (values : List Value) (fault : Fault) :
    choiceFault? field values = some fault ↔
      (∃ choices, field.type.choices? = some choices ∧ choices ≠ [] ∧
        ∃ value ∈ values, value.key ∉ choices) ∧ fault = .notAllowed := by
  rw [choiceFault?]
  cases field.type.choices? with
  | none => simp
  | some choices => simp [eq_comm (a := fault)]

theorem catalogFault?_eq_some_iff (values : List Value) (fault : Fault) :
    catalogFault? schema field values = some fault ↔
      ∃ name, field.catalogKey? = some name ∧
        (schema.catalog? name = none ∧ fault = .unknownCatalog name ∨
          ∃ catalog, schema.catalog? name = some catalog ∧
            (∃ value ∈ values, catalog.contains value.key = false) ∧
              fault = .notAllowed) := by
  rw [catalogFault?]
  cases field.catalogKey? with
  | none => simp
  | some name =>
      cases found : schema.catalog? name <;>
        simp [found, eq_comm (a := fault)]

theorem outside_iff (values : List Value) (fault : Fault) :
    (choiceFault? field values).or (catalogFault? schema field values) =
      some fault ↔
      Outside schema field values fault := by
  rw [Option.or_eq_some_iff, choiceFault?_eq_some_iff,
    choiceFault?_eq_none_iff, catalogFault?_eq_some_iff]
  constructor
  · rintro (⟨⟨choices, declared, some, value, member, outside⟩, rfl⟩ |
      ⟨chosen, name, bound, ⟨unknown, rfl⟩ |
        ⟨catalog, known, ⟨value, member, outside⟩, rfl⟩⟩)
    · exact .choices declared some member outside
    · exact .unknownCatalog chosen bound unknown
    · exact .catalog bound known member outside
  · intro outside
    cases outside with
    | choices declared some member outside =>
        exact .inl ⟨⟨_, declared, some, _, member, outside⟩, rfl⟩
    | unknownCatalog chosen bound unknown =>
        exact .inr ⟨chosen, _, bound, .inl ⟨unknown, rfl⟩⟩
    | catalog bound known member outside =>
        by_cases chosen : ∀ choices, field.type.choices? = some choices →
          choices ≠ [] → ∀ value ∈ values, value.key ∈ choices
        · exact .inr
            ⟨chosen, _, bound, .inr ⟨_, known, ⟨_, member, outside⟩, rfl⟩⟩
        · push Not at chosen
          exact .inl ⟨chosen, rfl⟩

theorem membershipError?_eq_some_iff
    (distinct : (entity.fields.map Field.name).Nodup)
    (declared : field ∈ entity.fields) (value : Value) (error : FieldError) :
    membershipError? schema entity field.name value = some error ↔
      value.isNull = false ∧ error.field = field.name ∧
        Outside schema field (elements value) error.fault := by
  rw [membershipError?, field?_name distinct declared, Option.bind_some]
  cases value.isNull with
  | true => simp
  | false =>
      simp only [Bool.false_eq_true, if_false, Option.map_eq_some_iff,
        outside_iff, true_and]
      constructor
      · rintro ⟨fault, outside, rfl⟩
        exact ⟨rfl, outside⟩
      · rintro ⟨own, outside⟩
        exact ⟨error.fault, outside, by rw [← own]⟩

theorem takes_effective_iff (distinct : (entity.fields.map Field.name).Nodup)
    (declared : field ∈ entity.fields) (value : Value) :
    Takes (payload.effective entity mode) field value ↔
      ∃ raw, payload.given? mode field = some raw ∧
        ofMember field raw = .ok value := by
  rw [Takes, value?_effective distinct mode payload declared]

theorem refuses_effective_iff (distinct : (entity.fields.map Field.name).Nodup)
    (declared : field ∈ entity.fields) (error : FieldError) :
    Refuses (payload.effective entity mode) field error ↔
      ∃ raw, payload.given? mode field = some raw ∧
        ofMember field raw = .error error := by
  rw [Refuses, value?_effective distinct mode payload declared]

/-- The second pass over the fields of an entity. -/
def taken (entity : Entity) (mode : WriteMode) (current : Attributes)
    (payload : Payload) : Progress :=
  entity.fields.foldl (takeField (payload.effective entity mode))
    { errors := missingErrors entity (payload.effective entity mode) mode
        current }

/-- The third pass, over the attributes that the second has given. -/
def strangers (schema : Schema) (entity : Entity) (mode : WriteMode)
    (current : Attributes) (payload : Payload) : List FieldError :=
  (taken entity mode current payload).attributes.items.filterMap
    fun (name, value) => membershipError? schema entity name value

theorem judges_taken (distinct : (entity.fields.map Field.name).Nodup)
    (mode : WriteMode) (current : Attributes) (payload : Payload) :
    (payload.effective entity mode).Judges
      (missingErrors entity (payload.effective entity mode) mode current)
        entity.fields (taken entity mode current payload) :=
  judges_takeFields _ (nodup_missingErrors distinct) distinct

theorem mem_strangers_iff (distinct : (entity.fields.map Field.name).Nodup)
    (error : FieldError) :
    error ∈ strangers schema entity mode current payload ↔
      ∃ field ∈ entity.fields, error.field = field.name ∧
        ¬(field.required = true ∧ payload.Lacks mode current field) ∧
        ∃ raw value, payload.given? mode field = some raw ∧
          ofMember field raw = .ok value ∧ value.isNull = false ∧
          Outside schema field (elements value) error.fault := by
  have judges := judges_taken distinct mode current payload
  simp only [strangers, List.mem_filterMap, Prod.exists,
    ← Fields.value?_eq_some_iff, judges.values]
  constructor
  · rintro ⟨_, value, ⟨field, declared, rfl, free, taken⟩, failed⟩
    rw [name_mem_missing_iff distinct declared] at free
    obtain ⟨raw, given, read⟩ :=
      (takes_effective_iff distinct declared value).mp taken
    obtain ⟨present, own, outside⟩ :=
      (membershipError?_eq_some_iff distinct declared ..).mp failed
    exact ⟨field, declared, own, free, raw, value, given, read, present,
      outside⟩
  · rintro ⟨field, declared, own, free, raw, value, given, read, present,
      outside⟩
    rw [← name_mem_missing_iff distinct declared] at free
    refine ⟨field.name, value, ⟨field, declared, rfl, free, ?_⟩, ?_⟩
    · exact (takes_effective_iff distinct declared value).mpr ⟨raw, given, read⟩
    · exact (membershipError?_eq_some_iff distinct declared ..).mpr
        ⟨present, own, outside⟩

theorem mem_taken_iff (distinct : (entity.fields.map Field.name).Nodup)
    (error : FieldError) :
    error ∈ (taken entity mode current payload).errors ↔
      ∃ field ∈ entity.fields, error.field = field.name ∧
        (field.required = true ∧ payload.Lacks mode current field ∧
          error.fault = .missing ∨
          ¬(field.required = true ∧ payload.Lacks mode current field) ∧
            ∃ raw, payload.given? mode field = some raw ∧
              ofMember field raw = .error error) := by
  rw [(judges_taken distinct mode current payload).errors,
    mem_missingErrors_iff distinct]
  constructor
  · rintro (⟨field, declared, required, lacks, rfl⟩ | ⟨field, declared, free,
      refused⟩)
    · exact ⟨field, declared, rfl, .inl ⟨required, lacks, rfl⟩⟩
    · rw [name_mem_missing_iff distinct declared] at free
      obtain ⟨raw, given, unread⟩ :=
        (refuses_effective_iff distinct declared error).mp refused
      exact ⟨field, declared, field_of_ofMember unread,
        .inr ⟨free, raw, given, unread⟩⟩
  · rintro ⟨field, declared, own, ⟨required, lacks, fault⟩ | ⟨free, refused⟩⟩
    · exact .inl ⟨field, declared, required, lacks, by rw [← own, ← fault]⟩
    · rw [← name_mem_missing_iff distinct declared] at free
      exact .inr ⟨field, declared, free,
        (refuses_effective_iff distinct declared error).mpr refused⟩

theorem ne_null_of_ofJson {raw : Json} {value : Value}
    (read : Value.ofJson field raw = .ok value) : raw ≠ .null := by
  rintro rfl
  rcases Value.ofJson_cases read with
    ⟨-, a, found, -⟩ | ⟨-, items, values, same, -⟩
  · cases element : field.type.element with
    | scalar scalar =>
        cases scalar <;> simp [element, Atom.ofJson?, Atom.scalarOfJson?,
          Atom.intOfJson?, Json.toBinary64?] at found
    | choice | reference => simp [element, Atom.ofJson?] at found
  · cases same

theorem mem_passes_iff (distinct : (entity.fields.map Field.name).Nodup)
    (error : FieldError) :
    error ∈ (taken entity mode current payload).errors ++
      strangers schema entity mode current payload ↔
      ∃ field ∈ entity.fields, error.field = field.name ∧
        payload.Fails schema mode current field error.fault := by
  rw [List.mem_append, mem_taken_iff distinct, mem_strangers_iff distinct]
  constructor
  · rintro (⟨field, declared, own,
      ⟨required, lacks, fault⟩ | ⟨-, raw, given, unread⟩⟩ | ⟨field, declared,
        own, -, raw, value, given, read, present, outside⟩)
    · exact ⟨field, declared, own, fault ▸ .missing required lacks⟩
    · exact ⟨field, declared, own, .mistyped given unread⟩
    · have some : raw ≠ .null := by
        rintro rfl
        cases read
        cases present
      rw [ofMember_of_ne some] at read
      exact ⟨field, declared, own, .outside given read outside⟩
  · rintro ⟨field, declared, own, fails⟩
    obtain ⟨name, fault⟩ := error
    dsimp only at own fails
    subst own
    cases fails with
    | missing required lacks =>
        exact .inl ⟨field, declared, rfl, .inl ⟨required, lacks, rfl⟩⟩
    | @mistyped raw error given unread =>
        have some : raw ≠ .null := by
          rintro rfl
          cases unread
        have whole : (⟨field.name, error.fault⟩ : FieldError) = error := by
          rw [← field_of_ofMember unread]
        exact .inl ⟨field, declared, rfl,
          .inr ⟨fun missing => not_lacks_of_given given some missing.2, raw,
            given, whole ▸ unread⟩⟩
    | @outside raw value _ given read outside =>
        have some := ne_null_of_ofJson read
        exact .inr ⟨field, declared, rfl,
          fun missing => not_lacks_of_given given some missing.2, raw, value,
          given, (ofMember_of_ne some).trans read, Value.isNull_of_ofJson read,
          outside⟩

theorem field_of_membershipError? {name : String} {value : Value}
    {error : FieldError}
    (failed : membershipError? schema entity name value = some error) :
    error.field = name := by
  rw [membershipError?] at failed
  split at failed
  · cases failed
  · obtain ⟨field, -, failed⟩ := Option.bind_eq_some_iff.mp failed
    obtain ⟨fault, -, rfl⟩ := Option.map_eq_some_iff.mp failed
    rfl

theorem nodup_passes (distinct : (entity.fields.map Field.name).Nodup) :
    (((taken entity mode current payload).errors ++
      strangers schema entity mode current payload).map
      FieldError.field).Nodup := by
  rw [List.map_append, List.nodup_append]
  refine ⟨(judges_taken distinct mode current payload).nodup, ?_, ?_⟩
  · rw [List.Nodup, List.pairwise_map, strangers]
    have names := (taken entity mode current payload).attributes.nodup_keys
    rw [List.Nodup, List.pairwise_map] at names
    refine names.filterMap _ ?_
    rintro ⟨name, value⟩ ⟨other, second⟩ apart error failed last failedToo same
    rw [field_of_membershipError? failed,
      field_of_membershipError? failedToo] at same
    exact apart same
  · rintro _ first _ second rfl
    obtain ⟨error, member, own⟩ := List.mem_map.mp first
    obtain ⟨stranger, memberToo, same⟩ := List.mem_map.mp second
    obtain ⟨field, declared, name, free, raw, value, given, read, -⟩ :=
      (mem_strangers_iff distinct stranger).mp memberToo
    obtain ⟨other, declaredToo, otherName, failed⟩ :=
      (mem_taken_iff distinct error).mp member
    obtain rfl : other = field :=
      eq_of_name_eq distinct declaredToo declared
        (otherName.symm.trans (own.trans (same.symm.trans name)))
    rcases failed with ⟨required, lacks, -⟩ | ⟨-, again, givenToo, unread⟩
    · exact free ⟨required, lacks⟩
    · obtain rfl := Option.some.inj (given.symm.trans givenToo)
      rw [read] at unread
      cases unread

def reported : Except StoreError Attributes → List FieldError
  | .error (.invalid errors) => errors
  | _ => []

theorem check_eq (schema : Schema) (entity : Entity) (mode : WriteMode)
    (current : Attributes) (payload : Payload) :
    payload.check schema entity mode current =
      match (taken entity mode current payload).errors ++
        strangers schema entity mode current payload with
      | [] => .ok (taken entity mode current payload).attributes
      | errors => .error (.invalid errors) := rfl

theorem reported_check (schema : Schema) (entity : Entity) (mode : WriteMode)
    (current : Attributes) (payload : Payload) :
    reported (payload.check schema entity mode current) =
      (taken entity mode current payload).errors ++
        strangers schema entity mode current payload := by
  rw [check_eq]
  split
  next none => exact none.symm
  next => rfl

theorem check_eq_ok_iff (attributes : Attributes) :
    payload.check schema entity mode current = .ok attributes ↔
      reported (payload.check schema entity mode current) = [] ∧
        (taken entity mode current payload).attributes = attributes := by
  rw [reported_check, check_eq]
  split
  next none => simp [none]
  next errors some => exact iff_of_false (by simp) fun sound => some sound.1

end verdict

/-- The check gives attributes exactly if no field fails by itself, and then the
values of the members that count; otherwise it reports one error for each field
that fails and none for any other. What it reports for a field stays the same if
no more than other members and other stored values change. -/
theorem check_exact {entity : Entity}
    (distinct : (entity.fields.map Field.name).Nodup) (schema : Schema)
    (mode : WriteMode) (current : Attributes) (payload : Payload) :
    ((∃ attributes, payload.check schema entity mode current = .ok attributes) ↔
      ∀ field ∈ entity.fields, ∀ fault,
        ¬payload.Fails schema mode current field fault) ∧
      (∀ attributes, payload.check schema entity mode current = .ok attributes →
        ∀ name value, attributes.value? name = some value ↔
          ∃ field ∈ entity.fields, field.name = name ∧
            ∃ raw, payload.given? mode field = some raw ∧
              ofMember field raw = .ok value) ∧
      (∀ error, payload.check schema entity mode current = .error error →
        error = .invalid (reported (payload.check schema entity mode current)) ∧
          ((reported (payload.check schema entity mode current)).map
            FieldError.field).Nodup ∧
          ∀ error, error ∈ reported (payload.check schema entity mode current) ↔
            ∃ field ∈ entity.fields, error.field = field.name ∧
              payload.Fails schema mode current field error.fault) ∧
      ∀ (changed : Payload) (other : Attributes), ∀ field ∈ entity.fields,
        changed.value? field.name = payload.value? field.name →
          other.value? field.name = current.value? field.name →
          ∀ fault, ⟨field.name, fault⟩ ∈
            reported (changed.check schema entity mode other) ↔
            ⟨field.name, fault⟩ ∈
              reported (payload.check schema entity mode current) := by
  have mem (payload : Payload) (current : Attributes) (error : FieldError) :
      error ∈ reported (payload.check schema entity mode current) ↔
        ∃ field ∈ entity.fields, error.field = field.name ∧
          payload.Fails schema mode current field error.fault := by
    rw [reported_check, mem_passes_iff distinct]
  refine ⟨?_, ?_, ?_, ?_⟩
  · simp only [check_eq_ok_iff, exists_and_left, exists_eq', and_true]
    rw [List.eq_nil_iff_forall_not_mem]
    constructor
    · intro none field declared fault fails
      exact none ⟨field.name, fault⟩
        ((mem ..).mpr ⟨field, declared, rfl, fails⟩)
    · intro sound error member
      obtain ⟨field, declared, -, fails⟩ := (mem ..).mp member
      exact sound field declared _ fails
  · intro attributes valid name value
    obtain ⟨none, rfl⟩ := (check_eq_ok_iff attributes).mp valid
    rw [(judges_taken distinct mode current payload).values]
    constructor
    · rintro ⟨field, declared, own, -, takes⟩
      exact ⟨field, declared, own,
        (takes_effective_iff distinct declared value).mp takes⟩
    · rintro ⟨field, declared, rfl, given⟩
      refine ⟨field, declared, rfl, ?_,
        (takes_effective_iff distinct declared value).mpr given⟩
      rw [name_mem_missing_iff distinct declared]
      rintro ⟨required, lacks⟩
      have failed := (mem payload current ⟨field.name, .missing⟩).mpr
        ⟨field, declared, rfl, .missing required lacks⟩
      rw [none] at failed
      cases failed
  · intro error failed
    refine ⟨?_, ?_, mem payload current⟩
    · rw [check_eq] at failed ⊢
      split at failed
      · cases failed
      · exact (Except.error.inj failed).symm
    · rw [reported_check]
      exact nodup_passes distinct
  · intro changed other field declared sameMember sameValue fault
    rw [mem, mem]
    constructor
    · rintro ⟨owner, member, own, fails⟩
      obtain rfl := eq_of_name_eq distinct declared member own
      exact ⟨field, declared, rfl, fails.congr sameMember.symm sameValue.symm⟩
    · rintro ⟨owner, member, own, fails⟩
      obtain rfl := eq_of_name_eq distinct declared member own
      exact ⟨field, declared, rfl, fails.congr sameMember sameValue⟩

def invoice : Entity :=
  ⟨"d", "Invoice",
    [{ name := "number", type := ⟨.scalar .string, false⟩, required := true },
      { name := "amount", type := ⟨.scalar .int, false⟩ },
      { name := "status", type := ⟨.choice ["draft", "paid"], false⟩ },
      { name := "currency", type := ⟨.scalar .string, false⟩,
        default := some (.string "EUR") }], []⟩

theorem invoice_judged :
    let wrong : Payload :=
      .ofList [("amount", .string "10"), ("status", .string "lost")]
    let numbered : Payload :=
      .ofList [("number", .string "7"), ("amount", .string "10")]
    let right : Payload := .ofList [("number", .string "7")]
    let wrongs : List FieldError := [⟨"number", .missing⟩,
      ⟨"amount", .mistyped "int"⟩, ⟨"status", .notAllowed⟩]
    (invoice.fields.map Field.name).Nodup ∧ (∀ error, error ∈ wrongs ↔
      ∃ field ∈ invoice.fields, error.field = field.name ∧
        wrong.Fails {} .create ∅ field error.fault) ∧ (∀ fault,
          ⟨"amount", fault⟩ ∈ reported (numbered.check {} invoice .create ∅) ↔
            fault = .mistyped "int") ∧ (∀ field ∈ invoice.fields, ∀ fault,
              ¬right.Fails {} .create ∅ field fault) ∧
      ∃ attributes, right.check {} invoice .create ∅ = .ok attributes ∧
        attributes.value? "currency" = some (.atom (.string "EUR")) := by
  intro wrong numbered right wrongs
  have distinct : (invoice.fields.map Field.name).Nodup := by decide
  have refused : wrong.check {} invoice .create ∅ =
      .error (.invalid wrongs) := by decide +kernel
  let made : Attributes := .ofList
    [("number", .atom (.string "7")), ("currency", .atom (.string "EUR"))]
  have accepted : right.check {} invoice .create ∅ = .ok made := by
    decide +kernel
  have wrongJudged :=
    ((check_exact distinct {} .create ∅ wrong).2.2.1 _ refused).2.2
  have amountKept (fault : Fault) :
      ⟨"amount", fault⟩ ∈ reported (numbered.check {} invoice .create ∅) ↔
        ⟨"amount", fault⟩ ∈ reported (wrong.check {} invoice .create ∅) :=
    (check_exact distinct {} .create ∅ wrong).2.2.2 numbered ∅ invoice.fields[1]
      (by simp) rfl rfl fault
  rw [refused] at wrongJudged
  simp only [refused] at amountKept
  have clean := (check_exact distinct {} .create ∅ right).1.mp ⟨made, accepted⟩
  have currency :=
    ((check_exact distinct {} .create ∅ right).2.1 made accepted "currency"
      (.atom (.string "EUR"))).mpr
      ⟨invoice.fields[3], by simp [invoice], rfl, .string "EUR", rfl, rfl⟩
  have amount (fault : Fault) :
      ⟨"amount", fault⟩ ∈ reported (numbered.check {} invoice .create ∅) ↔
        fault = .mistyped "int" := by
    rw [amountKept]
    simp [reported, wrongs]
  exact ⟨distinct, wrongJudged, amount, clean, made, accepted, currency⟩

end Payload

end RecordStore
