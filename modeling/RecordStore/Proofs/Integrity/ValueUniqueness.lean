import RecordStore.Proofs.Integrity.Uniqueness
import RecordStore.Proofs.Key

namespace RecordStore

/-! The uniqueness check compares key texts. For attributes that have passed the
check of their payload, and records whose values were read in the same way, it
finds the records with a matching value. The numbers of a payload are taken to
be canonical, as those read from a text are (`Payload.canonical_of_fields?`). -/

/-- The field that reads the value of a name: of fields of one name, the last
has its way. -/
def Entity.reader? (entity : Entity) (name : String) : Option Field :=
  entity.fields.reverse.find? (·.name == name)

/-- Each value, unless it is null, was read for its field. -/
def Attributes.Coerced (attributes : Attributes) (entity : Entity) : Prop :=
  ∀ name value, attributes.present? name = some value →
    ∃ field, entity.reader? name = some field ∧ value.Coerced field

def Entity.CanonicalDefaults (entity : Entity) : Prop :=
  ∀ field ∈ entity.fields, ∀ raw, field.default = some raw → raw.Canonical

namespace Payload

variable {payload : Payload} {fields : List Field} {entity : Entity}
  {schema : Schema} {mode : WriteMode} {current attributes : Attributes}

theorem Canonical.applyDefault {field : Field} (canonical : payload.Canonical)
    (default : ∀ raw, field.default = some raw → raw.Canonical) :
    (payload.applyDefault field).Canonical := by
  rcases applyDefault_cases payload field with same | ⟨raw, given, put⟩
  · rwa [same]
  · rw [put]
    exact canonical.put field.name (default raw given)

theorem Canonical.effective (canonical : payload.Canonical)
    (defaults : entity.CanonicalDefaults) (mode : WriteMode) :
    (payload.effective entity mode).Canonical := by
  rw [Payload.effective]
  split
  · exact List.foldlRecOn (motive := Canonical) entity.fields
      Payload.applyDefault canonical fun _ canonical field declared =>
        canonical.applyDefault (defaults field declared)
  · exact canonical

theorem reader_of_takeFields {errors : List FieldError}
    (clean : (fields.foldl (takeField payload) { errors }).errors = [])
    {name : String} {value : Value}
    (held : (fields.foldl (takeField payload) { errors }).attributes.value?
      name = some value) :
    ∃ field, fields.reverse.find? (·.name == name) = some field ∧
      ∃ raw, payload.value? name = some raw ∧
        ofMember field raw = .ok value := by
  induction fields using List.reverseRecOn with
  | nil => cases held
  | append_singleton fields last ih =>
      rw [List.foldl_append, List.foldl_cons, List.foldl_nil] at clean held
      rw [List.reverse_append, List.reverse_singleton, List.singleton_append,
        List.find?_cons]
      obtain ⟨before, taken⟩ := takeField_cases clean
      by_cases here : last.name = name
      · subst here
        rcases taken with ⟨absent, same⟩ | ⟨raw, value, present, read, same⟩
        · rw [same] at held
          obtain ⟨-, -, raw, present, -⟩ := ih before held
          rw [absent] at present
          cases present
        · rw [same, Fields.value?_put, if_pos rfl] at held
          cases held
          exact ⟨last, by simp, raw, present, read⟩
      · have earlier : (fields.foldl (takeField payload)
            { errors }).attributes.value? name = some value := by
          rcases taken with ⟨-, same⟩ | ⟨raw, other, -, -, same⟩
          · rwa [same] at held
          · rwa [same, Fields.value?_put, if_neg here] at held
        rw [beq_false_of_ne here]
        exact ih before earlier

theorem check_coerced (canonical : payload.Canonical)
    (defaults : entity.CanonicalDefaults)
    (valid : payload.check schema entity mode current = .ok attributes) :
    attributes.Coerced entity := by
  simp only [check] at valid
  split at valid
  next clean =>
    cases valid
    intro name value held
    obtain ⟨held, some⟩ := Option.filter_eq_some_iff.mp held
    obtain ⟨field, reader, raw, present, read⟩ :=
      reader_of_takeFields (List.append_eq_nil_iff.mp clean).1 held
    have given : raw ≠ .null := by
      rintro rfl
      cases read
      simp [Value.isNull] at some
    exact ⟨field, reader, raw,
      canonical.effective defaults mode name raw present,
      ofMember_of_ne given ▸ read⟩
  next => cases valid

end Payload

namespace Store

def Meets (store : Store) (relation : Value → Value → Prop) (entity : Entity)
    (own : Option String) (attributes : Attributes) (name : String) : Prop :=
  ∃ record, store.live? entity.fullName record.id = some record ∧
    some record.id ≠ own ∧
    ∃ value other, attributes.present? name = some value ∧
      record.attributes.present? name = some other ∧ relation value other

variable {store : Store} {entity : Entity} {own : Option String}
  {attributes : Attributes} {field : Field}

theorem uniqueError?_eq_some_iff (error : FieldError) :
    store.uniqueError? entity own attributes field = some error ↔
      store.Meets (fun value other => value.key = other.key) entity own
        attributes field.name ∧
        ⟨field.name, .taken⟩ = error := by
  have found : store.Meets (fun value other => value.key = other.key) entity own
      attributes field.name ↔
      store.uniqueError? entity own attributes field ≠ none := by
    rw [Ne, uniqueError?_eq_none_iff]
    constructor
    · rintro ⟨record, live, apart, value, other, held, taken, same⟩ free
      exact free value held record live apart other taken same.symm
    · intro some
      by_contra none
      refine some fun value held record live apart other taken same => none ?_
      exact ⟨record, live, apart, value, other, held, taken, same.symm⟩
  rw [found, uniqueError?]
  cases attributes.present? field.name with
  | none => simp
  | some value =>
      simp only [Option.bind_some]
      split <;> simp

theorem taken_mem_uniquenessErrors_iff (unique : field ∈ entity.uniqueFields) :
    ⟨field.name, .taken⟩ ∈ store.uniquenessErrors entity own attributes ↔
      store.Meets (fun value other => value.key = other.key) entity own
        attributes field.name := by
  have noSet
      (set : List String) : store.uniqueSetError? entity own attributes set ≠
        some ⟨field.name, .taken⟩ := by
    intro found
    obtain ⟨key, -, found⟩ := Option.bind_eq_some_iff.mp found
    split at found <;> simp at found
  simp only [uniquenessErrors, List.mem_append, List.mem_filterMap, noSet,
    and_false, exists_false, or_false, uniqueError?_eq_some_iff,
    FieldError.mk.injEq, and_true]
  constructor
  · rintro ⟨other, -, meets, same⟩
    exact same ▸ meets
  · intro meets
    exact ⟨field, unique, meets, rfl⟩

/-- A unique field is reported as taken exactly if another live record has a
matching value in it. -/
theorem uniquenessErrors_exact {schema : Schema} {mode : WriteMode}
    {current : Attributes} {payload : Payload} (canonical : payload.Canonical)
    (defaults : entity.CanonicalDefaults)
    (valid : payload.check schema entity mode current = .ok attributes)
    (coerced : ∀ record, store.live? entity.fullName record.id = some record →
      record.attributes.Coerced entity)
    (unique : field ∈ entity.uniqueFields) (own : Option String) :
    ⟨field.name, .taken⟩ ∈ store.uniquenessErrors entity own attributes ↔
      store.Meets Value.Matches entity own attributes field.name := by
  rw [taken_mem_uniquenessErrors_iff unique]
  refine exists_congr fun record => and_congr_right fun live =>
    and_congr_right fun _ => exists_congr fun value => exists_congr fun other =>
      and_congr_right fun held => and_congr_right fun taken => ?_
  obtain ⟨reader, reads, first⟩ :=
    Payload.check_coerced canonical defaults valid _ value held
  obtain ⟨again, readsToo, second⟩ := coerced record live _ other taken
  obtain rfl := Option.some.inj (reads.symm.trans readsToo)
  exact Value.key_eq_iff first second

end Store

def Entity.gauge : Entity :=
  ⟨"d", "Gauge",
    [{ name := "level", type := ⟨.scalar .float, false⟩, unique := true },
      { name := "at", type := ⟨.scalar .timestamp, false⟩, unique := true },
      { name := "tags", type := ⟨.scalar .string, true⟩, unique := true }], []⟩

def Payload.reading (negative : Bool) (time : String) (tags : List String) :
    Payload :=
  .ofList [("level", .float (.zero negative)), ("at", .string time),
    ("tags", .array (tags.map .string))]

def Attributes.reading (negative : Bool) (time : String) (tags : List String) :
    Attributes :=
  .ofList [("level", .atom (.float (.zero negative))),
    ("at", .atom (.timestamp ((Timestamp.read? time).getD default))),
    ("tags", .array (tags.map fun tag => .atom (.string tag)))]

theorem Payload.reading_canonical (negative : Bool) (time : String)
    (tags : List String) : (reading negative time tags).Canonical :=
  canonical_ofList fun member listed => by
    simp only [List.mem_cons, List.not_mem_nil, or_false] at listed
    rcases listed with rfl | rfl | rfl
    · exact .float (Binary64.canonical_zero negative)
    · exact .string time
    · exact .array fun item listed => by
        obtain ⟨tag, -, rfl⟩ := List.mem_map.mp listed
        exact .string tag

theorem Entity.gauge_canonicalDefaults : Entity.gauge.CanonicalDefaults := by
  intro field declared raw given
  simp only [gauge, List.mem_cons, List.not_mem_nil, or_false] at declared
  rcases declared with rfl | rfl | rfl <;> cases given

def Attributes.readingWest : Attributes :=
  .reading false "2024-05-01T10:00:00Z" ["a,b"]

def Attributes.readingEast : Attributes :=
  .reading true "2024-05-01T12:00:00+02:00" ["a", "b"]

theorem Payload.readingWest_checked :
    (Payload.reading false "2024-05-01T10:00:00Z" ["a,b"]).check {} .gauge
      .create ∅ = .ok .readingWest :=
  rfl

theorem Payload.readingEast_checked :
    (Payload.reading true "2024-05-01T12:00:00+02:00" ["a", "b"]).check {}
      .gauge .create ∅ =
      .ok .readingEast :=
  rfl

namespace Store

def gauge : Store where
  schema := { entities := .ofList [.gauge] }
  records := .ofList
    [⟨"d.Gauge", "1", 1, default, default, false, .readingWest⟩]

theorem eq_of_live?_gauge {record : Record}
    (live : gauge.live? Entity.gauge.fullName record.id = some record) :
    record.attributes = .readingWest := by
  rw [← mem_liveOf_iff] at live
  obtain rfl := List.mem_singleton.mp live
  rfl

theorem gauge_coerced (record : Record)
    (live : gauge.live? Entity.gauge.fullName record.id = some record) :
    record.attributes.Coerced .gauge := by
  rw [eq_of_live?_gauge live]
  exact Payload.check_coerced (Payload.reading_canonical _ _ _)
    Entity.gauge_canonicalDefaults Payload.readingWest_checked

theorem gauge_meets_iff (relation : Value → Value → Prop) (name : String)
    {value other : Value}
    (candidate : Attributes.readingEast.present? name = some value)
    (stored : Attributes.readingWest.present? name = some other) :
    gauge.Meets relation .gauge none .readingEast name ↔
      relation value other := by
  constructor
  · rintro ⟨record, live, -, value', other', held, taken, related⟩
    rw [eq_of_live?_gauge live, stored] at taken
    rw [candidate] at held
    cases held
    cases taken
    exact related
  · exact fun related =>
      ⟨⟨"d.Gauge", "1", 1, default, default, false, .readingWest⟩, rfl, nofun,
        value, other, candidate, stored, related⟩

theorem gauge_uniquenessErrors :
    let taken (name : String) :=
      ⟨name, .taken⟩ ∈ gauge.uniquenessErrors .gauge none .readingEast
    (Payload.reading true "2024-05-01T12:00:00+02:00" ["a", "b"]).check {}
      .gauge .create ∅ = .ok .readingEast ∧
      (∀ record, gauge.live? Entity.gauge.fullName record.id = some record →
        record.attributes.Coerced .gauge) ∧ (taken "level" ↔
          gauge.Meets Value.Matches .gauge none .readingEast "level") ∧
      (taken "at" ↔ gauge.Meets Value.Matches .gauge none .readingEast "at") ∧
      (taken "tags" ↔
        gauge.Meets Value.Matches .gauge none .readingEast "tags") ∧
      ¬taken "level" ∧ ¬taken "at" ∧ taken "tags" := by
  intro taken
  have exact (field : Field) (unique : field ∈ Entity.gauge.uniqueFields) :
      taken field.name ↔
        gauge.Meets Value.Matches .gauge none .readingEast field.name :=
    uniquenessErrors_exact (Payload.reading_canonical _ _ _)
      Entity.gauge_canonicalDefaults
      Payload.readingEast_checked gauge_coerced unique none
  have level := exact _ (.head _)
  have time := exact _ (.tail _ (.head _))
  have tags := exact _ (.tail _ (.tail _ (.head _)))
  refine ⟨rfl, gauge_coerced, level, time, tags, ?_, ?_, ?_⟩
  · rw [level, gauge_meets_iff _ _ rfl rfl, Value.matches_atom_iff]
    exact fun same => absurd same.sign (by decide)
  · rw [time, gauge_meets_iff _ _ rfl rfl, Value.matches_atom_iff]
    exact fun same => absurd same.offset (by decide)
  · rw [tags, gauge_meets_iff _ _ rfl rfl]
    exact @Value.Matches.joined [.string "a", .string "b"] [.string "a,b"]
      ⟨by decide, .inl ⟨.string "a,b", by decide, by decide⟩, by decide⟩

/-- The levels are the same number, and the times the same instant, but neither
is taken; the tags differ, and are taken. -/
theorem gauge_not_same :
    let taken (name : String) :=
      ⟨name, .taken⟩ ∈ gauge.uniquenessErrors .gauge none .readingEast
    (Payload.reading true "2024-05-01T12:00:00+02:00" ["a", "b"]).check {}
      .gauge .create ∅ = .ok .readingEast ∧
      (∀ record, gauge.live? Entity.gauge.fullName record.id = some record →
        record.attributes.Coerced .gauge) ∧ ¬(taken "level" ↔
          gauge.Meets Value.Same .gauge none .readingEast "level") ∧
      ¬(taken "at" ↔ gauge.Meets Value.Same .gauge none .readingEast "at") ∧
      ¬(taken "tags" ↔
        gauge.Meets Value.Same .gauge none .readingEast "tags") := by
  intro taken
  have found (name : String) : taken name ↔ name = "tags" := by
    have errors : gauge.uniquenessErrors .gauge none .readingEast =
        [⟨"tags", .taken⟩] := by
      decide +kernel
    simp [taken, errors]
  refine ⟨rfl, gauge_coerced, ?_, ?_, ?_⟩
  · rw [found, gauge_meets_iff _ _ rfl rfl]
    exact fun agree => absurd (agree.mpr (.atom rfl)) (by decide)
  · have instants :
        ((Timestamp.read? "2024-05-01T12:00:00+02:00").getD default).instant =
          ((Timestamp.read? "2024-05-01T10:00:00Z").getD default).instant := by
      decide +kernel
    rw [found, gauge_meets_iff _ _ rfl rfl]
    exact fun agree => absurd (agree.mpr (.atom instants)) (by decide)
  · rw [found, gauge_meets_iff _ _ rfl rfl]
    exact fun agree => absurd (agree.mp rfl).length_eq (by decide)

end Store

end RecordStore
