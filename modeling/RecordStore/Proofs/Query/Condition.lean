import RecordStore.Proofs.Key
import RecordStore.Proofs.Number.Reading
import RecordStore.Query.Filter

namespace RecordStore

section

variable {name : String}

theorem isSystemField_iff :
    isSystemField name = true ↔
      name = "id" ∨ name = "version" ∨ name = "created_at" ∨
        name = "updated_at" := by
  simp [isSystemField, systemFields]

theorem ne_of_not_isSystemField (own : isSystemField name = false) :
    name ≠ "id" ∧ name ≠ "version" ∧ name ≠ "created_at" ∧
      name ≠ "updated_at" := by
  rw [← Bool.not_eq_true, isSystemField_iff] at own
  simpa only [not_or] using own

theorem Comparison.ofField?_of_own (own : isSystemField name = false)
    (entity : Entity) :
    ofField? entity name =
      (entity.field? name).map fun field => ofType field.type := by
  obtain ⟨id, version, createdAt, updatedAt⟩ := ne_of_not_isSystemField own
  unfold ofField?
  split <;> first | contradiction | rfl

theorem Record.fieldValue?_of_own (own : isSystemField name = false)
    (record : Record) :
    record.fieldValue? name = record.attributes.value? name := by
  obtain ⟨id, version, createdAt, updatedAt⟩ := ne_of_not_isSystemField own
  unfold fieldValue?
  split <;> first | contradiction | rfl

theorem Record.fieldValue?_of_system (system : isSystemField name = true)
    (record : Record) (attributes : Attributes) :
    { record with attributes }.fieldValue? name = record.fieldValue? name := by
  rcases isSystemField_iff.mp system with rfl | rfl | rfl | rfl <;> rfl

end

theorem Entity.exists_field? {entity : Entity} {field : Field}
    (declared : field ∈ entity.fields) :
    ∃ first, entity.field? field.name = some first := by
  rw [← Option.isSome_iff_exists, field?, List.find?_isSome]
  exact ⟨field, declared, beq_self_eq_true _⟩

section

variable {condition : Condition} {entity : Entity} {record : Record}
  {comparison : Comparison} {value : Value}

theorem Operator.accepts_of_equality {op : Operator}
    (equality : op.isOrdering = false) : op.accepts = (· == .eq) := by
  cases op with
  | eq | oneOf => rfl
  | gt | gte | lt | lte => cases equality

theorem Comparison.holds_iff_of_equality {op : Operator}
    (equality : op.isOrdering = false) (operand : String) :
    comparison.holds op value operand = true ↔
      comparison.order? value operand = some .eq := by
  rw [holds, equality, Operator.accepts_of_equality equality]
  cases comparison.order? value operand <;> simp

theorem Condition.isMetBy_iff_of_equality
    (equality : condition.op.isOrdering = false)
    (compared : Comparison.ofField? entity condition.field = some comparison)
    (held : record.fieldValue? condition.field = some value) :
    condition.isMetBy entity record = true ↔
      ∃ item ∈ Payload.elements value, ∃ operand ∈ condition.operands,
        comparison.order? item operand = some .eq := by
  simp only [isMetBy, compared, held]
  cases value with
  | null => simp [Payload.elements]
  | atom a =>
      simp [Payload.elements, valueMatches,
        Comparison.holds_iff_of_equality equality]
  | array items =>
      simp [Payload.elements, valueMatches,
        Comparison.holds_iff_of_equality equality, equality]

end

namespace Comparison

variable {a b : Atom}

theorem canonical_of_toBinary64? (regular : a.Regular) {x : Binary64}
    (number : a.toBinary64? = some x) : x.Canonical := by
  cases a with
  | int i =>
      cases number
      exact Binary64.canonical_ofInt i
  | float y =>
      cases number
      exact regular
  | string | bool | date | timestamp | ref => cases number

theorem operandNumber?_key (regular : a.Regular) {x : Binary64}
    (number : a.toBinary64? = some x) : operandNumber? a.key = some x := by
  cases a with
  | int i =>
      cases number
      rw [operandNumber?, Atom.key, String.toList_ofList,
        (Decimal.visible_intText i).trimBoth_eq, Decimal.read?_intText]
  | float y =>
      cases number
      rw [operandNumber?, Atom.key, String.toList_ofList,
        (Decimal.visible_text x).trimBoth_eq, Decimal.read?_text regular]
  | string | bool | date | timestamp | ref => cases number

theorem operandDate?_text (d : Date) :
    operandDate? d.text = if d.HasFourDigits then some d else none := by
  rw [operandDate?]
  split
  next four => rw [Date.read?_text four, Option.some_or]
  next other =>
    rw [Date.read?_text_of_not_four other,
      Timestamp.read?_text_of_not_four other]; rfl

theorem operandInstant?_text {t : Timestamp} (four : t.date.HasFourDigits)
    (ends : t.time.LeapEndsMinute) :
    operandInstant? t.text = some t.instant := by
  rw [operandInstant?, Timestamp.read?_text four ends]
  rfl

end Comparison

def Atom.comparison : Atom → Comparison
  | .string _ | .ref _ => .text
  | .int _ | .float _ => .numeric
  | .bool _ => .bool
  | .date _ => .date
  | .timestamp _ => .timestamp

theorem Atom.Fits.comparison_eq {a : Atom} {type : FieldType}
    (fits : a.Fits type.element) : Comparison.ofType type = a.comparison := by
  unfold Fits at fits
  split at fits
  all_goals
    first
    | exact fits.elim
    | simp [*, Comparison.ofType, Comparison.ofScalar, Atom.comparison]

namespace Comparison

variable {a b : Atom} {comparison : Comparison}

theorem order?_number {x : Binary64} (number : a.toBinary64? = some x)
    (regular : a.Regular) : order? .numeric (.atom a) a.key = some .eq := by
  have canonical := canonical_of_toBinary64? regular number
  rw [order?, number, operandNumber?_key regular number]
  exact ((Binary64.Canonical.eq_iff canonical canonical).mp rfl).1

theorem order?_key (regular : a.Regular) (noText : a.comparison ≠ .text)
    (four : ∀ d, a = .date d → d.HasFourDigits) :
    a.comparison.order? (.atom a) a.key = some .eq := by
  cases a with
  | string | ref => exact absurd rfl noText
  | int i => exact order?_number rfl regular
  | float x => exact order?_number rfl regular
  | bool b => cases b <;> rfl
  | date d =>
      simp only [Atom.comparison, order?, Atom.key, operandDate?_text,
        if_pos (four d rfl), Option.map_some, Std.ReflCmp.compare_self]
  | timestamp t =>
      simp only [Atom.comparison, order?, Atom.key,
        operandInstant?_text regular.1 regular.2, Option.map_some,
        Std.ReflCmp.compare_self]

theorem own_of_order? {order : Ordering} (kind : a.SameKind b)
    (noText : comparison ≠ .text)
    (found : comparison.order? (.atom b) a.key = some order) :
    comparison = a.comparison ∧ ∀ d, a = .date d → d.HasFourDigits := by
  cases kind with
  | date d e =>
      cases comparison with
      | date =>
          simp only [order?, Atom.key, operandDate?_text] at found
          split at found
          next four => exact ⟨rfl, fun _ same => Atom.date.inj same ▸ four⟩
          next => cases found
      | text => exact absurd rfl noText
      | numeric | timestamp | bool => cases found
  | string | int | float | bool | timestamp | ref =>
      cases comparison <;>
        first | exact absurd rfl noText | exact ⟨rfl, by simp⟩ | cases found

end Comparison

/-- What it takes for a value of a field to be found by the key text of an
element, under a comparison: a text is compared as it is, though the operand is
trimmed, and other values are compared as their type says. -/
inductive Comparison.Finds (field : Field) (value : Value) (a : Atom) :
    Comparison → Prop
  | trimmed (same : Text.trim a.key = a.key) : Finds field value a .text
  | other {b : Atom} (member : .atom b ∈ Payload.elements value)
      (different : b ≠ a)
      (same : Text.lower b.key = Text.lower (Text.trim a.key)) :
      Finds field value a .text
  | typed {comparison : Comparison} (own : comparison = ofType field.type)
      (noText : comparison ≠ .text)
      (four : ∀ d, a = .date d → d.HasFourDigits) :
      Finds field value a comparison

section

variable {field : Field} {value : Value} {a : Atom} {comparison : Comparison}

theorem Comparison.order?_text_iff (b : Atom) (operand : String) :
    order? .text (.atom b) operand = some .eq ↔
      Text.lower b.key = Text.lower (Text.trim operand) := by
  rw [order?, Option.some.injEq, compareText, Value.key]
  split <;> simp [*]

theorem Value.Coerced.elements (coerced : value.Coerced field) {item : Value}
    (member : item ∈ Payload.elements value) :
    ∃ a, item = .atom a ∧ a.Fits field.type.element ∧ a.Regular := by
  rcases coerced.cases with ⟨-, a, rfl, fits, regular⟩ | ⟨-, items, rfl, each⟩
  · exact ⟨a, List.mem_singleton.mp member, fits, regular⟩
  · obtain ⟨a, listed, rfl⟩ := List.mem_map.mp member
    exact ⟨a, rfl, each a listed⟩

theorem Atom.trim_of_ofJson? {type : ElementType} {raw : Json} {id : String}
    (read : ofJson? type raw = some (.ref id)) : Text.trim id = id := by
  cases type with
  | scalar => exact (ofJson?_fits read).elim
  | choice => exact (ofJson?_fits read).elim
  | reference target =>
      cases raw with
      | string s =>
          simp only [ofJson?] at read
          split at read
          · cases read
          · cases read
            exact Text.trim_idempotent s
      | null | bool | int | float | array | object => cases read

theorem Value.Coerced.trim_reference (coerced : value.Coerced field)
    {id : String} (member : .atom (.ref id) ∈ Payload.elements value) :
    Text.trim id = id := by
  obtain ⟨raw, -, read⟩ := coerced
  rcases ofJson_cases read with
    ⟨-, a, found, rfl⟩ | ⟨-, raws, values, rfl, found, rfl⟩
  · obtain ⟨⟨⟩⟩ := List.mem_singleton.mp member
    exact Atom.trim_of_ofJson? found
  · obtain ⟨items, rfl, each⟩ := elementsOfJson_cases found
    obtain ⟨_, listed, ⟨⟩⟩ := List.mem_map.mp member
    obtain ⟨raw, -, found⟩ := each _ listed
    exact Atom.trim_of_ofJson? found

theorem Comparison.finds_iff (coerced : value.Coerced field)
    (member : .atom a ∈ Payload.elements value) :
    comparison.Finds field value a ↔
      ∃ item ∈ Payload.elements value, comparison.order? item a.key =
        some .eq := by
  obtain ⟨_, ⟨⟩, fits, regular⟩ := coerced.elements member
  constructor
  · intro finds
    cases finds with
    | trimmed same => exact ⟨_, member, (order?_text_iff ..).mpr (by rw [same])⟩
    | other memberB _ same => exact ⟨_, memberB, (order?_text_iff ..).mpr same⟩
    | typed own noText four =>
        rw [fits.comparison_eq] at own
        subst own
        exact ⟨_, member, order?_key regular noText four⟩
  · rintro ⟨item, memberB, equal⟩
    obtain ⟨b, rfl, fitsB, -⟩ := coerced.elements memberB
    by_cases text : comparison = .text
    · subst text
      rw [order?_text_iff] at equal
      by_cases same : b = a
      · subst same
        exact .trimmed ((Text.lower_trim_eq_iff _).mp equal)
      · exact .other memberB same equal
    · obtain ⟨own, four⟩ := own_of_order? (fits.sameKind fitsB) text equal
      exact .typed (own.trans fits.comparison_eq.symm) text four

end

/-- A record is found by the key text of an element of a value that it holds
exactly if its field is not named like one that the store keeps, and the
comparison that the first field of the name has finds it. Ids in references have
no white space that could keep them from being found. -/
theorem Record.found_iff {entity : Entity} {field : Field}
    (declared : field ∈ entity.fields) (record : Record) {value : Value}
    (held : record.attributes.value? field.name = some value)
    (coerced : value.Coerced field) {a : Atom}
    (member : .atom a ∈ Payload.elements value) {op : Operator}
    (equality : op.isOrdering = false) :
    (isSystemField field.name = true →
      ∀ operands attributes, Condition.isMetBy ⟨field.name, op, operands⟩ entity
        { record with attributes } =
        Condition.isMetBy ⟨field.name, op, operands⟩ entity record) ∧
      (isSystemField field.name = false →
        ∃ first, entity.field? field.name = some first ∧
          (Condition.isMetBy ⟨field.name, op, [a.key]⟩ entity record = true ↔
            (Comparison.ofType first.type).Finds field value a) ∧
          ∀ operands, a.key ∈ operands →
            (Comparison.ofType first.type).Finds field value a →
            Condition.isMetBy ⟨field.name, op, operands⟩ entity record = true) ∧
      ∀ id, a = .ref id → Text.trim a.key = a.key := by
  refine ⟨fun system operands attributes => ?_, fun own => ?_, ?_⟩
  · rw [Condition.isMetBy, Condition.isMetBy, fieldValue?_of_system system]
  · obtain ⟨first, found⟩ := Entity.exists_field? declared
    have compared : Comparison.ofField? entity field.name =
        some (.ofType first.type) := by
      rw [Comparison.ofField?_of_own own, found, Option.map_some]
    have value : record.fieldValue? field.name = some value := by
      rw [fieldValue?_of_own own, held]
    refine ⟨first, found, ?_, fun operands named finds => ?_⟩
    · rw [Condition.isMetBy_iff_of_equality equality compared value,
        Comparison.finds_iff coerced member]
      simp
    · rw [Condition.isMetBy_iff_of_equality equality compared value]
      obtain ⟨item, member, equal⟩ :=
        (Comparison.finds_iff coerced member).mp finds
      exact ⟨item, member, a.key, named, equal⟩
  · rintro id rfl
    exact coerced.trim_reference member

def Field.marks : Field where
  name := "marks"
  type := ⟨.scalar .string, true⟩

def Entity.marked : Entity :=
  ⟨"d", "Tag", [.marks], []⟩

def Value.marks : Value :=
  .array ([" a", "A", " b"].map fun s => .atom (.string s))

def Record.marked : Record :=
  ⟨"d.Tag", "0", 1, default, default, false, .ofList [("marks", .marks)]⟩

theorem Value.marks_coerced : Value.marks.Coerced .marks :=
  ⟨.array ([" a", "A", " b"].map .string),
    .array (by simp [Json.Canonical.string]), rfl⟩

theorem Record.marked_found :
    Condition.isMetBy ⟨"marks", .eq, [" a"]⟩ .marked .marked = true ∧
      Condition.isMetBy ⟨"marks", .eq, [" b"]⟩ .marked .marked = false := by
  have finds : Comparison.Finds .marks .marks (.string " a") .text :=
    .other (b := .string "A") (by simp [Payload.elements, Value.marks])
      (by decide) (by decide +kernel)
  have declared : Field.marks ∈ Entity.marked.fields := .head _
  have member : .atom (.string " a") ∈ Payload.elements Value.marks := by
    simp [Payload.elements, Value.marks]
  have equality : Operator.eq.isOrdering = false := rfl
  obtain ⟨-, own, -⟩ :=
    found_iff declared .marked rfl Value.marks_coerced member equality
  obtain ⟨first, found, iff, -⟩ := own rfl
  obtain rfl : Field.marks = first := Option.some.inj found
  exact ⟨iff.mpr finds, by decide +kernel⟩

theorem Record.not_always_found :
    ¬∀ (entity : Entity) (field : Field) (record : Record) (value : Value)
      (a : Atom) (op : Operator),
      field ∈ entity.fields → (entity.fields.map Field.name).Nodup →
        isSystemField field.name = false →
        record.attributes.value? field.name = some value → value.Coerced field →
        .atom a ∈ Payload.elements value → op.isOrdering = false →
        Condition.isMetBy ⟨field.name, op, [a.key]⟩ entity record = true := by
  intro always
  have found := always .marked .marks .marked .marks (.string " b") .eq
    (.head _) (by decide) rfl rfl
    Value.marks_coerced (by simp [Payload.elements, Value.marks]) rfl
  exact absurd found (by decide +kernel)

end RecordStore
