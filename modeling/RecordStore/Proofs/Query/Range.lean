import RecordStore.Proofs.Number.Order
import RecordStore.Proofs.Query.Condition

namespace RecordStore

open Std (TransCmp OrientedCmp)

/-- A number, date or instant that the record holds under a name: its version,
one of its times, or the value of a field of such a type. -/
inductive Record.Measures (record : Record) (entity : Entity) :
    String → Atom → Prop
  | version (small : record.version.toNat < 2 ^ 63) :
      Measures record entity "version" (.int record.version.toNat)
  | createdAt :
      Measures record entity "created_at"
        (.timestamp (.ofInstant record.createdAt))
  | updatedAt :
      Measures record entity "updated_at"
        (.timestamp (.ofInstant record.updatedAt))
  | field {field : Field} {scalar : Scalar} {a : Atom}
      (own : isSystemField field.name = false)
      (found : entity.field? field.name = some field)
      (type : field.type = ⟨.scalar scalar, false⟩)
      (ordered : scalar ∈ [.int, .float, .date, .timestamp])
      (held : record.attributes.value? field.name = some (.atom a))
      (coerced : (Value.atom a).Coerced field) :
      Measures record entity field.name a

/-- The version has not come to the sign of its word, and what the record holds
was read for the fields. -/
structure Record.IsCoerced (record : Record) (entity : Entity) : Prop where
  small : record.version.toNat < 2 ^ 63
  coerced :
    ∀ field, entity.field? field.name = some field →
      ∀ value, record.attributes.value? field.name = some value →
        value ≠ .null → value.Coerced field

/-- The order of numbers, dates and instants. -/
inductive Atom.AtMost : Atom → Atom → Prop
  | int {i j : Int} (le : i ≤ j) : AtMost (.int i) (.int j)
  | float {x y : Binary64} {order : Ordering}
      (compared : x.compare? y = some order) (le : order.isLE = true) :
      AtMost (.float x) (.float y)
  | date {d e : Date} (le : (compare d e).isLE = true) :
      AtMost (.date d) (.date e)
  | timestamp {s t : Timestamp}
      (le : (compare s.instant t.instant).isLE = true) :
      AtMost (.timestamp s) (.timestamp t)

/-- The operand is one that values can be put in order with. -/
def Comparison.Reads (comparison : Comparison) (operand : String) : Prop :=
  match comparison with
  | .numeric => ∃ x, operandNumber? operand = some x ∧ x ≠ .nan
  | .date => (operandDate? operand).isSome = true
  | .timestamp => (operandInstant? operand).isSome = true
  | .bool | .text => False

namespace Operator

/-- Below, equal or above, and the two operators that take equality in. -/
structure Partition (met : Operator → Bool) : Prop where
  one : ∃! op, op ∈ [Operator.lt, .eq, .gt] ∧ met op = true
  gte : met .gte = true ↔ met .gt = true ∨ met .eq = true
  lte : met .lte = true ↔ met .lt = true ∨ met .eq = true

/-- What asks for more holds of the greater if of the less, and what asks for
less of the less if of the greater. -/
structure Monotone (less greater : Operator → Bool) : Prop where
  gt : less .gt = true → greater .gt = true
  gte : less .gte = true → greater .gte = true
  lt : greater .lt = true → less .lt = true
  lte : greater .lte = true → less .lte = true

theorem partition_accepts (order : Ordering) :
    Partition fun op => op.accepts order where
  one := by cases order <;> simp [ExistsUnique, accepts]
  gte := by cases order <;> decide
  lte := by cases order <;> decide

theorem monotone_accepts {order other : Ordering}
    (less : other = .lt → order = .lt) (greater : order = .gt → other = .gt) :
    Monotone (fun op => op.accepts order) fun op => op.accepts other := by
  constructor <;> cases order <;> cases other <;> simp_all [accepts]

end Operator

section

variable {α : Type} {cmp : α → α → Ordering} [TransCmp cmp] {a b : α}

theorem monotone_of_isLE (le : (cmp a b).isLE = true) (x : α) :
    Operator.Monotone (fun op => op.accepts (cmp a x)) fun op =>
      op.accepts (cmp b x) := by
  refine Operator.monotone_accepts (TransCmp.lt_of_isLE_of_lt le) fun above =>
    ?_
  rw [OrientedCmp.gt_iff_lt] at above ⊢
  exact TransCmp.lt_of_lt_of_isLE above le

theorem monotone_of_reading (le : (cmp a b).isLE = true) (reading : Option α) :
    Operator.Monotone (fun op => (reading.map (cmp a)).any op.accepts)
      fun op => (reading.map (cmp b)).any op.accepts := by
  cases reading with
  | none => constructor <;> simp
  | some x => exact monotone_of_isLE le x

end

namespace Comparison

variable {a b : Atom} {operand : String}

theorem ne_nan {x : Binary64} (number : a.toBinary64? = some x)
    (proper : a ≠ .float .nan) : x ≠ .nan := by
  rintro rfl
  cases a with
  | int i =>
      have canonical := Binary64.canonical_ofInt i
      rw [Option.some.inj number] at canonical
      exact canonical
  | float y => exact proper (congrArg Atom.float (Option.some.inj number))
  | string | bool | date | timestamp | ref => cases number

theorem order?_numeric {x : Binary64} (number : a.toBinary64? = some x)
    (proper : a ≠ .float .nan) (operand : String) :
    order? .numeric (.atom a) operand =
      ((operandNumber? operand).filter (· ≠ .nan)).map x.order := by
  have numberX := ne_nan number proper
  simp only [order?, number, Option.bind_eq_bind, Option.bind_some]
  cases operandNumber? operand with
  | none => rfl
  | some y =>
      by_cases same : y = .nan
      · subst same
        cases x <;> rfl
      · simp [same, Binary64.compare?_eq_order numberX same]

theorem reads_iff (proper : a ≠ .float .nan) (operand : String) :
    a.comparison.Reads operand ↔
      a.comparison.isOrdered = true ∧
        (a.comparison.order? (.atom a) operand).isSome = true := by
  have number (reading : Option Binary64)
      (x : Binary64) : (∃ y, reading = some y ∧ y ≠ .nan) ↔
        ((reading.filter (· ≠ .nan)).map x.order).isSome = true := by
    cases reading <;> simp
  cases a with
  | string | ref | bool => simp [Atom.comparison, Reads, isOrdered]
  | int | float =>
      simp only [Atom.comparison, Reads, isOrdered, order?_numeric rfl proper,
        true_and]
      exact number ..
  | date | timestamp => simp [Atom.comparison, Reads, isOrdered, order?]

theorem monotone_of_atMost (le : a.AtMost b) (operand : String) :
    Operator.Monotone (fun op =>
      (a.comparison.order? (.atom a) operand).any op.accepts)
      fun op => (b.comparison.order? (.atom b) operand).any op.accepts := by
  cases le with
  | int le =>
      simp only [Atom.comparison,
        order?_numeric rfl (by simp : Atom.int _ ≠ .float .nan)]
      exact monotone_of_reading (Binary64.isLE_order_ofInt le) _
  | @float x y order compared le =>
      have numberX : x ≠ .nan := by
        rintro rfl
        cases compared
      have numberY : y ≠ .nan := by
        rintro rfl
        cases x <;> cases compared
      rw [Binary64.compare?_eq_order numberX numberY] at compared
      simp only [Atom.comparison, order?_numeric rfl
        (by simpa using numberX : Atom.float x ≠ .float .nan),
        order?_numeric rfl
          (by simpa using numberY : Atom.float y ≠ .float .nan)]
      exact monotone_of_reading (Option.some.inj compared ▸ le) _
  | date le => exact monotone_of_reading le _
  | timestamp le => exact monotone_of_reading le _

end Comparison

namespace Record

variable {record : Record} {entity : Entity} {name : String} {a : Atom}

theorem toInt_of_small {version : UInt64} (small : version.toNat < 2 ^ 63) :
    version.toInt64.toInt = version.toNat := by
  change version.toBitVec.toInt = version.toBitVec.toNat
  rw [BitVec.toInt_eq_toNat_cond, if_pos]
  have : version.toBitVec.toNat < 2 ^ 63 := small
  omega

theorem Measures.proper (measures : record.Measures entity name a) :
    a ≠ .float .nan := by
  cases measures with
  | version | createdAt | updatedAt => simp
  | field _ _ _ _ _ coerced =>
      obtain ⟨_, ⟨⟩, -, regular⟩ := coerced.elements (List.mem_singleton_self _)
      rintro rfl
      exact regular

theorem Measures.held (measures : record.Measures entity name a) :
    record.fieldValue? name = some (.atom a) := by
  cases measures with
  | version small => rw [fieldValue?, toInt_of_small small]
  | createdAt => rfl
  | updatedAt => rfl
  | field own _ _ _ held => rw [fieldValue?_of_own own, held]

theorem Measures.compared (measures : record.Measures entity name a) :
    Comparison.ofField? entity name = some a.comparison ∧
      a.comparison.isOrdered = true := by
  cases measures with
  | version | createdAt | updatedAt => exact ⟨rfl, rfl⟩
  | @field field scalar a own found type ordered held coerced =>
      obtain ⟨_, ⟨⟩, fits, -⟩ := coerced.elements (List.mem_singleton_self _)
      rw [Comparison.ofField?_of_own own, found, Option.map_some,
        fits.comparison_eq]
      refine ⟨rfl, ?_⟩
      rw [← fits.comparison_eq, type]
      revert ordered
      cases scalar <;> decide

theorem Measures.isMetBy (measures : record.Measures entity name a)
    (op : Operator) (operand : String) :
    Condition.isMetBy ⟨name, op, [operand]⟩ entity record =
      (a.comparison.order? (.atom a) operand).any op.accepts := by
  obtain ⟨compared, ordered⟩ := measures.compared
  simp [Condition.isMetBy, compared, measures.held, Condition.valueMatches,
    Comparison.holds, ordered]

theorem holds_of_ordering {op : Operator} (ordering : op.isOrdering = true)
    {operand : String}
    (met : Condition.isMetBy ⟨name, op, [operand]⟩ entity record = true) :
    ∃ comparison a, Comparison.ofField? entity name = some comparison ∧
      record.fieldValue? name = some (.atom a) ∧ comparison.isOrdered = true ∧
      (comparison.order? (.atom a) operand).isSome = true := by
  unfold Condition.isMetBy at met
  split at met
  next items _ _ => simp [ordering] at met
  next => cases met
  next comparison value noArray noNull compared held =>
    cases value with
    | null => exact absurd rfl noNull
    | array items => exact absurd rfl (noArray items)
    | atom a =>
        simp only [Condition.valueMatches, Comparison.holds, ordering,
          List.any_cons, List.any_nil, Bool.or_false, Bool.not_true,
          Bool.false_or, Bool.and_eq_true, Option.any_eq_true_iff_get] at met
        obtain ⟨ordered, some, -⟩ := met
        exact ⟨comparison, a, compared, held, ordered, some⟩
  next => cases met

theorem scalar_of_isOrdered {type : FieldType}
    (ordered : (Comparison.ofType type).isOrdered = true) :
    ∃ scalar ∈ [Scalar.int, .float, .date,
      .timestamp], type.element = .scalar scalar := by
  unfold Comparison.ofType at ordered
  split at ordered
  next scalar element =>
    cases scalar with
    | string | bool => cases ordered
    | int | float | date | timestamp => exact ⟨_, by simp, element⟩
  next => cases ordered

theorem IsCoerced.measures (coerced : record.IsCoerced entity) {op : Operator}
    (ordering : op.isOrdering = true) {operand : String}
    (met : Condition.isMetBy ⟨name, op, [operand]⟩ entity record = true) :
    ∃ a, record.Measures entity name a ∧ a.comparison.Reads operand := by
  obtain ⟨comparison, a, compared, held, ordered, some⟩ :=
    holds_of_ordering ordering met
  suffices measured : record.Measures entity name a by
    obtain ⟨own, -⟩ := measured.compared
    obtain rfl := Option.some.inj (compared.symm.trans own)
    exact ⟨a, measured,
      (Comparison.reads_iff measured.proper operand).mpr ⟨ordered, some⟩⟩
  cases system : isSystemField name with
  | true =>
      rcases isSystemField_iff.mp system with rfl | rfl | rfl | rfl
      · cases compared
        cases ordered
      · rw [fieldValue?, toInt_of_small coerced.small] at held
        cases held
        exact .version coerced.small
      · cases held
        exact .createdAt
      · cases held
        exact .updatedAt
  | false =>
      rw [Comparison.ofField?_of_own system, Option.map_eq_some_iff] at compared
      obtain ⟨field, found, rfl⟩ := compared
      obtain rfl : field.name = name := by simpa using List.find?_some found
      rw [fieldValue?_of_own system] at held
      have read := coerced.coerced field found _ held (by simp)
      obtain ⟨scalar, listed, element⟩ := scalar_of_isOrdered ordered
      rcases read.cases with ⟨single, -⟩ | ⟨-, items, same, -⟩
      · exact .field system found (by cases type : field.type; simp_all) listed
          held read
      · cases same

/-- An operand that can be read cuts what records measure under a name into
three, and keeps it in order; of anything else, and with any other operand, no
ordering operator holds. -/
theorem ordering_partition (entity : Entity) (name operand : String) :
    let met (record : Record) (op : Operator) :=
      Condition.isMetBy ⟨name, op, [operand]⟩ entity record
    (∀ record a, record.Measures entity name a → a.comparison.Reads operand →
      Operator.Partition (met record)) ∧
      (∀ less greater a b, less.Measures entity name a →
        greater.Measures entity name b → a.AtMost b →
        Operator.Monotone (met less) (met greater)) ∧
      ∀ record, record.IsCoerced entity →
        (¬∃ a, record.Measures entity name a ∧ a.comparison.Reads operand) →
        ∀ op, op.isOrdering = true → met record op = false := by
  intro met
  refine ⟨fun record a measures reads => ?_,
    fun less greater a b first second le => ?_,
    fun record coerced without op ordering => ?_⟩
  · obtain ⟨order, compared⟩ := Option.isSome_iff_exists.mp
      ((Comparison.reads_iff measures.proper operand).mp reads).2
    have stands : met record = fun op => op.accepts order := by
      funext op
      exact (measures.isMetBy op operand).trans
        (by rw [compared, Option.any_some])
    rw [stands]
    exact Operator.partition_accepts order
  · have stands := Comparison.monotone_of_atMost le operand
    simpa only [← first.isMetBy, ← second.isMetBy] using stands
  · exact Bool.eq_false_iff.mpr fun holds =>
      without (coerced.measures ordering holds)

end Record

def Field.due : Field where
  name := "due"
  type := ⟨.scalar .date, false⟩

def Entity.bill : Entity :=
  ⟨"d", "Bill", [.due], []⟩

namespace Record

def billDue (month : Nat) (isDate : Calendar.IsDate 2024 month 1) : Record :=
  ⟨"d.Bill", "0", 1, default, default, false,
    .ofList [("due", .atom (.date ⟨2024, month, 1, isDate⟩))]⟩

def may : Record :=
  billDue 5 (by decide)

def june : Record :=
  billDue 6 (by decide)

theorem may_coerced :
    (Value.atom (.date ⟨2024, 5, 1, by decide⟩)).Coerced .due :=
  ⟨.string "2024-05-01", .string _, by decide +kernel⟩

theorem june_coerced :
    (Value.atom (.date ⟨2024, 6, 1, by decide⟩)).Coerced .due :=
  ⟨.string "2024-06-01", .string _, by decide +kernel⟩

theorem may_measures :
    may.Measures .bill "due" (.date ⟨2024, 5, 1, by decide⟩) :=
  .field rfl rfl rfl (by simp) rfl may_coerced

theorem june_measures :
    june.Measures .bill "due" (.date ⟨2024, 6, 1, by decide⟩) :=
  .field rfl rfl rfl (by simp) rfl june_coerced

theorem may_isCoerced : may.IsCoerced .bill where
  small := by decide
  coerced := by
    intro field found value held _
    obtain rfl := List.mem_singleton.mp (List.mem_of_find?_eq_some found)
    obtain rfl := Option.some.inj (may_measures.held.symm.trans held)
    exact may_coerced

theorem bills_partition :
    let met (operand : String) (record : Record) (op : Operator) :=
      Condition.isMetBy ⟨"due", op, [operand]⟩ .bill record
    Operator.Partition (met "2024-05-01T12:00:00+02:00" may) ∧
      met "2024-05-01T12:00:00+02:00" may .eq = true ∧
      met "2024-05-01T12:00:00+02:00" june .gte = true ∧
      ∀ op, op.isOrdering = true → met "soon" may op = false := by
  intro met
  obtain ⟨partition, monotone, -⟩ :=
    ordering_partition .bill "due" "2024-05-01T12:00:00+02:00"
  obtain ⟨-, -, without⟩ := ordering_partition .bill "due" "soon"
  have equal : met "2024-05-01T12:00:00+02:00" may .eq = true := by
    decide +kernel
  have read : (Comparison.operandDate? "2024-05-01T12:00:00+02:00").isSome =
      true := by decide +kernel
  have unread : (Comparison.operandDate? "soon").isSome = false := by
    decide +kernel
  have parts := partition may _ may_measures read
  have keeps :=
    monotone may june _ _ may_measures june_measures (.date (by decide))
  refine ⟨parts, equal, keeps.gte (parts.gte.mpr (.inr equal)),
    without may may_isCoerced ?_⟩
  rintro ⟨a, measures, reads⟩
  obtain rfl := Value.atom.inj
    (Option.some.inj (may_measures.held.symm.trans measures.held))
  exact Bool.eq_false_iff.mp unread reads

end Record

end RecordStore
