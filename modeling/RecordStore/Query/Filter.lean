import RecordStore.Payload.Coerce
import RecordStore.Store
import RecordStore.Text.Split

namespace RecordStore

inductive Operator where
  | eq
  | oneOf
  | gt
  | gte
  | lt
  | lte
deriving DecidableEq, Inhabited

namespace Operator

def name : Operator → String
  | .eq => "eq"
  | .oneOf => "in"
  | .gt => "gt"
  | .gte => "gte"
  | .lt => "lt"
  | .lte => "lte"

def all : List Operator := [.eq, .oneOf, .gt, .gte, .lt, .lte]

def read (name : String) : Except QueryFault Operator :=
  match all.find? (·.name == name) with
  | some op => .ok op
  | none => .error (.unknownOperator name)

def isOrdering : Operator → Bool
  | .eq | .oneOf => false
  | _ => true

def accepts : Operator → Ordering → Bool
  | .eq, order | .oneOf, order => order == .eq
  | .gt, order => order == .gt
  | .gte, order => order != .lt
  | .lt, order => order == .lt
  | .lte, order => order != .gt

end Operator

structure Condition where
  field : String
  op : Operator
  operands : List String
deriving DecidableEq, Inhabited

structure Filter where
  conditions : List Condition := []
  text : Option String := none
deriving DecidableEq, Inhabited

namespace Filter

/-- Sets the text to be found; a blank one finds everything. -/
def withText (filter : Filter) (text : String) : Filter :=
  { filter with text := if Text.isBlankText text then none else some text }

def isEmpty (filter : Filter) : Bool :=
  filter.conditions.isEmpty && filter.text.isNone

end Filter

inductive Comparison where
  | numeric
  | date
  | timestamp
  | bool
  | text
deriving DecidableEq, Inhabited

namespace Comparison

def ofScalar : Scalar → Comparison
  | .int | .float => .numeric
  | .date => .date
  | .timestamp => .timestamp
  | .bool => .bool
  | .string => .text

def ofType (type : FieldType) : Comparison :=
  match type.element with
  | .scalar s => ofScalar s
  | _ => .text

def ofField? (entity : Entity) (name : String) : Option Comparison :=
  match name with
  | "id" => some .text
  | "version" => some .numeric
  | "created_at" => some .timestamp
  | "updated_at" => some .timestamp
  | _ => (entity.field? name).map fun field => ofType field.type

def operandDate? (operand : String) : Option Date :=
  (Date.read? operand).or ((Timestamp.read? operand).map (·.date))

/-- An operand as an instant: that of a timestamp, or the start of a date in
UTC. -/
def operandInstant? (operand : String) : Option Instant :=
  ((Timestamp.read? operand).or
    ((Date.read? operand).map Timestamp.startOf)).map (·.instant)

def operandNumber? (operand : String) : Option Binary64 :=
  Decimal.read? (Text.trimBoth operand.toList)

def compareText (key operand : String) : Ordering :=
  if Text.lower key = Text.lower (Text.trim operand) then .eq else .lt

def order? (comparison : Comparison) (value : Value) (operand : String) :
    Option Ordering :=
  match comparison, value with
  | .numeric,
    .atom a => do Binary64.compare? (← a.toBinary64?) (← operandNumber? operand)
  | .date, .atom (.date d) => (operandDate? operand).map (compare d)
  | .timestamp, .atom (.timestamp t) =>
    (operandInstant? operand).map (compare t.instant)
  | .bool, .atom (.bool b) => (readBool? operand).map (compare b)
  | .text, value => some (compareText value.key operand)
  | _, _ => none

def isOrdered : Comparison → Bool
  | .bool | .text => false
  | _ => true

def holds (comparison : Comparison) (op : Operator) (value : Value)
    (operand : String) : Bool :=
  (!op.isOrdering || comparison.isOrdered) &&
    (comparison.order? value operand).any op.accepts

end Comparison

namespace Condition

def valueMatches (condition : Condition) (comparison : Comparison)
    (value : Value) : Bool :=
  condition.operands.any (comparison.holds condition.op value)

/-- A record matches with the value of the field, or with some element of an
array unless the operator orders. Absent and null values do not match. -/
def isMetBy (condition : Condition) (entity : Entity) (record : Record) :
    Bool :=
  match Comparison.ofField? entity condition.field,
    record.fieldValue? condition.field with
  | some comparison, some (.array items) =>
    !condition.op.isOrdering && items.any (condition.valueMatches comparison)
  | some _, some .null => false
  | some comparison, some value => condition.valueMatches comparison value
  | _, _ => false

end Condition

def Value.strings : Value → List String
  | .atom (.string s) => [s]
  | .array items => items.filterMap fun item =>
    match item with
    | .atom (.string s) => some s
    | _ => none
  | _ => []

def searchKey (text : String) : String :=
  Text.lower (Text.trim text)

def Record.containsText (record : Record) (text : String) : Bool :=
  let needle := searchKey text
  needle = "" || record.attributes.items.any fun (_, value) =>
    value.strings.any fun s => Text.contains (Text.lower s) needle

namespace Filter

def accepts (filter : Filter) (entity : Entity) (record : Record) : Bool :=
  filter.conditions.all (fun condition => condition.isMetBy entity record) &&
    filter.text.all record.containsText

end Filter

end RecordStore
