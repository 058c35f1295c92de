import RecordStore.Error
import RecordStore.Value

namespace RecordStore

/-! Submitted JSON turned into values of a field's type. Nothing is converted
silently: numbers are not read from strings nor strings from numbers; only
dates, timestamps and the words for truth are read from text. -/

def truthWords : List (String × Bool) :=
  [("true", true), ("1", true), ("yes", true), ("y", true), ("on", true),
    ("false", false), ("0", false), ("no", false), ("n", false), ("off", false)]

def readBool? (s : String) : Option Bool :=
  let word := Text.lowerAscii (Text.trim s)
  (truthWords.find? (·.1 == word)).map Prod.snd

def leastInt : Int := -9223372036854775808

def greatestInt : Int := 9223372036854775807

def inIntRange (i : Int) : Bool :=
  leastInt ≤ i && i ≤ greatestInt

namespace Atom

/-- An integer in range, also one written or rounded as a floating-point
number. -/
def intOfJson? (raw : Json) : Option Atom :=
  match raw with
  | .int i =>
    if inIntRange i then some (.int i)
    else ((Binary64.ofInt i).toInt?.filter inIntRange).map .int
  | .float x => (x.toInt?.filter inIntRange).map .int
  | _ => none

def scalarOfJson? (scalar : Scalar) (raw : Json) : Option Atom :=
  match scalar, raw with
  | .string, .string s => some (.string s)
  | .int, raw => intOfJson? raw
  | .float, raw => raw.toBinary64?.map .float
  | .bool, .bool b => some (.bool b)
  | .bool, .string s => (readBool? s).map .bool
  | .date, .string s => (Date.read? s).map .date
  | .timestamp, .string s => (Timestamp.read? s).map .timestamp
  | _, _ => none

/-- A single value of an element type; a reference is an id without the white
space around it. -/
def ofJson? (type : ElementType) (raw : Json) : Option Atom :=
  match type, raw with
  | .scalar scalar, raw => scalarOfJson? scalar raw
  | .choice _, .string s => some (.string s)
  | .reference _, .string s =>
    if Text.isBlankText s then none else some (.ref (Text.trim s))
  | _, _ => none

end Atom

namespace Value

def elementsOfJson (type : ElementType) (index : Nat) :
    List Json → Except Nat (List Value)
  | [] => .ok []
  | raw :: rest =>
    match Atom.ofJson? type raw with
    | some a => (elementsOfJson type (index + 1) rest).map (.atom a :: ·)
    | none => .error index

def ofJson (field : Field) (raw : Json) : Except FieldError Value :=
  let mistyped (expected : String) : FieldError :=
    ⟨field.name, .mistyped expected⟩
  let expected := field.type.describe
  if !field.type.many then
    match Atom.ofJson? field.type.element raw with
    | some a => .ok (.atom a)
    | none => .error (mistyped expected)
  else match raw with
    | .array items =>
      match elementsOfJson field.type.element 0 items with
      | .ok values => .ok (.array values)
      | .error index =>
        .error (mistyped
          (expected ++ " (element at index " ++ toString index ++ ")"))
    | _ => .error (mistyped expected)

end Value

end RecordStore
