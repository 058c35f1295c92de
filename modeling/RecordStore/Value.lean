import RecordStore.Json.Basic
import RecordStore.Time.Timestamp

namespace RecordStore

/-! Attribute values as records hold them, with their key text (by which values
are compared for uniqueness and sorted) and their JSON form. -/

inductive Atom where
  | string (s : String)
  | int (i : Int)
  | float (x : Binary64)
  | bool (b : Bool)
  | date (d : Date)
  | timestamp (t : Timestamp)
  | ref (id : String)
deriving DecidableEq, Inhabited

namespace Atom

def key : Atom → String
  | .string s => s
  | .int i => String.ofList (Decimal.intText i)
  | .float x => String.ofList (Decimal.text x)
  | .bool b => if b then "true" else "false"
  | .date d => d.text
  | .timestamp t => t.text
  | .ref id => id

/-- A number that is not finite has no JSON form but null. -/
def toJson : Atom → Json
  | .int i => .int i
  | .float x => if x.isFinite then .float x else .null
  | .bool b => .bool b
  | atom => .string atom.key

def text? : Atom → Option String
  | .string s => some s
  | .ref id => some id
  | _ => none

def refId? : Atom → Option String
  | .ref id => some id
  | _ => none

def toBinary64? : Atom → Option Binary64
  | .int i => some (.ofInt i)
  | .float x => some x
  | _ => none

end Atom

inductive Value where
  | null
  | atom (a : Atom)
  | array (items : List Value)
deriving Inhabited

namespace Value

def isNull : Value → Bool
  | .null => true
  | _ => false

def atom? : Value → Option Atom
  | .atom a => some a
  | _ => none

def refId? (value : Value) : Option String :=
  value.atom?.bind Atom.refId?

mutual

def references (id : String) : Value → Bool
  | .null => false
  | .atom a => a.refId? == some id
  | .array items => anyReferences id items

def anyReferences (id : String) : List Value → Bool
  | [] => false
  | item :: items => references id item || anyReferences id items

end

mutual

def key : Value → String
  | .null => ""
  | .atom a => a.key
  | .array items => "[" ++ ",".intercalate (keys items) ++ "]"

def keys : List Value → List String
  | [] => []
  | item :: items => key item :: keys items

end

def display : Value → String
  | .null => "null"
  | value => key value

mutual

def toJson : Value → Json
  | .null => .null
  | .atom a => a.toJson
  | .array items => .array (toJsons items)

def toJsons : List Value → List Json
  | [] => []
  | item :: items => toJson item :: toJsons items

end

mutual

def decEq : (a b : Value) → Decidable (a = b)
  | .null, .null => isTrue rfl
  | .atom a, .atom b => decidable_of_iff (a = b) (by simp)
  | .array a, .array b =>
    match decEqs a b with
    | isTrue h => isTrue (by rw [h])
    | isFalse h => isFalse (by simpa using h)
  | .null, .atom _ | .null, .array _ => isFalse (by simp)
  | .atom _, .null | .atom _, .array _ => isFalse (by simp)
  | .array _, .null | .array _, .atom _ => isFalse (by simp)

def decEqs : (a b : List Value) → Decidable (a = b)
  | [], [] => isTrue rfl
  | [], _ :: _ => isFalse (by simp)
  | _ :: _, [] => isFalse (by simp)
  | x :: xs, y :: ys =>
    match decEq x y, decEqs xs ys with
    | isTrue hx, isTrue hxs => isTrue (by rw [hx, hxs])
    | isFalse h, _ => isFalse fun e => h (List.cons.inj e).1
    | _, isFalse h => isFalse fun e => h (List.cons.inj e).2

end

instance : DecidableEq Value := decEq

@[simp] theorem keys_eq_map (items : List Value) :
    keys items = items.map key := by
  induction items with
  | nil => rfl
  | cons item items ih => simp [keys, ih]

@[simp] theorem anyReferences_eq_any (id : String) (items : List Value) :
    anyReferences id items = items.any (references id) := by
  induction items with
  | nil => rfl
  | cons item items ih => simp [anyReferences, ih]

end Value

abbrev Attributes := Fields Value

namespace Attributes

def present? (attributes : Attributes) (name : String) : Option Value :=
  (attributes.value? name).filter (!·.isNull)

end Attributes

end RecordStore
