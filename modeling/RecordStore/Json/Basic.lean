import RecordStore.Index
import RecordStore.Number.Binary64

namespace RecordStore

/-! JSON values. Integers and floating-point numbers are kept apart, as are the
members of an object in the order in which they were written. -/

inductive Json where
  | null
  | bool (b : Bool)
  | int (i : Int)
  | float (x : Binary64)
  | string (s : String)
  | array (items : List Json)
  | object (members : List (String × Json))
deriving Inhabited

namespace Json

def isNull : Json → Bool
  | .null => true
  | _ => false

def toBinary64? : Json → Option Binary64
  | .int i => some (.ofInt i)
  | .float x => some x
  | _ => none

def member? (json : Json) (name : String) : Option Json :=
  match json with
  | .object members => (members.find? (·.1 == name)).map Prod.snd
  | _ => none

/-- The members of an object by name; the last of equal names stays. -/
def fields? : Json → Option (Fields Json)
  | .object members => some (Index.ofList members)
  | _ => none

end Json

abbrev Payload := Fields Json

end RecordStore
