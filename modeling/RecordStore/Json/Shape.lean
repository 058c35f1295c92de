import RecordStore.Json.Document

namespace RecordStore.Json.Document

/-! Reading structures, choices and lists out of documents. A structure may be
written as an object or as the array of its members in order; members it does
not declare are passed over, and one that it declares may not be repeated. -/

def text? : Document → Option String
  | .string value? => value?
  | _ => none

def flag? : Document → Option Bool
  | .bool b => some b
  | _ => none

def word? : Document → Option Nat
  | .number (some (.int i)) => if 0 ≤ i then some i.toNat else none
  | _ => none

def list? {α : Type} (item? : Document → Option α) : Document → Option (List α)
  | .array items => items.mapM item?
  | _ => none

def nullable? {α : Type} (value? : Document → Option α) :
    Document → Option (Option α)
  | .null => some none
  | document => (value? document).map some

def namedMembers? (members : List (Option String × Document)) :
    Option (List (String × Document)) :=
  members.mapM fun (name, value) => name.map (·, value)

/-- The one member of a name, if there is one; repeating it is a fault. -/
def uniqueMember? (members : List (String × Document)) (name : String) :
    Option (Option Document) :=
  match members.filter (·.1 == name) with
  | [] => some none
  | [(_, value)] => some (some value)
  | _ => none

def structure? (names : List String) :
    Document → Option (List (Option Document))
  | .object members => do
    let members ← namedMembers? members
    names.mapM (uniqueMember? members)
  | .array items =>
    if items.length ≤ names.length then
      some (items.map some ++ List.replicate (names.length - items.length) none)
    else none
  | _ => none

def required? {α : Type} (value? : Document → Option α)
    (member : Option Document) : Option α :=
  member.bind value?

def optional? {α : Type} (default : α) (value? : Document → Option α) :
    Option Document → Option α
  | none => some default
  | some document => value? document

/-- A choice with a content: an object whose one member is named for the
choice. -/
def choice? : Document → Option (String × Document)
  | .object [(some name, content)] => some (name, content)
  | _ => none

def namedIn? {α : Type} (table : List (String × α)) (name : String) :
    Option α :=
  (table.find? (·.1 == name)).map Prod.snd

/-- A plain choice: its name, or an object that gives the name a null. -/
def plainChoice? {α : Type} (table : List (String × α)) : Document → Option α
  | .string (some name) => namedIn? table name
  | .object [(some name, .null)] => namedIn? table name
  | _ => none

end RecordStore.Json.Document
