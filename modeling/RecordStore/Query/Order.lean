import RecordStore.Settings
import RecordStore.Store
import RecordStore.Text.Split

namespace RecordStore

structure SortKey where
  field : String
  descending : Bool := false
deriving DecidableEq, Inhabited

namespace SortKey

/-- A key with a hyphen before it is descending; a lone hyphen is none. Plus
signs are dropped. -/
def ofChars? (cs : List Char) : Option SortKey :=
  match cs with
  | [] => none
  | '-' :: rest =>
    let field := Text.trimBoth rest
    if field.isEmpty then none else some ⟨String.ofList field, true⟩
  | cs => some ⟨String.ofList (cs.dropWhile (· == '+')), false⟩

def readList (spec : String) : List SortKey :=
  (Text.splitOn ',' spec.toList).filterMap fun piece =>
    ofChars? (Text.trimBoth piece)

end SortKey

/-- The text a record is sorted by, unless the field is absent or null. -/
def Record.sortText? (record : Record) (field : String) : Option String :=
  ((record.fieldValue? field).filter (!·.isNull)).map Value.key

namespace SortKey

/-- Records without a text have their place whatever the direction. -/
def compareTexts (key : SortKey) (nulls : NullPlacement) :
    Option String → Option String → Ordering
  | none, none => .eq
  | none, some _ => if nulls = .first then .lt else .gt
  | some _, none => if nulls = .first then .gt else .lt
  | some s, some t => if key.descending then compare t s else compare s t

def compareRecords (key : SortKey) (nulls : NullPlacement) (a b : Record) :
    Ordering :=
  key.compareTexts nulls (a.sortText? key.field) (b.sortText? key.field)

end SortKey

def compareBy (keys : List SortKey) (nulls : NullPlacement) (a b : Record) :
    Ordering :=
  match keys with
  | [] => .eq
  | key :: keys =>
    (key.compareRecords nulls a b).then (compareBy keys nulls a b)

def sortBy (keys : List SortKey) (nulls : NullPlacement)
    (records : List Record) : List Record :=
  records.mergeSort fun a b => compareBy keys nulls a b != .gt

end RecordStore
