import RecordStore.Query.Page

namespace RecordStore

abbrev Params := List (String × String)

def reservedParams : List String :=
  ["limit", "offset", "sort", "q", "nulls", "order"]

namespace Condition

def readOperands (value : String) : List String :=
  ((Text.splitOn ',' value.toList).map Text.trimBoth).filterMap fun piece =>
    if piece.isEmpty then none else some (String.ofList piece)

def readKey (key : String) : Except QueryFault (String × Operator) :=
  match Text.splitLast? ['_', '_'] key.toList with
  | some (field, op) => do
    pure (String.ofList field, ← Operator.read (String.ofList op))
  | none => .ok (key, .eq)

/-- A value that begins with `in:` asks for membership whatever the key says. -/
def ofParam (key value : String) : Except QueryFault Condition := do
  let (field, op) ← readKey key
  match Text.dropStart? "in:" value with
  | some rest => pure ⟨field, .oneOf, readOperands rest⟩
  | none =>
    pure ⟨field, op,
      if op = .oneOf then readOperands value else [Text.trim value]⟩

end Condition

namespace Filter

/-- Takes one parameter: `q` sets the text, other reserved keys are passed
over. -/
def addParam (filter : Filter) (param : String × String) :
    Except QueryFault Filter :=
  let key := Text.trim param.1
  if key = "q" then .ok (filter.withText param.2)
  else if key = "" || reservedParams.contains key then .ok filter
  else do
    let condition ← Condition.ofParam key param.2
    pure { filter with conditions := filter.conditions ++ [condition] }

def ofParams (params : Params) : Except QueryFault Filter :=
  params.foldlM addParam {}

end Filter

namespace Query

/-- A query as far as it is read, and whether all its keys are to be
descending. -/
structure Unfinished where
  query : Query
  descending : Bool := false

def readCount (name value : String) : Except QueryFault Nat :=
  match Decimal.word? value.toList with
  | some n => .ok n
  | none => .error (.badCount name)

def readDescending (value : String) : Except QueryFault Bool :=
  match Text.lowerAscii value with
  | "asc" | "" => .ok false
  | "desc" => .ok true
  | word => .error (.badOrder word)

def Unfinished.addParam (part : Unfinished) (param : String × String) :
    Except QueryFault Unfinished :=
  let value := Text.trim param.2
  match Text.trim param.1 with
  | "limit" => do
    let limit ← readCount "limit" value
    pure { part with query := { part.query with limit := some limit } }
  | "offset" => do
    let offset ← readCount "offset" value
    pure { part with query := { part.query with offset } }
  | "nulls" => do
    let nulls ← (NullPlacement.read value).mapError .badNulls
    pure { part with query := { part.query with nulls := some nulls } }
  | "sort" => .ok
    { part with query := { part.query with sort := SortKey.readList value } }
  | "order" => do
    let descending ← readDescending value
    pure { part with descending }
  | _ => .ok part

def Unfinished.finish (part : Unfinished) : Query :=
  if part.descending then
    { part.query with
      sort := part.query.sort.map fun key => { key with descending := true } }
  else part.query

/-- Reads the conditions first, then the other parameters; of equal keys the
last one counts. -/
def ofParams (params : Params) : Except QueryFault Query := do
  let filter ← Filter.ofParams params
  let part ← params.foldlM Unfinished.addParam { query := { filter } }
  pure part.finish

end Query

end RecordStore
