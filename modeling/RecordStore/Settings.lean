import RecordStore.Json.Shape
import RecordStore.Text.Lowercase

namespace RecordStore

open Json (Document)
open Json.Document

inductive NullPlacement where
  | first
  | last
deriving DecidableEq, Inhabited

namespace NullPlacement

def name : NullPlacement → String
  | .first => "first"
  | .last => "last"

def table : List (String × NullPlacement) :=
  [("first", .first), ("last", .last)]

def read (s : String) : Except String NullPlacement :=
  let word := Text.lowerAscii (Text.trim s)
  match table.find? (·.1 == word) with
  | some (_, placement) => .ok placement
  | none => .error word

end NullPlacement

structure Settings where
  defaultLimit : Nat := 50
  maxLimit : Nat := 1000
  lookupLimit : Nat := 10
  maxLookupLimit : Nat := 100
  defaultNulls : NullPlacement := .last
  parentField : String := "parent_id"
  /-- How many parent links are followed in search of a cycle. -/
  maxParentDepth : Nat := 2048
deriving DecidableEq, Inhabited

namespace Settings

/-- A requested size cut to the greatest one; nothing or zero asks for the
default. -/
def clamp (default greatest : Nat) : Option Nat → Nat
  | some (n + 1) => min (n + 1) greatest
  | _ => min default greatest

def pageLimit (settings : Settings) : Option Nat → Nat :=
  clamp settings.defaultLimit settings.maxLimit

def lookupSize (settings : Settings) : Option Nat → Nat :=
  clamp settings.lookupLimit settings.maxLookupLimit

def memberNames : List String :=
  ["default_limit", "max_limit", "lookup_limit", "max_lookup_limit",
    "default_nulls", "parent_field", "max_parent_depth"]

def ofDocument? (document : Document) : Option Settings :=
  let usual : Settings := {}
  match structure? memberNames document with
  | some [defaultLimit, maxLimit, lookupLimit, maxLookupLimit, nulls,
    parentField, depth] => do
    pure {
      defaultLimit := ← optional? usual.defaultLimit word? defaultLimit
      maxLimit := ← optional? usual.maxLimit word? maxLimit
      lookupLimit := ← optional? usual.lookupLimit word? lookupLimit
      maxLookupLimit := ← optional? usual.maxLookupLimit word? maxLookupLimit
      defaultNulls := ← optional? usual.defaultNulls
        (plainChoice? NullPlacement.table) nulls
      parentField := ← optional? usual.parentField text? parentField
      maxParentDepth := ← optional? usual.maxParentDepth word? depth }
  | _ => none

end Settings

end RecordStore
