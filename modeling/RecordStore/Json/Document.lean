import RecordStore.Json.Basic
import RecordStore.Number.Decimal

namespace RecordStore.Json

/-! JSON texts. Reading has two steps: the grammar gives a `Document`, in which
a numeral may be too large for a number and a string may hold half of a
surrogate pair; only what is then looked at has to have a value, and must not be
nested too deeply. -/

inductive Document where
  | null
  | bool (b : Bool)
  | number (value? : Option Json)
  | string (value? : Option String)
  | array (items : List Document)
  | object (members : List (Option String × Document))
deriving Inhabited

namespace Document

def ten (k : Nat) : Binary64 :=
  Binary64.round false (Nat.pow 10 k) 1

/-- The part of a numeral before its exponent: a significand of one machine
word, and how many places the decimal point is right of its last digit. Digits
that do not fit the word only shift the point. -/
structure Numeral where
  significand : Nat
  shift : Int
  full : Bool

def Numeral.zero : Numeral := ⟨0, 0, false⟩

def Numeral.wholeDigit (x : Numeral) (c : Char) : Numeral :=
  let next := 10 * x.significand + (c.toNat - '0'.toNat)
  if x.full || Decimal.wordCount ≤ next then ⟨x.significand, x.shift + 1, true⟩
  else ⟨next, x.shift, false⟩

def Numeral.fractionDigit (x : Numeral) (c : Char) : Numeral :=
  let next := 10 * x.significand + (c.toNat - '0'.toNat)
  if x.full || Decimal.wordCount ≤ next then ⟨x.significand, x.shift, true⟩
  else ⟨next, x.shift - 1, false⟩

/-- Scales by a power of ten in binary64 arithmetic; a power past the greatest
one of the format is taken in steps. -/
def scaleByTen (x : Binary64) (shift : Int) : Nat → Option Binary64
  | 0 => some x
  | fuel + 1 =>
    if shift.natAbs ≤ 308 then
      if 0 ≤ shift then
        let y := x.mul (ten shift.natAbs)
        if y.isFinite then some y else none
      else some (x.div (ten shift.natAbs))
    else if x = Binary64.zero false then some x
    else if 0 ≤ shift then none
    else scaleByTen (x.div (ten 308)) (shift + 308) fuel

def floatValue? (negative : Bool) (significand : Nat) (shift : Int) :
    Option Json :=
  (scaleByTen (.ofNat significand) shift 5).map fun x =>
    .float (if negative then x.negate else x)

def integerValue? (negative : Bool) (x : Numeral) : Option Json :=
  if x.full then floatValue? negative x.significand x.shift
  else if !negative then some (.int x.significand)
  else if x.significand = 0 ∨ Nat.pow 2 63 < x.significand then
    some (.float (Binary64.ofNat x.significand).negate)
  else some (.int (-x.significand))

/-- An exponent beyond a 32-bit integer makes any significand but zero too
large, or zero. -/
def exponentValue? (negative : Bool) (x : Numeral) (down : Bool)
    (exponent : Nat) : Option Json :=
  if Nat.pow 2 31 ≤ exponent then
    if !down && x.significand ≠ 0 then none else some (.float (.zero negative))
  else floatValue? negative x.significand
    (if down then x.shift - exponent else x.shift + exponent)

def readExponent? (negative : Bool) (x : Numeral) (cs : List Char) :
    Option (Document × List Char) :=
  let (down, body) :=
    match cs with
    | '-' :: rest => (true, rest)
    | '+' :: rest => (false, rest)
    | rest => (false, rest)
  let places := body.takeWhile Char.isDigit
  if places.isEmpty then none
  else some (.number (exponentValue? negative x down (Decimal.ofDigits places)),
    body.dropWhile Char.isDigit)

def readTail? (negative : Bool) (x : Numeral) (cs : List Char) :
    Option (Document × List Char) :=
  match cs with
  | '.' :: rest =>
    let places := rest.takeWhile Char.isDigit
    let rest := rest.dropWhile Char.isDigit
    let y := places.foldl Numeral.fractionDigit { x with full := false }
    if places.isEmpty then none
    else match rest with
      | 'e' :: rest | 'E' :: rest => readExponent? negative y rest
      | rest =>
        some (.number (floatValue? negative y.significand y.shift), rest)
  | 'e' :: rest | 'E' :: rest => readExponent? negative x rest
  | rest => some (.number (integerValue? negative x), rest)

/-- Reads a numeral after its sign; a zero stands alone before the point. -/
def readNumeral? (negative : Bool) (cs : List Char) :
    Option (Document × List Char) :=
  let places := cs.takeWhile Char.isDigit
  let rest := cs.dropWhile Char.isDigit
  match places with
  | [] => none
  | '0' :: _ :: _ => none
  | _ => readTail? negative (places.foldl Numeral.wholeDigit .zero) rest

def hexDigit? (c : Char) : Option Nat :=
  if c.isDigit then some (c.toNat - '0'.toNat)
  else if 'a' ≤ c ∧ c ≤ 'f' then some (c.toNat - 'a'.toNat + 10)
  else if 'A' ≤ c ∧ c ≤ 'F' then some (c.toNat - 'A'.toNat + 10)
  else none

def hexUnit? (a b c d : Char) : Option Nat := do
  pure ((((← hexDigit? a) * 16 + (← hexDigit? b)) * 16 + (← hexDigit? c)) * 16 +
    (← hexDigit? d))

/-- One step of a string: a character as it stands, or a code unit of an
escape. -/
inductive Piece where
  | char (c : Char)
  | unit (n : Nat)

def simpleEscape? : Char → Option Char
  | '"' => some '"'
  | '\\' => some '\\'
  | '/' => some '/'
  | 'b' => some '\x08'
  | 'f' => some '\x0c'
  | 'n' => some '\n'
  | 'r' => some '\r'
  | 't' => some '\t'
  | _ => none

def readPieces? : List Char → Option (List Piece × List Char)
  | [] => none
  | '"' :: rest => some ([], rest)
  | '\\' :: 'u' :: a :: b :: c :: d :: rest => do
    let n ← hexUnit? a b c d
    let (pieces, rest) ← readPieces? rest
    pure (.unit n :: pieces, rest)
  | '\\' :: c :: rest => do
    let c ← simpleEscape? c
    let (pieces, rest) ← readPieces? rest
    pure (.char c :: pieces, rest)
  | c :: rest =>
    if c.toNat < 0x20 || c == '\\' then none
    else (readPieces? rest).map fun (pieces, rest) => (.char c :: pieces, rest)

/-- Joins surrogate pairs; half of a pair has no character. -/
def joinPieces? : List Piece → Option (List Char)
  | [] => some []
  | .char c :: rest => (joinPieces? rest).map (c :: ·)
  | .unit n :: rest =>
    if 0xD800 ≤ n ∧ n < 0xDC00 then
      match rest with
      | .unit m :: rest =>
        if 0xDC00 ≤ m ∧ m < 0xE000 then
          (joinPieces? rest).map
            (Char.ofNat (0x10000 + (n - 0xD800) * 0x400 + (m - 0xDC00)) :: ·)
        else none
      | _ => none
    else if 0xDC00 ≤ n ∧ n < 0xE000 then none
    else (joinPieces? rest).map (Char.ofNat n :: ·)

def readString? (cs : List Char) : Option (Option String × List Char) :=
  (readPieces? cs).map fun (pieces, rest) =>
    ((joinPieces? pieces).map String.ofList, rest)

def isSpace (c : Char) : Bool :=
  c == ' ' || c == '\n' || c == '\t' || c == '\r'

def skipSpace (cs : List Char) : List Char :=
  cs.dropWhile isSpace

mutual

/-- A value, after white space. The fuel bounds the nesting and the number of
items together; one unit for each character of the text suffices. -/
def readValue? (fuel : Nat) (cs : List Char) : Option (Document × List Char) :=
  match fuel with
  | 0 => none
  | fuel + 1 =>
    match skipSpace cs with
    | 'n' :: 'u' :: 'l' :: 'l' :: rest => some (.null, rest)
    | 't' :: 'r' :: 'u' :: 'e' :: rest => some (.bool true, rest)
    | 'f' :: 'a' :: 'l' :: 's' :: 'e' :: rest => some (.bool false, rest)
    | '"' :: rest => (readString? rest).map fun (s, rest) => (.string s, rest)
    | '-' :: rest => readNumeral? true rest
    | '[' :: rest =>
      match skipSpace rest with
      | ']' :: rest => some (.array [], rest)
      | rest =>
        (readItems? fuel rest).map fun (items, rest) => (.array items, rest)
    | '\x7b' :: rest =>
      match skipSpace rest with
      | '\x7d' :: rest => some (.object [], rest)
      | rest => (readMembers? fuel rest).map fun (members, rest) =>
        (.object members, rest)
    | rest => readNumeral? false rest

def readItems? (fuel : Nat) (cs : List Char) :
    Option (List Document × List Char) :=
  match fuel with
  | 0 => none
  | fuel + 1 => do
    let (item, rest) ← readValue? fuel cs
    match skipSpace rest with
    | ',' :: rest =>
      let (items, rest) ← readItems? fuel rest
      pure (item :: items, rest)
    | ']' :: rest => pure ([item], rest)
    | _ => none

def readMembers? (fuel : Nat) (cs : List Char) :
    Option (List (Option String × Document) × List Char) :=
  match fuel with
  | 0 => none
  | fuel + 1 =>
    match skipSpace cs with
    | '"' :: rest => do
      let (name, rest) ← readString? rest
      match skipSpace rest with
      | ':' :: rest =>
        let (value, rest) ← readValue? fuel rest
        match skipSpace rest with
        | ',' :: rest =>
          let (members, rest) ← readMembers? fuel rest
          pure ((name, value) :: members, rest)
        | '\x7d' :: rest => pure ([(name, value)], rest)
        | _ => none
      | _ => none
    | _ => none

end

def read? (text : String) : Option Document :=
  let cs := text.toList
  match readValue? (2 * cs.length + 2) cs with
  | some (document, rest) =>
    if (skipSpace rest).isEmpty then some document else none
  | none => none

def deepest : Nat := 127

mutual

/-- The value of a document, if every part has one and no more than `room`
brackets stand around any. -/
def toJson? (room : Nat) : Document → Option Json
  | .null => some .null
  | .bool b => some (.bool b)
  | .number value? => value?
  | .string value? => value?.map .string
  | .array items =>
    match room with
    | 0 => none
    | room + 1 => (itemsToJson? room items).map .array
  | .object members =>
    match room with
    | 0 => none
    | room + 1 => (membersToJson? room members).map .object

def itemsToJson? (room : Nat) : List Document → Option (List Json)
  | [] => some []
  | item :: items => do
    let item ← toJson? room item
    let items ← itemsToJson? room items
    pure (item :: items)

def membersToJson? (room : Nat) :
    List (Option String × Document) → Option (List (String × Json))
  | [] => some []
  | (name, value) :: members => do
    let name ← name
    let value ← toJson? room value
    let members ← membersToJson? room members
    pure ((name, value) :: members)

end

end Document

def read? (text : String) : Option Json :=
  (Document.read? text).bind (Document.toJson? Document.deepest)

end RecordStore.Json
