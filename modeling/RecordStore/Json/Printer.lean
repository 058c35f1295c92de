import RecordStore.Json.Basic
import RecordStore.Number.Decimal

namespace RecordStore.Json

def hexByte (n : Nat) : List Char :=
  [Nat.digitChar (n / 16), Nat.digitChar (n % 16)]

def escapeChar (c : Char) : List Char :=
  match c with
  | '"' => ['\\', '"']
  | '\\' => ['\\', '\\']
  | '\x08' => ['\\', 'b']
  | '\t' => ['\\', 't']
  | '\n' => ['\\', 'n']
  | '\x0c' => ['\\', 'f']
  | '\r' => ['\\', 'r']
  | _ =>
    if c.toNat < 0x20 then ['\\', 'u', '0', '0'] ++ hexByte c.toNat else [c]

def stringText (s : String) : String :=
  String.ofList ('"' :: s.toList.flatMap escapeChar ++ ['"'])

def pointAfterFirst : List Char → List Char
  | [] => []
  | [c] => [c]
  | c :: rest => c :: '.' :: rest

/-- Positional with a fraction from 1e-5 up to below 1e16, with an exponent
elsewhere. -/
def magnitudeText (x : Decimal.Scaled) : List Char :=
  let places := Decimal.digits x.significand
  let point := (places.length : Int) + x.exponent
  if x.significand = 0 then ['0', '.', '0']
  else if -5 < point ∧ point ≤ 16 then
    if 0 ≤ x.exponent then Decimal.positional x ++ ['.', '0']
    else Decimal.positional x
  else pointAfterFirst places ++ 'e' :: Decimal.intText (point - 1)

/-- The fewest digits that read back; of two equally near decimals the even
one. -/
def numberText : Binary64 → String
  | .finite negative significand exponent =>
    String.ofList (Decimal.signed negative
      (magnitudeText (Decimal.shortest .toEven significand exponent)))
  | _ => "null"

mutual

def compress : Json → String
  | .null => "null"
  | .bool b => if b then "true" else "false"
  | .int i => String.ofList (Decimal.intText i)
  | .float x => numberText x
  | .string s => stringText s
  | .array items => "[" ++ ",".intercalate (compressItems items) ++ "]"
  | .object members =>
    "\x7b" ++ ",".intercalate (compressMembers members) ++ "\x7d"

def compressItems : List Json → List String
  | [] => []
  | item :: items => compress item :: compressItems items

def compressMembers : List (String × Json) → List String
  | [] => []
  | (name, value) :: members =>
    (stringText name ++ ":" ++ compress value) :: compressMembers members

end

end RecordStore.Json
