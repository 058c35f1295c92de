namespace RecordStore.Ulid

/-! Sortable identifiers of 128 bits: milliseconds in the upper 48, chance in
the lower 80. Their texts have 26 digits of base 32 and are ordered as the
numbers are. -/

/-- Digits and capitals, without I, L, O and U. -/
def alphabet : List Char :=
  "0123456789ABCDEFGHJKMNPQRSTVWXYZ".toList

def digit (n : Nat) : Char :=
  alphabet.getD n '0'

def digits (n : Nat) : (count : Nat) → List Char
  | 0 => []
  | count + 1 => digits (n / 32) count ++ [digit (n % 32)]

def text (n : Nat) : String :=
  String.ofList (digits n 26)

def ofParts (milliseconds chance : Nat) : Nat :=
  milliseconds % Nat.pow 2 48 * Nat.pow 2 80 + chance % Nat.pow 2 80

end RecordStore.Ulid
