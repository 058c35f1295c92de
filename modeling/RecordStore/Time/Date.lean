import RecordStore.Number.Decimal
import RecordStore.Text.Blank

namespace RecordStore

namespace Calendar

def isLeap (year : Int) : Bool :=
  year % 4 == 0 && (year % 100 != 0 || year % 400 == 0)

def daysInMonth (year : Int) (month : Nat) : Nat :=
  match month with
  | 2 => if isLeap year then 29 else 28
  | 4 | 6 | 9 | 11 => 30
  | _ => 31

def IsDate (year : Int) (month day : Nat) : Prop :=
  1 ≤ month ∧ month ≤ 12 ∧ 1 ≤ day ∧ day ≤ daysInMonth year month

instance (year : Int) (month day : Nat) : Decidable (IsDate year month day) :=
  inferInstanceAs (Decidable (_ ∧ _))

theorem daysInMonth_pos (year : Int) (month : Nat) :
    28 ≤ daysInMonth year month := by
  unfold daysInMonth
  split
  · split <;> decide
  all_goals decide

end Calendar

structure Date where
  year : Int
  month : Nat
  day : Nat
  isDate : Calendar.IsDate year month day
deriving DecidableEq

namespace Date

open Calendar

def of? (year : Int) (month day : Nat) : Option Date :=
  if h : IsDate year month day then some ⟨year, month, day, h⟩ else none

instance : Inhabited Date := ⟨⟨1970, 1, 1, by decide⟩⟩

instance : Ord Date where
  compare a b := (compare a.year b.year).then
    ((compare a.month b.month).then (compare a.day b.day))

def next (date : Date) : Date :=
  if h : date.day + 1 ≤ daysInMonth date.year date.month then
    ⟨date.year, date.month, date.day + 1, date.isDate.1, date.isDate.2.1,
      by omega, h⟩
  else if h : date.month + 1 ≤ 12 then
    ⟨date.year, date.month + 1, 1, by omega, h, by decide,
      Nat.le_trans (by decide) (daysInMonth_pos date.year (date.month + 1))⟩
  else
    ⟨date.year + 1, 1, 1, by decide, by decide, by decide,
      Nat.le_trans (by decide) (daysInMonth_pos (date.year + 1) 1)⟩

def previous (date : Date) : Date :=
  if h : 2 ≤ date.day then
    ⟨date.year, date.month, date.day - 1, date.isDate.1, date.isDate.2.1,
      by omega, Nat.le_trans (by omega) date.isDate.2.2.2⟩
  else if h : 2 ≤ date.month then
    ⟨date.year, date.month - 1, daysInMonth date.year (date.month - 1),
      by omega, Nat.le_trans (by omega) date.isDate.2.1,
      Nat.le_trans (by decide) (daysInMonth_pos date.year (date.month - 1)),
      Nat.le_refl _⟩
  else
    ⟨date.year - 1, 12, daysInMonth (date.year - 1) 12, by decide, by decide,
      Nat.le_trans (by decide) (daysInMonth_pos (date.year - 1) 12),
      Nat.le_refl _⟩

/-! Text: `YYYY-MM-DD`, with a sign before years of more than four digits and
before negative ones. -/

def yearText (year : Int) : List Char :=
  if 0 ≤ year ∧ year ≤ 9999 then Decimal.padded 4 year.toNat
  else (if year < 0 then '-' else '+') :: Decimal.padded 4 year.natAbs

def chars (date : Date) : List Char :=
  yearText date.year ++
    '-' :: (Decimal.padded 2 date.month ++ '-' :: Decimal.padded 2 date.day)

def text (date : Date) : String :=
  String.ofList date.chars

/-! Reading: ten bytes with hyphens at the fifth and the eighth. -/

def readYear? : List Char → Option Int
  | '+' :: rest => (unsigned? rest).map fun (n : Nat) => (n : Int)
  | '-' :: rest => (unsigned? rest).map fun (n : Nat) => -(n : Int)
  | cs => (unsigned? cs).map fun (n : Nat) => (n : Int)
where
  unsigned? (cs : List Char) : Option Nat :=
    if cs ≠ [] ∧ cs.all Char.isDigit then some (Decimal.ofDigits cs) else none

/-- Two digits, the first of which may be white space. -/
def readTwo? : List Char → Option Nat
  | [a, b] =>
    if b.isDigit && a.isDigit then some (Decimal.ofDigits [a, b])
    else if b.isDigit && Text.isBlank a then some (Decimal.ofDigits [b])
    else none
  | _ => none

def ofChars? : List Char → Option Date
  | [y₁, y₂, y₃, y₄, '-', m₁, m₂, '-', d₁, d₂] => do
    guard ([y₁, y₂, y₃, y₄, m₁, m₂, d₁, d₂].all fun c => c.toNat < 0x80)
    let year ← readYear? [y₁, y₂, y₃, y₄]
    let month ← readTwo? [m₁, m₂]
    let day ← readTwo? [d₁, d₂]
    of? year month day
  | _ => none

def read? (s : String) : Option Date :=
  ofChars? (Text.trimBoth s.toList)

end Date

end RecordStore
