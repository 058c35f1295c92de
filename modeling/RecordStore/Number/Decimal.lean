import RecordStore.Number.Binary64

namespace RecordStore.Decimal

def digits (n : Nat) : List Char :=
  Nat.toDigits 10 n

def ofDigits (cs : List Char) : Nat :=
  Nat.ofDigitChars 10 cs 0

def padded (width n : Nat) : List Char :=
  List.replicate (width - (digits n).length) '0' ++ digits n

theorem ofDigits_digits (n : Nat) : ofDigits (digits n) = n :=
  Nat.ofDigitChars_ten_toDigits

/-- The natural that a text of digits, after an optional plus sign, stands
for. -/
def nat? (cs : List Char) : Option Nat :=
  let body := if cs.head? = some '+' then cs.tail else cs
  if body ≠ [] ∧ body.all Char.isDigit then some (ofDigits body) else none

def wordCount : Nat := Nat.pow 2 64

def word? (cs : List Char) : Option Nat :=
  (nat? cs).filter (· < wordCount)

structure Scaled where
  significand : Nat
  exponent : Int
deriving DecidableEq

def Scaled.quotient (x : Scaled) : Nat × Nat :=
  if x.exponent < 0 then (x.significand, Nat.pow 10 (-x.exponent).toNat)
  else (x.significand * Nat.pow 10 x.exponent.toNat, 1)

def Scaled.round (negative : Bool) (x : Scaled) : Binary64 :=
  Binary64.round negative x.quotient.1 x.quotient.2

def Scaled.strip (fuel : Nat) (x : Scaled) : Scaled :=
  match fuel with
  | 0 => x
  | fuel + 1 =>
    if x.significand ≠ 0 ∧ x.significand % 10 = 0 then
      Scaled.strip fuel ⟨x.significand / 10, x.exponent + 1⟩
    else x

inductive Tie where
  | up
  | toEven
deriving DecidableEq

def Tie.pick (tie : Tie) (below above : Scaled) (remainder divisor : Nat) :
    Scaled :=
  if 2 * remainder < divisor then below
  else if divisor < 2 * remainder then above
  else if tie = .toEven ∧ below.significand % 2 = 0 then below
  else above

/-- The point of the grid of multiples of 10^exponent that reads back as a
magnitude: the nearer of its two neighbours, if both do. -/
def nearestOnGrid? (tie : Tie) (significand : Nat)
    (exponent gridExponent : Int) : Option Scaled :=
  let x := Binary64.finite false significand exponent
  let (n, d) := Binary64.quotient significand exponent
  let (n, d) :=
    if gridExponent < 0 then (n * Nat.pow 10 (-gridExponent).toNat, d)
    else (n, d * Nat.pow 10 gridExponent.toNat)
  let below : Scaled := ⟨n / d, gridExponent⟩
  let above : Scaled := ⟨n / d + 1, gridExponent⟩
  match decide (below.round false = x), decide (above.round false = x) with
  | true, true => some (tie.pick below above (n % d) d)
  | true, false => some below
  | false, true => some above
  | false, false => none

def searchGrids (tie : Tie) (significand : Nat) (exponent gridExponent : Int) :
    Nat → Option Scaled
  | 0 => none
  | fuel + 1 =>
    match nearestOnGrid? tie significand exponent gridExponent with
    | some x => some x
    | none => searchGrids tie significand exponent (gridExponent - 1) fuel

/-- The decimal with the fewest digits that reads back as significand ·
2^exponent. -/
def shortest (tie : Tie) (significand : Nat) (exponent : Int) : Scaled :=
  if significand = 0 then ⟨0, 0⟩
  else
    let (n, d) := Binary64.quotient significand exponent
    let start := (digits (n / d)).length
    match searchGrids tie significand exponent start (start + 1075) with
    | some x => x.strip 400
    | none =>
      ⟨n * Nat.pow 5 (-exponent).toNat, if exponent < 0 then exponent else 0⟩

def positional (x : Scaled) : List Char :=
  if 0 ≤ x.exponent then digits (x.significand * Nat.pow 10 x.exponent.toNat)
  else
    let places := (-x.exponent).toNat
    let unit := Nat.pow 10 places
    digits (x.significand / unit) ++ '.' :: padded places (x.significand % unit)

def signed (negative : Bool) (cs : List Char) : List Char :=
  if negative then '-' :: cs else cs

/-- The text of a number: the fewest digits that read back, never an exponent; a
tie goes up. -/
def text : Binary64 → List Char
  | .nan => ['N', 'a', 'N']
  | .infinite negative => signed negative ['i', 'n', 'f']
  | .finite negative significand exponent =>
    signed negative (positional (shortest .up significand exponent))

def intText (i : Int) : List Char :=
  signed (i < 0) (digits i.natAbs)

/-- Magnitudes past any number of the format, or below half its least, are
settled by their exponent. -/
def roundScaled (negative : Bool) (x : Scaled) : Binary64 :=
  let magnitude := ((digits x.significand).length : Int) + x.exponent
  if x.significand = 0 then .zero negative
  else if 310 < magnitude then .infinite negative
  else if magnitude < -330 then .zero negative
  else x.round negative

def exponentPart? : List Char → Option Int
  | [] => some 0
  | mark :: rest =>
    if mark = 'e' ∨ mark = 'E' then
      let (negative, body) :=
        match rest with
        | '-' :: body => (true, body)
        | '+' :: body => (false, body)
        | body => (false, body)
      if body ≠ [] ∧ body.all Char.isDigit then
        some (if negative then -(ofDigits body : Int) else ofDigits body)
      else none
    else none

/-- Digits with an optional fraction and exponent; a point needs a digit on one
side. -/
def magnitude? (cs : List Char) : Option Scaled := do
  let whole := cs.takeWhile Char.isDigit
  let rest := cs.dropWhile Char.isDigit
  let (fraction, rest) :=
    match rest with
    | '.' :: rest => (rest.takeWhile Char.isDigit, rest.dropWhile Char.isDigit)
    | rest => ([], rest)
  guard (whole ≠ [] ∨ fraction ≠ [])
  let exponent ← exponentPart? rest
  pure ⟨ofDigits (whole ++ fraction), exponent - fraction.length⟩

/-- A decimal, or a special value by its name in letters of either case, after
an optional sign. -/
def read? (cs : List Char) : Option Binary64 :=
  let (negative, body) :=
    match cs with
    | '-' :: body => (true, body)
    | '+' :: body => (false, body)
    | body => (false, body)
  let word := body.map Char.toLower
  if word = ['n', 'a', 'n'] then some .nan
  else if word = ['i', 'n', 'f'] ∨
    word = ['i', 'n', 'f', 'i', 'n', 'i', 't', 'y'] then
    some (.infinite negative)
  else (magnitude? body).map (roundScaled negative)

end RecordStore.Decimal
