namespace RecordStore

/-! Numbers in the binary64 format, computed exactly: an operation takes the
exact quotient of two naturals and rounds it once, to the nearest number of the
format, ties to the even significand. -/

/-- A finite number is ±significand · 2^exponent. -/
inductive Binary64 where
  | nan
  | infinite (negative : Bool)
  | finite (negative : Bool) (significand : Nat) (exponent : Int)
deriving DecidableEq, Inhabited

namespace Binary64

def precision : Nat := 53

def leastExponent : Int := -1074

def greatestExponent : Int := 971

def scale (numerator denominator : Nat) (exponent : Int) : Nat × Nat :=
  if exponent < 0 then (numerator * Nat.pow 2 (-exponent).toNat, denominator)
  else (numerator, denominator * Nat.pow 2 exponent.toNat)

/-- The least exponent at which the integral part of a quotient fits the
precision. -/
def exponentFor (numerator denominator : Nat) : Int :=
  let low := (Nat.log2 numerator : Int) - Nat.log2 denominator - precision
  let exponent := if low < leastExponent then leastExponent else low
  let (n, d) := scale numerator denominator exponent
  if n / d < Nat.pow 2 precision then exponent else exponent + 1

def nearestEven (numerator denominator : Nat) : Nat :=
  let quotient := numerator / denominator
  let twice := 2 * (numerator % denominator)
  if twice < denominator then quotient
  else if denominator < twice then quotient + 1
  else quotient + quotient % 2

def normalize (negative : Bool) (significand : Nat) (exponent : Int) :
    Binary64 :=
  let (m, e) :=
    if significand = Nat.pow 2 precision then
      (Nat.pow 2 (precision - 1), exponent + 1)
    else (significand, exponent)
  if greatestExponent < e then .infinite negative else .finite negative m e

def zero (negative : Bool) : Binary64 :=
  .finite negative 0 leastExponent

def round (negative : Bool) (numerator denominator : Nat) : Binary64 :=
  if numerator = 0 then zero negative
  else
    let exponent := exponentFor numerator denominator
    let (n, d) := scale numerator denominator exponent
    normalize negative (nearestEven n d) exponent

def ofNat (n : Nat) : Binary64 :=
  round false n 1

def ofInt (i : Int) : Binary64 :=
  round (i < 0) i.natAbs 1

def quotient (significand : Nat) (exponent : Int) : Nat × Nat :=
  if exponent < 0 then (significand, Nat.pow 2 (-exponent).toNat)
  else (significand * Nat.pow 2 exponent.toNat, 1)

/-- The integer that a finite number is, if it is one. -/
def toInt? : Binary64 → Option Int
  | .finite negative significand exponent =>
    let (n, d) := quotient significand exponent
    if n % d = 0 then
      some (if negative then -((n / d : Nat) : Int) else ((n / d : Nat) : Int))
    else none
  | _ => none

/-- A finite number in units of the least positive one. -/
def units (negative : Bool) (significand : Nat) (exponent : Int) : Int :=
  let magnitude := significand * Nat.pow 2 (exponent - leastExponent).toNat
  if negative then -(magnitude : Int) else magnitude

def compare? : Binary64 → Binary64 → Option Ordering
  | .nan, _ => none
  | _, .nan => none
  | .infinite a, .infinite b => some (compare b a)
  | .infinite a, .finite .. => some (if a then .lt else .gt)
  | .finite .., .infinite b => some (if b then .gt else .lt)
  | .finite a m e, .finite b n f => some (compare (units a m e) (units b n f))

def isFinite : Binary64 → Bool
  | .finite .. => true
  | _ => false

def negate : Binary64 → Binary64
  | .nan => .nan
  | .infinite a => .infinite !a
  | .finite a m e => .finite (!a) m e

def mul : Binary64 → Binary64 → Binary64
  | .finite a m e, .finite b n f =>
    let (p, q) := quotient (m * n) (e + f)
    round (a != b) p q
  | _, _ => .nan

def div : Binary64 → Binary64 → Binary64
  | .finite a m e, .finite b n f =>
    let (p, q) := quotient m e
    let (r, s) := quotient n f
    round (a != b) (p * s) (q * r)
  | _, _ => .nan

end Binary64

end RecordStore
