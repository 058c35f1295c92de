import RecordStore.Time.Date

namespace RecordStore

/-! Times of day, timestamps with an offset from UTC, and instants. A leap
second is the sixtieth second of its minute, kept as the fifty-ninth with a
thousand million nanoseconds more. -/

def nanosPerSecond : Nat := 1000000000

def secondsPerDay : Nat := 86400

structure ClockTime where
  second : Nat
  nano : Nat
  second_lt : second < secondsPerDay
  nano_lt : nano < 2 * nanosPerSecond
deriving DecidableEq

namespace ClockTime

instance : Inhabited ClockTime := ⟨⟨0, 0, by decide, by decide⟩⟩

instance : Ord ClockTime where
  compare a b := (compare a.second b.second).then (compare a.nano b.nano)

def midnight : ClockTime := default

/-- The seconds run to sixty, for a leap second. -/
def of? (hour minute second nano : Nat) : Option ClockTime :=
  if h : hour < 24 ∧ minute < 60 ∧ second ≤ 60 ∧ nano < nanosPerSecond then
    if hs : second = 60 then
      some ⟨hour * 3600 + minute * 60 + 59, nano + nanosPerSecond,
        by simp only [secondsPerDay]; omega, by omega⟩
    else
      some ⟨hour * 3600 + minute * 60 + second, nano,
        by simp only [secondsPerDay]; omega, by omega⟩
  else none

def chars (time : ClockTime) : List Char :=
  let leap := time.nano / nanosPerSecond
  Decimal.padded 2 (time.second / 3600) ++
    ':' :: (Decimal.padded 2 (time.second / 60 % 60) ++
      ':' :: (Decimal.padded 2 (time.second % 60 + leap) ++
        '.' :: Decimal.padded 9 (time.nano % nanosPerSecond)))

end ClockTime

structure Instant where
  date : Date
  time : ClockTime
deriving DecidableEq, Inhabited

namespace Instant

instance : Ord Instant where
  compare a b := (compare a.date b.date).then (compare a.time b.time)

end Instant

/-- Date and time of day on a clock that is `offset` minutes ahead of UTC. -/
structure Timestamp where
  date : Date
  time : ClockTime
  offset : Int
  offset_lt : offset.natAbs < 1440
deriving DecidableEq

namespace Timestamp

instance : Inhabited Timestamp := ⟨⟨default, default, 0, by decide⟩⟩

def ofInstant (instant : Instant) : Timestamp :=
  ⟨instant.date, instant.time, 0, by decide⟩

/-- Turns the clock back by the offset, into the day before or after where it
must. -/
def instant (stamp : Timestamp) : Instant :=
  let second : Int := stamp.time.second - stamp.offset * 60
  if h : second < 0 then
    ⟨stamp.date.previous, (second + secondsPerDay).toNat, stamp.time.nano, by
      have := stamp.offset_lt; simp only [secondsPerDay]; omega,
      stamp.time.nano_lt⟩
  else if h' : (secondsPerDay : Int) ≤ second then
    ⟨stamp.date.next, (second - secondsPerDay).toNat, stamp.time.nano, by
      have := stamp.offset_lt; have := stamp.time.second_lt;
        simp only [secondsPerDay] at *; omega, stamp.time.nano_lt⟩
  else
    ⟨stamp.date, second.toNat, stamp.time.nano, by omega, stamp.time.nano_lt⟩

/-! Text: RFC 3339 with nine places, `Z` for the offset zero. -/

def offsetChars (offset : Int) : List Char :=
  if offset = 0 then ['Z']
  else (if offset < 0 then '-' else '+') ::
    (Decimal.padded 2 (offset.natAbs / 60) ++
      ':' :: Decimal.padded 2 (offset.natAbs % 60))

def chars (stamp : Timestamp) : List Char :=
  stamp.date.chars ++ 'T' :: (stamp.time.chars ++ offsetChars stamp.offset)

def text (stamp : Timestamp) : String :=
  String.ofList stamp.chars

def twoDigits? (a b : Char) : Option Nat :=
  if a.isDigit && b.isDigit then some (Decimal.ofDigits [a, b]) else none

/-- A point with at least one digit, cut to nine places; without a point,
zero. -/
def readFraction? : List Char → Option (Nat × List Char)
  | '.' :: rest =>
    let places := rest.takeWhile Char.isDigit
    let kept := places.take 9
    if places.isEmpty then none
    else some (Decimal.ofDigits kept * Nat.pow 10 (9 - kept.length),
      rest.dropWhile Char.isDigit)
  | rest => some (0, rest)

/-- `Z`, or a sign with hours and minutes; the sign may be the typographic
minus. -/
def readOffset? : List Char → Option Int
  | ['Z'] | ['z'] => some 0
  | [sign, h₁, h₂, ':', m₁, m₂] => do
    let hours ← twoDigits? h₁ h₂
    let minutes ← twoDigits? m₁ m₂
    guard (hours < 24 ∧ minutes < 60)
    if sign = '+' then some (hours * 60 + minutes : Nat)
    else if sign = '-' ∨ sign = '\u2212' then
      some (-(hours * 60 + minutes : Nat))
    else none
  | _ => none

def ofParts? (date : Date) (time : ClockTime) (offset : Int) :
    Option Timestamp :=
  if h : offset.natAbs < 1440 then some ⟨date, time, offset, h⟩ else none

def ofChars? : List Char → Option Timestamp
  | y₁ :: y₂ :: y₃ :: y₄ :: '-' :: m₁ :: m₂ :: '-' :: d₁ :: d₂ :: separator ::
      h₁ :: h₂ :: ':' :: n₁ :: n₂ :: ':' :: s₁ :: s₂ :: rest => do
    let century ← twoDigits? y₁ y₂
    let yearOfCentury ← twoDigits? y₃ y₄
    let month ← twoDigits? m₁ m₂
    let day ← twoDigits? d₁ d₂
    guard (separator = 'T' ∨ separator = 't' ∨ separator = ' ')
    let hour ← twoDigits? h₁ h₂
    let minute ← twoDigits? n₁ n₂
    let second ← twoDigits? s₁ s₂
    let (nano, rest) ← readFraction? rest
    let offset ← readOffset? rest
    let date ← Date.of? (century * 100 + yearOfCentury : Nat) month day
    let time ← ClockTime.of? hour minute second nano
    ofParts? date time offset
  | _ => none

def read? (s : String) : Option Timestamp :=
  ofChars? (Text.trimBoth s.toList)

def startOf (date : Date) : Timestamp :=
  ⟨date, .midnight, 0, by decide⟩

end Timestamp

end RecordStore
