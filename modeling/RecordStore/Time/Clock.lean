import RecordStore.Time.Timestamp

namespace RecordStore

def Date.ofDays (days : Nat) : Date :=
  days.repeat Date.next default

namespace Instant

def ofNanoseconds (n : Nat) : Instant :=
  let seconds := n / nanosPerSecond
  ⟨Date.ofDays (seconds / secondsPerDay), seconds % secondsPerDay,
    n % nanosPerSecond, Nat.mod_lt _ (by decide),
    Nat.lt_trans (Nat.mod_lt n (by decide))
      (by decide : nanosPerSecond < 2 * nanosPerSecond)⟩

def placesFor (nano : Nat) : Nat :=
  if nano = 0 then 0
  else if nano % 1000000 = 0 then 3
  else if nano % 1000 = 0 then 6
  else 9

def text (instant : Instant) : String :=
  let places := placesFor (instant.time.nano % nanosPerSecond)
  let chars := instant.date.chars ++ 'T' :: instant.time.chars
  String.ofList
    (chars.take (chars.length - (if places = 0 then 10 else 9 - places)) ++
      ['Z'])

end Instant

end RecordStore
