import RecordStore.Proofs.Time.Date
import RecordStore.Time.Timestamp

namespace RecordStore

namespace ClockTime

/-- A leap second is the last of its minute. -/
def LeapEndsMinute (time : ClockTime) : Prop :=
  nanosPerSecond ≤ time.nano → time.second % 60 = 59

instance (time : ClockTime) : Decidable time.LeapEndsMinute :=
  inferInstanceAs (Decidable (_ → _))

theorem leapEndsMinute_of_of? {hour minute second nano : Nat} {time : ClockTime}
    (made : of? hour minute second nano = some time) : time.LeapEndsMinute := by
  unfold of? at made
  split at made
  next parts =>
    split at made
    · cases made
      intro
      show (hour * 3600 + minute * 60 + 59) % 60 = 59
      omega
    · cases made
      intro leap
      exact absurd leap (Nat.not_le.mpr parts.2.2.2)
  next => cases made

theorem ext {a b : ClockTime} (second : a.second = b.second)
    (nano : a.nano = b.nano) : a = b := by
  cases a
  cases b
  cases second
  cases nano
  rfl

instance : Std.TransOrd ClockTime :=
  inferInstanceAs (Std.TransCmp
    (compareLex (compareOn ClockTime.second) (compareOn ClockTime.nano)))

theorem bounds (time : ClockTime) :
    time.second < 86400 ∧ time.nano < 2000000000 :=
  ⟨time.second_lt, time.nano_lt⟩

theorem of?_parts {time : ClockTime} (ends : time.LeapEndsMinute) :
    of? (time.second / 3600) (time.second / 60 % 60) (time.second % 60 +
      time.nano / nanosPerSecond) (time.nano % nanosPerSecond) = some time := by
  have ⟨day, nano⟩ := time.bounds
  have unit : nanosPerSecond = 1000000000 := rfl
  rw [LeapEndsMinute, unit] at ends
  have parts : time.second / 3600 < 24 ∧ time.second / 60 % 60 < 60 ∧
      time.second % 60 + time.nano / nanosPerSecond ≤ 60 ∧
      time.nano % nanosPerSecond < nanosPerSecond := by
    rw [unit]
    omega
  rw [of?, dif_pos parts]
  by_cases leap : nanosPerSecond ≤ time.nano
  · have last := ends leap
    rw [dif_pos (by rw [unit] at *; omega)]
    refine congrArg some (ext ?_ ?_)
    · show time.second / 3600 * 3600 + time.second / 60 % 60 * 60 + 59 =
        time.second
      omega
    · show time.nano % nanosPerSecond + nanosPerSecond = time.nano
      rw [unit] at *
      omega
  · have whole : time.nano / nanosPerSecond = 0 :=
      Nat.div_eq_of_lt (Nat.not_le.mp leap)
    rw [dif_neg (by omega)]
    refine congrArg some (ext ?_ (Nat.mod_eq_of_lt (Nat.not_le.mp leap)))
    show time.second / 3600 * 3600 + time.second / 60 % 60 * 60 +
      (time.second % 60 + time.nano / nanosPerSecond) = time.second
    omega

theorem parts_lt (time : ClockTime) :
    time.second / 3600 < 100 ∧ time.second / 60 % 60 < 100 ∧
      time.second % 60 + time.nano / nanosPerSecond < 100 ∧
      time.nano % nanosPerSecond < nanosPerSecond := by
  have ⟨day, nano⟩ := time.bounds
  have unit : nanosPerSecond = 1000000000 := rfl
  rw [unit]
  omega

theorem exists_chars (time : ClockTime) :
    ∃ h₁ h₂ n₁ n₂ s₁ s₂,
      time.chars = h₁ :: h₂ :: ':' :: n₁ :: n₂ :: ':' :: s₁ :: s₂ :: '.' ::
        Decimal.padded 9 (time.nano % nanosPerSecond) ∧
        (∀ c ∈ [h₁, h₂, n₁, n₂, s₁, s₂], c.isDigit = true) ∧
        Decimal.ofDigits [h₁, h₂] = time.second / 3600 ∧
        Decimal.ofDigits [n₁, n₂] = time.second / 60 % 60 ∧
        Decimal.ofDigits [s₁, s₂] =
          time.second % 60 + time.nano / nanosPerSecond := by
  have ⟨hourBound, minuteBound, secondBound, _⟩ := time.parts_lt
  obtain ⟨h₁, h₂, hour, hourDigits, hourValue⟩ := Decimal.padded_two hourBound
  obtain ⟨n₁, n₂, minute, minuteDigits, minuteValue⟩ :=
    Decimal.padded_two minuteBound
  obtain ⟨s₁, s₂, second, secondDigits, secondValue⟩ :=
    Decimal.padded_two secondBound
  refine ⟨h₁, h₂, n₁, n₂, s₁, s₂, ?_, ?_, hourValue, minuteValue, secondValue⟩
  · rw [chars, hour, minute, second]
    rfl
  · intro c member
    rcases List.mem_append.mp
      (show c ∈ [h₁, h₂] ++ ([n₁, n₂] ++ [s₁, s₂]) from member) with hour | rest
    · exact hourDigits c hour
    · exact (List.mem_append.mp rest).elim (minuteDigits c) (secondDigits c)

end ClockTime

instance : Std.TransOrd Instant :=
  inferInstanceAs (Std.TransCmp
    (compareLex (compareOn Instant.date) (compareOn Instant.time)))

namespace Timestamp

theorem twoDigits?_digits {a b : Char} (first : a.isDigit = true)
    (second : b.isDigit = true) :
    twoDigits? a b = some (Decimal.ofDigits [a, b]) := by
  simp [twoDigits?, first, second]

theorem twoDigits?_lt {a b : Char} {n : Nat} (read : twoDigits? a b = some n) :
    n < 100 := by
  unfold twoDigits? at read
  split at read
  next digits =>
    cases read
    rw [Bool.and_eq_true] at digits
    have first := Text.toNat_of_isDigit digits.1
    have second := Text.toNat_of_isDigit digits.2
    simp only [Decimal.ofDigits, Nat.ofDigitChars, List.foldl_cons,
      List.foldl_nil, Char.reduceToNat]
    omega
  next => cases read

theorem readOffset?_padded (sign : Char) {minutes : Nat}
    (small : minutes < 1440) :
    readOffset? (sign :: (Decimal.padded 2 (minutes / 60) ++
      ':' :: Decimal.padded 2 (minutes % 60))) =
      if sign = '+' then some (minutes : Int)
      else if sign = '-' ∨ sign = '\u2212' then some (-(minutes : Int))
        else none := by
  obtain ⟨h₁, h₂, hours, hourDigits, hourValue⟩ :=
    Decimal.padded_two (n := minutes / 60) (by omega)
  obtain ⟨m₁, m₂, rest, restDigits, restValue⟩ :=
    Decimal.padded_two (n := minutes % 60) (by omega)
  have fits : minutes / 60 < 24 ∧ minutes % 60 < 60 := by omega
  have hour :=
    twoDigits?_digits (hourDigits h₁ (by simp)) (hourDigits h₂ (by simp))
  have minute :=
    twoDigits?_digits (restDigits m₁ (by simp)) (restDigits m₂ (by simp))
  rw [hours, rest]
  simp only [List.cons_append, List.nil_append, readOffset?, hour, minute,
    hourValue, restValue, Nat.div_add_mod', guard, if_pos fits, Option.pure_def,
    Option.bind_eq_bind, Option.bind_some]

theorem readOffset?_offsetChars {offset : Int} (small : offset.natAbs < 1440) :
    readOffset? (offsetChars offset) = some offset := by
  rw [offsetChars]
  split
  next zero =>
    rw [zero]
    rfl
  next nonzero =>
    rw [readOffset?_padded _ small]
    split
    next negative =>
      rw [if_neg (by decide), if_pos (.inl rfl)]
      exact congrArg some (by omega)
    next nonnegative =>
      rw [if_pos rfl]
      exact congrArg some (by omega)

theorem readFraction?_padded {nano : Nat} {rest : List Char}
    (small : nano < nanosPerSecond)
    (stops : ∀ c ∈ rest.head?, c.isDigit = false) :
    readFraction? ('.' :: (Decimal.padded 9 nano ++ rest)) =
      some (nano, rest) := by
  have digits : ∀ c ∈ Decimal.padded 9 nano, c.isDigit = true :=
    fun _ => Decimal.isDigit_of_mem_padded
  have nine : (Decimal.padded 9 nano).length = 9 :=
    Decimal.length_padded (by decide) small
  have none : rest.takeWhile Char.isDigit = [] ∧
      rest.dropWhile Char.isDigit = rest := by
    cases rest with
    | nil => exact ⟨rfl, rfl⟩
    | cons c rest => simp [stops c rfl]
  have places : (Decimal.padded 9 nano ++ rest).takeWhile Char.isDigit =
      Decimal.padded 9 nano := by
    rw [List.takeWhile_append_of_pos digits, none.1, List.append_nil]
  have after : (Decimal.padded 9 nano ++ rest).dropWhile Char.isDigit =
      rest := by
    rw [List.dropWhile_append_of_pos digits, none.2]
  have nonempty : (Decimal.padded 9 nano).isEmpty = false := by
    rw [List.isEmpty_eq_false_iff, ← List.length_pos_iff, nine]
    decide
  simp [readFraction?, places, after, nonempty, List.take_of_length_le, nine]

theorem ofChars?_chars {stamp : Timestamp} (four : stamp.date.HasFourDigits)
    (ends : stamp.time.LeapEndsMinute) : ofChars? stamp.chars = some stamp := by
  obtain ⟨y₁, y₂, y₃, y₄, m₁, m₂, d₁, d₂, dateWritten, dateDigits, year, month,
    day⟩ :=
    Date.exists_chars four
  obtain ⟨h₁, h₂, n₁, n₂, s₁, s₂, timeWritten, timeDigits, hour, minute,
    second⟩ :=
    ClockTime.exists_chars stamp.time
  have ⟨_, _, _, nanoBound⟩ := stamp.time.parts_lt
  have stops : ∀ c ∈ (offsetChars stamp.offset).head?, c.isDigit = false := by
    rw [offsetChars]
    split
    · simp
    · split <;> simp
  have date : Date.of?
      (Decimal.ofDigits [y₁, y₂] * 100 + Decimal.ofDigits [y₃, y₄] : Nat)
        (Decimal.ofDigits [m₁, m₂]) (Decimal.ofDigits [d₁, d₂]) =
      some stamp.date := by
    rw [← Decimal.ofDigits_four, year, month, day, Date.of?_self]
  have time : ClockTime.of? (Decimal.ofDigits [h₁, h₂])
      (Decimal.ofDigits [n₁, n₂])
      (Decimal.ofDigits [s₁, s₂]) (stamp.time.nano % nanosPerSecond) =
      some stamp.time := by
    rw [hour, minute, second, ClockTime.of?_parts ends]
  have parts : ofParts? stamp.date stamp.time stamp.offset = some stamp := by
    rw [ofParts?, dif_pos stamp.offset_lt]
  simp only [List.mem_cons, List.not_mem_nil, or_false, forall_eq_or_imp,
    forall_eq] at dateDigits timeDigits
  obtain ⟨hy₁, hy₂, hy₃, hy₄, hm₁, hm₂, hd₁, hd₂⟩ := dateDigits
  obtain ⟨hh₁, hh₂, hn₁, hn₂, hs₁, hs₂⟩ := timeDigits
  rw [chars, dateWritten, timeWritten]
  simp only [List.cons_append, List.nil_append, ofChars?, twoDigits?_digits,
    hy₁, hy₂, hy₃, hy₄, hm₁, hm₂, hd₁, hd₂, hh₁, hh₂, hn₁, hn₂, hs₁, hs₂,
    readFraction?_padded nanoBound stops, guard, true_or, ↓reduceIte,
    Option.pure_def, Option.bind_eq_bind, Option.bind_some,
    readOffset?_offsetChars stamp.offset_lt, date, time, parts]

theorem visible_chars (stamp : Timestamp) : Text.Visible stamp.chars := by
  have separator : Text.isBlank 'T' = false := by decide
  have colon : Text.isBlank ':' = false := by decide
  have point : Text.isBlank '.' = false := by decide
  have time : Text.Visible stamp.time.chars := by
    simp [ClockTime.chars, colon, point]
  have offset : Text.Visible (offsetChars stamp.offset) := by
    rw [offsetChars]
    split
    · rw [Text.visible_cons]
      exact ⟨by decide, Text.visible_nil⟩
    · rw [Text.visible_cons]
      refine ⟨by split <;> decide, ?_⟩
      simp [colon]
  simp [chars, stamp.date.visible_chars, time, offset, separator]

theorem read?_text {stamp : Timestamp} (four : stamp.date.HasFourDigits)
    (ends : stamp.time.LeapEndsMinute) : read? stamp.text = some stamp := by
  rw [read?, text, String.toList_ofList, stamp.visible_chars.trimBoth_eq,
    ofChars?_chars four ends]

theorem read?_text_of_not_four {date : Date} (notFour : ¬date.HasFourDigits) :
    read? date.text = none := by
  obtain ⟨sign, rest, written, noDigit, -⟩ := Date.exists_sign notFour
  rw [read?, Date.text, String.toList_ofList, date.visible_chars.trimBoth_eq,
    written]
  unfold ofChars?
  split
  next long =>
      cases long
      simp [twoDigits?, noDigit]
  next => rfl

theorem comma_not_mem_chars (stamp : Timestamp) : ',' ∉ stamp.chars := by
  have comma := Decimal.not_mem_padded (c := ',') (by decide)
  have offset : ',' ∉ offsetChars stamp.offset := by
    rw [offsetChars]
    split
    · decide
    · split <;> simp [comma]
  simp [chars, stamp.date.comma_not_mem_chars, ClockTime.chars, comma, offset]

theorem ext {a b : Timestamp} (date : a.date = b.date) (time : a.time = b.time)
    (offset : a.offset = b.offset) : a = b := by
  cases a
  cases b
  cases date
  cases time
  cases offset
  rfl

theorem instant_cases (stamp : Timestamp) {second : Int}
    (turned : second = stamp.time.second - stamp.offset * 60) :
    stamp.instant.time.nano = stamp.time.nano ∧
      (second < 0 ∧ stamp.instant.date = stamp.date.previous ∧
        stamp.instant.time.second = second + 86400 ∨
        86400 ≤ second ∧ stamp.instant.date = stamp.date.next ∧
          stamp.instant.time.second = second - 86400 ∨
        0 ≤ second ∧ second < 86400 ∧ stamp.instant.date = stamp.date ∧
          stamp.instant.time.second = second) := by
  have small := stamp.offset_lt
  have day : (secondsPerDay : Int) = 86400 := rfl
  simp only [instant, ← turned]
  by_cases before : second < 0
  · simp only [dif_pos before]
    exact ⟨trivial, .inl ⟨before, trivial, by omega⟩⟩
  · simp only [dif_neg before]
    by_cases after : (secondsPerDay : Int) ≤ second
    · simp only [dif_pos after]
      exact ⟨trivial, .inr (.inl ⟨by omega, trivial, by omega⟩)⟩
    · simp only [dif_neg after]
      exact ⟨trivial, .inr (.inr ⟨by omega, by omega, trivial, by omega⟩)⟩

theorem instant_inj {a b : Timestamp} (offset : a.offset = b.offset) :
    a.instant = b.instant ↔ a = b := by
  refine ⟨fun same => ?_, congrArg instant⟩
  have boundA := a.time.bounds.1
  have boundB := b.time.bounds.1
  obtain ⟨nanoA, casesA⟩ := a.instant_cases rfl
  obtain ⟨nanoB, casesB⟩ := b.instant_cases rfl
  rw [same] at nanoA casesA
  have time (second : a.time.second = b.time.second) : a.time = b.time :=
    ClockTime.ext second (nanoA.symm.trans nanoB)
  rcases casesA with
    ⟨_, dateA, secondA⟩ | ⟨_, dateA, secondA⟩ | ⟨_, _, dateA, secondA⟩ <;>
    rcases casesB with
      ⟨_, dateB, secondB⟩ | ⟨_, dateB, secondB⟩ | ⟨_, _, dateB, secondB⟩ <;>
    try omega
  · exact ext (Date.previous_injective (dateA.symm.trans dateB))
      (time (by omega)) offset
  · exact ext (Date.next_injective (dateA.symm.trans dateB)) (time (by omega))
      offset
  · exact ext (dateA.symm.trans dateB) (time (by omega)) offset

theorem ofParts?_parts {date : Date} {time : ClockTime} {offset : Int}
    {stamp : Timestamp} (made : ofParts? date time offset = some stamp) :
    stamp.date = date ∧ stamp.time = time := by
  unfold ofParts? at made
  split at made
  · cases made
    exact ⟨rfl, rfl⟩
  · cases made

theorem writable_of_ofChars? {cs : List Char} {stamp : Timestamp}
    (read : ofChars? cs = some stamp) :
    stamp.date.HasFourDigits ∧ stamp.time.LeapEndsMinute := by
  unfold ofChars? at read
  split at read
  · simp only [Option.bind_eq_bind, Option.bind_eq_some_iff] at read
    obtain ⟨century, readCentury, rest, readRest, _, -, _, -, _, -, _, -, _, -,
      _, -, _, -, _, -, date, readDate, time, readTime, made⟩ := read
    obtain ⟨rfl, rfl⟩ := ofParts?_parts made
    have centuryBound := twoDigits?_lt readCentury
    have restBound := twoDigits?_lt readRest
    refine ⟨?_, ClockTime.leapEndsMinute_of_of? readTime⟩
    rw [Date.HasFourDigits, Date.year_of_of? readDate]
    omega
  · cases read

theorem text_inj {a b : Timestamp} (fourA : a.date.HasFourDigits)
    (endsA : a.time.LeapEndsMinute) (fourB : b.date.HasFourDigits)
    (endsB : b.time.LeapEndsMinute) : a.text = b.text ↔ a = b := by
  refine ⟨fun same => Option.some.inj ?_, congrArg text⟩
  rw [← read?_text fourA endsA, same, read?_text fourB endsB]

example : (read? "2016-12-31t23:59:60.12345678951−05:30 ").map text =
    some "2016-12-31T23:59:60.123456789-05:30" := by
  decide +kernel

end Timestamp

end RecordStore
