import RecordStore.Proofs.Time.Elapsed

namespace RecordStore

theorem Date.compare_chars {a b : Date} (fourA : a.HasFourDigits)
    (fourB : b.HasFourDigits) : compare a.chars b.chars = compare a b := by
  have ⟨lowA, highA⟩ := fourA
  have ⟨lowB, highB⟩ := fourB
  have year : compare a.year.toNat b.year.toNat = compare a.year b.year := by
    apply ordering_ext
    · rw [Nat.compare_eq_lt, Int.compare_eq_lt]
      omega
    · rw [Nat.compare_eq_eq, Int.compare_eq_eq]
      omega
  rw [chars, chars, yearText_of_four fourA, yearText_of_four fourB,
    Decimal.compare_padded_append (by decide) (by omega) (by omega), year,
    Text.compare_cons_self,
    Decimal.compare_padded_append (by decide) a.month_lt b.month_lt,
    Text.compare_cons_self,
    Decimal.compare_padded (by decide) a.day_lt b.day_lt]
  rfl

namespace ClockTime

theorem compare_parts (a b : ClockTime) : compare a b =
    (compare (a.second / 3600) (b.second / 3600)).then
      ((compare (a.second / 60 % 60) (b.second / 60 % 60)).then
        ((compare (a.second % 60) (b.second % 60)).then
          (compare a.nano b.nano))) := by
  have hours (second : Nat) : second / 60 / 60 = second / 3600 :=
    Nat.div_div_eq_div_mul second 60 60
  have seconds := Decimal.compare_div_mod 60 a.second b.second
  rw [Decimal.compare_div_mod 60 (a.second / 60), hours, hours] at seconds
  rw [← Ordering.then_assoc, ← Ordering.then_assoc, ← seconds]
  rfl

/-- A leap second is written as the sixtieth of its minute, which no other
second is. -/
theorem compare_leap {a b : ClockTime} (endsA : a.LeapEndsMinute)
    (endsB : b.LeapEndsMinute) :
    (compare (a.second % 60 + a.nano / nanosPerSecond)
      (b.second % 60 + b.nano / nanosPerSecond)).then
        (compare (a.nano % nanosPerSecond) (b.nano % nanosPerSecond)) =
      (compare (a.second % 60) (b.second % 60)).then
        (compare a.nano b.nano) := by
  have boundA := a.bounds.2
  have boundB := b.bounds.2
  have unit : nanosPerSecond = 1000000000 := rfl
  rw [LeapEndsMinute, unit] at endsA endsB
  rw [unit]
  apply ordering_ext
  · rw [Ordering.then_eq_lt, Ordering.then_eq_lt, Nat.compare_eq_lt,
      Nat.compare_eq_lt, Nat.compare_eq_lt, Nat.compare_eq_lt,
      Nat.compare_eq_eq, Nat.compare_eq_eq]
    omega
  · rw [Ordering.then_eq_eq, Ordering.then_eq_eq, Nat.compare_eq_eq,
      Nat.compare_eq_eq, Nat.compare_eq_eq, Nat.compare_eq_eq]
    omega

theorem compare_chars_append {a b : ClockTime} (endsA : a.LeapEndsMinute)
    (endsB : b.LeapEndsMinute) (cs ds : List Char) :
    compare (a.chars ++ cs) (b.chars ++ ds) =
      (compare a b).then (compare cs ds) := by
  have ⟨hourA, minuteA, secondA, nanoA⟩ := a.parts_lt
  have ⟨hourB, minuteB, secondB, nanoB⟩ := b.parts_lt
  simp only [chars, List.append_assoc, List.cons_append]
  rw [Decimal.compare_padded_append (by decide) hourA hourB,
    Text.compare_cons_self,
    Decimal.compare_padded_append (by decide) minuteA minuteB,
    Text.compare_cons_self,
    Decimal.compare_padded_append (by decide) secondA secondB,
    Text.compare_cons_self,
    Decimal.compare_padded_append (by decide) nanoA nanoB, compare_parts,
    ← compare_leap endsA endsB]
  simp only [Ordering.then_assoc]

end ClockTime

namespace Timestamp

def Accepted (stamp : Timestamp) : Prop :=
  ∃ s, read? s = some stamp

theorem accepted_iff (stamp : Timestamp) :
    stamp.Accepted ↔ stamp.date.HasFourDigits ∧ stamp.time.LeapEndsMinute := by
  constructor
  · rintro ⟨s, read⟩
    exact writable_of_ofChars? read
  · rintro ⟨four, ends⟩
    exact ⟨stamp.text, read?_text four ends⟩

theorem Accepted.compare_text {a b : Timestamp} (first : a.Accepted)
    (second : b.Accepted) (offset : a.offset = b.offset) :
    compare a.text b.text = compare a.instant b.instant := by
  obtain ⟨fourA, endsA⟩ := a.accepted_iff.mp first
  obtain ⟨fourB, endsB⟩ := b.accepted_iff.mp second
  have length : a.date.chars.length = b.date.chars.length := by
    obtain ⟨_, _, _, _, _, _, _, _, writtenA, -⟩ := Date.exists_chars fourA
    obtain ⟨_, _, _, _, _, _, _, _, writtenB, -⟩ := Date.exists_chars fourB
    rw [writtenA, writtenB]
    rfl
  rw [text, text, Text.compare_ofList, chars, chars, Text.compare_append length,
    Text.compare_cons_self, ClockTime.compare_chars_append endsA endsB,
    Date.compare_chars fourA fourB, offset, Std.compare_self, Ordering.then_eq,
    compare_instant offset]
  rfl

theorem instant_ofInstant (instant : Instant) :
    (ofInstant instant).instant = instant := by
  obtain ⟨date, time⟩ := instant
  have bound := time.bounds.1
  have day : (secondsPerDay : Int) = 86400 := rfl
  simp only [ofInstant, Timestamp.instant, Int.zero_mul, Int.sub_zero,
    Int.toNat_natCast]
  rw [dif_neg (by omega), dif_neg (by omega)]

theorem accepted_ofNanoseconds_iff (n : Nat) :
    (ofInstant (.ofNanoseconds n)).Accepted ↔
      (Instant.ofNanoseconds n).date.year ≤ 9999 := by
  have begun : 1970 ≤ (Instant.ofNanoseconds n).date.year := Date.year_ofDays _
  have noLeap : (Instant.ofNanoseconds n).time.LeapEndsMinute := by
    intro leap
    exact absurd leap (Nat.not_le.mpr (Nat.mod_lt n (by decide)))
  rw [accepted_iff]
  constructor
  · rintro ⟨four, -⟩
    exact four.2
  · intro last
    exact ⟨⟨Int.le_trans (by decide) begun, last⟩, noLeap⟩

end Timestamp

end RecordStore
