import RecordStore.Proofs.Text.Order
import RecordStore.Proofs.Time.Timestamp
import RecordStore.Time.Clock

namespace RecordStore

namespace Calendar

/-! Time that has elapsed. Dates are in the order of their day numbers, and
instants in the order of seconds; an offset moves what calendar and clock show
by as many minutes, across the ends of days, months and years, and so leaves the
order as it is. -/

def daysInYear (year : Int) : Nat :=
  if isLeap year then 366 else 365

def daysBeforeYear (year : Int) : Int :=
  365 * (year - 1) + (year - 1) / 4 - (year - 1) / 100 + (year - 1) / 400

/-- Counted from the first of January of the year. -/
def daysBeforeMonth (year : Int) : (month : Nat) → Nat
  | 0 | 1 => 0
  | month + 2 => daysBeforeMonth year (month + 1) + daysInMonth year (month + 1)

theorem isLeap_iff (year : Int) :
    isLeap year = true ↔ year % 4 = 0 ∧ (year % 100 ≠ 0 ∨ year % 400 = 0) := by
  simp [isLeap]

theorem daysBeforeYear_succ (year : Int) :
    daysBeforeYear (year + 1) = daysBeforeYear year + daysInYear year := by
  rw [daysBeforeYear, daysBeforeYear, daysInYear]
  by_cases leap : isLeap year = true
  · rw [if_pos leap]
    rw [isLeap_iff] at leap
    omega
  · rw [if_neg leap]
    rw [isLeap_iff] at leap
    omega

theorem daysBeforeYear_mono {year other : Int} (le : year ≤ other) :
    daysBeforeYear year ≤ daysBeforeYear other := by
  rw [daysBeforeYear, daysBeforeYear]
  omega

theorem daysBeforeMonth_succ (year : Int) {month : Nat} (positive : 1 ≤ month) :
    daysBeforeMonth year (month + 1) =
      daysBeforeMonth year month + daysInMonth year month := by
  obtain ⟨month, rfl⟩ := Nat.exists_eq_add_of_le' positive
  rfl

theorem daysBeforeMonth_mono (year : Int) {month other : Nat}
    (positive : 1 ≤ month) (le : month ≤ other) :
    daysBeforeMonth year month ≤ daysBeforeMonth year other := by
  induction le with
  | refl => exact Nat.le_refl _
  | step le ih =>
      rw [daysBeforeMonth_succ year (Nat.le_trans positive le)]
      exact Nat.le_add_right_of_le ih

theorem daysBeforeMonth_thirteen (year : Int) :
    daysBeforeMonth year 13 = daysInYear year := by
  rw [daysInYear]
  simp only [daysBeforeMonth, daysInMonth]
  split <;> rfl

end Calendar

namespace Date

open Calendar

def dayOfYear (date : Date) : Nat :=
  daysBeforeMonth date.year date.month + date.day

/-- The first of January of the year 1 is the first day. -/
def dayNumber (date : Date) : Int :=
  daysBeforeYear date.year + date.dayOfYear

theorem compare_parts (a b : Date) :
    compare a b = (compare a.year b.year).then
      ((compare a.month b.month).then (compare a.day b.day)) :=
  rfl

instance : Std.LawfulEqOrd Date where
  eq_of_compare {a b} same := by
    rw [compare_parts, Ordering.then_eq_eq, Ordering.then_eq_eq] at same
    simp only [Std.LawfulEqCmp.compare_eq_iff_eq] at same
    exact ext same.1 same.2.1 same.2.2

theorem dayOfYear_bounds (date : Date) :
    1 ≤ date.dayOfYear ∧ date.dayOfYear ≤ daysInYear date.year := by
  obtain ⟨low, high, first, last⟩ := date.isDate
  have upTo := daysBeforeMonth_succ date.year low
  have within := daysBeforeMonth_mono date.year (Nat.le_add_left 1 date.month)
    (Nat.succ_le_succ high)
  rw [daysBeforeMonth_thirteen] at within
  rw [dayOfYear]
  omega

theorem dayNumber_lt {a b : Date} (less : compare a b = .lt) :
    a.dayNumber < b.dayNumber := by
  rw [compare_parts, Ordering.then_eq_lt, Ordering.then_eq_lt,
    Int.compare_eq_lt, Int.compare_eq_eq, Nat.compare_eq_lt, Nat.compare_eq_eq,
    Nat.compare_eq_lt] at less
  rw [dayNumber, dayNumber]
  rcases less with year | ⟨year, month | ⟨month, day⟩⟩
  · have last := a.dayOfYear_bounds.2
    have first := b.dayOfYear_bounds.1
    have ends := daysBeforeYear_succ a.year
    have later := daysBeforeYear_mono year
    omega
  · have last := a.isDate.2.2.2
    have first := b.isDate.2.2.1
    have ends := daysBeforeMonth_succ a.year a.isDate.1
    have later := daysBeforeMonth_mono a.year (Nat.le_add_left 1 a.month) month
    rw [dayOfYear, dayOfYear, ← year]
    omega
  · rw [dayOfYear, dayOfYear, ← year, ← month]
    omega

theorem compare_dayNumber (a b : Date) :
    compare a.dayNumber b.dayNumber = compare a b := by
  cases order : compare a b with
  | lt => exact Int.compare_eq_lt.mpr (dayNumber_lt order)
  | eq =>
      rw [Std.LawfulEqOrd.eq_of_compare order]
      exact Std.compare_self
  | gt =>
      exact Int.compare_eq_gt.mpr
        (dayNumber_lt (Std.OrientedCmp.gt_iff_lt.mp order))

theorem dayNumber_next (date : Date) :
    date.next.dayNumber = date.dayNumber + 1 := by
  obtain ⟨low, high, first, last⟩ := date.isDate
  have upTo := daysBeforeMonth_succ date.year low
  rw [next]
  split
  · simp only [dayNumber, dayOfYear]
    omega
  next full =>
    split
    · simp only [dayNumber, dayOfYear]
      omega
    next december =>
      have year := daysBeforeYear_succ date.year
      have month : date.month = 12 := by omega
      have january : daysBeforeMonth (date.year + 1) 1 = 0 := rfl
      rw [month] at upTo full last
      rw [daysBeforeMonth_thirteen] at upTo
      simp only [dayNumber, dayOfYear, month, january]
      omega

theorem dayNumber_previous (date : Date) :
    date.previous.dayNumber = date.dayNumber - 1 := by
  have next := date.previous.dayNumber_next
  rw [next_previous] at next
  omega

theorem year_le_next (date : Date) : date.year ≤ date.next.year := by
  rw [next]
  split
  · exact Int.le_refl _
  · split
    · exact Int.le_refl _
    · exact Int.le_of_lt (Int.lt_succ _)

theorem year_ofDays (days : Nat) : 1970 ≤ (ofDays days).year := by
  induction days with
  | zero => exact Int.le_refl _
  | succ days ih => exact Int.le_trans ih (year_le_next _)

end Date

namespace Instant

/-- Seconds since the start of day zero; a leap second counts as the one before
it. -/
def seconds (instant : Instant) : Int :=
  instant.date.dayNumber * 86400 + instant.time.second

theorem compare_seconds (a b : Instant) :
    compare a b =
      (compare a.seconds b.seconds).then (compare a.time.nano b.time.nano) := by
  have boundA := a.time.bounds.1
  have boundB := b.time.bounds.1
  have days : compare a.seconds b.seconds =
      (compare a.date.dayNumber b.date.dayNumber).then
        (compare a.time.second b.time.second) := by
    rw [seconds, seconds]
    apply ordering_ext
    · rw [Ordering.then_eq_lt, Int.compare_eq_lt, Int.compare_eq_lt,
        Int.compare_eq_eq, Nat.compare_eq_lt]
      omega
    · rw [Ordering.then_eq_eq, Int.compare_eq_eq, Int.compare_eq_eq,
        Nat.compare_eq_eq]
      omega
  rw [days, Date.compare_dayNumber, Ordering.then_assoc]
  rfl

end Instant

namespace Timestamp

/-- What calendar and clock show, taken for UTC. -/
def shown (stamp : Timestamp) : Instant :=
  ⟨stamp.date, stamp.time⟩

theorem seconds_instant (stamp : Timestamp) :
    stamp.instant.seconds = stamp.shown.seconds - stamp.offset * 60 := by
  obtain ⟨-, turned⟩ := stamp.instant_cases rfl
  simp only [Instant.seconds, shown]
  rcases turned with
    ⟨-, date, second⟩ | ⟨-, date, second⟩ | ⟨-, -, date, second⟩
  · rw [date, second, Date.dayNumber_previous]
    omega
  · rw [date, second, Date.dayNumber_next]
    omega
  · rw [date, second]
    omega

theorem compare_instant {a b : Timestamp} (offset : a.offset = b.offset) :
    compare a.instant b.instant = compare a.shown b.shown := by
  have moved : compare a.instant.seconds b.instant.seconds =
      compare a.shown.seconds b.shown.seconds := by
    rw [seconds_instant, seconds_instant, offset]
    apply ordering_ext
    · rw [Int.compare_eq_lt, Int.compare_eq_lt]
      exact Int.sub_lt_sub_right_iff
    · rw [Int.compare_eq_eq, Int.compare_eq_eq]
      exact Int.sub_left_inj _
  rw [Instant.compare_seconds, Instant.compare_seconds, moved,
    (a.instant_cases rfl).1, (b.instant_cases rfl).1]
  rfl

end Timestamp

end RecordStore
