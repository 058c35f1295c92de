import RecordStore.Proofs.Number.Order
import RecordStore.Proofs.Resubmission

namespace RecordStore

namespace Binary64

/-! Numbers that are integers: which of them are, by their exact values, and
that a field of integers takes those within its bounds, and no others, as they
are. A number of 64 bits that is rounded on the way does not come back below the
upper bound. -/

def value? : Binary64 → Option ℚ
  | .finite negative significand exponent =>
    some ((if negative then -1 else 1) * (significand * 2 ^ exponent))
  | _ => none

theorem toInt?_eq_some_iff {x : Binary64} {i : ℤ} :
    x.toInt? = some i ↔ x.value? = some (i : ℚ) := by
  cases x with
  | nan | infinite => simp [toInt?, value?]
  | finite negative significand exponent =>
      rw [value?, ← quotient_ratio, Option.some.injEq, toInt?]
      have positive := quotient_pos significand exponent
      generalize quotient significand exponent = parts at positive ⊢
      obtain ⟨n, d⟩ := parts
      have some : (d : ℚ) ≠ 0 := by exact_mod_cast positive.ne'
      -- the quotient is an integer exactly if nothing remains
      have whole
          (k : ℤ) : ((n : ℚ) / d = k) ↔ n % d = 0 ∧ ((n / d : ℕ) : ℤ) = k := by
        rw [div_eq_iff some]
        constructor
        · intro product
          have product : (n : ℤ) = k * d := by exact_mod_cast product
          have divides : (d : ℤ) ∣ n := ⟨k, by rw [product, mul_comm]⟩
          refine ⟨Nat.mod_eq_zero_of_dvd (by exact_mod_cast divides), ?_⟩
          rw [Int.natCast_ediv, product,
            Int.mul_ediv_cancel k (by exact_mod_cast positive.ne')]
        · rintro ⟨none, rfl⟩
          exact_mod_cast (Nat.div_mul_cancel (Nat.dvd_of_mod_eq_zero none)).symm
      cases negative with
      | false =>
          rw [if_neg Bool.false_ne_true, one_mul, whole]
          by_cases none : n % d = 0 <;> simp [none]
      | true =>
          have minus : -1 * ((n : ℚ) / d) = i ↔
              (n : ℚ) / d = ((-i : ℤ) : ℚ) := by
            push_cast
            exact ⟨fun same => by linarith, fun same => by linarith⟩
          rw [if_pos rfl, minus, whole]
          by_cases none : n % d = 0 <;> simp [none, neg_eq_iff_eq_neg]

theorem Canonical.value_le {x y : Binary64} (canonical : x.Canonical)
    (canonicalToo : y.Canonical) (le : (order x y).isLE = true) {p q : ℚ}
    (value : x.value? = some p) (valueToo : y.value? = some q) : p ≤ q := by
  cases x with
  | nan | infinite => cases value
  | finite a m e =>
      cases y with
      | nan | infinite => cases valueToo
      | finite b n f =>
          have units : units a m e ≤ units b n f := by
            simpa [order, compareLex, compareOn, tier, height,
              Int.isLE_compare] using le
          cases value
          cases valueToo
          rw [← units_ratio a m canonical.2.1,
            ← units_ratio b n canonicalToo.2.1]
          gcongr

theorem le_of_toInt?_ofInt {i j : ℤ} (large : 2 ^ 63 ≤ i)
    (rounded : (ofInt i).toInt? = some j) : 2 ^ 63 ≤ j := by
  have bound : (ofInt (2 ^ 63)).value? = some (2 ^ 63 : ℤ) :=
    toInt?_eq_some_iff.mp (by decide +kernel)
  have value := toInt?_eq_some_iff.mp rounded
  exact_mod_cast (canonical_ofInt _).value_le (canonical_ofInt i)
    (isLE_order_ofInt large) bound value

end Binary64

def Json.value? : Json → Option ℚ
  | .int i => some i
  | .float x => x.value?
  | _ => none

theorem inIntRange_iff {i : ℤ} :
    inIntRange i = true ↔ -2 ^ 63 ≤ i ∧ i < 2 ^ 63 := by
  rw [inIntRange, Bool.and_eq_true, decide_eq_true_eq, decide_eq_true_eq,
    leastInt, greatestInt]
  omega

namespace Atom

theorem intOfJson?_float {x : Binary64} {a : Atom} :
    intOfJson? (.float x) = some a ↔
      ∃ i : ℤ, a = .int i ∧ x.value? = some (i : ℚ) ∧ -2 ^ 63 ≤ i ∧
        i < 2 ^ 63 := by
  simp only [intOfJson?, Option.map_eq_some_iff, Option.filter_eq_some_iff,
    Binary64.toInt?_eq_some_iff, inIntRange_iff]
  constructor
  · rintro ⟨i, found, rfl⟩
    exact ⟨i, rfl, found⟩
  · rintro ⟨i, rfl, found⟩
    exact ⟨i, found, rfl⟩

theorem intOfJson?_int {i : ℤ} (low : leastInt ≤ i) {a : Atom} :
    intOfJson? (.int i) = some a ↔ a = .int i ∧ -2 ^ 63 ≤ i ∧ i < 2 ^ 63 := by
  rw [intOfJson?, ← inIntRange_iff]
  split
  next inside => simp [inside, eq_comm]
  next outside =>
    have large : 2 ^ 63 ≤ i := by
      rw [inIntRange_iff] at outside
      rw [leastInt] at low
      omega
    simp only [Option.map_eq_some_iff, Option.filter_eq_some_iff]
    constructor
    · rintro ⟨j, ⟨rounded, inside⟩, -⟩
      have := (inIntRange_iff.mp inside).2
      have := Binary64.le_of_toInt?_ofInt large rounded
      omega
    · rintro ⟨-, inside⟩
      exact absurd inside outside

/-- A value is taken for a field of integers exactly if it is a number whose
exact value is an integer of 64 bits, and then as this integer. -/
theorem scalarOfJson?_int_iff {raw : Json} (formed : raw.WellFormed)
    (a : Atom) :
    scalarOfJson? .int raw = some a ↔
      ∃ i : ℤ, a = .int i ∧ raw.value? = some (i : ℚ) ∧ -2 ^ 63 ≤ i ∧
        i < 2 ^ 63 := by
  change intOfJson? raw = some a ↔ _
  cases formed with
  | @int i low high =>
      rw [intOfJson?_int low]
      constructor
      · rintro ⟨rfl, inside⟩
        exact ⟨i, rfl, rfl, inside⟩
      · rintro ⟨j, rfl, same, inside⟩
        obtain rfl : i = j := Int.cast_injective (Option.some.inj same)
        exact ⟨rfl, inside⟩
  | float finite => exact intOfJson?_float
  | null | bool | string | array | object => simp [intOfJson?, Json.value?]

theorem bounds_taken :
    scalarOfJson? .int (.float (.finite true (2 ^ 52) 11)) =
      some (.int (-2 ^ 63)) ∧
      (∀ a, scalarOfJson? .int (.int (2 ^ 64 - 1)) ≠ some a) ∧
      ∀ a, scalarOfJson? .int (.float (.finite false 1 (-1))) ≠ some a := by
  refine ⟨?_, ?_, ?_⟩
  · have value : (Json.float (.finite true (2 ^ 52) 11)).value? =
        some ((-2 ^ 63 : ℤ) : ℚ) := by
      norm_num [Json.value?, Binary64.value?]
    exact (scalarOfJson?_int_iff (.float rfl) _).mpr
      ⟨-2 ^ 63, rfl, value, by norm_num, by norm_num⟩
  · intro a taken
    have formed : (Json.int (2 ^ 64 - 1)).WellFormed :=
      .int (by decide) (by decide)
    obtain ⟨i, -, same, -, high⟩ := (scalarOfJson?_int_iff formed a).mp taken
    have : 2 ^ 64 - 1 = i := Int.cast_injective (Option.some.inj same)
    omega
  · intro a taken
    have value : (Json.float (.finite false 1 (-1))).value? = some (1 / 2) := by
      norm_num [Json.value?, Binary64.value?]
    obtain ⟨i, -, same, -⟩ := (scalarOfJson?_int_iff (.float rfl) a).mp taken
    rw [value, Option.some.injEq, div_eq_iff (by norm_num)] at same
    have : 1 = i * 2 := by exact_mod_cast same
    omega

end Atom

end RecordStore
