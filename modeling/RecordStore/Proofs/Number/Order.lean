import RecordStore.Proofs.Number.Rounding

namespace RecordStore.Binary64

/-! The order of binary64 numbers: it is linear but for NaN and the two zeros,
and rounding keeps it. -/

/-- Below all finite numbers, among them or above them. -/
def tier : Binary64 → ℤ
  | .infinite negative => if negative then -1 else 1
  | _ => 0

def height : Binary64 → ℤ
  | .finite negative significand exponent => units negative significand exponent
  | _ => 0

def order (x y : Binary64) : Ordering :=
  compareLex (compareOn tier) (compareOn height) x y

instance : Std.TransCmp order :=
  inferInstanceAs (Std.TransCmp
    (compareLex (compareOn tier) (compareOn height)))

theorem compare?_eq_order {x y : Binary64} (numberX : x ≠ .nan)
    (numberY : y ≠ .nan) : x.compare? y = some (order x y) := by
  cases x with
  | nan => exact absurd rfl numberX
  | infinite a =>
      cases y with
      | nan => exact absurd rfl numberY
      | infinite b => cases a <;> cases b <;> rfl
      | finite => cases a <;> rfl
  | finite =>
      cases y with
      | nan => exact absurd rfl numberY
      | infinite b => cases b <;> rfl
      | finite => simp [compare?, order, compareLex, compareOn, tier, height]

theorem order_negate {x y : Binary64} :
    order x.negate y.negate = order y x := by
  have opposite (i j : ℤ) : compare (-i) (-j) = compare j i := by
    simp only [Int.compare_eq_ite_lt]
    split <;> split <;> grind
  have tiers (x : Binary64) : x.negate.tier = -x.tier := by
    cases x with
    | nan | finite => rfl
    | infinite negative => cases negative <;> rfl
  have heights (x : Binary64) : x.negate.height = -x.height := by
    cases x with
    | nan | infinite => rfl
    | finite negative => cases negative <;> simp [negate, height, units]
  simp [order, compareLex, compareOn, tiers, heights, opposite]

variable {n m d k : ℕ}

theorem nearestEven_mono_left (le : n ≤ m) (d : ℕ) :
    nearestEven n d ≤ nearestEven m d := by
  rcases (Nat.div_le_div_right (c := d) le).lt_or_eq with less | same
  · exact (div_le_nearestEven n d).2.trans
      (less.trans_le (div_le_nearestEven m d).1)
  · have remainders : n % d ≤ m % d := by
      have := Nat.div_add_mod n d
      have := Nat.div_add_mod m d
      rw [same] at *
      omega
    simp only [nearestEven, same]
    split_ifs <;> omega

theorem nearestEven_mono (denominator : 0 < d) (denominatorToo : 0 < k)
    (le : n * k ≤ m * d) : nearestEven n d ≤ nearestEven m k := by
  rw [← nearestEven_mul denominatorToo n d, ← nearestEven_mul denominator m k,
    Nat.mul_comm k d]
  exact nearestEven_mono_left le _

def magnitude (n d : ℕ) : ℚ :=
  significandFor n d * 2 ^ exponentFor n d

theorem magnitude_zero (d : ℕ) : magnitude 0 d = 0 := by
  have none : (scale 0 d (exponentFor 0 d)).1 = 0 := by
    unfold scale
    split <;> simp
  rw [magnitude, significandFor, none]
  simp [nearestEven]

theorem magnitude_nonneg (n d : ℕ) : 0 ≤ magnitude n d := by
  unfold magnitude
  positivity

theorem magnitude_mono (denominator : 0 < d) (denominatorToo : 0 < k)
    (le : n * k ≤ m * d) : magnitude n d ≤ magnitude m k := by
  rcases Nat.eq_zero_or_pos n with rfl | numerator
  · exact magnitude_zero d ▸ magnitude_nonneg m k
  have numeratorToo : 0 < m := Nat.pos_of_mul_pos_right
    ((Nat.mul_pos numerator denominatorToo).trans_le le)
  have ratios : (n / d : ℚ) ≤ m / k := by
    rw [div_le_div_iff₀ (by exact_mod_cast denominator)
      (by exact_mod_cast denominatorToo)]
    exact_mod_cast le
  have place := isExponent_exponentFor numerator denominator
  have placeToo := isExponent_exponentFor numeratorToo denominatorToo
  unfold magnitude
  rcases (place.mono placeToo ratios).lt_or_eq with less | same
  · -- the carry of the lower is at most the least significand of the higher
    have fits := (significandFor_bounds numerator denominator).1
    have tight :=
      (significandFor_bounds numeratorToo denominatorToo).2.resolve_left
        (place.least.trans_lt less).ne'
    calc (significandFor n d : ℚ) * 2 ^ exponentFor n d
        ≤ 2 ^ precision * 2 ^ exponentFor n d := by gcongr; exact_mod_cast fits
      _ = 2 ^ (precision - 1) * 2 ^ (exponentFor n d + 1) := by
          have carry : (2 : ℚ) ^ precision = 2 ^ (precision - 1) * 2 :=
            pow_succ 2 (precision - 1)
          rw [zpow_add_one₀ (by norm_num), carry]
          ring
      _ ≤ significandFor m k * 2 ^ exponentFor m k := by
          gcongr
          · exact_mod_cast tight
          · norm_num
          · omega
  · rw [significandFor, significandFor, ← same]
    gcongr
    refine nearestEven_mono (scale_pos denominator _)
      (scale_pos denominatorToo _) ?_
    have first : (0 : ℚ) < (scale n d (exponentFor n d)).2 := by
      exact_mod_cast scale_pos denominator _
    have second : (0 : ℚ) < (scale m k (exponentFor n d)).2 := by
      exact_mod_cast scale_pos denominatorToo _
    have scaled : ((scale n d (exponentFor n d)).1 : ℚ) /
        (scale n d (exponentFor n d)).2 ≤
        (scale m k (exponentFor n d)).1 / (scale m k (exponentFor n d)).2 := by
      rw [scale_ratio, scale_ratio]
      gcongr
    rw [div_le_div_iff₀ first second] at scaled
    exact_mod_cast scaled

theorem normalize_cases (negative : Bool) {significand : ℕ} {exponent : ℤ}
    (fits : significand ≤ 2 ^ precision) (least : leastExponent ≤ exponent)
    (tight : exponent = leastExponent ∨ 2 ^ (precision - 1) ≤ significand) :
    normalize negative significand exponent = infinite negative ∧
      (2 : ℚ) ^ (precision + greatestExponent) ≤ significand * 2 ^ exponent ∨
      ∃ m e, normalize negative significand exponent = finite negative m e ∧
        leastExponent ≤ e ∧ (m * 2 ^ e : ℚ) = significand * 2 ^ exponent ∧
        (significand * 2 ^ exponent : ℚ) <
          2 ^ (precision + greatestExponent) := by
  have mono {e f : ℤ} (le : e ≤ f) : (2 : ℚ) ^ e ≤ 2 ^ f :=
    zpow_le_zpow_right₀ (by norm_num) le
  have add (k : ℕ) (e : ℤ) : (2 : ℚ) ^ (k + e : ℤ) = 2 ^ k * 2 ^ e := by
    rw [zpow_add₀ (by norm_num), zpow_natCast]
  by_cases carried : significand = 2 ^ precision
  · subst carried
    have written : normalize negative (2 ^ precision) exponent =
        if greatestExponent < exponent + 1 then infinite negative
        else finite negative (2 ^ (precision - 1)) (exponent + 1) := by
      simp only [normalize, Nat.pow_eq, if_true]
    rw [Nat.cast_pow, Nat.cast_ofNat, ← add, written]
    split
    next large => exact .inl ⟨rfl, mono (by omega)⟩
    next small =>
      refine .inr ⟨_, _, rfl, by omega, ?_, ?_⟩
      · rw [Nat.cast_pow, Nat.cast_ofNat, ← add,
          show ((precision - 1 : ℕ) : ℤ) = precision - 1 from rfl]
        ring_nf
      · rw [zpow_lt_zpow_iff_right₀ (by norm_num)]
        omega
  · have strict : (significand : ℚ) < 2 ^ precision := by
      exact_mod_cast lt_of_le_of_ne fits carried
    by_cases large : greatestExponent < exponent
    · refine .inl ⟨normalize_of_gt large, ?_⟩
      have tight : ((2 ^ (precision - 1) : ℕ) : ℚ) ≤ significand := by
        refine Nat.cast_le.mpr (tight.resolve_left fun same => ?_)
        rw [same] at large
        cases large
      calc (2 : ℚ) ^ (precision + greatestExponent) ≤
        2 ^ ((precision - 1 : ℕ) + exponent : ℤ) :=
          mono (by rw [precision] at *; omega)
        _ = (2 ^ (precision - 1) : ℕ) * 2 ^ exponent := by rw [add]; norm_cast
        _ ≤ significand * 2 ^ exponent := by gcongr
    · refine .inr ⟨_, _,
        normalize_of_fits (lt_of_le_of_ne fits carried) (not_lt.mp large),
        least, rfl, ?_⟩
      calc (significand : ℚ) * 2 ^ exponent
          < 2 ^ precision * 2 ^ exponent := by gcongr
        _ = 2 ^ (precision + exponent) := (add ..).symm
        _ ≤ 2 ^ (precision + greatestExponent) := mono (by omega)

theorem round_cases (n : ℕ) (denominator : 0 < d) :
    round false n d = infinite false ∧
      (2 : ℚ) ^ (precision + greatestExponent) ≤ magnitude n d ∨
      ∃ m e, round false n d = finite false m e ∧ leastExponent ≤ e ∧
        (m * 2 ^ e : ℚ) = magnitude n d ∧
        magnitude n d < 2 ^ (precision + greatestExponent) := by
  rcases Nat.eq_zero_or_pos n with rfl | numerator
  · rw [magnitude_zero]
    exact .inr ⟨0, leastExponent, rfl, le_rfl, by simp, by positivity⟩
  · obtain ⟨fits, tight⟩ := significandFor_bounds numerator denominator
    rw [round_of_pos false numerator]
    exact normalize_cases false fits
      (isExponent_exponentFor numerator denominator).least tight

theorem isLE_order_infinite (x : Binary64) :
    (order x (infinite false)).isLE = true := by
  cases x with
  | nan | finite => rfl
  | infinite negative => cases negative <;> rfl

theorem isLE_order_finite {e f : ℤ} (least : leastExponent ≤ e)
    (leastToo : leastExponent ≤ f) (le : (m * 2 ^ e : ℚ) ≤ n * 2 ^ f) :
    (order (finite false m e) (finite false n f)).isLE = true := by
  have units : units false m e ≤ units false n f := by
    have scaled : (units false m e : ℚ) * 2 ^ leastExponent ≤
        units false n f * 2 ^ leastExponent := by
      rw [units_ratio false m least, units_ratio false n leastToo]
      simpa using le
    exact_mod_cast le_of_mul_le_mul_right scaled (by positivity)
  simpa [order, compareLex, compareOn, tier,
    height] using Int.isLE_compare.mpr units

theorem isLE_order_round (denominator : 0 < d) (denominatorToo : 0 < k)
    (le : n * k ≤ m * d) :
    (order (round false n d) (round false m k)).isLE = true := by
  have magnitudes := magnitude_mono denominator denominatorToo le
  rcases round_cases m denominatorToo with
    ⟨rounded, -⟩ | ⟨b, f, roundedToo, leastToo, valueToo, small⟩
  · rw [rounded]
    exact isLE_order_infinite _
  · rcases round_cases n denominator with
      ⟨-, large⟩ | ⟨a, e, rounded, least, value, -⟩
    · exact absurd (large.trans magnitudes) (not_le.mpr small)
    · rw [rounded, roundedToo]
      exact isLE_order_finite least leastToo (by rwa [value, valueToo])

theorem isLE_order_ofInt {i j : ℤ} (le : i ≤ j) :
    (order (ofInt i) (ofInt j)).isLE = true := by
  have one : 0 < 1 := Nat.one_pos
  have negative (i : ℤ)
      (below : i < 0) : ofInt i = (round false i.natAbs 1).negate := by
    rw [ofInt, decide_eq_true below]
    exact round_negate false i.natAbs 1
  have positive (i : ℤ) (above : 0 ≤ i) : ofInt i = round false i.natAbs 1 := by
    rw [ofInt, decide_eq_false (not_lt.mpr above)]
  rcases lt_or_ge i 0 with belowI | aboveI
  · rcases lt_or_ge j 0 with belowJ | aboveJ
    · rw [negative i belowI, negative j belowJ, order_negate]
      exact isLE_order_round one one (by omega)
    · -- zero is between them, with either sign
      rw [negative i belowI, positive j aboveJ]
      have below : (order (round false i.natAbs 1).negate (zero true)).isLE =
          true := by
        rw [show zero true = (round false 0 1).negate from rfl, order_negate]
        exact isLE_order_round one one (by omega)
      have above : (order (zero true) (round false j.natAbs 1)).isLE = true :=
        isLE_order_round (n := 0) one one (by omega)
      exact Std.TransCmp.isLE_trans below above
  · rw [positive i aboveI, positive j (aboveI.trans le)]
    exact isLE_order_round one one (by omega)

end RecordStore.Binary64
