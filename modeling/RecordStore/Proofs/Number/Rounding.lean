import Mathlib.Algebra.Order.Field.Power
import Mathlib.Algebra.Order.Field.Rat
import Mathlib.Data.Nat.Cast.Order.Field
import Mathlib.Tactic.FieldSimp
import Mathlib.Tactic.Linarith
import Mathlib.Tactic.Positivity
import Mathlib.Tactic.Ring
import RecordStore.Proofs.Number

namespace RecordStore.Binary64

/-- A finite number of the format has the least exponent at which its
significand fits the precision. -/
def Canonical : Binary64 → Prop
  | .nan => False
  | .infinite _ => True
  | .finite _ significand exponent =>
    significand < 2 ^ precision ∧ leastExponent ≤ exponent ∧
      exponent ≤ greatestExponent ∧
      (exponent = leastExponent ∨ 2 ^ (precision - 1) ≤ significand)

instance (x : Binary64) : Decidable x.Canonical :=
  match x with
  | .nan => inferInstanceAs (Decidable False)
  | .infinite _ => inferInstanceAs (Decidable True)
  | .finite .. => inferInstanceAs (Decidable (_ ∧ _))

structure IsExponent (q : ℚ) (exponent : ℤ) : Prop where
  least : leastExponent ≤ exponent
  fits : q < 2 ^ (precision + exponent)
  tight : exponent = leastExponent ∨ (2 : ℚ) ^ (precision - 1 + exponent) ≤ q

theorem IsExponent.mono {q r : ℚ} {e f : ℤ} (first : IsExponent q e)
    (second : IsExponent r f) (le : q ≤ r) : e ≤ f := by
  rcases first.tight with least | tight
  · exact least ▸ second.least
  · have := (zpow_lt_zpow_iff_right₀ (by norm_num : (1 : ℚ) < 2)).mp
      ((tight.trans le).trans_lt second.fits)
    omega

theorem IsExponent.unique {q : ℚ} {e f : ℤ} (first : IsExponent q e)
    (second : IsExponent q f) : e = f :=
  le_antisymm (first.mono second le_rfl) (second.mono first le_rfl)

variable {n d : ℕ}

theorem scale_pos (positive : 0 < d) (exponent : ℤ) :
    0 < (scale n d exponent).2 := by
  unfold scale
  split
  · exact positive
  · exact Nat.mul_pos positive (Nat.pow_pos (by decide))

theorem zpow_of_neg (base : ℚ) {exponent : ℤ} (negative : exponent < 0) :
    base ^ exponent = (base ^ (-exponent).toNat)⁻¹ := by
  rw [← zpow_natCast, Int.toNat_of_nonneg (by omega), ← zpow_neg, neg_neg]

theorem zpow_of_nonneg (base : ℚ) {exponent : ℤ} (nonneg : 0 ≤ exponent) :
    base ^ exponent = base ^ exponent.toNat := by
  rw [← zpow_natCast, Int.toNat_of_nonneg nonneg]

theorem scale_ratio (n d : ℕ) (exponent : ℤ) :
    ((scale n d exponent).1 : ℚ) / (scale n d exponent).2 =
      n / d / 2 ^ exponent := by
  unfold scale
  split
  next negative =>
    rw [zpow_of_neg 2 negative, Nat.pow_eq]
    push_cast
    field_simp
  next nonneg =>
    rw [zpow_of_nonneg 2 (by omega), Nat.pow_eq]
    push_cast
    field_simp

theorem scale_div_lt_iff (positive : 0 < d) (exponent : ℤ) (k : ℕ) :
    (scale n d exponent).1 / (scale n d exponent).2 < 2 ^ k ↔
      (n / d : ℚ) < 2 ^ (k + exponent) := by
  have below : (0 : ℚ) < (scale n d exponent).2 := by
    exact_mod_cast scale_pos positive exponent
  rw [Nat.div_lt_iff_lt_mul (scale_pos positive exponent),
    ← Nat.cast_lt (α := ℚ), Nat.cast_mul, ← div_lt_iff₀ below, scale_ratio,
    div_lt_iff₀ (by positivity), zpow_add₀ (by norm_num)]
  simp

theorem log2_bounds (positive : 0 < n) :
    (2 : ℚ) ^ (n.log2 : ℤ) ≤ n ∧ (n : ℚ) < 2 ^ (n.log2 + 1 : ℤ) := by
  constructor
  · exact_mod_cast Nat.log2_self_le positive.ne'
  · exact_mod_cast Nat.lt_log2_self

theorem ratio_bounds (numerator : 0 < n) (denominator : 0 < d) :
    (2 : ℚ) ^ (n.log2 - d.log2 - 1 : ℤ) ≤ n / d ∧
      (n / d : ℚ) < 2 ^ (n.log2 - d.log2 + 1 : ℤ) := by
  obtain ⟨lowN, highN⟩ := log2_bounds numerator
  obtain ⟨lowD, highD⟩ := log2_bounds denominator
  have positive : (0 : ℚ) < d := by exact_mod_cast denominator
  constructor
  · rw [le_div_iff₀ positive]
    calc (2 : ℚ) ^ (n.log2 - d.log2 - 1 : ℤ) * d
        ≤ 2 ^ (n.log2 - d.log2 - 1 : ℤ) * 2 ^ (d.log2 + 1 : ℤ) := by gcongr
      _ = 2 ^ (n.log2 : ℤ) := by rw [← zpow_add₀ (by norm_num)]; congr 1; ring
      _ ≤ n := lowN
  · rw [div_lt_iff₀ positive]
    calc (n : ℚ) < 2 ^ (n.log2 + 1 : ℤ) := highN
      _ = 2 ^ (n.log2 - d.log2 + 1 : ℤ) * 2 ^ (d.log2 : ℤ) := by
          rw [← zpow_add₀ (by norm_num)]; congr 1; ring
      _ ≤ 2 ^ (n.log2 - d.log2 + 1 : ℤ) * d := by gcongr

theorem isExponent_exponentFor (numerator : 0 < n) (denominator : 0 < d) :
    IsExponent (n / d) (exponentFor n d) := by
  obtain ⟨above, below⟩ := ratio_bounds numerator denominator
  have mono {e f : ℤ} (le : e ≤ f) : (2 : ℚ) ^ e ≤ 2 ^ f :=
    zpow_le_zpow_right₀ (by norm_num) le
  simp only [exponentFor]
  generalize start : (if (n.log2 : ℤ) - d.log2 - precision < leastExponent then
    leastExponent
    else (n.log2 : ℤ) - d.log2 - precision) = low
  have places : leastExponent ≤ low ∧ (n.log2 : ℤ) - d.log2 - precision ≤ low ∧
      (low = leastExponent ∨ low = (n.log2 : ℤ) - d.log2 - precision) := by
    split at start <;> omega
  obtain ⟨least, atLeast, either⟩ := places
  split
  next fits =>
    refine ⟨least, (scale_div_lt_iff denominator low precision).mp fits,
      either.imp_right fun exact => ?_⟩
    exact (mono (by omega)).trans above
  next high =>
    rw [Nat.pow_eq, scale_div_lt_iff denominator, not_lt] at high
    exact ⟨by omega, below.trans_le (mono (by omega)),
      .inr ((mono (by omega)).trans high)⟩

/-! How the quotient is written does not matter, nor on which side of zero it
is. -/

theorem exponentFor_mul {k : ℕ} (numerator : 0 < n) (denominator : 0 < d)
    (positive : 0 < k) : exponentFor (n * k) (d * k) = exponentFor n d := by
  have common := isExponent_exponentFor (Nat.mul_pos numerator positive)
    (Nat.mul_pos denominator positive)
  push_cast at common
  rw [mul_div_mul_right _ _ (by exact_mod_cast positive.ne')] at common
  exact common.unique (isExponent_exponentFor numerator denominator)

theorem scale_mul (n d k : ℕ) (exponent : ℤ) :
    scale (n * k) (d * k) exponent =
      ((scale n d exponent).1 * k, (scale n d exponent).2 * k) := by
  unfold scale
  split <;> simp only [Nat.mul_right_comm]

theorem nearestEven_mul {k : ℕ} (positive : 0 < k) (n d : ℕ) :
    nearestEven (n * k) (d * k) = nearestEven n d := by
  simp only [nearestEven, Nat.mul_div_mul_right n d positive,
    Nat.mul_mod_mul_right, ← Nat.mul_assoc, Nat.mul_lt_mul_right positive]

def significandFor (n d : ℕ) : ℕ :=
  nearestEven (scale n d (exponentFor n d)).1 (scale n d (exponentFor n d)).2

theorem significandFor_mul {k : ℕ} (numerator : 0 < n) (denominator : 0 < d)
    (positive : 0 < k) :
    significandFor (n * k) (d * k) = significandFor n d := by
  simp only [significandFor, exponentFor_mul numerator denominator positive,
    scale_mul, nearestEven_mul positive]

theorem round_of_pos (negative : Bool) (numerator : 0 < n) (d : ℕ) :
    round negative n d =
      normalize negative (significandFor n d) (exponentFor n d) := by
  rw [round, if_neg numerator.ne']
  rfl

theorem round_mul {k : ℕ} (positive : 0 < k) (negative : Bool) (n : ℕ)
    (denominator : 0 < d) :
    round negative (n * k) (d * k) = round negative n d := by
  rcases Nat.eq_zero_or_pos n with rfl | numerator
  · simp [round]
  · rw [round_of_pos _ (Nat.mul_pos numerator positive),
      round_of_pos _ numerator, exponentFor_mul numerator denominator positive,
      significandFor_mul numerator denominator positive]

theorem normalize_negate (negative : Bool) (significand : ℕ) (exponent : ℤ) :
    normalize (!negative) significand exponent =
      (normalize negative significand exponent).negate := by
  simp only [normalize, apply_ite negate]
  rfl

theorem round_negate (negative : Bool) (n d : ℕ) :
    round (!negative) n d = (round negative n d).negate := by
  rcases Nat.eq_zero_or_pos n with rfl | numerator
  · rfl
  · rw [round_of_pos _ numerator, round_of_pos _ numerator, normalize_negate]

theorem div_le_nearestEven (n d : ℕ) :
    n / d ≤ nearestEven n d ∧ nearestEven n d ≤ n / d + 1 := by
  simp only [nearestEven]
  split
  · omega
  · split <;> omega

theorem canonical_zero (negative : Bool) : (zero negative).Canonical :=
  ⟨by decide, le_refl _, by decide, .inl rfl⟩

theorem normalize_of_fits {negative : Bool} {significand : ℕ} {exponent : ℤ}
    (fits : significand < 2 ^ precision) (bound : exponent ≤ greatestExponent) :
    normalize negative significand exponent =
      finite negative significand exponent := by
  have uncarried : significand ≠ Nat.pow 2 precision := fits.ne
  simp only [normalize, if_neg uncarried, if_neg (not_lt.mpr bound)]

theorem normalize_of_gt {negative : Bool} {significand : ℕ} {exponent : ℤ}
    (large : greatestExponent < exponent) :
    normalize negative significand exponent = infinite negative := by
  by_cases carried : significand = Nat.pow 2 precision
  · simp only [normalize, if_pos carried,
      if_pos (large.trans (lt_add_one exponent))]
  · simp only [normalize, if_neg carried, if_pos large]

theorem canonical_normalize {negative : Bool} {significand : ℕ} {exponent : ℤ}
    (fits : significand ≤ 2 ^ precision) (least : leastExponent ≤ exponent)
    (tight : exponent = leastExponent ∨ 2 ^ (precision - 1) ≤ significand) :
    (normalize negative significand exponent).Canonical := by
  unfold normalize
  by_cases carried : significand = Nat.pow 2 precision
  · simp only [if_pos carried]
    split
    · trivial
    · exact ⟨by decide, by omega, by omega, .inr (le_refl _)⟩
  · simp only [if_neg carried]
    split
    · trivial
    · exact ⟨lt_of_le_of_ne fits carried, least, by omega, tight⟩

theorem significandFor_bounds (numerator : 0 < n) (denominator : 0 < d) :
    significandFor n d ≤ 2 ^ precision ∧
      (exponentFor n d = leastExponent ∨
        2 ^ (precision - 1) ≤ significandFor n d) := by
  obtain ⟨-, fits, tight⟩ := isExponent_exponentFor numerator denominator
  obtain ⟨low, high⟩ := div_le_nearestEven (scale n d (exponentFor n d)).1
    (scale n d (exponentFor n d)).2
  constructor
  · have := (scale_div_lt_iff denominator _ _).mpr fits
    exact high.trans (by omega)
  · refine tight.imp_right fun tight => le_trans (not_lt.mp fun small => ?_) low
    have below := (scale_div_lt_iff denominator _ (precision - 1)).mp small
    rw [Nat.cast_sub (by decide), Nat.cast_one] at below
    exact not_lt.mpr tight below

theorem canonical_round (negative : Bool) (n : ℕ) (denominator : 0 < d) :
    (round negative n d).Canonical := by
  rcases Nat.eq_zero_or_pos n with rfl | numerator
  · exact canonical_zero negative
  · obtain ⟨fits, tight⟩ := significandFor_bounds numerator denominator
    rw [round_of_pos negative numerator]
    exact canonical_normalize fits
      (isExponent_exponentFor numerator denominator).least tight

theorem canonical_ofInt (i : ℤ) : (ofInt i).Canonical :=
  canonical_round _ _ (by decide)

theorem quotient_pos (significand : ℕ) (exponent : ℤ) :
    0 < (quotient significand exponent).2 := by
  unfold quotient
  split
  · exact Nat.pow_pos (by decide)
  · exact Nat.one_pos

theorem quotient_ratio (significand : ℕ) (exponent : ℤ) :
    ((quotient significand exponent).1 : ℚ) /
      (quotient significand exponent).2 =
      significand * 2 ^ exponent := by
  unfold quotient
  split
  next negative =>
    rw [zpow_of_neg 2 negative, Nat.pow_eq]
    push_cast
    rw [div_eq_mul_inv]
  next nonneg =>
    rw [zpow_of_nonneg 2 (by omega), Nat.pow_eq]
    push_cast
    rw [div_one]

theorem scale_quotient (significand : ℕ) (exponent : ℤ) :
    ∃ k, 0 < k ∧
      scale (quotient significand exponent).1 (quotient significand exponent).2
        exponent =
        (significand * k, 1 * k) := by
  unfold scale quotient
  split
  · exact ⟨Nat.pow 2 (-exponent).toNat, Nat.pow_pos (by decide), by simp⟩
  · exact ⟨Nat.pow 2 exponent.toNat, Nat.pow_pos (by decide), by simp⟩

theorem Canonical.isExponent {negative : Bool} {significand : ℕ} {exponent : ℤ}
    (canonical : (finite negative significand exponent).Canonical) :
    IsExponent (significand * 2 ^ exponent) exponent := by
  obtain ⟨fits, least, -, tight⟩ := canonical
  refine ⟨least, ?_, tight.imp_right fun tight => ?_⟩
  · rw [zpow_add₀ (by norm_num)]
    gcongr
    exact_mod_cast fits
  · rw [zpow_add₀ (by norm_num)]
    gcongr
    rw [← Nat.cast_one, ← Nat.cast_sub (by decide), zpow_natCast]
    exact_mod_cast tight

theorem Canonical.round_quotient {negative : Bool} {significand : ℕ}
    {exponent : ℤ}
    (canonical : (finite negative significand exponent).Canonical) :
    round negative (quotient significand exponent).1
      (quotient significand exponent).2 =
      finite negative significand exponent := by
  rcases Nat.eq_zero_or_pos significand with rfl | positive
  · obtain ⟨-, -, -, rfl | tight⟩ := canonical
    · rfl
    · exact absurd tight (by decide)
  · have positive : 0 < (quotient significand exponent).1 := by
      unfold quotient
      split
      · exact positive
      · exact Nat.mul_pos positive (Nat.pow_pos (by decide))
    have exact :=
      isExponent_exponentFor positive (quotient_pos significand exponent)
    rw [quotient_ratio] at exact
    obtain ⟨k, some, scaled⟩ := scale_quotient significand exponent
    have whole : nearestEven significand 1 = significand := by
      simp [nearestEven, Nat.mod_one]
    have exponents := exact.unique canonical.isExponent
    have significands : significandFor (quotient significand exponent).1
        (quotient significand exponent).2 =
        significand := by
      rw [significandFor, exponents, scaled, nearestEven_mul some, whole]
    rw [round_of_pos negative positive, exponents, significands,
      normalize_of_fits canonical.1 canonical.2.2.1]

/-! Numbers of the format that are equal differ at most in the sign of zero. -/

def isNegative : Binary64 → Bool
  | .nan => false
  | .infinite negative => negative
  | .finite negative .. => negative

theorem units_ratio (negative : Bool) (significand : ℕ) {exponent : ℤ}
    (least : leastExponent ≤ exponent) :
    ((units negative significand exponent : ℤ) : ℚ) * 2 ^ leastExponent =
      (if negative then -1 else 1) * (significand * 2 ^ exponent) := by
  have shift : (2 : ℚ) ^ exponent =
      2 ^ (exponent - leastExponent).toNat * 2 ^ leastExponent := by
    rw [← zpow_natCast, ← zpow_add₀ (by norm_num),
      Int.toNat_of_nonneg (by omega), sub_add_cancel]
  rw [shift, units, Nat.pow_eq]
  cases negative
  · simp only [Bool.false_eq_true, if_false]
    push_cast
    ring
  · simp only [if_true]
    push_cast
    ring

theorem Canonical.eq_of_units {negative : Bool} {m n : ℕ} {e f : ℤ}
    (first : (finite negative m e).Canonical)
    (second : (finite negative n f).Canonical)
    (same : units negative m e = units negative n f) :
    finite negative m e = finite negative n f := by
  have equal : (m * 2 ^ e : ℚ) = n * 2 ^ f := by
    have scaled := units_ratio negative m first.2.1
    rw [same, units_ratio negative n second.2.1] at scaled
    cases negative <;> simpa using scaled.symm
  have exponents := first.isExponent.unique (equal ▸ second.isExponent)
  subst exponents
  have significands : (m : ℚ) = n := mul_right_cancel₀ (by positivity) equal
  rw [Nat.cast_injective significands]

theorem Canonical.eq_iff {x y : Binary64} (first : x.Canonical)
    (second : y.Canonical) :
    x = y ↔ x.compare? y = some .eq ∧ x.isNegative = y.isNegative := by
  constructor
  · rintro rfl
    cases x with
    | nan => exact first.elim
    | infinite | finite => simp [compare?]
  · rintro ⟨equal, sign⟩
    cases x with
    | nan => exact first.elim
    | infinite =>
        cases y with
        | nan => exact second.elim
        | infinite => exact congrArg infinite sign
        | finite =>
            simp only [compare?] at equal; split at equal <;> cases equal
    | finite =>
        cases y with
        | nan => exact second.elim
        | infinite =>
            simp only [compare?] at equal; split at equal <;> cases equal
        | finite =>
            simp only [isNegative] at sign
            subst sign
            exact first.eq_of_units second (by simpa [compare?] using equal)

end RecordStore.Binary64
