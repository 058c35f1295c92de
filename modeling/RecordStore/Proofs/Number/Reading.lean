import RecordStore.Proofs.Number.Shortest

namespace RecordStore

namespace Binary64

variable {n d : ℕ}

/-! Reading decimals: magnitudes that are settled by their exponent are settled
as rounding would settle them, so that the texts of numbers and integers read
back as what they were written for. -/

theorem nearestEven_of_lt (small : 2 * n < d) : nearestEven n d = 0 := by
  rw [nearestEven, Nat.mod_eq_of_lt (by omega), if_pos small,
    Nat.div_eq_of_lt (by omega)]

theorem round_of_ge (negative : Bool) (numerator : 0 < n) (denominator : 0 < d)
    (large : (2 : ℚ) ^ (precision + greatestExponent) ≤ n / d) :
    round negative n d = infinite negative := by
  have fits := (isExponent_exponentFor numerator denominator).fits
  have above := (zpow_lt_zpow_iff_right₀ (by norm_num)).mp (large.trans_lt fits)
  rw [round_of_pos negative numerator, normalize_of_gt (by omega)]

theorem round_of_lt (negative : Bool) (numerator : 0 < n) (denominator : 0 < d)
    (small : (n / d : ℚ) < 2 ^ (leastExponent - 1)) :
    round negative n d = zero negative := by
  have place := isExponent_exponentFor numerator denominator
  have least : exponentFor n d = leastExponent := by
    refine place.tight.resolve_right fun tight => ?_
    have below :=
      (zpow_lt_zpow_iff_right₀ (by norm_num)).mp (tight.trans_lt small)
    have := place.least
    simp only [precision] at below
    omega
  have half : 2 * (scale n d leastExponent).1 <
      (scale n d leastExponent).2 := by
    have positive : (0 : ℚ) < (scale n d leastExponent).2 := by
      exact_mod_cast scale_pos denominator leastExponent
    have ratio : ((scale n d leastExponent).1 : ℚ) /
        (scale n d leastExponent).2 < 2⁻¹ := by
      rw [scale_ratio, div_lt_iff₀ (by positivity), mul_comm,
        ← zpow_sub_one₀ (by norm_num)]
      exact small
    rw [div_lt_iff₀ positive] at ratio
    have : (2 * (scale n d leastExponent).1 : ℚ) <
        (scale n d leastExponent).2 := by linarith
    exact_mod_cast this
  have none : significandFor n d = 0 := by
    rw [significandFor, least, nearestEven_of_lt half]
  rw [round_of_pos negative numerator, least, none,
    normalize_of_fits (by decide) (by decide)]
  rfl

end Binary64

namespace Decimal

theorem Scaled.quotient_ratio (x : Scaled) :
    (x.quotient.1 : ℚ) / x.quotient.2 = x.significand * 10 ^ x.exponent := by
  unfold quotient
  split
  next negative =>
    rw [Binary64.zpow_of_neg 10 negative, Nat.pow_eq]
    push_cast
    rw [div_eq_mul_inv]
  next nonneg =>
    rw [Binary64.zpow_of_nonneg 10 (by omega), Nat.pow_eq]
    push_cast
    rw [div_one]

theorem Scaled.quotient_fst_pos {x : Scaled} (positive : 0 < x.significand) :
    0 < x.quotient.1 := by
  unfold quotient
  split
  · exact positive
  · exact Nat.mul_pos positive (Nat.pow_pos (by decide))

theorem digits_bounds {n : ℕ} (positive : 0 < n) :
    (10 : ℚ) ^ ((digits n).length - 1 : ℤ) ≤ n ∧
      (n : ℚ) < 10 ^ ((digits n).length : ℤ) := by
  obtain ⟨k, length⟩ := Nat.exists_eq_succ_of_ne_zero
    (Nat.length_toDigits_pos (b := 10) (n := n)).ne'
  have below := (Nat.length_toDigits_le_iff (by decide) k.succ_pos).mp length.le
  have above : 10 ^ k ≤ n := by
    rcases Nat.eq_zero_or_pos k with rfl | some
    · rw [pow_zero]
      exact positive
    · refine not_lt.mp fun small => ?_
      have := (Nat.length_toDigits_le_iff (by decide) some).mpr small
      omega
  rw [digits, length]
  constructor
  · simpa using (by exact_mod_cast above : ((10 ^ k : ℕ) : ℚ) ≤ n)
  · exact_mod_cast below

theorem roundScaled_eq (negative : Bool) (x : Scaled) :
    roundScaled negative x = x.round negative := by
  simp only [roundScaled]
  split
  next none =>
    unfold Scaled.round Scaled.quotient
    rw [none, Nat.zero_mul]
    split <;> rfl
  next some =>
    have numerator := Scaled.quotient_fst_pos (Nat.pos_of_ne_zero some)
    obtain ⟨low, high⟩ := digits_bounds (Nat.pos_of_ne_zero some)
    have ten : (10 : ℚ) ≠ 0 := by norm_num
    have greatest : 2 ^ 1024 ≤ 10 ^ 310 := by decide +kernel
    have least : 2 ^ 1075 ≤ 10 ^ 331 := by decide +kernel
    have mono {e f : ℤ} (le : e ≤ f) : (10 : ℚ) ^ e ≤ 10 ^ f :=
      zpow_le_zpow_right₀ (by norm_num) le
    split
    next large =>
      refine (Binary64.round_of_ge negative numerator x.quotient_pos ?_).symm
      rw [Scaled.quotient_ratio]
      calc (2 : ℚ) ^ (Binary64.precision + Binary64.greatestExponent : ℤ)
          ≤ 10 ^ (310 : ℤ) := by
            change (2 : ℚ) ^ (1024 : ℤ) ≤ _
            exact_mod_cast greatest
        _ ≤ 10 ^ (((digits x.significand).length - 1 : ℤ) + x.exponent) :=
          mono (by omega)
        _ = 10 ^ ((digits x.significand).length - 1 : ℤ) * 10 ^ x.exponent :=
          zpow_add₀ ten ..
        _ ≤ x.significand * 10 ^ x.exponent := by gcongr
    next =>
      split
      next small =>
        refine (Binary64.round_of_lt negative numerator x.quotient_pos ?_).symm
        rw [Scaled.quotient_ratio]
        calc (x.significand : ℚ) * 10 ^ x.exponent
          _ < 10 ^ ((digits x.significand).length : ℤ) * 10 ^ x.exponent := by
            gcongr
          _ = 10 ^ ((digits x.significand).length + x.exponent : ℤ) :=
            (zpow_add₀ ten ..).symm
          _ ≤ 10 ^ (-331 : ℤ) := mono (by omega)
          _ ≤ 2 ^ (Binary64.leastExponent - 1) := by
              change (10 : ℚ) ^ (-331 : ℤ) ≤ 2 ^ (-1075 : ℤ)
              rw [zpow_neg, zpow_neg]
              exact inv_anti₀ (by positivity) (by exact_mod_cast least)
      next => rfl

theorem ofDigits_append (cs ds : List Char) :
    ofDigits (cs ++ ds) = 10 ^ ds.length * ofDigits cs + ofDigits ds := by
  rw [ofDigits, Nat.ofDigitChars_append, Nat.ofDigitChars_eq_ofDigitChars_zero]
  rfl

theorem magnitude?_digits (n : ℕ) : magnitude? (digits n) = some ⟨n, 0⟩ := by
  have whole : ∀ c ∈ digits n, c.isDigit = true :=
    fun _ => isDigit_of_mem_digits
  have some : digits n ≠ [] := Nat.toDigits_ne_nil
  have taken : (digits n).takeWhile Char.isDigit = digits n :=
    List.takeWhile_eq_self_iff.mpr whole
  have left : (digits n).dropWhile Char.isDigit = [] :=
    List.dropWhile_eq_nil_iff.mpr whole
  simp [magnitude?, taken, left, some, guard, exponentPart?, ofDigits_digits]

theorem magnitude?_fraction {n k places : ℕ} (positive : 0 < places)
    (small : k < 10 ^ places) :
    magnitude? (digits n ++ '.' :: padded places k) =
      some ⟨10 ^ places * n + k, -places⟩ := by
  have whole : ∀ c ∈ digits n, c.isDigit = true :=
    fun _ => isDigit_of_mem_digits
  have fraction : ∀ c ∈ padded places k, c.isDigit = true :=
    fun _ => isDigit_of_mem_padded
  have some : digits n ≠ [] := Nat.toDigits_ne_nil
  have length := length_padded positive small
  have taken : (digits n ++ '.' :: padded places k).takeWhile Char.isDigit =
      digits n := by
    simp [List.takeWhile_append_of_pos whole]
  have left : (digits n ++ '.' :: padded places k).dropWhile Char.isDigit =
      '.' :: padded places k := by
    simp [List.dropWhile_append_of_pos whole]
  have takenToo : (padded places k).takeWhile Char.isDigit = padded places k :=
    List.takeWhile_eq_self_iff.mpr fraction
  have leftToo : (padded places k).dropWhile Char.isDigit = [] :=
    List.dropWhile_eq_nil_iff.mpr fraction
  simp [magnitude?, taken, left, takenToo, leftToo, some, guard, exponentPart?,
    ofDigits_append, ofDigits_digits, length]

theorem magnitude?_positional (x : Scaled) :
    ∃ y, magnitude? (positional x) = some y ∧
      ∀ negative, y.round negative = x.round negative := by
  rcases lt_or_ge x.exponent 0 with fraction | whole
  · rw [positional_of_neg fraction,
      magnitude?_fraction (by omega) (Nat.mod_lt _ (Nat.pow_pos (by decide)))]
    refine ⟨_, rfl, fun negative => ?_⟩
    rw [Nat.div_add_mod, Int.toNat_of_nonneg (by omega), neg_neg]
  · rw [positional_of_nonneg whole, magnitude?_digits]
    refine ⟨_, rfl, fun negative => ?_⟩
    simp [Scaled.round, Scaled.quotient, not_lt.mpr whole]

theorem read?_signed {c : Char} (digit : c.isDigit = true) (rest : List Char)
    (negative : Bool) :
    read? (signed negative (c :: rest)) =
      (magnitude? (c :: rest)).map (roundScaled negative) := by
  have lower : c.toLower = c := by
    have ⟨low, high⟩ := Text.toNat_of_isDigit digit
    refine dif_neg ?_
    rintro ⟨upper, -⟩
    have : 65 ≤ c.toNat := UInt32.le_iff_toNat_le.mp upper
    omega
  have apart : c ≠ '-' ∧ c ≠ '+' ∧ c ≠ 'n' ∧ c ≠ 'i' := by
    refine ⟨?_, ?_, ?_, ?_⟩ <;> (rintro rfl; cases digit)
  cases negative <;> simp [read?, signed, lower, apart]

theorem exists_digits (n : ℕ) :
    ∃ c rest, digits n = c :: rest ∧ c.isDigit = true := by
  obtain ⟨c, rest, written⟩ :=
    List.exists_cons_of_ne_nil (show digits n ≠ [] from Nat.toDigits_ne_nil)
  exact ⟨c, rest, written, isDigit_of_mem_digits (written ▸ List.mem_cons_self)⟩

theorem exists_positional (x : Scaled) :
    ∃ c rest, positional x = c :: rest ∧ c.isDigit = true := by
  rcases lt_or_ge x.exponent 0 with fraction | whole
  · obtain ⟨c, rest, written, digit⟩ :=
      exists_digits (x.significand / 10 ^ (-x.exponent).toNat)
    exact ⟨c, _, by rw [positional_of_neg fraction, written, List.cons_append],
      digit⟩
  · rw [positional_of_nonneg whole]
    exact exists_digits _

theorem Scaled.round_of_magnitude {x : Scaled} {significand : ℕ} {exponent : ℤ}
    (magnitude : x.round false = .finite false significand exponent)
    (negative : Bool) :
    x.round negative = .finite negative significand exponent := by
  cases negative with
  | false => exact magnitude
  | true =>
      unfold Scaled.round at magnitude ⊢
      rw [← Bool.not_false, Binary64.round_negate, magnitude]
      rfl

theorem read?_text {x : Binary64} (canonical : x.Canonical) :
    read? (text x) = some x := by
  cases x with
  | nan => exact canonical.elim
  | infinite negative => cases negative <;> rfl
  | finite negative significand exponent =>
      obtain ⟨y, read, same⟩ :=
        magnitude?_positional (shortest .up significand exponent)
      obtain ⟨c, rest, written, digit⟩ :=
        exists_positional (shortest .up significand exponent)
      rw [text, written, read?_signed digit, ← written, read, Option.map_some,
        roundScaled_eq, same,
        Scaled.round_of_magnitude (round_shortest .up canonical)]

theorem read?_intText (i : ℤ) : read? (intText i) = some (.ofInt i) := by
  obtain ⟨c, rest, written, digit⟩ := exists_digits i.natAbs
  rw [intText, written, read?_signed digit, ← written, magnitude?_digits,
    Option.map_some, roundScaled_eq]
  simp [Scaled.round, Scaled.quotient, Binary64.ofInt]

theorem visible_signed {cs : List Char} (visible : Text.Visible cs)
    (negative : Bool) : Text.Visible (signed negative cs) := by
  cases negative with
  | false => exact visible
  | true => exact Text.visible_cons.mpr ⟨by decide, visible⟩

theorem visible_positional (x : Scaled) : Text.Visible (positional x) := by
  have point : Text.isBlank '.' = false := by decide
  rcases lt_or_ge x.exponent 0 with fraction | whole
  · simp [positional_of_neg fraction, point]
  · rw [positional_of_nonneg whole]
    exact visible_digits _

theorem visible_text (x : Binary64) : Text.Visible (text x) := by
  have letters : Text.isBlank 'N' = false ∧ Text.isBlank 'a' = false ∧
      Text.isBlank 'i' = false ∧
      Text.isBlank 'n' = false ∧ Text.isBlank 'f' = false := by decide
  cases x with
  | nan => simp [text, letters]
  | infinite => exact visible_signed (by simp [letters]) _
  | finite => exact visible_signed (visible_positional _) _

theorem visible_intText (i : ℤ) : Text.Visible (intText i) :=
  visible_signed (visible_digits _) _

end Decimal

end RecordStore
