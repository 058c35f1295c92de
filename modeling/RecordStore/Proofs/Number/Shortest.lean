import RecordStore.Proofs.Number.Rounding

namespace RecordStore

open Binary64 (Canonical)

namespace Decimal

theorem Scaled.quotient_pos (x : Scaled) : 0 < x.quotient.2 := by
  unfold quotient
  split
  · exact Nat.pow_pos (by decide)
  · exact Nat.one_pos

theorem Scaled.round_shift (negative : Bool) (n : ℕ) (exponent : ℤ) :
    Scaled.round negative ⟨n, exponent + 1⟩ =
      Scaled.round negative ⟨n * 10, exponent⟩ := by
  have ten : 0 < 10 := by decide
  unfold Scaled.round quotient
  simp only [Nat.pow_eq]
  -- either the denominator loses a ten or the numerator gains one
  by_cases fraction : exponent < 0
  · rw [if_pos fraction,
      show (-exponent).toNat = (-(exponent + 1)).toNat + 1 by omega, pow_succ]
    split
    next => exact (Binary64.round_mul ten negative n (Nat.pow_pos ten)).symm
    next whole =>
      simp only [show exponent + 1 = 0 by omega, Int.toNat_zero, neg_zero,
        pow_zero, Nat.mul_one]
      exact (Binary64.round_mul ten negative n Nat.one_pos).symm
  · rw [if_neg fraction, if_neg (by omega),
      show (exponent + 1).toNat = exponent.toNat + 1 by omega, pow_succ,
      Nat.mul_comm (10 ^ exponent.toNat), Nat.mul_assoc]

theorem Scaled.round_strip (negative : Bool) (fuel : ℕ) (x : Scaled) :
    (x.strip fuel).round negative = x.round negative := by
  induction fuel generalizing x with
  | zero => rfl
  | succ fuel ih =>
      rw [strip]
      split
      next zeros =>
        rw [ih, round_shift,
          Nat.div_mul_cancel (Nat.dvd_of_mod_eq_zero zeros.2)]
      next => rfl

theorem Tie.pick_cases (tie : Tie) (below above : Scaled)
    (remainder divisor : ℕ) :
    tie.pick below above remainder divisor = below ∨
      tie.pick below above remainder divisor = above := by
  unfold pick
  split
  · exact .inl rfl
  · split
    · exact .inr rfl
    · split
      · exact .inl rfl
      · exact .inr rfl

theorem round_of_nearestOnGrid? {tie : Tie} {significand : ℕ}
    {exponent gridExponent : ℤ} {x : Scaled}
    (found : nearestOnGrid? tie significand exponent gridExponent = some x) :
    x.round false = .finite false significand exponent := by
  simp only [nearestOnGrid?] at found
  split at found
  next below above =>
    rcases Tie.pick_cases tie _ _ _ _ with picked | picked
    · rw [picked] at found
      exact Option.some.inj found ▸ of_decide_eq_true below
    · rw [picked] at found
      exact Option.some.inj found ▸ of_decide_eq_true above
  next below _ => exact Option.some.inj found ▸ of_decide_eq_true below
  next _ above => exact Option.some.inj found ▸ of_decide_eq_true above
  next => cases found

theorem round_of_searchGrids {tie : Tie} {significand : ℕ}
    {exponent gridExponent : ℤ} {fuel : ℕ} {x : Scaled}
    (found : searchGrids tie significand exponent gridExponent fuel = some x) :
    x.round false = .finite false significand exponent := by
  induction fuel generalizing gridExponent with
  | zero => cases found
  | succ fuel ih =>
      rw [searchGrids] at found
      split at found
      next here =>
        cases found
        exact round_of_nearestOnGrid? here
      next => exact ih found

theorem round_exact {significand : ℕ} {exponent : ℤ}
    (canonical : (Binary64.finite false significand exponent).Canonical) :
    Scaled.round false
      ⟨(Binary64.quotient significand exponent).1 * Nat.pow 5 (-exponent).toNat,
        if exponent < 0 then exponent else 0⟩ =
      .finite false significand exponent := by
  rw [← canonical.round_quotient]
  unfold Scaled.round Scaled.quotient
  by_cases fraction : exponent < 0
  · simp only [if_pos fraction, Binary64.quotient, Nat.pow_eq]
    rw [show 10 = 2 * 5 from rfl, mul_pow]
    exact Binary64.round_mul (by positivity) false significand (by positivity)
  · simp only [if_neg fraction, lt_irrefl, if_false, Binary64.quotient,
      Nat.pow_eq, show (-exponent).toNat = 0 by omega, Int.toNat_zero, pow_zero,
      mul_one]

theorem round_shortest (tie : Tie) {significand : ℕ} {exponent : ℤ}
    (canonical : (Binary64.finite false significand exponent).Canonical) :
    (shortest tie significand exponent).round false =
      .finite false significand exponent := by
  simp only [shortest]
  split
  next zero =>
    subst zero
    obtain ⟨-, -, -, rfl | tight⟩ := canonical
    · rfl
    · exact absurd tight (by decide)
  next =>
    split
    next found => rw [Scaled.round_strip, round_of_searchGrids found]
    next => exact round_exact canonical

theorem positional_of_nonneg {x : Scaled} (whole : 0 ≤ x.exponent) :
    positional x = digits x.quotient.1 := by
  rw [positional, if_pos whole, Scaled.quotient, if_neg (not_lt.mpr whole)]

theorem positional_of_neg {x : Scaled} (fraction : x.exponent < 0) :
    positional x = digits (x.significand / 10 ^ (-x.exponent).toNat) ++
      '.' :: padded (-x.exponent).toNat
        (x.significand % 10 ^ (-x.exponent).toNat) := by
  rw [positional, if_neg (not_le.mpr fraction)]
  rfl

theorem not_mem_positional {c : Char} (other : c.isDigit = false)
    (noPoint : c ≠ '.') (x : Scaled) : c ∉ positional x := by
  rcases lt_or_ge x.exponent 0 with fraction | whole
  · rw [positional_of_neg fraction]
    simp [not_mem_digits other, not_mem_padded other, noPoint]
  · rw [positional_of_nonneg whole]
    exact not_mem_digits other _

theorem point_mem_positional_iff (x : Scaled) :
    '.' ∈ positional x ↔ x.exponent < 0 := by
  rcases lt_or_ge x.exponent 0 with fraction | whole
  · simp [positional_of_neg fraction, fraction]
  · rw [positional_of_nonneg whole]
    exact iff_of_false (not_mem_digits (by decide) _) (not_lt.mpr whole)

theorem eq_of_positional {x y : Scaled} (fractionX : x.exponent < 0)
    (fractionY : y.exponent < 0) (same : positional x = positional y) :
    x = y := by
  rw [positional_of_neg fractionX, positional_of_neg fractionY,
    List.append_cons_inj_of_notMem (not_mem_digits (by decide) _)
      (not_mem_padded (by decide) _ _)] at same
  obtain ⟨whole, -, fraction⟩ := same
  have length (x : Scaled) (fraction : x.exponent < 0) : (padded
      (-x.exponent).toNat (x.significand % 10 ^ (-x.exponent).toNat)).length =
      (-x.exponent).toNat :=
    length_padded (by omega) (Nat.mod_lt _ (Nat.pow_pos (by decide)))
  have places : (-x.exponent).toNat = (-y.exponent).toNat := by
    rw [← length x fractionX, fraction, length y fractionY]
  have quotients := digits_injective whole
  have remainders := congrArg ofDigits fraction
  rw [ofDigits_padded, ofDigits_padded, places] at remainders
  rw [places] at quotients
  obtain ⟨m, e⟩ := x
  obtain ⟨n, f⟩ := y
  dsimp only at *
  rw [← Nat.div_add_mod m (10 ^ (-f).toNat), quotients, remainders,
    Nat.div_add_mod, show e = f by omega]

theorem round_eq_of_positional {x y : Scaled}
    (same : positional x = positional y) (negative : Bool) :
    x.round negative = y.round negative := by
  have point := point_mem_positional_iff x
  rw [same, point_mem_positional_iff] at point
  rcases lt_or_ge x.exponent 0 with fraction | whole
  · rw [eq_of_positional fraction (point.mpr fraction) same]
  · have wholeY : 0 ≤ y.exponent :=
      not_lt.mp fun fraction => not_lt.mpr whole (point.mp fraction)
    rw [positional_of_nonneg whole, positional_of_nonneg wholeY] at same
    unfold Scaled.round
    rw [digits_injective same]
    simp only [Scaled.quotient, if_neg (not_lt.mpr whole),
      if_neg (not_lt.mpr wholeY)]

theorem positional_ne_inf (x : Scaled) : positional x ≠ ['i', 'n', 'f'] := by
  intro same
  have letter := not_mem_positional (c := 'i') (by decide) (by decide) x
  rw [same] at letter
  exact letter (by simp)

theorem text_injective {x y : Binary64} (first : x.Canonical)
    (second : y.Canonical) (same : text x = text y) : x = y := by
  have hyphen (x : Scaled) :=
    not_mem_positional (c := '-') (by decide) (by decide) x
  have word : '-' ∉ ['i', 'n', 'f'] := by decide
  cases x with
  | nan => exact first.elim
  | infinite =>
      cases y with
      | nan => exact second.elim
      | infinite =>
          exact congrArg Binary64.infinite ((signed_inj word word).mp same).1
      | finite =>
          exact absurd ((signed_inj word (hyphen _)).mp same).2.symm
            (positional_ne_inf _)
  | finite =>
      cases y with
      | nan => exact second.elim
      | infinite =>
          exact absurd ((signed_inj (hyphen _) word).mp same).2
            (positional_ne_inf _)
      | finite =>
          obtain ⟨sign, magnitude⟩ := (signed_inj (hyphen _) (hyphen _)).mp same
          have rounded := round_eq_of_positional magnitude false
          rw [round_shortest .up first, round_shortest .up second] at rounded
          cases rounded
          rw [sign]

theorem positional_ne_nil (x : Scaled) : positional x ≠ [] := by
  rcases lt_or_ge x.exponent 0 with fraction | whole
  · simp [positional_of_neg fraction]
  · rw [positional_of_nonneg whole]
    exact Nat.toDigits_ne_nil

theorem text_ne_nil (x : Binary64) : text x ≠ [] := by
  cases x with
  | nan => decide
  | infinite negative => cases negative <;> decide
  | finite negative => cases negative <;> simp [text, signed, positional_ne_nil]

theorem comma_not_mem_text (x : Binary64) : ',' ∉ text x := by
  have comma (x : Scaled) :=
    not_mem_positional (c := ',') (by decide) (by decide) x
  cases x with
  | nan => decide
  | infinite negative => cases negative <;> decide
  | finite negative => cases negative <;> simp [text, signed, comma]

end Decimal

end RecordStore
