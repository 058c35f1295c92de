import Mathlib.Algebra.Group.Nat.Even
import Mathlib.Data.List.Basic
import RecordStore.Number.Decimal
import RecordStore.Proofs.Text

namespace RecordStore

namespace Decimal

variable {n width : Nat}

theorem length_padded (positive : 0 < width) (small : n < 10 ^ width) :
    (padded width n).length = width := by
  have : (digits n).length ≤ width :=
    (Nat.length_toDigits_le_iff (by decide) positive).mpr small
  simp only [padded, List.length_append, List.length_replicate]
  omega

theorem width_le_length_padded (width n : Nat) :
    width ≤ (padded width n).length := by
  simp only [padded, List.length_append, List.length_replicate]
  omega

theorem isDigit_of_mem_digits {c : Char} (member : c ∈ digits n) :
    c.isDigit = true :=
  Nat.isDigit_of_mem_toDigits (by decide) (by decide) member

theorem isDigit_of_mem_padded {c : Char} (member : c ∈ padded width n) :
    c.isDigit = true := by
  rcases List.mem_append.mp member with zero | written
  · rw [List.eq_of_mem_replicate zero]
    decide
  · exact isDigit_of_mem_digits written

@[simp] theorem ofDigits_padded (width n : Nat) :
    ofDigits (padded width n) = n := by
  rw [ofDigits, padded, Nat.ofDigitChars_append,
    Nat.ofDigitChars_replicate_zero, Nat.mul_zero]
  exact ofDigits_digits n

@[simp] theorem visible_digits (n : Nat) : Text.Visible (digits n) :=
  fun _ member => Text.isBlank_of_isDigit (isDigit_of_mem_digits member)

@[simp] theorem visible_padded (width n : Nat) :
    Text.Visible (padded width n) :=
  fun _ member => Text.isBlank_of_isDigit (isDigit_of_mem_padded member)

theorem padded_two (small : n < 100) :
    ∃ a b, padded 2 n = [a, b] ∧ (∀ c ∈ [a, b], c.isDigit = true) ∧
      ofDigits [a, b] = n := by
  obtain ⟨a, b, written⟩ :=
    List.length_eq_two.mp (length_padded (by decide) small)
  exact ⟨a, b, written, written ▸ fun _ => isDigit_of_mem_padded,
    written ▸ ofDigits_padded 2 n⟩

theorem padded_four (small : n < 10000) :
    ∃ a b c d, padded 4 n = [a, b, c, d] ∧
      (∀ e ∈ [a, b, c, d], e.isDigit = true) ∧ ofDigits [a, b, c, d] = n := by
  have four : (padded 4 n).length = 4 := length_padded (by decide) small
  match written : padded 4 n, four with
  | [a, b, c, d], _ =>
      exact ⟨a, b, c, d, rfl, written ▸ fun _ => isDigit_of_mem_padded,
        written ▸ ofDigits_padded 4 n⟩

theorem ofDigits_four (a b c d : Char) :
    ofDigits [a, b, c, d] = ofDigits [a, b] * 100 + ofDigits [c, d] := by
  simp only [ofDigits, Nat.ofDigitChars, List.foldl_cons, List.foldl_nil]
  omega

theorem ofDigits_concat (cs : List Char) (c : Char) :
    ofDigits (cs ++ [c]) = 10 * ofDigits cs + (c.toNat - 48) := by
  rw [ofDigits, Nat.ofDigitChars_append]
  rfl

theorem not_mem_digits {c : Char} (other : c.isDigit = false) (n : Nat) :
    c ∉ digits n := by
  intro member
  rw [isDigit_of_mem_digits member] at other
  cases other

theorem not_mem_padded {c : Char} (other : c.isDigit = false) (width n : Nat) :
    c ∉ padded width n := by
  intro member
  rw [isDigit_of_mem_padded member] at other
  cases other

theorem digits_injective : Function.Injective digits := fun m n same => by
  rw [← ofDigits_digits m, same, ofDigits_digits]

theorem padded_injective (width : Nat) : Function.Injective (padded width) :=
  fun m n same => by
  rw [← ofDigits_padded width m, same, ofDigits_padded]

theorem signed_inj {a b : Bool} {cs ds : List Char} (unsignedC : '-' ∉ cs)
    (unsignedD : '-' ∉ ds) : signed a cs = signed b ds ↔ a = b ∧ cs = ds := by
  have apart {cs ds : List Char} (unsigned : '-' ∉ cs) : cs ≠ '-' :: ds := by
    rintro rfl
    exact unsigned (by simp)
  cases a <;> cases b <;> simp [signed, apart unsignedC, (apart unsignedD).symm]

theorem intText_injective : Function.Injective intText := fun i j same => by
  obtain ⟨sign, magnitude⟩ :=
    (signed_inj (not_mem_digits (by decide) _)
      (not_mem_digits (by decide) _)).mp same
  have := digits_injective magnitude
  have := decide_eq_decide.mp sign
  omega

end Decimal

namespace Binary64

theorem exponentFor_le (numerator denominator : Nat) :
    exponentFor numerator denominator ≤ max leastExponent
      (Nat.log2 numerator - Nat.log2 denominator - precision) + 1 := by
  simp only [exponentFor]
  split <;> split <;> omega

theorem isFinite_normalize {negative : Bool} {significand : Nat}
    {exponent : Int} (small : exponent < greatestExponent) :
    (normalize negative significand exponent).isFinite = true := by
  unfold normalize
  split
  next m e carried =>
    have : e ≤ exponent + 1 := by
      split at carried <;> cases carried <;> omega
    rw [if_neg (by omega), isFinite]

theorem isFinite_round (negative : Bool) {numerator denominator k : Nat}
    (small : numerator.log2 < denominator.log2 + k) (bound : k ≤ 1000) :
    (round negative numerator denominator).isFinite = true := by
  rw [round]
  split
  next => rfl
  next =>
    have exponent := exponentFor_le numerator denominator
    apply isFinite_normalize
    simp only [leastExponent, precision, greatestExponent] at exponent ⊢
    omega

theorem isFinite_ofInt {i : Int} {k : Nat} (small : i.natAbs < 2 ^ k)
    (bound : k ≤ 1000) : (ofInt i).isFinite = true := by
  by_cases zero : i.natAbs = 0
  · rw [ofInt, round, if_pos zero]
    rfl
  · refine isFinite_round _ ?_ bound
    have log : Nat.log2 i.natAbs < k := (Nat.log2_lt zero).mpr small
    omega

end Binary64

end RecordStore
