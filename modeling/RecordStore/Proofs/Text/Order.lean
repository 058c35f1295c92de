import Mathlib.Data.String.Basic
import RecordStore.Proofs.Number

namespace RecordStore

theorem ordering_ext {o p : Ordering} (less : o = .lt ↔ p = .lt)
    (equal : o = .eq ↔ p = .eq) : o = p := by
  cases o <;> cases p <;> simp_all

namespace Text

theorem compare_char_eq_lt_iff (c d : Char) : compare c d = .lt ↔ c < d :=
  compareOfLessAndEq_eq_lt

theorem compare_chars_eq_lt_iff (cs ds : List Char) :
    compare cs ds = .lt ↔ cs < ds := by
  induction cs generalizing ds with
  | nil => cases ds <;> simp
  | cons c cs ih =>
      cases ds with
      | nil => simp
      | cons d ds =>
          rw [List.compare_cons_cons, Ordering.then_eq_lt, ih,
            compare_char_eq_lt_iff, Std.LawfulEqCmp.compare_eq_iff_eq,
            List.cons_lt_cons_iff]

theorem compare_ofList (cs ds : List Char) :
    compare (String.ofList cs) (String.ofList ds) = compare cs ds := by
  have less : compare (String.ofList cs) (String.ofList ds) = .lt ↔
      String.ofList cs < String.ofList ds :=
    compareOfLessAndEq_eq_lt
  apply ordering_ext
  · rw [less, String.lt_iff_toList_lt, String.toList_ofList,
      String.toList_ofList, compare_chars_eq_lt_iff]
  · rw [Std.LawfulEqCmp.compare_eq_iff_eq, Std.LawfulEqCmp.compare_eq_iff_eq,
      String.ofList_inj]

/-- Where the first pieces are of one length, the rest counts only if they are
the same. -/
theorem compare_append {cs ds es fs : List Char}
    (length : cs.length = es.length) :
    compare (cs ++ ds) (es ++ fs) = (compare cs es).then (compare ds fs) := by
  induction cs generalizing es with
  | nil =>
      rw [List.eq_nil_of_length_eq_zero length.symm, Std.compare_self]
      rfl
  | cons c cs ih =>
      cases es with
      | nil => cases length
      | cons e es =>
          rw [List.cons_append, List.cons_append, List.compare_cons_cons,
            List.compare_cons_cons, ih (Nat.succ.inj length),
            Ordering.then_assoc]

theorem compare_cons_self (c : Char) (cs ds : List Char) :
    compare (c :: cs) (c :: ds) = compare cs ds := by
  rw [List.compare_cons_cons, Std.compare_self, Ordering.eq_then]

end Text

namespace Decimal

theorem compare_div_mod (base m n : Nat) :
    compare m n =
      (compare (m / base) (n / base)).then (compare (m % base) (n % base)) := by
  have partsM := Nat.div_add_mod m base
  have partsN := Nat.div_add_mod n base
  rcases Nat.lt_trichotomy (m / base) (n / base) with less | equal | greater
  · rw [Nat.compare_eq_lt.mpr less, Ordering.lt_then, Nat.compare_eq_lt]
    exact Nat.lt_of_div_lt_div less
  · rw [Nat.compare_eq_eq.mpr equal, Ordering.eq_then]
    rw [equal] at partsM
    apply ordering_ext
    · rw [Nat.compare_eq_lt, Nat.compare_eq_lt]
      omega
    · rw [Nat.compare_eq_eq, Nat.compare_eq_eq]
      omega
  · rw [Nat.compare_eq_gt.mpr greater, Ordering.gt_then, Nat.compare_eq_gt]
    exact Nat.lt_of_div_lt_div greater

theorem compare_digit {c d : Char} (first : c.isDigit = true)
    (second : d.isDigit = true) :
    compare c d = compare (c.toNat - 48) (d.toNat - 48) := by
  have lowC := (Text.toNat_of_isDigit first).1
  have lowD := (Text.toNat_of_isDigit second).1
  apply ordering_ext
  · rw [Text.compare_char_eq_lt_iff, Nat.compare_eq_lt]
    change c.toNat < d.toNat ↔ _
    omega
  · rw [Std.LawfulEqCmp.compare_eq_iff_eq, Nat.compare_eq_eq, ← Char.toNat_inj]
    omega

theorem compare_ofDigits {cs ds : List Char}
    (digits : ∀ c ∈ cs, c.isDigit = true)
    (digitsToo : ∀ d ∈ ds, d.isDigit = true) (length : cs.length = ds.length) :
    compare cs ds = compare (ofDigits cs) (ofDigits ds) := by
  induction cs using List.reverseRecOn generalizing ds with
  | nil =>
      rw [List.eq_nil_of_length_eq_zero length.symm]
      rfl
  | append_singleton cs c ih =>
      rcases List.eq_nil_or_concat' ds with rfl | ⟨ds, d, rfl⟩
      · simp at length
      have initial : cs.length = ds.length := by simpa using length
      have digitC := digits c (by simp)
      have digitD := digitsToo d (by simp)
      have last : compare [c] [d] = compare (c.toNat - 48) (d.toNat - 48) := by
        rw [List.compare_cons_cons, compare_digit digitC digitD]
        exact Ordering.then_eq
      have parts {n k : Nat}
          (small : k < 10) : (10 * n + k) / 10 = n ∧ (10 * n + k) % 10 = k := by
        omega
      have partsC := parts (n := ofDigits cs) (k := c.toNat - 48) (by
        have := Text.toNat_of_isDigit digitC
        omega)
      have partsD := parts (n := ofDigits ds) (k := d.toNat - 48) (by
        have := Text.toNat_of_isDigit digitD
        omega)
      rw [Text.compare_append initial, last,
        ih (fun c member => digits c (by simp [member]))
          (fun d member => digitsToo d (by simp [member])) initial,
        ofDigits_concat, ofDigits_concat,
        compare_div_mod 10 (10 * ofDigits cs + _), partsC.1, partsC.2, partsD.1,
        partsD.2]

theorem compare_padded {width m n : Nat} (positive : 0 < width)
    (small : m < 10 ^ width) (smallToo : n < 10 ^ width) :
    compare (padded width m) (padded width n) = compare m n := by
  have length :=
    (length_padded positive small).trans (length_padded positive smallToo).symm
  rw [compare_ofDigits (fun _ => isDigit_of_mem_padded)
    (fun _ => isDigit_of_mem_padded) length, ofDigits_padded, ofDigits_padded]

theorem compare_padded_append {width m n : Nat} (positive : 0 < width)
    (small : m < 10 ^ width) (smallToo : n < 10 ^ width) (cs ds : List Char) :
    compare (padded width m ++ cs) (padded width n ++ ds) =
      (compare m n).then (compare cs ds) := by
  have length :=
    (length_padded positive small).trans (length_padded positive smallToo).symm
  rw [Text.compare_append length, compare_padded positive small smallToo]

end Decimal

end RecordStore
