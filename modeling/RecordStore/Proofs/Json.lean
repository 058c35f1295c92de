import RecordStore.Json.Document
import RecordStore.Proofs.Index
import RecordStore.Proofs.Number.Rounding

namespace RecordStore

namespace Binary64

/-! The numbers in JSON values that were read from text are numbers of the
binary64 format, also where a numeral is scaled in several steps. -/

theorem Canonical.negate {x : Binary64} (canonical : x.Canonical) :
    x.negate.Canonical := by
  cases x with
  | nan => exact canonical.elim
  | infinite => trivial
  | finite => exact canonical

theorem finite_mul (a b : Bool) (m n : ℕ) (e f : ℤ) :
    (finite a m e).mul (finite b n f) = round (a != b)
      (quotient (m * n) (e + f)).1 (quotient (m * n) (e + f)).2 :=
  rfl

theorem finite_div (a b : Bool) (m n : ℕ) (e f : ℤ) :
    (finite a m e).div (finite b n f) =
      round (a != b) ((quotient m e).1 * (quotient n f).2)
        ((quotient m e).2 * (quotient n f).1) :=
  rfl

theorem canonical_mul {x y : Binary64} (finite : (x.mul y).isFinite = true) :
    (x.mul y).Canonical := by
  cases x <;> cases y
  case finite.finite =>
    rw [finite_mul]
    exact canonical_round _ _ (quotient_pos _ _)
  all_goals cases finite

theorem quotient_fst_pos {significand : ℕ} (positive : 0 < significand)
    (exponent : ℤ) : 0 < (quotient significand exponent).1 := by
  unfold quotient
  split
  · exact positive
  · exact Nat.mul_pos positive (Nat.pow_pos (by decide))

theorem Canonical.significand_pos {negative : Bool} {significand : ℕ}
    {exponent : ℤ}
    (canonical : (finite negative significand exponent).Canonical)
    (nonzero : finite negative significand exponent ≠ zero negative) :
    0 < significand := by
  refine Nat.pos_of_ne_zero fun none => nonzero ?_
  obtain ⟨-, -, -, rfl | tight⟩ := canonical
  · rw [none, zero]
  · rw [none] at tight
    exact absurd tight (by decide)

theorem canonical_div {x y : Binary64} (finite : x.isFinite = true)
    (divisor : y.isFinite = true) (canonical : y.Canonical)
    (nonzero : ∀ negative, y ≠ zero negative) : (x.div y).Canonical := by
  cases x with
  | nan | infinite => cases finite
  | finite =>
      cases y with
      | nan | infinite => cases divisor
      | finite =>
          rw [finite_div]
          exact canonical_round _ _ (Nat.mul_pos (quotient_pos _ _)
            (quotient_fst_pos (canonical.significand_pos (nonzero _)) _))

theorem log2_quotient_lt {significand k j : ℕ} {exponent : ℤ}
    (fits : significand < 2 ^ k) (some : 0 < k) (bound : exponent ≤ j) :
    (quotient significand exponent).1.log2 < k + j := by
  by_cases zero : (quotient significand exponent).1 = 0
  · rw [zero, Nat.log2_zero]
    omega
  · rw [Nat.log2_lt zero, Nat.pow_add]
    unfold quotient
    split
    · exact fits.trans_le (Nat.le_mul_of_pos_right _ (Nat.two_pow_pos j))
    · exact Nat.mul_lt_mul_of_lt_of_le fits
        (Nat.pow_le_pow_right (by decide) (by omega)) (Nat.two_pow_pos j)

theorem le_log2_quotient {significand k : ℕ} {exponent : ℤ}
    (positive : 0 < significand) (factor : 0 < k) (large : 0 ≤ exponent) :
    exponent.toNat ≤ (k * (quotient significand exponent).1).log2 := by
  rw [Nat.le_log2 (Nat.mul_pos factor (quotient_fst_pos positive exponent)).ne',
    quotient, if_neg (not_lt.mpr large)]
  exact (Nat.le_mul_of_pos_left _ positive).trans
    (Nat.le_mul_of_pos_left _ factor)

theorem isFinite_div {x : Binary64} (finite : x.isFinite = true)
    (canonical : x.Canonical) (negative : Bool) {n : ℕ} (positive : 0 < n)
    {f : ℤ} (large : 100 ≤ f) :
    (x.div (.finite negative n f)).isFinite = true := by
  cases x with
  | nan | infinite => cases finite
  | finite sign m e =>
      have numerator : (quotient m e).1.log2 < precision + 971 :=
        log2_quotient_lt canonical.1 (by decide) canonical.2.2.1
      have denominator :=
        le_log2_quotient positive (quotient_pos m e) (show 0 ≤ f by omega)
      have whole : (quotient n f).2 = 1 := by rw [quotient, if_neg (by omega)]
      rw [finite_div, whole, Nat.mul_one]
      refine isFinite_round _ ?_ (le_refl 1000)
      simp only [precision] at numerator
      omega

end Binary64

namespace Json.Document

open Binary64 (Canonical)

theorem canonical_ten (k : ℕ) : (ten k).Canonical :=
  Binary64.canonical_round _ _ Nat.one_pos

theorem ten_bounds {k : ℕ} (small : k ≤ 308) :
    (ten k).isFinite = true ∧ ∀ negative, ten k ≠ .zero negative := by
  have all : ∀ k < 309, (ten k).isFinite = true ∧ ten k ≠ .zero false ∧
      ten k ≠ .zero true := by
    decide +kernel
  obtain ⟨finite, plus, minus⟩ := all k (by omega)
  exact ⟨finite, fun negative => by cases negative <;> assumption⟩

theorem canonical_div_ten {x : Binary64} (finite : x.isFinite = true) {k : ℕ}
    (small : k ≤ 308) : (x.div (ten k)).Canonical :=
  Binary64.canonical_div finite (ten_bounds small).1 (canonical_ten k)
    (ten_bounds small).2

theorem isFinite_div_ten {x : Binary64} (finite : x.isFinite = true)
    (canonical : x.Canonical) : (x.div (ten 308)).isFinite = true := by
  have divisor : ten 308 = .finite false 5010420900022432 971 := by
    decide +kernel
  rw [divisor]
  exact Binary64.isFinite_div finite canonical false (by decide) (by decide)

theorem canonical_scaleByTen {x y : Binary64} {shift : ℤ} {fuel : ℕ}
    (finite : x.isFinite = true) (canonical : x.Canonical)
    (scaled : scaleByTen x shift fuel = some y) : y.Canonical := by
  induction fuel generalizing x shift with
  | zero =>
      cases scaled
      exact canonical
  | succ fuel ih =>
      rw [scaleByTen] at scaled
      split at scaled
      next small =>
        split at scaled
        · dsimp only at scaled
          split at scaled
          next finite =>
            cases scaled
            exact Binary64.canonical_mul finite
          next => cases scaled
        · cases scaled
          exact canonical_div_ten finite small
      next =>
        split at scaled
        · cases scaled
          exact canonical
        · split at scaled
          · cases scaled
          · exact ih (isFinite_div_ten finite canonical)
              (canonical_div_ten finite (le_refl _)) scaled

def Numeral.FitsWord (x : Numeral) : Prop :=
  x.significand < Decimal.wordCount

theorem Numeral.FitsWord.wholeDigit {x : Numeral} (fits : x.FitsWord)
    (c : Char) : (x.wholeDigit c).FitsWord := by
  simp only [Numeral.wholeDigit]
  split
  · exact fits
  next small =>
    rw [Bool.or_eq_true, not_or, decide_eq_true_eq, not_le] at small
    exact small.2

theorem Numeral.FitsWord.fractionDigit {x : Numeral} (fits : x.FitsWord)
    (c : Char) : (x.fractionDigit c).FitsWord := by
  simp only [Numeral.fractionDigit]
  split
  · exact fits
  next small =>
    rw [Bool.or_eq_true, not_or, decide_eq_true_eq, not_le] at small
    exact small.2

theorem Numeral.FitsWord.isFinite_ofNat {x : Numeral} (fits : x.FitsWord) :
    (Binary64.ofNat x.significand).isFinite = true :=
  Binary64.isFinite_ofInt (i := x.significand) (k := 64) fits (by decide)

end Json.Document

inductive Json.Canonical : Json → Prop
  | null : Canonical .null
  | bool (b : Bool) : Canonical (.bool b)
  | int (i : ℤ) : Canonical (.int i)
  | float {x : Binary64} (canonical : x.Canonical) : Canonical (.float x)
  | string (s : String) : Canonical (.string s)
  | array {items : List Json} (each : ∀ item ∈ items, Canonical item) :
      Canonical (.array items)
  | object {members : List (String × Json)}
      (each : ∀ member ∈ members, Canonical member.2) :
      Canonical (.object members)

theorem Json.Canonical.toBinary64? {raw : Json} (canonical : raw.Canonical)
    {x : Binary64} (number : raw.toBinary64? = some x) : x.Canonical := by
  cases canonical with
  | int i =>
      cases number
      exact Binary64.canonical_ofInt i
  | float canonical =>
      cases number
      exact canonical
  | null | bool | string | array | object => cases number

namespace Json.Document

variable {negative : Bool} {x : Numeral} {raw : Json}

theorem canonical_floatValue? {shift : ℤ} (fits : x.FitsWord)
    (valued : floatValue? negative x.significand shift = some raw) :
    raw.Canonical := by
  obtain ⟨y, scaled, rfl⟩ := Option.map_eq_some_iff.mp valued
  have canonical := canonical_scaleByTen fits.isFinite_ofNat
    (Binary64.canonical_round _ _ Nat.one_pos) scaled
  split
  · exact .float canonical.negate
  · exact .float canonical

theorem canonical_integerValue? (fits : x.FitsWord)
    (valued : integerValue? negative x = some raw) : raw.Canonical := by
  rw [integerValue?] at valued
  split at valued
  · exact canonical_floatValue? fits valued
  · split at valued
    · cases valued
      exact .int _
    · split at valued
      · cases valued
        exact .float (Binary64.canonical_round _ _ Nat.one_pos).negate
      · cases valued
        exact .int _

theorem canonical_exponentValue? {down : Bool} {exponent : ℕ}
    (fits : x.FitsWord)
    (valued : exponentValue? negative x down exponent = some raw) :
    raw.Canonical := by
  rw [exponentValue?] at valued
  split at valued
  · split at valued
    · cases valued
    · cases valued
      exact .float (Binary64.canonical_zero negative)
  · exact canonical_floatValue? fits valued

/-- The numerals that have a value have one of the format. -/
inductive Canonical : Document → Prop
  | null : Canonical .null
  | bool (b : Bool) : Canonical (.bool b)
  | number {value? : Option Json}
      (canonical : ∀ raw, value? = some raw → raw.Canonical) :
      Canonical (.number value?)
  | string (value? : Option String) : Canonical (.string value?)
  | array {items : List Document} (each : ∀ item ∈ items, Canonical item) :
      Canonical (.array items)
  | object {members : List (Option String × Document)}
      (each : ∀ member ∈ members, Canonical member.2) :
      Canonical (.object members)

variable {document : Document} {cs rest : List Char}

theorem canonical_readExponent? (fits : x.FitsWord)
    (read : readExponent? negative x cs = some (document, rest)) :
    document.Canonical := by
  simp only [readExponent?] at read
  split at read
  all_goals
    split at read
    · cases read
    · cases read
      exact .number fun raw valued => canonical_exponentValue? fits valued

theorem canonical_readTail? (fits : x.FitsWord)
    (read : readTail? negative x cs = some (document, rest)) :
    document.Canonical := by
  have fraction (places : List Char) :
      (places.foldl Numeral.fractionDigit { x with full := false }).FitsWord :=
    List.foldlRecOn (motive := Numeral.FitsWord) places Numeral.fractionDigit
      fits fun _ fits c _ => fits.fractionDigit c
  unfold readTail? at read
  split at read
  · dsimp only at read
    split at read
    · cases read
    · split at read
      · exact canonical_readExponent? (fraction _) read
      · exact canonical_readExponent? (fraction _) read
      · cases read
        exact .number fun raw valued =>
          canonical_floatValue? (fraction _) valued
  · exact canonical_readExponent? fits read
  · exact canonical_readExponent? fits read
  · cases read
    exact .number fun raw valued => canonical_integerValue? fits valued

theorem canonical_readNumeral?
    (read : readNumeral? negative cs = some (document, rest)) :
    document.Canonical := by
  have zero : Numeral.zero.FitsWord := by
    show 0 < Decimal.wordCount
    decide
  have whole
      (places : List Char) : (places.foldl Numeral.wholeDigit .zero).FitsWord :=
    List.foldlRecOn (motive := Numeral.FitsWord) places Numeral.wholeDigit
      zero fun _ fits c _ => fits.wholeDigit c
  unfold readNumeral? at read
  simp only at read
  split at read
  · cases read
  · cases read
  · exact canonical_readTail? (whole _) read

structure ReadsCanonical (fuel : ℕ) : Prop where
  value : ∀ {cs document rest}, readValue? fuel cs = some (document, rest) →
    document.Canonical
  items : ∀ {cs items rest}, readItems? fuel cs = some (items, rest) →
    ∀ item ∈ items, item.Canonical
  members : ∀ {cs members rest}, readMembers? fuel cs = some (members, rest) →
    ∀ member ∈ members, member.2.Canonical

variable {fuel : ℕ} {items : List Document}
  {members : List (Option String × Document)}

theorem ReadsCanonical.value_succ (reads : ReadsCanonical fuel)
    (read : readValue? (fuel + 1) cs = some (document, rest)) :
    document.Canonical := by
  rw [readValue?] at read
  split at read
  · cases read
    exact .null
  · cases read
    exact .bool true
  · cases read
    exact .bool false
  · obtain ⟨⟨s, after⟩, -, same⟩ := Option.map_eq_some_iff.mp read
    cases same
    exact .string s
  · exact canonical_readNumeral? read
  · split at read
    · cases read
      exact .array (by simp)
    · obtain ⟨⟨items, after⟩, inner, same⟩ := Option.map_eq_some_iff.mp read
      cases same
      exact .array (reads.items inner)
  · split at read
    · cases read
      exact .object (by simp)
    · obtain ⟨⟨members, after⟩, inner, same⟩ := Option.map_eq_some_iff.mp read
      cases same
      exact .object (reads.members inner)
  · exact canonical_readNumeral? read

theorem ReadsCanonical.items_succ (reads : ReadsCanonical fuel)
    (read : readItems? (fuel + 1) cs = some (items, rest)) :
    ∀ item ∈ items, item.Canonical := by
  rw [readItems?] at read
  obtain ⟨⟨item, after⟩, first, read⟩ := Option.bind_eq_some_iff.mp read
  dsimp only at read
  split at read
  · obtain ⟨⟨others, last⟩, later, read⟩ := Option.bind_eq_some_iff.mp read
    cases read
    exact List.forall_mem_cons.mpr ⟨reads.value first, reads.items later⟩
  · cases read
    exact List.forall_mem_cons.mpr ⟨reads.value first, by simp⟩
  · cases read

theorem ReadsCanonical.members_succ (reads : ReadsCanonical fuel)
    (read : readMembers? (fuel + 1) cs = some (members, rest)) :
    ∀ member ∈ members, member.2.Canonical := by
  rw [readMembers?] at read
  split at read
  · obtain ⟨⟨name, after⟩, -, read⟩ := Option.bind_eq_some_iff.mp read
    dsimp only at read
    split at read
    · obtain ⟨⟨value, last⟩, first, read⟩ := Option.bind_eq_some_iff.mp read
      dsimp only at read
      split at read
      · obtain ⟨⟨others, last⟩, later, read⟩ := Option.bind_eq_some_iff.mp read
        cases read
        exact List.forall_mem_cons.mpr ⟨reads.value first, reads.members later⟩
      · cases read
        exact List.forall_mem_cons.mpr ⟨reads.value first, by simp⟩
      · cases read
    · cases read
  · cases read

theorem readsCanonical (fuel : ℕ) : ReadsCanonical fuel := by
  induction fuel with
  | zero => exact ⟨nofun, nofun, nofun⟩
  | succ fuel ih => exact ⟨ih.value_succ, ih.items_succ, ih.members_succ⟩

theorem canonical_read? {text : String} (read : read? text = some document) :
    document.Canonical := by
  simp only [read?] at read
  split at read
  next taken =>
    split at read
    · cases read
      exact (readsCanonical _).value taken
    · cases read
  next => cases read

theorem canonical_itemsToJson? {room : ℕ} {raws : List Json}
    (each : ∀ item ∈ items, ∀ raw, toJson? room item = some raw → raw.Canonical)
    (valued : itemsToJson? room items = some raws) :
    ∀ raw ∈ raws, raw.Canonical := by
  induction items generalizing raws with
  | nil =>
      cases valued
      simp
  | cons item items ih =>
      rw [itemsToJson?] at valued
      obtain ⟨raw, first, valued⟩ := Option.bind_eq_some_iff.mp valued
      obtain ⟨others, later, valued⟩ := Option.bind_eq_some_iff.mp valued
      cases valued
      exact List.forall_mem_cons.mpr ⟨each item (by simp) raw first,
        ih (fun item member => each item (by simp [member])) later⟩

theorem canonical_membersToJson? {room : ℕ} {raws : List (String × Json)}
    (each : ∀ member ∈ members, ∀ raw, toJson? room member.2 = some raw →
      raw.Canonical) (valued : membersToJson? room members = some raws) :
    ∀ member ∈ raws, member.2.Canonical := by
  induction members generalizing raws with
  | nil =>
      cases valued
      simp
  | cons member members ih =>
      rw [membersToJson?] at valued
      obtain ⟨name, -, valued⟩ := Option.bind_eq_some_iff.mp valued
      obtain ⟨raw, first, valued⟩ := Option.bind_eq_some_iff.mp valued
      obtain ⟨others, later, valued⟩ := Option.bind_eq_some_iff.mp valued
      cases valued
      exact List.forall_mem_cons.mpr ⟨each member (by simp) raw first,
        ih (fun member listed => each member (by simp [listed])) later⟩

theorem Canonical.toJson? (canonical : document.Canonical) {room : ℕ}
    (valued : document.toJson? room = some raw) : raw.Canonical := by
  induction canonical generalizing room raw with
  | null =>
      cases valued
      exact .null
  | bool b =>
      cases valued
      exact .bool b
  | number canonical => exact canonical raw valued
  | string =>
      obtain ⟨s, -, rfl⟩ := Option.map_eq_some_iff.mp valued
      exact .string s
  | array each ih =>
      cases room with
      | zero => cases valued
      | succ room =>
          obtain ⟨raws, inner, rfl⟩ := Option.map_eq_some_iff.mp valued
          exact .array (canonical_itemsToJson?
            (fun item member raw => ih item member) inner)
  | object each ih =>
      cases room with
      | zero => cases valued
      | succ room =>
          obtain ⟨raws, inner, rfl⟩ := Option.map_eq_some_iff.mp valued
          exact .object (canonical_membersToJson?
            (fun member listed raw => ih member listed) inner)

end Json.Document

theorem Json.canonical_of_read? {text : String} {raw : Json}
    (read : Json.read? text = some raw) : raw.Canonical := by
  obtain ⟨document, taken, valued⟩ := Option.bind_eq_some_iff.mp read
  exact (Document.canonical_read? taken).toJson? valued

namespace Payload

def Canonical (payload : Payload) : Prop :=
  ∀ name raw, payload.value? name = some raw → raw.Canonical

theorem Canonical.put {payload : Payload} (canonical : payload.Canonical)
    (name : String) {raw : Json} (own : raw.Canonical) :
    Canonical (payload.put name raw) := by
  intro other given found
  rw [Fields.value?_put] at found
  split at found
  · exact Option.some.inj found ▸ own
  · exact canonical other given found

theorem canonical_ofList {members : List (String × Json)}
    (each : ∀ member ∈ members, member.2.Canonical) :
    Canonical (.ofList members) :=
  List.foldlRecOn (motive := Canonical) members Index.insert
    (fun _ _ found => by cases found) fun _ canonical member listed =>
      canonical.put member.1 (each member listed)

theorem canonical_of_fields? {raw : Json} (canonical : raw.Canonical)
    {payload : Payload} (members : raw.fields? = some payload) :
    payload.Canonical := by
  cases canonical with
  | object each =>
      cases members
      exact canonical_ofList each
  | null | bool | int | float | string | array => cases members

end Payload

end RecordStore
