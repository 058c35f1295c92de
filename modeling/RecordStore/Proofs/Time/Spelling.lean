import RecordStore.Proofs.Time.Date

namespace RecordStore

namespace Decimal

/-! The spellings of dates. Besides the plain ones, by which dates of four-digit
years are written, there are those with a sign before three digits of a year and
those with white space before one digit of a month or a day; these are read too,
and are not what is written for the date that they are read as. -/

/-- Digits that stand for a number, as many as the width says. -/
structure IsNumeral (width : Nat) (cs : List Char) (n : Nat) : Prop where
  length : cs.length = width
  digits : ∀ c ∈ cs, c.isDigit = true
  value : ofDigits cs = n

theorem eq_of_ofDigits_eq {cs ds : List Char}
    (digits : ∀ c ∈ cs, c.isDigit = true)
    (digitsToo : ∀ d ∈ ds, d.isDigit = true) (length : cs.length = ds.length)
    (value : ofDigits cs = ofDigits ds) : cs = ds := by
  induction cs using List.reverseRecOn generalizing ds with
  | nil => exact (List.length_eq_zero_iff.mp length.symm).symm
  | append_singleton cs c ih =>
      rcases List.eq_nil_or_concat' ds with rfl | ⟨ds, d, rfl⟩
      · simp at length
      have last := Text.toNat_of_isDigit (digits c (by simp))
      have lastToo := Text.toNat_of_isDigit (digitsToo d (by simp))
      rw [ofDigits_concat, ofDigits_concat] at value
      obtain rfl : cs = ds :=
        ih (fun c member => digits c (by simp [member])) (fun d member =>
          digitsToo d (by simp [member]))
          (by simpa using length) (by omega)
      rw [Char.toNat_inj.mp (by omega : c.toNat = d.toNat)]

theorem isNumeral_padded {width n : Nat} (positive : 0 < width)
    (small : n < 10 ^ width) : IsNumeral width (padded width n) n :=
  ⟨length_padded positive small, fun _ => isDigit_of_mem_padded,
    ofDigits_padded width n⟩

theorem ofDigits_lt {cs : List Char} (digits : ∀ c ∈ cs, c.isDigit = true) :
    ofDigits cs < 10 ^ cs.length := by
  induction cs using List.reverseRecOn with
  | nil => decide
  | append_singleton cs c ih =>
      have last := Text.toNat_of_isDigit (digits c (by simp))
      have rest := ih fun c member => digits c (by simp [member])
      rw [ofDigits_concat, List.length_append, List.length_singleton,
        Nat.pow_succ]
      omega

theorem IsNumeral.lt {width n : Nat} {cs : List Char}
    (numeral : IsNumeral width cs n) : n < 10 ^ width := by
  rw [← numeral.value, ← numeral.length]
  exact ofDigits_lt numeral.digits

theorem IsNumeral.eq_padded {width n : Nat} {cs : List Char}
    (numeral : IsNumeral width cs n) (positive : 0 < width) :
    padded width n = cs :=
  have written := isNumeral_padded positive numeral.lt
  eq_of_ofDigits_eq written.digits numeral.digits
    (written.length.trans numeral.length.symm)
    (written.value.trans numeral.value.symm)

end Decimal

namespace Date

open Decimal (IsNumeral)

inductive SpellsYear : List Char → Int → Prop
  | plain {cs : List Char} {n : Nat} (numeral : IsNumeral 4 cs n) :
      SpellsYear cs n
  | plus {cs : List Char} {n : Nat} (numeral : IsNumeral 3 cs n) :
      SpellsYear ('+' :: cs) n
  | minus {cs : List Char} {n : Nat} (numeral : IsNumeral 3 cs n) :
      SpellsYear ('-' :: cs) (-n)

inductive SpellsTwo : List Char → Nat → Prop
  | plain {cs : List Char} {n : Nat} (numeral : IsNumeral 2 cs n) :
      SpellsTwo cs n
  | blank {c : Char} {cs : List Char} {n : Nat} (blank : Text.isBlank c = true)
      (ascii : c.toNat < 0x80) (numeral : IsNumeral 1 cs n) :
      SpellsTwo (c :: cs) n

inductive Spells (date : Date) : List Char → Prop
  | parts {year month day : List Char} (ofYear : SpellsYear year date.year)
      (ofMonth : SpellsTwo month date.month) (ofDay : SpellsTwo day date.day) :
      Spells date (year ++ '-' :: (month ++ '-' :: day))

/-- `YYYY-MM-DD`, in digits alone. -/
inductive SpellsPlainly (date : Date) : List Char → Prop
  | parts {year month day : List Char} {y : Nat} (numeral : IsNumeral 4 year y)
      (same : date.year = y) (ofMonth : IsNumeral 2 month date.month)
      (ofDay : IsNumeral 2 day date.day) :
      SpellsPlainly date (year ++ '-' :: (month ++ '-' :: day))

/-- A spelling with a sign in front, or with white space in it. -/
structure SpellsLoosely (date : Date) (cs : List Char) : Prop where
  spells : date.Spells cs
  mark :
    cs.head? = some '+' ∨ cs.head? = some '-' ∨ ∃ c ∈ cs, Text.isBlank c = true

variable {date : Date} {cs : List Char}

theorem SpellsPlainly.spells (plainly : date.SpellsPlainly cs) :
    date.Spells cs := by
  cases plainly with
  | parts numeral same ofMonth ofDay =>
      exact .parts (same ▸ .plain numeral) (.plain ofMonth) (.plain ofDay)

theorem Spells.plainly_or_loosely (spells : date.Spells cs) :
    date.SpellsPlainly cs ∨ date.SpellsLoosely cs := by
  cases id spells with
  | parts ofYear ofMonth ofDay =>
      generalize written : date.year = year at ofYear
      cases ofYear with
      | plus => exact .inr ⟨spells, .inl rfl⟩
      | minus => exact .inr ⟨spells, .inr (.inl rfl)⟩
      | plain numeral =>
          cases ofMonth with
          | blank blank => exact .inr ⟨spells, .inr (.inr ⟨_, by simp, blank⟩)⟩
          | plain ofMonth =>
              cases ofDay with
              | blank blank =>
                  exact .inr ⟨spells, .inr (.inr ⟨_, by simp, blank⟩)⟩
              | plain ofDay => exact .inl (.parts numeral written ofMonth ofDay)

theorem spellsPlainly_iff :
    date.SpellsPlainly cs ↔ date.HasFourDigits ∧ date.chars = cs := by
  constructor
  · intro plainly
    cases plainly with
    | @parts year month day y numeral same ofMonth ofDay =>
        have small := numeral.lt
        have four : date.HasFourDigits := ⟨by omega, by omega⟩
        refine ⟨four, ?_⟩
        rw [chars, yearText_of_four four, same, Int.toNat_natCast,
          numeral.eq_padded (by decide), ofMonth.eq_padded (by decide),
          ofDay.eq_padded (by decide)]
  · rintro ⟨four, rfl⟩
    have high := four.2
    have small : date.year.toNat < 10 ^ 4 := by omega
    rw [chars, yearText_of_four four]
    exact .parts (Decimal.isNumeral_padded (by decide) small)
      (Int.toNat_of_nonneg four.1).symm (Decimal.isNumeral_padded (by decide)
        date.month_lt) (Decimal.isNumeral_padded (by decide) date.day_lt)

theorem SpellsPlainly.not_loosely (plainly : date.SpellsPlainly cs) :
    ¬date.SpellsLoosely cs := by
  rintro ⟨-, mark⟩
  obtain ⟨-, written⟩ := spellsPlainly_iff.mp plainly
  have first : ∃ c, cs.head? = some c ∧ c.isDigit = true := by
    cases plainly with
    | @parts year _ _ _ numeral =>
        obtain ⟨c, rest, rfl⟩ :=
          List.exists_cons_of_length_eq_add_one numeral.length
        exact ⟨c, rfl, numeral.digits c (by simp)⟩
  obtain ⟨c, head, digit⟩ := first
  rw [head] at mark
  rcases mark with plus | minus | ⟨d, member, blank⟩
  · cases plus
    cases digit
  · cases minus
    cases digit
  · rw [← written] at member
    rw [date.visible_chars d member] at blank
    cases blank

theorem of?_eq_some_iff {year : Int} {month day : Nat} :
    of? year month day = some date ↔
      year = date.year ∧ month = date.month ∧ day = date.day := by
  constructor
  · intro made
    unfold of? at made
    split at made
    · cases made
      exact ⟨rfl, rfl, rfl⟩
    · cases made
  · rintro ⟨rfl, rfl, rfl⟩
    exact of?_self date

theorem unsigned?_eq_some_iff {width n : Nat} (length : cs.length = width)
    (positive : 0 < width) :
    readYear?.unsigned? cs = some n ↔ IsNumeral width cs n := by
  have some : cs ≠ [] := List.ne_nil_of_length_pos (length.symm ▸ positive)
  rw [readYear?.unsigned?, Option.ite_none_right_eq_some, Option.some.injEq,
    List.all_eq_true]
  constructor
  · rintro ⟨⟨-, digits⟩, value⟩
    exact ⟨length, digits, value⟩
  · intro numeral
    exact ⟨⟨some, numeral.digits⟩, numeral.value⟩

theorem readYear?_eq_some_iff (four : cs.length = 4) {year : Int} :
    readYear? cs = some year ↔ SpellsYear cs year := by
  unfold readYear?
  split
  next rest =>
    have three : rest.length = 3 := Nat.succ.inj four
    simp only [Option.map_eq_some_iff, unsigned?_eq_some_iff three (by decide)]
    constructor
    · rintro ⟨n, numeral, rfl⟩
      exact .plus numeral
    · intro spells
      cases spells with
      | plain numeral => exact absurd (numeral.digits '+' (by simp)) (by decide)
      | plus numeral => exact ⟨_, numeral, rfl⟩
  next rest =>
    have three : rest.length = 3 := Nat.succ.inj four
    simp only [Option.map_eq_some_iff, unsigned?_eq_some_iff three (by decide)]
    constructor
    · rintro ⟨n, numeral, rfl⟩
      exact .minus numeral
    · intro spells
      cases spells with
      | plain numeral => exact absurd (numeral.digits '-' (by simp)) (by decide)
      | minus numeral => exact ⟨_, numeral, rfl⟩
  next unsigned unsignedToo =>
    simp only [Option.map_eq_some_iff, unsigned?_eq_some_iff four (by decide)]
    constructor
    · rintro ⟨n, numeral, rfl⟩
      exact .plain numeral
    · intro spells
      cases spells with
      | plain numeral => exact ⟨_, numeral, rfl⟩
      | plus numeral => exact absurd rfl (unsigned _)
      | minus numeral => exact absurd rfl (unsignedToo _)

theorem readTwo?_eq_some_iff {a b : Char} {n : Nat} (ascii : a.toNat < 0x80) :
    readTwo? [a, b] = some n ↔ SpellsTwo [a, b] n := by
  rw [readTwo?]
  constructor
  · intro read
    split at read
    next digits =>
      cases read
      rw [Bool.and_eq_true] at digits
      exact .plain ⟨rfl, by simp [digits.1, digits.2], rfl⟩
    next =>
      split at read
      next digit =>
        cases read
        rw [Bool.and_eq_true] at digit
        exact .blank digit.2 ascii ⟨rfl, by simp [digit.1], rfl⟩
      next => cases read
  · intro spells
    cases spells with
    | plain numeral =>
        have first := numeral.digits a (by simp)
        have second := numeral.digits b (by simp)
        rw [first, second, numeral.value]
        rfl
    | blank blank _ numeral =>
        have second := numeral.digits b (by simp)
        have first : a.isDigit = false := by
          by_contra digit
          rw [Bool.not_eq_false] at digit
          rw [Text.isBlank_of_isDigit digit] at blank
          cases blank
        rw [first, second, blank, numeral.value]
        rfl

theorem IsNumeral.ascii {width n : Nat} (numeral : IsNumeral width cs n) :
    ∀ c ∈ cs, c.toNat < 0x80 :=
  fun c member => Nat.lt_of_le_of_lt
    (Text.toNat_of_isDigit (numeral.digits c member)).2 (by decide)

theorem SpellsYear.shape {year : Int} (spells : SpellsYear cs year) :
    cs.length = 4 ∧ ∀ c ∈ cs, c.toNat < 0x80 := by
  cases spells with
  | plain numeral => exact ⟨numeral.length, IsNumeral.ascii numeral⟩
  | plus numeral | minus numeral =>
      exact ⟨congrArg Nat.succ numeral.length,
        List.forall_mem_cons.mpr ⟨by decide, IsNumeral.ascii numeral⟩⟩

theorem SpellsTwo.shape {n : Nat} (spells : SpellsTwo cs n) :
    cs.length = 2 ∧ ∀ c ∈ cs, c.toNat < 0x80 := by
  cases spells with
  | plain numeral => exact ⟨numeral.length, IsNumeral.ascii numeral⟩
  | blank _ ascii numeral =>
      exact ⟨congrArg Nat.succ numeral.length,
        List.forall_mem_cons.mpr ⟨ascii, IsNumeral.ascii numeral⟩⟩

theorem ofChars?_ten {y₁ y₂ y₃ y₄ m₁ m₂ d₁ d₂ : Char} :
    ofChars? [y₁, y₂, y₃, y₄, '-', m₁, m₂, '-', d₁, d₂] = some date ↔
      (∀ c ∈ [y₁, y₂, y₃, y₄, m₁, m₂, d₁, d₂], c.toNat < 0x80) ∧
        readYear? [y₁, y₂, y₃, y₄] = some date.year ∧
        readTwo? [m₁, m₂] = some date.month ∧
        readTwo? [d₁, d₂] = some date.day := by
  simp only [ofChars?, guard, List.all_eq_true, decide_eq_true_eq]
  split
  next ascii =>
    simp only [pure_bind, Option.bind_eq_bind, Option.bind_eq_some_iff,
      of?_eq_some_iff]
    constructor
    · rintro ⟨year, readYear, month, readMonth, day, readDay, rfl, rfl, rfl⟩
      exact ⟨ascii, readYear, readMonth, readDay⟩
    · rintro ⟨-, readYear, readMonth, readDay⟩
      exact ⟨_, readYear, _, readMonth, _, readDay, rfl, rfl, rfl⟩
  next other =>
    constructor
    · intro read
      cases read
    · rintro ⟨ascii, -⟩
      exact absurd ascii other

theorem ofChars?_eq_some_iff : ofChars? cs = some date ↔ date.Spells cs := by
  constructor
  · intro read
    unfold ofChars? at read
    split at read
    next y₁ y₂ y₃ y₄ m₁ m₂ d₁ d₂ =>
      obtain ⟨ascii, year, month, day⟩ := ofChars?_ten.mp read
      change date.Spells
        ([y₁, y₂, y₃, y₄] ++ '-' :: ([m₁, m₂] ++ '-' :: [d₁, d₂]))
      exact .parts ((readYear?_eq_some_iff rfl).mp year)
        ((readTwo?_eq_some_iff (ascii m₁ (by simp))).mp month)
        ((readTwo?_eq_some_iff (ascii d₁ (by simp))).mp day)
    next => cases read
  · intro spells
    cases spells with
    | @parts year month day ofYear ofMonth ofDay =>
        obtain ⟨four, yearAscii⟩ := ofYear.shape
        obtain ⟨two, monthAscii⟩ := ofMonth.shape
        obtain ⟨twoToo, dayAscii⟩ := ofDay.shape
        match year, four, month, two, day, twoToo with
        | [y₁, y₂, y₃, y₄], _, [m₁, m₂], _, [d₁, d₂], _ =>
            refine ofChars?_ten.mpr ⟨?_, (readYear?_eq_some_iff rfl).mpr ofYear,
              (readTwo?_eq_some_iff (monthAscii m₁ (by simp))).mpr ofMonth,
              (readTwo?_eq_some_iff (dayAscii d₁ (by simp))).mpr ofDay⟩
            change ∀ c ∈ [y₁, y₂, y₃, y₄] ++ ([m₁, m₂] ++ [d₁, d₂]),
              c.toNat < 0x80
            exact List.forall_mem_append.mpr
              ⟨yearAscii, List.forall_mem_append.mpr ⟨monthAscii, dayAscii⟩⟩

theorem read?_eq_some_iff {s : String} :
    read? s = some date ↔ date.Spells (Text.trim s).toList := by
  rw [read?, Text.toList_trim, ofChars?_eq_some_iff]

/-- Of a text, apart from white space at its ends, exactly the plain spelling of
a date is read, and the date is written as it was spelt. -/
structure ReadsExactly (s : String) : Prop where
  plainly :
    ∀ date, read? s = some date ↔ date.SpellsPlainly (Text.trim s).toList
  written : ∀ date, read? s = some date → date.text = Text.trim s

theorem text_eq_iff {s : String} : date.text = s ↔ date.chars = s.toList := by
  rw [← String.toList_inj, text, String.toList_ofList]

theorem SpellsLoosely.text_ne {s : String}
    (loosely : date.SpellsLoosely s.toList) : date.text ≠ s := by
  intro written
  rw [text_eq_iff] at written
  have length := length_of_ofChars? (ofChars?_eq_some_iff.mpr loosely.spells)
  by_cases four : date.HasFourDigits
  · exact (spellsPlainly_iff.mpr ⟨four, written⟩).not_loosely loosely
  · obtain ⟨sign, rest, signed, -, long⟩ := exists_sign four
    rw [← written, signed, List.length_cons] at length
    omega

/-- A text is read exactly unless it is a loose spelling; the date that this is
read as is written in another way. Every date of a four-digit year is read from
what is written for it. -/
theorem readsExactly_iff (s : String) :
    (ReadsExactly s ↔ ∀ date : Date, ¬date.SpellsLoosely (Text.trim s).toList) ∧
      (∀ date : Date, date.SpellsLoosely (Text.trim s).toList →
        read? s = some date ∧ date.text ≠ Text.trim s) ∧
      ∀ date : Date, date.HasFourDigits → read? date.text = some date := by
  refine ⟨⟨fun exact date loosely => ?_,
    fun never => ⟨fun date => ?_, fun date read => ?_⟩⟩,
    fun date loosely => ⟨read?_eq_some_iff.mpr loosely.spells, loosely.text_ne⟩,
    fun date four => read?_text four⟩
  · have plainly :=
      (exact.plainly date).mp (read?_eq_some_iff.mpr loosely.spells)
    exact plainly.not_loosely loosely
  · rw [read?_eq_some_iff]
    exact ⟨fun spells => spells.plainly_or_loosely.resolve_right (never date),
      SpellsPlainly.spells⟩
  · have plainly :=
      (read?_eq_some_iff.mp read).plainly_or_loosely.resolve_right (never date)
    exact text_eq_iff.mpr (spellsPlainly_iff.mp plainly).2

def candlemas : Date :=
  ⟨2024, 2, 9, by decide⟩

theorem candlemas_spellings :
    ReadsExactly " 2024-02-09\n" ∧ (read? "2024- 2- 9" = some candlemas ∧
      candlemas.text ≠ Text.trim "2024- 2- 9") ∧
      read? candlemas.text = some candlemas := by
  obtain ⟨exact_iff, -, written⟩ := readsExactly_iff " 2024-02-09\n"
  obtain ⟨-, loose, -⟩ := readsExactly_iff "2024- 2- 9"
  refine ⟨exact_iff.mpr ?_, loose candlemas ⟨?_, ?_⟩,
    written candlemas (by decide)⟩
  · rintro date ⟨-, mark⟩
    rw [← List.any_eq_true] at mark
    exact absurd mark (by decide +kernel)
  · exact read?_eq_some_iff.mp (by decide +kernel)
  · rw [← List.any_eq_true]
    decide +kernel

theorem not_always_exact : ¬∀ s, ReadsExactly s := by
  intro always
  have written := (always "2024- 2- 9").written candlemas (by decide +kernel)
  exact absurd written (by decide +kernel)

end Date

end RecordStore
