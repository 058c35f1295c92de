import RecordStore.Proofs.Number
import RecordStore.Time.Date

namespace RecordStore.Date

open Calendar

def HasFourDigits (date : Date) : Prop :=
  0 ≤ date.year ∧ date.year ≤ 9999

instance (date : Date) : Decidable date.HasFourDigits :=
  inferInstanceAs (Decidable (_ ∧ _))

theorem yearText_of_four {date : Date} (four : date.HasFourDigits) :
    yearText date.year = Decimal.padded 4 date.year.toNat :=
  if_pos four

theorem month_lt (date : Date) : date.month < 100 := by
  have := date.isDate.2.1
  omega

theorem day_lt (date : Date) : date.day < 100 := by
  have bound := date.isDate.2.2.2
  have : daysInMonth date.year date.month ≤ 31 := by
    unfold daysInMonth
    split
    · split <;> decide
    all_goals decide
  omega

theorem of?_self (date : Date) :
    of? date.year date.month date.day = some date := by
  rw [of?, dif_pos date.isDate]

theorem year_of_of? {year : Int} {month day : Nat} {date : Date}
    (made : of? year month day = some date) : date.year = year := by
  unfold of? at made
  split at made
  · cases made
    rfl
  · cases made

theorem visible_chars (date : Date) : Text.Visible date.chars := by
  have hyphen : Text.isBlank '-' = false := by decide
  have plus : Text.isBlank '+' = false := by decide
  have year : Text.Visible (yearText date.year) := by
    rw [yearText]
    split
    · simp
    · split <;> simp [hyphen, plus]
  simp [chars, year, hyphen]

theorem ext {a b : Date} (year : a.year = b.year) (month : a.month = b.month)
    (day : a.day = b.day) : a = b := by
  cases a
  cases b
  cases year
  cases month
  cases day
  rfl

theorem yearText_cases (year : Int) :
    0 ≤ year ∧ yearText year = Decimal.padded 4 year.toNat ∨
      year < 0 ∧ yearText year = '-' :: Decimal.padded 4 year.natAbs ∨
      0 ≤ year ∧ yearText year = '+' :: Decimal.padded 4 year.natAbs := by
  rw [yearText]
  by_cases four : 0 ≤ year ∧ year ≤ 9999
  · exact .inl ⟨four.1, if_pos four⟩
  · rw [if_neg four]
    by_cases negative : year < 0
    · exact .inr (.inl ⟨negative, by rw [if_pos negative]⟩)
    · exact .inr (.inr ⟨by omega, by rw [if_neg negative]⟩)

theorem yearText_injective : Function.Injective yearText := fun y z same => by
  have unsigned {sign : Char} (other : sign.isDigit = false) {m n : Nat} :
      Decimal.padded 4 m ≠ sign :: Decimal.padded 4 n := fun same =>
    Decimal.not_mem_padded other 4 m (by simp [same])
  have minus {m n : Nat} : Decimal.padded 4 m ≠ '-' :: Decimal.padded 4 n :=
    unsigned (by decide)
  have plus {m n : Nat} : Decimal.padded 4 m ≠ '+' :: Decimal.padded 4 n :=
    unsigned (by decide)
  have magnitude {m n : Nat} : Decimal.padded 4 m = Decimal.padded 4 n ↔
      m = n :=
    (Decimal.padded_injective 4).eq_iff
  rcases yearText_cases y with
    ⟨signY, textY⟩ | ⟨signY, textY⟩ | ⟨signY, textY⟩ <;>
    rcases yearText_cases z with
      ⟨signZ, textZ⟩ | ⟨signZ, textZ⟩ | ⟨signZ, textZ⟩ <;> simp [textY, textZ,
        minus, plus, minus.symm, plus.symm, magnitude] at same <;> omega

theorem chars_injective : Function.Injective chars := fun a b same => by
  have monthLength (date : Date) : (Decimal.padded 2 date.month).length = 2 :=
    Decimal.length_padded (by decide) date.month_lt
  have dayLength (date : Date) : (Decimal.padded 2 date.day).length = 2 :=
    Decimal.length_padded (by decide) date.day_lt
  -- years differ in length, months and days do not
  obtain ⟨year, rest⟩ :=
    List.append_inj' same (by simp [monthLength, dayLength])
  obtain ⟨month, day⟩ :=
    List.append_inj (List.cons.inj rest).2 (by simp [monthLength])
  exact ext (yearText_injective year) (Decimal.padded_injective 2 month)
    (Decimal.padded_injective 2 (List.cons.inj day).2)

theorem comma_not_mem_chars (date : Date) : ',' ∉ date.chars := by
  have comma := Decimal.not_mem_padded (c := ',') (by decide)
  have year : ',' ∉ yearText date.year := by
    rw [yearText]
    split
    · exact comma _ _
    · split <;> simp [comma]
  simp [chars, year, comma]

instance : Std.TransOrd Date :=
  inferInstanceAs (Std.TransCmp (compareLex (compareOn Date.year)
    (compareLex (compareOn Date.month) (compareOn Date.day))))

theorem previous_next (date : Date) : date.next.previous = date := by
  obtain ⟨low, high, first, last⟩ := date.isDate
  unfold next
  split
  · apply ext <;> simp only [previous] <;> grind
  · split
    · apply ext <;> simp only [previous] <;> grind
    · apply ext <;> simp only [previous] <;> grind

theorem next_previous (date : Date) : date.previous.next = date := by
  obtain ⟨low, high, first, last⟩ := date.isDate
  unfold previous
  split
  · apply ext <;> simp only [next] <;> grind
  · split
    · apply ext <;> simp only [next] <;> grind
    · apply ext <;> simp only [next] <;> grind

theorem next_injective : Function.Injective next :=
  Function.LeftInverse.injective previous_next

theorem previous_injective : Function.Injective previous :=
  Function.LeftInverse.injective next_previous

theorem readYear?_digits {cs : List Char} (nonempty : cs ≠ [])
    (digits : ∀ c ∈ cs, c.isDigit = true) :
    readYear? cs = some (Decimal.ofDigits cs : Int) := by
  have unsigned : readYear?.unsigned? cs = some (Decimal.ofDigits cs) := by
    rw [readYear?.unsigned?, if_pos ⟨nonempty, List.all_eq_true.mpr digits⟩]
  unfold readYear?
  split
  · exact absurd (digits '+' (by simp)) (by decide)
  · exact absurd (digits '-' (by simp)) (by decide)
  · rw [unsigned, Option.map_some]

theorem readTwo?_digits {a b : Char} (first : a.isDigit = true)
    (second : b.isDigit = true) :
    readTwo? [a, b] = some (Decimal.ofDigits [a, b]) := by
  simp [readTwo?, first, second]

theorem exists_chars {date : Date} (four : date.HasFourDigits) :
    ∃ y₁ y₂ y₃ y₄ m₁ m₂ d₁ d₂,
      date.chars = [y₁, y₂, y₃, y₄, '-', m₁, m₂, '-', d₁, d₂] ∧
        (∀ c ∈ [y₁, y₂, y₃, y₄, m₁, m₂, d₁, d₂], c.isDigit = true) ∧
        (Decimal.ofDigits [y₁, y₂, y₃, y₄] : Int) = date.year ∧
        Decimal.ofDigits [m₁, m₂] = date.month ∧
        Decimal.ofDigits [d₁, d₂] = date.day := by
  have low := four.1
  have high := four.2
  obtain ⟨y₁, y₂, y₃, y₄, year, yearDigits, yearValue⟩ :=
    Decimal.padded_four (n := date.year.toNat) (by omega)
  obtain ⟨m₁, m₂, month, monthDigits, monthValue⟩ :=
    Decimal.padded_two date.month_lt
  obtain ⟨d₁, d₂, day, dayDigits, dayValue⟩ := Decimal.padded_two date.day_lt
  refine ⟨y₁, y₂, y₃, y₄, m₁, m₂, d₁, d₂, ?_, ?_, ?_, monthValue, dayValue⟩
  · rw [chars, yearText_of_four four, year, month, day]
    rfl
  · intro c member
    rcases List.mem_append.mp
      (show c ∈ [y₁, y₂, y₃, y₄] ++ ([m₁, m₂] ++ [d₁, d₂]) from member) with
        year | rest
    · exact yearDigits c year
    · exact (List.mem_append.mp rest).elim (monthDigits c) (dayDigits c)
  · rw [yearValue, Int.toNat_of_nonneg low]

theorem ofChars?_chars {date : Date} (four : date.HasFourDigits) :
    ofChars? date.chars = some date := by
  obtain ⟨y₁, y₂, y₃, y₄, m₁, m₂, d₁, d₂, written, digits, year, month, day⟩ :=
    exists_chars four
  have ascii : ([y₁, y₂, y₃, y₄, m₁, m₂, d₁, d₂].all fun c => c.toNat < 0x80) =
      true := by
    rw [List.all_eq_true]
    exact fun c member => decide_eq_true (Nat.lt_of_le_of_lt
      (Text.toNat_of_isDigit (digits c member)).2 (by decide))
  have readYear : readYear? [y₁, y₂, y₃, y₄] = some date.year := by
    rw [readYear?_digits (by simp) fun c member =>
      digits c (by simp at member ⊢; tauto), year]
  rw [written, ofChars?, readYear,
    readTwo?_digits (digits m₁ (by simp)) (digits m₂ (by simp)),
    readTwo?_digits (digits d₁ (by simp)) (digits d₂ (by simp)), month, day]
  simp [ascii, of?_self]

theorem read?_text {date : Date} (four : date.HasFourDigits) :
    read? date.text = some date := by
  rw [read?, text, String.toList_ofList, date.visible_chars.trimBoth_eq,
    ofChars?_chars four]

/-! Other years are written with a sign, and are not read. -/

theorem exists_sign {date : Date} (notFour : ¬date.HasFourDigits) :
    ∃ sign rest, date.chars = sign :: rest ∧ sign.isDigit = false ∧
      10 ≤ rest.length := by
  have year := Decimal.width_le_length_padded 4 date.year.natAbs
  have month := Decimal.width_le_length_padded 2 date.month
  have day := Decimal.width_le_length_padded 2 date.day
  have signed : yearText date.year = (if date.year < 0 then '-' else '+') ::
      Decimal.padded 4 date.year.natAbs :=
    if_neg notFour
  refine ⟨_, _, by rw [chars, signed, List.cons_append], by split <;> rfl, ?_⟩
  simp only [List.length_append, List.length_cons]
  omega

theorem length_of_ofChars? {cs : List Char} {date : Date}
    (read : ofChars? cs = some date) : cs.length = 10 := by
  unfold ofChars? at read
  split at read
  · rfl
  · cases read

theorem read?_text_of_not_four {date : Date} (notFour : ¬date.HasFourDigits) :
    read? date.text = none := by
  obtain ⟨sign, rest, written, -, long⟩ := exists_sign notFour
  rw [read?, text, String.toList_ofList, date.visible_chars.trimBoth_eq]
  cases read : ofChars? date.chars with
  | none => rfl
  | some other =>
      have ten := length_of_ofChars? read
      rw [written, List.length_cons] at ten
      omega

end RecordStore.Date
