import RecordStore.Text.Split

namespace RecordStore.Text

theorem splitOn_eq (separator : Char) (cs : List Char) :
    splitOn separator cs = cs.splitOn separator := by
  induction cs with
  | nil => rw [List.splitOn_nil, splitOn]
  | cons c rest ih =>
      have some := splitOn_ne_nil separator rest
      rw [splitOn, List.splitOn, List.splitOnP_cons_eq_if_modifyHead,
        ← List.splitOn, ← ih]
      simp only [beq_iff_eq]
      cases pieces : splitOn separator rest with
      | nil => exact absurd pieces some
      | cons piece pieces => rfl

theorem splitOn_joined {keys : List String}
    (separate : ∀ key ∈ keys, ',' ∉ key.toList) (some : keys ≠ []) :
    List.splitOn ',' (",".intercalate keys).toList =
      keys.map String.toList := by
  rw [String.toList_intercalate]
  exact List.splitOn_intercalate ',' (by simpa using separate)
    (by simpa using some)

theorem splitFirst?_eq_some_iff {separator : Char}
    {cs before after : List Char} :
    splitFirst? separator cs = some (before, after) ↔
      cs = before ++ separator :: after ∧ separator ∉ before := by
  induction cs generalizing before with
  | nil => simp [splitFirst?]
  | cons c rest ih =>
      rw [splitFirst?]
      by_cases here : c = separator
      · subst here
        rw [if_pos rfl, Option.some.injEq, Prod.mk.injEq]
        constructor
        · rintro ⟨rfl, rfl⟩
          simp
        · rintro ⟨split, fresh⟩
          cases before with
          | nil => exact ⟨rfl, (List.cons.inj split).2⟩
          | cons d before => exact absurd (List.cons.inj split).1 (by simp_all)
      · rw [if_neg here, Option.map_eq_some_iff]
        constructor
        · rintro ⟨⟨start, after'⟩, found, same⟩
          obtain ⟨rfl, rfl⟩ := Prod.mk.inj same
          obtain ⟨rfl, fresh⟩ := ih.mp found
          exact ⟨rfl, by simp [fresh, Ne.symm here]⟩
        · rintro ⟨split, fresh⟩
          cases before with
          | nil => exact absurd (List.cons.inj split).1 here
          | cons d before =>
              obtain ⟨rfl, later⟩ := List.cons.inj split
              exact ⟨(before, after),
                ih.mpr ⟨later,
                  fun member => fresh (List.mem_cons_of_mem _ member)⟩, rfl⟩

theorem splitFirst?_eq_none_iff {separator : Char} {cs : List Char} :
    splitFirst? separator cs = none ↔ separator ∉ cs := by
  induction cs with
  | nil => simp [splitFirst?]
  | cons c rest ih =>
      rw [splitFirst?]
      by_cases here : c = separator
      · simp [here]
      · simp [here, ih, Ne.symm here]

theorem splitLast?_eq_none {pattern cs : List Char}
    (absent : ¬pattern <:+: cs) : splitLast? pattern cs = none := by
  induction cs with
  | nil =>
      rw [splitLast?, if_neg]
      simpa [List.isEmpty_iff] using absent
  | cons c rest ih =>
      rw [List.infix_cons_iff, not_or] at absent
      rw [splitLast?, ih absent.2]
      simpa using absent.1

/-- A text is cut at an occurrence that none comes after, be it overlapping. -/
theorem splitLast?_append {pattern after : List Char} (proper : pattern ≠ [])
    (last : ¬pattern <:+: (pattern ++ after).tail) (before : List Char) :
    splitLast? pattern (before ++ (pattern ++ after)) =
      some (before, after) := by
  induction before with
  | nil =>
      obtain ⟨c, rest, rfl⟩ := List.exists_cons_of_ne_nil proper
      rw [List.cons_append, List.tail_cons] at last
      rw [List.nil_append, List.cons_append, splitLast?,
        splitLast?_eq_none last]
      simp [List.isPrefixOf_iff_prefix]
  | cons c before ih => rw [List.cons_append, splitLast?, ih]

theorem dropStart?_append (start s : String) :
    dropStart? start (start ++ s) = some s := by
  rw [dropStart?, String.toList_append,
    if_pos (List.isPrefixOf_iff_prefix.mpr (List.prefix_append ..)),
    ← String.length_toList, List.drop_left, String.ofList_toList]

theorem dropStart?_eq_none_iff {start s : String} :
    dropStart? start s = none ↔ ¬start.toList <+: s.toList := by
  simp [dropStart?, List.isPrefixOf_iff_prefix]

end RecordStore.Text
