import RecordStore.Proofs.Text

namespace RecordStore.Text

/-! Lower case of a part of a text. Every character has one lower-case form but
the capital sigma, whose form depends on what stands around it: a part that is
cut out of a text has the same lower case as it had there, unless a sigma of it
turns. -/

theorem meetsCased_append (cs ds : List Char) :
    meetsCased (cs ++ ds) =
      if cs.all isCaseIgnorable then meetsCased ds else meetsCased cs := by
  induction cs with
  | nil => simp
  | cons c rest ih =>
      cases ignorable : isCaseIgnorable c with
      | true => simpa [meetsCased, List.dropWhile_cons, ignorable] using ih
      | false => simp [meetsCased, ignorable]

theorem meetsCased_of_ignorable {cs : List Char}
    (ignorable : cs.all isCaseIgnorable = true) : meetsCased cs = false := by
  have nothing := meetsCased_append cs []
  rwa [List.append_nil, if_pos ignorable] at nothing

/-- The lower case of a part of a text, given what stands before it, nearest
first, and after it. -/
def lowerBetween (before after : List Char) : List Char → List Char
  | [] => []
  | c :: rest =>
    (if c = 'Σ' then [lowerSigma before (rest ++ after)] else lowerChar c) ++
      lowerBetween (c :: before) after rest

theorem lowerAfter_append (before cs ds : List Char) :
    lowerAfter before (cs ++ ds) =
      lowerBetween before ds cs ++ lowerAfter (cs.reverse ++ before) ds := by
  induction cs generalizing before with
  | nil => rfl
  | cons c rest ih =>
      rw [List.cons_append, lowerAfter, lowerBetween, ih, List.reverse_cons,
        List.append_assoc, List.append_assoc]
      rfl

theorem length_lowerBetween (before after start cs : List Char) :
    (lowerBetween before after cs).length = (lowerAfter start cs).length := by
  induction cs generalizing before start with
  | nil => rfl
  | cons c rest ih =>
      rw [lowerBetween, lowerAfter, List.length_append, List.length_append,
        ih (c :: before) (c :: start)]
      split <;> rfl

/-- Some capital sigma of a part has another form in the text than in the part
alone. -/
inductive SigmaTurns (before part after : List Char) : Prop
  /-- It ends a word of the part, which goes on after the part. -/
  | goesOn {word rest : List Char} (split : part = word ++ 'Σ' :: rest)
      (ignorable : rest.all isCaseIgnorable = true)
      (cased : meetsCased word.reverse = true)
      (further : meetsCased after = true)
  /-- It ends a word of the text, of which the part has no other letter. -/
  | begun {start rest : List Char} (split : part = start ++ 'Σ' :: rest)
      (ignorable : start.all isCaseIgnorable = true)
      (cased : meetsCased before.reverse = true)
      (ends : meetsCased (rest ++ after) = false)

theorem lowerSigma_ne_iff (before start rest after : List Char) :
    lowerSigma (start.reverse ++ before.reverse) (rest ++ after) ≠
      lowerSigma start.reverse rest ↔
      (rest.all isCaseIgnorable = true ∧ meetsCased start.reverse = true ∧
        meetsCased after = true) ∨
        (start.all isCaseIgnorable = true ∧ meetsCased before.reverse = true ∧
          meetsCased (rest ++ after) = false) := by
  have forms : ∀ p q : Bool,
      (if p then 'ς' else 'σ') ≠ (if q then 'ς' else 'σ') ↔ p ≠ q := by decide
  unfold lowerSigma
  rw [forms, meetsCased_append, meetsCased_append, List.all_reverse]
  cases first : start.all isCaseIgnorable with
  | true =>
      rw [meetsCased_of_ignorable (List.all_reverse.trans first)]
      simp
  | false =>
      -- What stands before the part is out of sight; what stands after it
      -- counts if nothing else follows.
      cases last : rest.all isCaseIgnorable with
      | true => simp [meetsCased_of_ignorable last]
      | false => simp

theorem forall_occurrence_cons {c d : Char} {cs : List Char}
    {P : List Char → List Char → Prop} :
    (∀ start rest, c :: cs = start ++ d :: rest → P start rest) ↔
      (c = d → P [] cs) ∧
        ∀ start rest, cs = start ++ d :: rest → P (c :: start) rest := by
  constructor
  · intro all
    refine ⟨fun same => all [] cs (by rw [same, List.nil_append]), ?_⟩
    intro start rest split
    exact all (c :: start) rest (by rw [split, List.cons_append])
  · rintro ⟨head, behind⟩ start rest split
    cases start with
    | nil =>
        obtain ⟨same, rfl⟩ := List.cons.inj split
        exact head same
    | cons e start =>
        obtain ⟨rfl, later⟩ := List.cons.inj split
        exact behind start rest later

theorem lowerBetween_append_eq_iff (before start after cs : List Char) :
    lowerBetween (start ++ before) after cs = lowerAfter start cs ↔
      ∀ word rest, cs = word ++ 'Σ' :: rest →
        lowerSigma (word.reverse ++ (start ++ before)) (rest ++ after) =
          lowerSigma (word.reverse ++ start) rest := by
  induction cs generalizing start with
  | nil => simp [lowerBetween]
  | cons c cs ih =>
      rw [forall_occurrence_cons, lowerBetween, lowerAfter, ← List.cons_append]
      have tail := ih (c :: start)
      simp only [List.reverse_cons, List.append_assoc, List.reverse_nil,
        List.nil_append, List.cons_append] at tail ⊢
      rw [← tail]
      by_cases sigma : c = 'Σ'
      · simp [sigma]
      · simp [sigma]

theorem lowerBetween_eq_iff (before cs after : List Char) :
    lowerBetween before.reverse after cs = lowerAfter [] cs ↔
      ¬SigmaTurns before cs after := by
  have parts := lowerBetween_append_eq_iff before.reverse [] after cs
  simp only [List.nil_append, List.append_nil] at parts
  rw [parts]
  constructor
  · intro same turns
    cases turns with
    | goesOn split ignorable cased further =>
        exact (lowerSigma_ne_iff before ..).mpr
          (.inl ⟨ignorable, cased, further⟩) (same _ _ split)
    | begun split ignorable cased ends =>
        exact (lowerSigma_ne_iff before ..).mpr (.inr ⟨ignorable, cased, ends⟩)
          (same _ _ split)
  · intro kept word rest split
    by_contra different
    rcases (lowerSigma_ne_iff before ..).mp different with
      ⟨ignorable, cased, further⟩ | ⟨ignorable, cased, ends⟩
    · exact kept (.goesOn split ignorable cased further)
    · exact kept (.begun split ignorable cased ends)

theorem SigmaTurns.mem {before part after : List Char}
    (turns : SigmaTurns before part after) : 'Σ' ∈ part := by
  cases turns with
  | goesOn split | begun split => simp [split]

end RecordStore.Text
