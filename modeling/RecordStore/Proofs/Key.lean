import RecordStore.Proofs.Json
import RecordStore.Proofs.Number.Shortest
import RecordStore.Proofs.Payload
import RecordStore.Proofs.Text.Split
import RecordStore.Proofs.Time.Timestamp

namespace RecordStore

namespace Atom

/-! Key texts and the values they stand for. Values that were read for one field
have the same key text exactly if they are the same, up to three things that the
text shows or hides: the sign of zero, the offset of a timestamp, and where the
elements of an array of texts end. -/

/-- The same text, number, truth value, date, instant or reference. -/
def Same : Atom → Atom → Prop
  | .float x, .float y => x.compare? y = some .eq
  | .timestamp s, .timestamp t => s.instant = t.instant
  | a, b => a = b

def isNegative : Atom → Bool
  | .float x => x.isNegative
  | _ => false

def offset : Atom → Int
  | .timestamp t => t.offset
  | _ => 0

/-- The same value, and it is written in the same way: zero with the same sign,
an instant with the same offset. -/
structure Matches (a b : Atom) : Prop where
  same : a.Same b
  sign : a.isNegative = b.isNegative
  offset : a.offset = b.offset

/-- A number is one of the format, and a timestamp is one that can be
written. -/
def Regular : Atom → Prop
  | .float x => x.Canonical
  | .timestamp t => t.date.HasFourDigits ∧ t.time.LeapEndsMinute
  | _ => True

variable {a b : Atom} {type : ElementType}

theorem scalarOfJson?_regular {scalar : Scalar} {raw : Json}
    (canonical : raw.Canonical) (read : scalarOfJson? scalar raw = some a) :
    a.Regular := by
  unfold scalarOfJson? at read
  split at read
  · cases read
    trivial
  · have typed := intOfJson?_fits read
    cases a with
    | int => trivial
    | string | float | bool | date | timestamp | ref => exact False.elim typed
  · obtain ⟨x, number, rfl⟩ := Option.map_eq_some_iff.mp read
    exact canonical.toBinary64? number
  · cases read
    trivial
  · obtain ⟨b, -, rfl⟩ := Option.map_eq_some_iff.mp read
    trivial
  · obtain ⟨d, -, rfl⟩ := Option.map_eq_some_iff.mp read
    trivial
  · obtain ⟨t, written, rfl⟩ := Option.map_eq_some_iff.mp read
    exact Timestamp.writable_of_ofChars? written
  · cases read

theorem ofJson?_regular {raw : Json} (canonical : raw.Canonical)
    (read : ofJson? type raw = some a) : a.Regular := by
  unfold ofJson? at read
  split at read
  · exact scalarOfJson?_regular canonical read
  · cases read
    trivial
  · split at read
    · cases read
    · cases read
      trivial
  · cases read

theorem matches_iff_eq (regularA : a.Regular) (regularB : b.Regular) :
    a.Matches b ↔ a = b := by
  constructor
  · rintro ⟨same, sign, offset⟩
    cases a with
    | float x =>
        cases b with
        | float y =>
            exact congrArg float ((regularA.eq_iff regularB).mpr ⟨same, sign⟩)
        | string | int | bool | date | timestamp | ref => cases same
    | timestamp s =>
        cases b with
        | timestamp t =>
            exact congrArg timestamp ((Timestamp.instant_inj offset).mp same)
        | string | int | float | bool | date | ref => cases same
    | string | int | bool | date | ref => exact same
  · rintro rfl
    refine ⟨?_, rfl, rfl⟩
    cases a with
    | float x => exact ((Binary64.Canonical.eq_iff regularA regularA).mp rfl).1
    | string | int | bool | date | timestamp | ref => rfl

/-- Atoms that one element type may have. -/
inductive SameKind : Atom → Atom → Prop
  | string (s t : String) : SameKind (.string s) (.string t)
  | int (i j : Int) : SameKind (.int i) (.int j)
  | float (x y : Binary64) : SameKind (.float x) (.float y)
  | bool (b c : Bool) : SameKind (.bool b) (.bool c)
  | date (d e : Date) : SameKind (.date d) (.date e)
  | timestamp (s t : Timestamp) : SameKind (.timestamp s) (.timestamp t)
  | ref (id other : String) : SameKind (.ref id) (.ref other)

theorem Fits.sameKind (typedA : a.Fits type) (typedB : b.Fits type) :
    a.SameKind b := by
  unfold Fits at typedA
  split at typedA
  all_goals
    cases b <;>
      first | constructor | exact False.elim typedB | exact False.elim typedA

theorem SameKind.text?_isSome (kind : a.SameKind b) :
    a.text?.isSome = b.text?.isSome := by
  cases kind <;> rfl

theorem key_eq_iff (kind : a.SameKind b) (regularA : a.Regular)
    (regularB : b.Regular) : a.key = b.key ↔ a.Matches b := by
  rw [matches_iff_eq regularA regularB]
  refine ⟨fun same => ?_, congrArg key⟩
  cases kind with
  | string => exact congrArg string same
  | int =>
      exact congrArg int
        (Decimal.intText_injective (String.ofList_injective same))
  | float =>
      exact congrArg float (Decimal.text_injective regularA regularB
        (String.ofList_injective same))
  | bool b c =>
      cases b <;> cases c <;> first | rfl | exact absurd same (by decide)
  | date =>
      exact congrArg date (Date.chars_injective (String.ofList_injective same))
  | timestamp =>
      exact congrArg timestamp
        ((Timestamp.text_inj regularA.1 regularA.2 regularB.1 regularB.2).mp
          same)
  | ref => exact congrArg ref same

theorem comma_not_mem_key (noText : a.text? = none) : ',' ∉ a.key.toList := by
  cases a with
  | string | ref => cases noText
  | int i =>
      have digits := Decimal.not_mem_digits (c := ',') (by decide)
      simp only [key, Decimal.intText, Decimal.signed, String.toList_ofList]
      split <;> simp [digits]
  | float x => simpa [key] using Decimal.comma_not_mem_text x
  | bool b => cases b <;> decide
  | date d => simpa [key, Date.text] using d.comma_not_mem_chars
  | timestamp t => simpa [key, Timestamp.text] using t.comma_not_mem_chars

theorem key_ne_empty (noText : a.text? = none) : a.key.toList ≠ [] := by
  cases a with
  | string | ref => cases noText
  | int i =>
      have digits : Decimal.digits i.natAbs ≠ [] := Nat.toDigits_ne_nil
      simp only [key, Decimal.intText, Decimal.signed, String.toList_ofList]
      split <;> simp [digits]
  | float x => simpa [key] using Decimal.text_ne_nil x
  | bool b => cases b <;> decide
  | date d => simp [key, Date.text, Date.chars]
  | timestamp t => simp [key, Timestamp.text, Timestamp.chars]

end Atom

theorem joined_ne_empty {keys : List String}
    (separate : ∀ key ∈ keys, ',' ∉ key.toList)
    (nonempty : ∀ key ∈ keys, key.toList ≠ []) (some : keys ≠ []) :
    ",".intercalate keys ≠ "" := by
  intro empty
  have parts := Text.splitOn_joined separate some
  rw [empty, String.toList_empty, List.splitOn_nil] at parts
  obtain ⟨key, member, blank⟩ :=
    List.mem_map.mp (parts ▸ List.mem_singleton_self [])
  exact nonempty key member blank

theorem joined_inj {keys others : List String}
    (separate : ∀ key ∈ keys, ',' ∉ key.toList)
    (separateToo : ∀ key ∈ others, ',' ∉ key.toList) (some : keys ≠ [])
    (someToo : others ≠ []) :
    ",".intercalate keys = ",".intercalate others ↔ keys = others := by
  refine ⟨fun same => ?_, congrArg _⟩
  have parts := Text.splitOn_joined separate some
  rw [same, Text.splitOn_joined separateToo someToo] at parts
  exact (List.map_injective_iff.mpr (fun s t => String.ext) parts).symm

theorem joined_inj_of_proper {keys others : List String}
    (proper : ∀ key ∈ keys, ',' ∉ key.toList ∧ key.toList ≠ [])
    (properToo : ∀ key ∈ others, ',' ∉ key.toList ∧ key.toList ≠ []) :
    ",".intercalate keys = ",".intercalate others ↔ keys = others := by
  have separate := fun key member => (proper key member).1
  have separateToo := fun key member => (properToo key member).1
  by_cases none : keys = []
  · subst none
    refine ⟨fun same => by_contra fun some => ?_, congrArg _⟩
    exact joined_ne_empty separateToo
      (fun key member => (properToo key member).2) (Ne.symm some)
      (same.symm.trans String.intercalate_nil)
  · by_cases noneToo : others = []
    · subst noneToo
      refine ⟨fun same => ?_, congrArg _⟩
      exact absurd (same.trans String.intercalate_nil) (joined_ne_empty separate
        (fun key member => (proper key member).2) none)
    · exact joined_inj separate separateToo none noneToo

namespace Value

/-- The same single value, or arrays of the same elements in the same order. -/
inductive Same : Value → Value → Prop
  | atom {a b : Atom} (same : a.Same b) : Same (.atom a) (.atom b)
  | array {items others : List Atom}
      (each : List.Forall₂ Atom.Same items others) :
      Same (.array (items.map .atom)) (.array (others.map .atom))

/-- Elements of two arrays of texts are the same text when they are joined with
commas, and may be so without being the same elements: an element has a comma in
it, or one of the arrays is empty. -/
structure RunTogether (items others : List Atom) : Prop where
  texts : ∀ a ∈ items ++ others, a.text?.isSome
  loose : (∃ a ∈ items ++ others, ',' ∈ a.key.toList) ∨ items = [] ∨ others = []
  same :
    ",".intercalate (items.map Atom.key) = ",".intercalate (others.map Atom.key)

/-- The same value, written in the same way, or an array that runs together with
the other. -/
inductive Matches : Value → Value → Prop
  | atom {a b : Atom} (same : a.Matches b) : Matches (.atom a) (.atom b)
  | array {items others : List Atom}
      (each : List.Forall₂ Atom.Matches items others) :
      Matches (.array (items.map .atom)) (.array (others.map .atom))
  | joined {items others : List Atom} (run : RunTogether items others) :
      Matches (.array (items.map .atom)) (.array (others.map .atom))

def Coerced (field : Field) (value : Value) : Prop :=
  ∃ raw : Json, raw.Canonical ∧ ofJson field raw = .ok value

variable {field : Field} {value other : Value} {items others : List Atom}

theorem Same.length_eq {items others : List Value}
    (same : (Value.array items).Same (.array others)) :
    items.length = others.length := by
  cases same with
  | array each => simpa using each.length_eq

theorem array_atoms_injective :
    Function.Injective fun items : List Atom => array (items.map atom) :=
  fun _ _ same => List.map_injective_iff.mpr
    (fun _ _ same => Value.atom.inj same) (Value.array.inj same)

theorem matches_atom_iff {a b : Atom} :
    (atom a).Matches (atom b) ↔ a.Matches b :=
  ⟨fun same => by cases same; assumption, .atom⟩

theorem matches_array_iff :
    (array (items.map atom)).Matches (array (others.map atom)) ↔
      List.Forall₂ Atom.Matches items others ∨ RunTogether items others := by
  constructor
  · intro same
    generalize left : array (items.map atom) = value at same
    generalize right : array (others.map atom) = other at same
    cases same with
    | atom => cases left
    | array each =>
        rw [array_atoms_injective left, array_atoms_injective right]
        exact .inl each
    | joined run =>
        rw [array_atoms_injective left, array_atoms_injective right]
        exact .inr run
  · rintro (each | run)
    · exact .array each
    · exact .joined run

/-! Keys of values that were read for one field. -/

theorem elementsOfJson_atoms {type : ElementType} {index : Nat}
    {raws : List Json} {values : List Value}
    (canonical : ∀ raw ∈ raws, raw.Canonical)
    (read : elementsOfJson type index raws = .ok values) :
    ∃ items : List Atom, values = items.map atom ∧
      ∀ a ∈ items, a.Fits type ∧ a.Regular := by
  obtain ⟨items, rfl, each⟩ := elementsOfJson_cases read
  refine ⟨items, rfl, fun a member => ?_⟩
  obtain ⟨raw, listed, found⟩ := each a member
  exact ⟨Atom.ofJson?_fits found,
    Atom.ofJson?_regular (canonical raw listed) found⟩

theorem Coerced.cases (coerced : value.Coerced field) :
    (field.type.many = false ∧
      ∃ a, value = atom a ∧ a.Fits field.type.element ∧ a.Regular) ∨
      field.type.many = true ∧
        ∃ items : List Atom, value = array (items.map atom) ∧
          ∀ a ∈ items, a.Fits field.type.element ∧ a.Regular := by
  obtain ⟨raw, canonical, read⟩ := coerced
  rcases ofJson_cases read with
    ⟨single, a, found, rfl⟩ | ⟨many, raws, values, rfl, found, rfl⟩
  · exact .inl ⟨single, a, rfl, Atom.ofJson?_fits found,
      Atom.ofJson?_regular canonical found⟩
  · cases canonical with
    | array each =>
        obtain ⟨items, rfl, regular⟩ := elementsOfJson_atoms each found
        exact .inr ⟨many, items, rfl, regular⟩

theorem keys_eq_iff {type : ElementType}
    (first : ∀ a ∈ items, a.Fits type ∧ a.Regular)
    (second : ∀ a ∈ others, a.Fits type ∧ a.Regular) :
    items.map Atom.key = others.map Atom.key ↔
      List.Forall₂ Atom.Matches items others := by
  induction items generalizing others with
  | nil => cases others <;> simp
  | cons a items ih =>
      cases others with
      | nil => simp
      | cons b others =>
          obtain ⟨typedA, regularA⟩ := first a (by simp)
          obtain ⟨typedB, regularB⟩ := second b (by simp)
          rw [List.map_cons, List.map_cons, List.cons.injEq,
            Atom.key_eq_iff (typedA.sameKind typedB) regularA regularB,
            ih (fun a member => first a (by simp [member]))
              (fun b member => second b (by simp [member])), List.forall₂_cons]

theorem key_array_inj :
    (array (items.map atom)).key = (array (others.map atom)).key ↔
      ",".intercalate (items.map Atom.key) =
        ",".intercalate (others.map Atom.key) := by
  have bracketed (items : List Atom) : (array (items.map atom)).key =
      "[" ++ ",".intercalate (items.map Atom.key) ++ "]" := by
    simp [key, Function.comp_def]
  rw [bracketed, bracketed]
  simp

theorem proper_keys {type : ElementType}
    (each : ∀ a ∈ items, a.Fits type ∧ a.Regular)
    (noTexts : ¬∀ a ∈ items, a.text?.isSome) :
    ∀ key ∈ items.map Atom.key, ',' ∉ key.toList ∧ key.toList ≠ [] := by
  push Not at noTexts
  obtain ⟨b, memberB, noText⟩ := noTexts
  intro key member
  obtain ⟨a, memberA, rfl⟩ := List.mem_map.mp member
  have none : a.text? = none := by
    rw [← Option.not_isSome_iff_eq_none,
      ((each a memberA).1.sameKind (each b memberB).1).text?_isSome]
    exact noText
  exact ⟨Atom.comma_not_mem_key none, Atom.key_ne_empty none⟩

theorem runTogether_of_joined (texts : ∀ a ∈ items ++ others, a.text?.isSome)
    (same : ",".intercalate (items.map Atom.key) =
      ",".intercalate (others.map Atom.key)) :
    items.map Atom.key = others.map Atom.key ∨ RunTogether items others := by
  by_cases loose : (∃ a ∈ items ++ others, ',' ∈ a.key.toList) ∨ items = [] ∨
    others = []
  · exact .inr ⟨texts, loose, same⟩
  · push Not at loose
    obtain ⟨separate, some, someToo⟩ := loose
    obtain ⟨first, second⟩ := List.forall_mem_append.mp separate
    exact .inl ((joined_inj (List.forall_mem_map.mpr first)
      (List.forall_mem_map.mpr second) (by simpa using some)
      (by simpa using someToo)).mp same)

theorem key_eq_iff (first : value.Coerced field)
    (second : other.Coerced field) :
    value.key = other.key ↔ value.Matches other := by
  rcases first.cases with
    ⟨single, a, rfl, typedA, regularA⟩ | ⟨many, items, rfl, itemsFit⟩ <;>
    rcases second.cases with
      ⟨singleToo, b, rfl, typedB, regularB⟩ | ⟨manyToo, others, rfl, othersFit⟩
  · rw [matches_atom_iff,
      ← Atom.key_eq_iff (typedA.sameKind typedB) regularA regularB]
    rfl
  · rw [single] at manyToo
    cases manyToo
  · rw [many] at singleToo
    cases singleToo
  · rw [key_array_inj, matches_array_iff, ← keys_eq_iff itemsFit othersFit]
    constructor
    · intro same
      by_cases texts : ∀ a ∈ items ++ others, a.text?.isSome
      · exact runTogether_of_joined texts same
      · have proper :=
          proper_keys (List.forall_mem_append.mpr ⟨itemsFit, othersFit⟩) texts
        rw [List.map_append, List.forall_mem_append] at proper
        exact .inl ((joined_inj_of_proper proper.1 proper.2).mp same)
    · rintro (same | run)
      · rw [same]
      · exact run.same

end Value

end RecordStore
