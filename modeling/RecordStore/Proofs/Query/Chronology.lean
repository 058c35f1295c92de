import RecordStore.Proofs.Query.Condition
import RecordStore.Proofs.Query.Order
import RecordStore.Proofs.Time.Order

namespace RecordStore

open Std (OrientedCmp)

def Record.instant? (record : Record) (name : String) : Option Instant :=
  match record.fieldValue? name with
  | some (.atom (.timestamp stamp)) => some stamp.instant
  | _ => none

/-- Under the name stands nothing, or a timestamp of the offset: a time of the
record, which is in UTC, or one that was read for a field. -/
inductive Record.KeepsTime (record : Record) :
    (name : String) → (offset : Int) → Prop
  | nothing {name : String} {offset : Int}
      (absent : record.sortText? name = none) : KeepsTime record name offset
  | createdAt (accepted : (Timestamp.ofInstant record.createdAt).Accepted) :
      KeepsTime record "created_at" 0
  | updatedAt (accepted : (Timestamp.ofInstant record.updatedAt).Accepted) :
      KeepsTime record "updated_at" 0
  | field {field : Field} {stamp : Timestamp}
      (own : isSystemField field.name = false)
      (type : field.type = ⟨.scalar .timestamp, false⟩)
      (held : record.attributes.value? field.name =
        some (.atom (.timestamp stamp)))
      (coerced : (Value.atom (.timestamp stamp)).Coerced field) :
      KeepsTime record field.name stamp.offset

/-- Instants ascend or descend; records without one stand at one end, whatever
the direction. -/
def SortKey.PutsEarlier (key : SortKey) (nulls : NullPlacement) :
    Option Instant → Option Instant → Prop
  | none, none => False
  | none, some _ => nulls = .first
  | some _, none => nulls = .last
  | some s, some t =>
    if key.descending then compare t s = .lt else compare s t = .lt

instance (key : SortKey) (nulls : NullPlacement) :
    (s t : Option Instant) → Decidable (key.PutsEarlier nulls s t)
  | none, none => inferInstanceAs (Decidable False)
  | none, some _ => inferInstanceAs (Decidable (nulls = .first))
  | some _, none => inferInstanceAs (Decidable (nulls = .last))
  | some s, some t => inferInstanceAs (Decidable
    (if key.descending then compare t s = .lt else compare s t = .lt))

namespace Record

@[simp] theorem instant?_createdAt (record : Record) :
    record.instant? "created_at" = some record.createdAt :=
  congrArg some (Timestamp.instant_ofInstant record.createdAt)

@[simp] theorem instant?_updatedAt (record : Record) :
    record.instant? "updated_at" = some record.updatedAt :=
  congrArg some (Timestamp.instant_ofInstant record.updatedAt)

variable {record : Record} {name : String} {offset : Int}

theorem sortText?_eq_none_iff : record.sortText? name = none ↔
    record.fieldValue? name = none ∨ record.fieldValue? name = some .null := by
  rw [sortText?, Option.map_eq_none_iff]
  cases record.fieldValue? name with
  | none => simp
  | some value => cases value <;> simp [Value.isNull]

theorem instant?_of_absent (absent : record.sortText? name = none) :
    record.instant? name = none := by
  rw [instant?]
  rcases sortText?_eq_none_iff.mp absent with value | value
  · rw [value]
  · rw [value]

theorem KeepsTime.cases (keeps : record.KeepsTime name offset) :
    record.sortText? name = none ∧ record.instant? name = none ∨
      ∃ stamp : Timestamp, stamp.Accepted ∧ stamp.offset = offset ∧
        record.sortText? name =
          some stamp.text ∧ record.instant? name = some stamp.instant := by
  cases keeps with
  | nothing absent => exact .inl ⟨absent, instant?_of_absent absent⟩
  | createdAt accepted => exact .inr ⟨_, accepted, rfl, rfl, rfl⟩
  | updatedAt accepted => exact .inr ⟨_, accepted, rfl, rfl, rfl⟩
  | @field field stamp own type held coerced =>
      obtain ⟨_, ⟨⟩, -, regular⟩ := coerced.elements (List.mem_singleton_self _)
      refine .inr ⟨stamp, stamp.accepted_iff.mpr regular, rfl, ?_, ?_⟩
      · rw [sortText?, fieldValue?_of_own own, held]
        rfl
      · rw [instant?, fieldValue?_of_own own, held]

end Record

namespace SortKey

variable {key : SortKey} {nulls : NullPlacement} {a b : Record} {offset : Int}

theorem compareRecords_eq_lt_iff (keepsA : a.KeepsTime key.field offset)
    (keepsB : b.KeepsTime key.field offset) :
    key.compareRecords nulls a b = .lt ↔
      key.PutsEarlier nulls (a.instant? key.field) (b.instant? key.field) := by
  rw [compareRecords, compareTexts_eq_lt_iff]
  rcases keepsA.cases with
    ⟨textA, timeA⟩ | ⟨s, acceptedA, offsetA, textA, timeA⟩ <;>
    rcases keepsB.cases with
      ⟨textB, timeB⟩ | ⟨t, acceptedB, offsetB, textB, timeB⟩ <;>
    rw [textA, timeA, textB, timeB]
  · exact Iff.rfl
  · exact Iff.rfl
  · exact Iff.rfl
  · rw [PutsBefore, PutsEarlier, ← compare_eq_lt_iff, ← compare_eq_lt_iff,
      acceptedA.compare_text acceptedB (offsetA.trans offsetB.symm),
      acceptedB.compare_text acceptedA (offsetB.trans offsetA.symm)]

end SortKey

theorem not_lt_of_compareBy {key : SortKey} {keys : List SortKey}
    {nulls : NullPlacement} {a b : Record}
    (inOrder : (compareBy (key :: keys) nulls a b != .gt) = true) :
    key.compareRecords nulls b a ≠ .lt := by
  intro less
  rw [← OrientedCmp.gt_iff_lt] at less
  rw [compareBy, less] at inOrder
  cases inOrder

/-- Keys of timestamps that were read, with one offset, are in the order of the
instants. Records that keep times of one offset under a name are sorted by it in
the order of the instants, whatever other keys follow; their own times can be
read back as long as the clock has not passed the year 9999. -/
theorem Record.sorted_chronologically :
    (∀ (s t : String) (a b : Timestamp), Timestamp.read? s = some a →
      Timestamp.read? t = some b → a.offset = b.offset →
      compare (Value.atom (.timestamp a)).key (Value.atom (.timestamp b)).key =
        compare a.instant b.instant) ∧
      (∀ (key : SortKey) (keys : List SortKey) (nulls : NullPlacement)
        (records : List Record) (offset : Int),
        (∀ record ∈ records, record.KeepsTime key.field offset) →
        let earlier (a b : Record) :=
          key.PutsEarlier nulls (a.instant? key.field) (b.instant? key.field)
        (∀ a ∈ records, ∀ b ∈ records, key.compareRecords nulls a b = .lt ↔
          earlier a b) ∧ (sortBy (key :: keys) nulls records).Perm records ∧
          (sortBy (key :: keys) nulls records).Pairwise fun a b =>
            ¬earlier b a) ∧
      (∀ record : Record, record.instant? "created_at" = some record.createdAt ∧
        record.instant? "updated_at" = some record.updatedAt) ∧
      ∀ n : Nat, (Timestamp.ofInstant (.ofNanoseconds n)).Accepted ↔
        (Instant.ofNanoseconds n).date.year ≤ 9999 := by
  refine ⟨?_, ?_, ?_, Timestamp.accepted_ofNanoseconds_iff⟩
  · intro s t a b readA readB offset
    exact Timestamp.Accepted.compare_text ⟨s, readA⟩ ⟨t, readB⟩ offset
  · intro key keys nulls records offset keeps earlier
    have compared : ∀ a ∈ records, ∀ b ∈ records,
        key.compareRecords nulls a b = .lt ↔ earlier a b :=
      fun a first b second =>
        SortKey.compareRecords_eq_lt_iff (keeps a first) (keeps b second)
    have perm := sortBy_perm (key :: keys) nulls records
    have sorted : (sortBy (key :: keys) nulls records).Pairwise fun a b =>
        (compareBy (key :: keys) nulls a b != .gt) = true :=
      List.pairwise_mergeSort (compareBy_trans _ nulls)
        (compareBy_total _ nulls) records
    refine ⟨compared, perm, sorted.imp_of_mem ?_⟩
    intro a b first second inOrder
    rw [← compared b (perm.mem_iff.mp second) a (perm.mem_iff.mp first)]
    exact not_lt_of_compareBy inOrder
  · intro record
    exact ⟨record.instant?_createdAt, record.instant?_updatedAt⟩

/-! Strokes of a bell around the leap second at the end of 2016, two hours east
of Greenwich. -/

def Field.struckAt : Field where
  name := "struck_at"
  type := ⟨.scalar .timestamp, false⟩

def Timestamp.leapSecond : Timestamp :=
  ⟨⟨2017, 1, 1, by decide⟩, ⟨7199, 1250000000, by decide, by decide⟩, 120,
    by decide⟩

def Timestamp.afterLeap : Timestamp :=
  ⟨⟨2017, 1, 1, by decide⟩, ⟨7200, 100000000, by decide, by decide⟩, 120,
    by decide⟩

namespace Record

def stroke (id : String) (stamp : Option Timestamp) : Record :=
  ⟨"d.Stroke", id, 1, default, default, false,
    .ofList
      ((stamp.map fun stamp => ("struck_at", .atom (.timestamp stamp))).toList)⟩

theorem leapSecond_coerced :
    (Value.atom (.timestamp .leapSecond)).Coerced .struckAt :=
  ⟨.string "2017-01-01t01:59:60.25000000049+02:00", .string _,
    by decide +kernel⟩

theorem afterLeap_coerced :
    (Value.atom (.timestamp .afterLeap)).Coerced .struckAt :=
  ⟨.string "2017-01-01 02:00:00.1+02:00", .string _, by decide +kernel⟩

/-- From the latest on; the leap second is earlier than what follows it,
although its fraction is greater. -/
theorem strokes_chronological :
    let key : SortKey := ⟨"struck_at", true⟩
    let leap := stroke "1" (some .leapSecond)
    let never := stroke "2" none
    let after := stroke "3" (some .afterLeap)
    (Timestamp.read? "2017-01-01T01:59:60.25+02:00" = some .leapSecond ∧
      Timestamp.read? "2017-01-01T02:00:00.1+02:00" = some .afterLeap ∧
      compare (Value.atom (.timestamp .leapSecond)).key
        (Value.atom (.timestamp .afterLeap)).key = .lt) ∧
      (∀ record ∈ [leap, never, after], record.KeepsTime key.field 120) ∧
      sortBy [key] .last [leap, never, after] = [after, leap, never] := by
  intro key leap never after
  obtain ⟨keys, sorts, -, -⟩ := sorted_chronologically
  have readLeap : Timestamp.read? "2017-01-01T01:59:60.25+02:00" =
      some .leapSecond := by decide +kernel
  have readAfter : Timestamp.read? "2017-01-01T02:00:00.1+02:00" =
      some .afterLeap := by decide +kernel
  have keeps : ∀ record ∈ [leap, never,
      after], record.KeepsTime key.field 120 := by
    intro record member
    simp only [List.mem_cons, List.not_mem_nil, or_false] at member
    rcases member with rfl | rfl | rfl
    · exact .field (by decide) rfl rfl leapSecond_coerced
    · exact .nothing rfl
    · exact .field (by decide) rfl rfl afterLeap_coerced
  obtain ⟨-, perm, ordered⟩ := sorts key [] .last _ 120 keeps
  refine ⟨⟨readLeap, readAfter, ?_⟩, keeps, ?_⟩
  · rw [keys _ _ _ _ readLeap readAfter rfl]
    decide
  · have same : (sortBy [key] .last [leap, never, after]).Perm
        [after, leap, never] :=
      perm.trans (by decide +kernel)
    have apart : ∀ a ∈ [after, leap, never], ∀ b ∈ [after, leap, never],
        ¬key.PutsEarlier .last (b.instant? key.field) (a.instant? key.field) →
          ¬key.PutsEarlier .last (a.instant? key.field) (b.instant? key.field) →
          a = b := by
      decide +kernel
    refine same.eq_of_pairwise (fun a b first second => ?_) ordered
      (by decide +kernel)
    exact apart a (same.mem_iff.mp first) b second

end Record

end RecordStore
