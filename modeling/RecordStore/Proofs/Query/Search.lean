import RecordStore.Proofs.Text.Lowercase
import RecordStore.Query.Page

namespace RecordStore

namespace Text

/-! Search for a text apart from case, in the strings of a record and in labels:
it comes upon every place where the text stands as it is, but for places where a
capital sigma turns, and upon places that are the same in lower case only. -/

theorem lowerAfter_around (start part rest : List Char) :
    lowerAfter [] (start ++ part ++ rest) =
      lowerBetween [] (part ++ rest) start ++
        (lowerBetween start.reverse rest part ++
          lowerAfter (part.reverse ++ start.reverse) rest) := by
  rw [List.append_assoc, lowerAfter_append, List.append_nil, lowerAfter_append]

/-- A place in a string where the search for a text comes upon it. -/
inductive Hit (needle s : List Char) : Prop
  /-- The text stands there as it is, and none of its sigmas turns. -/
  | verbatim {start rest : List Char} (stands : s = start ++ needle ++ rest)
      (kept : ¬SigmaTurns start needle rest)
  /-- It stands there in lower case, and not as it is. -/
  | folded {before after : List Char}
      (stands : lowerAfter [] s = before ++ lowerAfter [] needle ++ after)
      (apart : ∀ start rest, s = start ++ needle ++ rest →
        before ≠ lowerBetween [] (needle ++ rest) start)

theorem hit_iff (needle s : List Char) :
    Hit needle s ↔ lowerAfter [] needle <:+: lowerAfter [] s := by
  constructor
  · intro hit
    cases hit with
    | @verbatim start rest stands kept =>
        rw [stands, lowerAfter_around, (lowerBetween_eq_iff ..).mpr kept,
          ← List.append_assoc]
        exact List.infix_append ..
    | @folded before after stands apart => exact ⟨before, after, stands.symm⟩
  · rintro ⟨before, after, stands⟩
    by_cases verbatim : ∃ start rest, s = start ++ needle ++ rest ∧
        before = lowerBetween [] (needle ++ rest) start
    · obtain ⟨start, rest, rfl, rfl⟩ := verbatim
      refine .verbatim rfl ?_
      rw [lowerAfter_around, List.append_assoc,
        List.append_cancel_left_eq] at stands
      -- Both forms of the text begin at one place, and forms of one text are of
      -- one length.
      have same := length_lowerBetween start.reverse rest [] needle
      exact (lowerBetween_eq_iff ..).mp
        (List.append_inj_left stands same.symm).symm
    · refine .folded stands.symm ?_
      intro start rest split own
      exact verbatim ⟨start, rest, split, own⟩

theorem contains_lower_iff (s needle : String) :
    contains (lower s) (lower needle) = true ↔ Hit needle.toList s.toList := by
  rw [contains, toList_lower, toList_lower, occursIn_iff, hit_iff]

theorem hit_of_infix {needle s : List Char} (stands : needle <:+: s)
    (plain : 'Σ' ∉ needle) : Hit needle s := by
  obtain ⟨start, rest, rfl⟩ := stands
  exact .verbatim rfl fun turns => plain turns.mem

theorem lower_eq_empty_iff (s : String) : lower s = "" ↔ s = "" := by
  constructor
  · intro empty
    have none : lowerAfter [] s.toList = [] := by
      rw [← toList_lower, empty]; rfl
    cases cs : s.toList with
    | nil => exact String.toList_inj.mp cs
    | cons c rest =>
        have positive := lowerWidth_pos c
        have length := length_lowerAfter_cons [] c rest
        rw [← cs, none, List.length_nil] at length
        omega
  · rintro rfl
    rfl

end Text

def Record.strings (record : Record) : List String :=
  record.attributes.items.flatMap fun (_, value) => value.strings

theorem searchKey_ne_empty {text : String} (proper : Text.trim text ≠ "") :
    searchKey text ≠ "" :=
  fun empty => proper ((Text.lower_eq_empty_iff _).mp empty)

theorem Record.containsText_iff {text : String} (proper : Text.trim text ≠ "")
    (record : Record) :
    record.containsText text = true ↔
      ∃ s ∈ record.strings, Text.Hit (Text.trim text).toList s.toList := by
  simp only [containsText, searchKey_ne_empty proper, decide_false,
    Bool.false_or, List.any_eq_true, strings, List.mem_flatMap]
  constructor
  · rintro ⟨entry, member, s, held, found⟩
    exact ⟨s, ⟨entry, member, held⟩, (Text.contains_lower_iff ..).mp found⟩
  · rintro ⟨s, ⟨entry, member, held⟩, hit⟩
    exact ⟨entry, member, s, held, (Text.contains_lower_iff ..).mpr hit⟩

namespace Store

/-- The live records whose label is hit, in their order: a lookup gives as many
of them as its limit allows. -/
structure Suggestions (store : Store) (entity : Entity) (field needle : String)
    (records : List Record) : Prop where
  sublist : records.Sublist (store.liveOf entity.fullName)
  mem_iff : ∀ record ∈ store.liveOf entity.fullName,
    (record ∈ records ↔ Text.Hit needle.toList (label record field).toList)

theorem lookup_suggestions {text : String} (proper : Text.trim text ≠ "")
    (store : Store) (entity : Entity) (field : Option String) :
    ∃ records, store.Suggestions entity (field.getD entity.displayField)
      (Text.trim text) records ∧
      ∀ settings limit, store.lookup settings entity field text limit =
        (records.map fun record =>
          ⟨record.id, label record (field.getD entity.displayField)⟩).take
          (settings.lookupSize limit) := by
  refine ⟨(store.liveOf entity.fullName).filter fun record =>
    Text.contains (Text.lower (label record (field.getD entity.displayField)))
      (searchKey text), ⟨List.filter_sublist, ?_⟩, ?_⟩
  · intro record live
    rw [List.mem_filter, searchKey, Text.contains_lower_iff]
    exact ⟨And.right, fun hit => ⟨live, hit⟩⟩
  · intro settings limit
    simp only [lookup, searchKey_ne_empty proper, decide_false, Bool.false_or,
      List.filter_map, Function.comp_def]

end Store

/-- A search finds exactly the records with a string that is hit, and a lookup
suggests exactly the live records whose label is. Without a capital sigma, a
text hits every string in which it stands. -/
theorem Record.search_hits_iff {text : String} (proper : Text.trim text ≠ "") :
    (∀ record : Record, record.containsText text = true ↔
      ∃ s ∈ record.strings, Text.Hit (Text.trim text).toList s.toList) ∧
      (∀ (store : Store) (entity : Entity) (field : Option String),
        ∃ records, store.Suggestions entity (field.getD entity.displayField)
          (Text.trim text) records ∧
          ∀ settings limit, store.lookup settings entity field text limit =
            (records.map fun record => ⟨record.id,
              Store.label record (field.getD entity.displayField)⟩).take
              (settings.lookupSize limit)) ∧
      ('Σ' ∉ (Text.trim text).toList →
        ∀ s : String, (Text.trim text).toList <:+: s.toList →
          Text.Hit (Text.trim text).toList s.toList) :=
  ⟨containsText_iff proper, Store.lookup_suggestions proper,
    fun plain _ stands => Text.hit_of_infix stands plain⟩

def Record.titled (id title : String) : Record :=
  ⟨"d.Sign", id, 1, default, default, false,
    .ofList [("name", .atom (.string title))]⟩

def Entity.sign : Entity :=
  ⟨"d", "Sign", [{ name := "name", type := ⟨.scalar .string, false⟩ }], []⟩

/-- A street, and a sign whose name begins with the word for street but goes on
behind its sigma. -/
def Store.signs : Store where
  schema := { entities := .ofList [.sign] }
  records := .ofList [.titled "1" "ΟΔΟΣ ΕΡΜΟΥ", .titled "2" "ΟΔΟΣΗΜΑ"]

theorem Record.signs_hit :
    Text.trim " ΟΔΟΣ " ≠ "" ∧
      (titled "1" "ΟΔΟΣ ΕΡΜΟΥ").containsText " ΟΔΟΣ " = true ∧
      ¬Text.Hit "ΟΔΟΣ".toList "ΟΔΟΣΗΜΑ".toList ∧
      'Σ' ∉ (Text.trim " οδος ").toList ∧
      ∀ s : String, "οδος".toList <:+: s.toList →
        Text.Hit "οδος".toList s.toList := by
  have proper : Text.trim " ΟΔΟΣ " ≠ "" := by decide +kernel
  have properToo : Text.trim " οδος " ≠ "" := by decide +kernel
  have capitals : Text.trim " ΟΔΟΣ " = "ΟΔΟΣ" := by decide +kernel
  have smalls : Text.trim " οδος " = "οδος" := by decide +kernel
  obtain ⟨found, -, -⟩ := search_hits_iff proper
  obtain ⟨-, -, plainly⟩ := search_hits_iff properToo
  rw [capitals] at found
  rw [smalls] at plainly
  have plain : 'Σ' ∉ "οδος".toList := by decide +kernel
  have street : "ΟΔΟΣ ΕΡΜΟΥ".toList =
      [] ++ "ΟΔΟΣ".toList ++ " ΕΡΜΟΥ".toList := by decide +kernel
  have alone : ¬Text.SigmaTurns [] "ΟΔΟΣ".toList " ΕΡΜΟΥ".toList :=
    (Text.lowerBetween_eq_iff ..).mp (by decide +kernel)
  refine ⟨proper, ?_, ?_, smalls ▸ plain, plainly plain⟩
  · exact (found _).mpr
      ⟨"ΟΔΟΣ ΕΡΜΟΥ", by decide +kernel, .verbatim street alone⟩
  · intro hit
    have missed : (titled "2" "ΟΔΟΣΗΜΑ").containsText " ΟΔΟΣ " = false := by
      decide +kernel
    rw [(found _).mpr ⟨"ΟΔΟΣΗΜΑ", by decide +kernel, hit⟩] at missed
    cases missed

theorem Record.not_always_hit :
    (¬∀ (text : String) (record : Record), Text.trim text ≠ "" →
      (∃ s ∈ record.strings, (Text.trim text).toList <:+: s.toList) →
      record.containsText text = true) ∧
      ¬∀ (text field : String) (store : Store) (settings : Settings)
        (entity : Entity) (record : Record),
        Text.trim text ≠ "" → record ∈ store.liveOf entity.fullName →
          (Text.trim text).toList <:+: (Store.label record field).toList →
          ∃ limit, ⟨record.id, Store.label record field⟩ ∈
            store.lookup settings entity (some field) text limit := by
  constructor
  · intro always
    have found := always "ΟΔΟΣ" (titled "2" "ΟΔΟΣΗΜΑ") (by decide +kernel)
      ⟨"ΟΔΟΣΗΜΑ", by decide +kernel, [], "ΗΜΑ".toList, by decide +kernel⟩
    exact absurd found (by decide +kernel)
  · intro always
    obtain ⟨limit, found⟩ := always "ΟΔΟΣ" "name" .signs {} .sign
      (titled "2" "ΟΔΟΣΗΜΑ") (by decide +kernel)
      (by decide +kernel) ⟨[], "ΗΜΑ".toList, by decide +kernel⟩
    exact absurd (List.mem_filter.mp (List.mem_of_mem_take found)).2
      (by decide +kernel)

end RecordStore
