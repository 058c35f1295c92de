import Mathlib.Data.List.Nodup
import RecordStore.Query.Order

namespace RecordStore

open Std (TransCmp OrientedCmp)

namespace SortKey

/-- Texts ascend or descend; records without a text stand at one end, whatever
the direction. -/
def PutsBefore (key : SortKey) (nulls : NullPlacement) :
    Option String → Option String → Prop
  | none, none => False
  | none, some _ => nulls = .first
  | some _, none => nulls = .last
  | some s, some t => if key.descending then t < s else s < t

end SortKey

/-- One record stands before another: by the first key that tells them apart, or
else by id. -/
inductive Record.Before (nulls : NullPlacement) :
    List SortKey → Record → Record → Prop where
  | byId {a b : Record} (less : a.id < b.id) : Before nulls [] a b
  | byKey {key : SortKey} {keys : List SortKey} {a b : Record}
      (puts : key.PutsBefore nulls (a.sortText? key.field)
        (b.sortText? key.field)) :
      Before nulls (key :: keys) a b
  | tied {key : SortKey} {keys : List SortKey} {a b : Record}
      (same : a.sortText? key.field = b.sortText? key.field)
      (before : Before nulls keys a b) : Before nulls (key :: keys) a b

theorem compare_eq_lt_iff (s t : String) : compare s t = .lt ↔ s < t :=
  compareOfLessAndEq_eq_lt

namespace SortKey

variable (key : SortKey) (nulls : NullPlacement)

theorem compareTexts_eq_lt_iff (s t : Option String) :
    key.compareTexts nulls s t = .lt ↔ key.PutsBefore nulls s t := by
  cases s with
  | none =>
      cases t with
      | none => simp [compareTexts, PutsBefore]
      | some t => cases nulls <;> simp [compareTexts, PutsBefore]
  | some s =>
      cases t with
      | none => cases nulls <;> simp [compareTexts, PutsBefore]
      | some t =>
          rw [compareTexts, PutsBefore]
          split
          · exact compare_eq_lt_iff t s
          · exact compare_eq_lt_iff s t

theorem compareTexts_eq_eq_iff (s t : Option String) :
    key.compareTexts nulls s t = .eq ↔ s = t := by
  cases s with
  | none =>
      cases t with
      | none => simp [compareTexts]
      | some t => cases nulls <;> simp [compareTexts]
  | some s =>
      cases t with
      | none => cases nulls <;> simp [compareTexts]
      | some t =>
          rw [compareTexts]
          split
          · simpa using eq_comm
          · simp

instance transCmp_compareTexts : TransCmp (key.compareTexts nulls) where
  eq_swap {s t} := by
    cases s with
    | none => cases t <;> cases nulls <;> rfl
    | some s =>
        cases t with
        | none => cases nulls <;> rfl
        | some t =>
            simp only [compareTexts]
            split
            · exact @OrientedCmp.eq_swap _ compare _ _ _
            · exact @OrientedCmp.eq_swap _ compare _ _ _
  isLE_trans {s t u} := by
    cases s with
    | none => cases t <;> cases u <;> cases nulls <;> simp [compareTexts]
    | some s =>
        cases t with
        | none => cases u <;> cases nulls <;> simp [compareTexts]
        | some t =>
            cases u with
            | none => cases nulls <;> simp [compareTexts]
            | some u =>
                simp only [compareTexts]
                split
                · exact fun first second => TransCmp.isLE_trans second first
                · exact TransCmp.isLE_trans

instance transCmp_compareRecords : TransCmp (key.compareRecords nulls) where
  eq_swap {_ _} := @OrientedCmp.eq_swap _ (key.compareTexts nulls) _ _ _
  isLE_trans {_ _ _} := @TransCmp.isLE_trans _ (key.compareTexts nulls) _ _ _ _

end SortKey

variable (keys : List SortKey) (nulls : NullPlacement)

instance transCmp_compareBy : TransCmp (compareBy keys nulls) := by
  induction keys with
  | nil => exact { eq_swap := rfl, isLE_trans := fun _ _ => rfl }
  | cons key keys ih =>
      exact inferInstanceAs (TransCmp
        (compareLex (key.compareRecords nulls) (compareBy keys nulls)))

theorem Record.before_iff (a b : Record) :
    Before nulls keys a b ↔
      compareBy keys nulls a b = .lt ∨
        compareBy keys nulls a b = .eq ∧ a.id < b.id := by
  induction keys with
  | nil =>
      constructor
      · rintro ⟨less⟩
        exact .inr ⟨rfl, less⟩
      · rintro (less | ⟨-, less⟩)
        · cases less
        · exact .byId less
  | cons key keys ih =>
      rw [compareBy, Ordering.then_eq_lt, Ordering.then_eq_eq,
        SortKey.compareRecords, SortKey.compareTexts_eq_lt_iff,
        SortKey.compareTexts_eq_eq_iff]
      constructor
      · intro before
        cases before with
        | byKey puts => exact .inl (.inl puts)
        | tied same before =>
            rcases ih.mp before with less | ⟨equal, less⟩
            · exact .inl (.inr ⟨same, less⟩)
            · exact .inr ⟨⟨same, equal⟩, less⟩
      · rintro ((puts | ⟨same, less⟩) | ⟨⟨same, equal⟩, less⟩)
        · exact .byKey puts
        · exact .tied same (ih.mpr (.inl less))
        · exact .tied same (ih.mpr (.inr ⟨equal, less⟩))

instance (a b : Record) : Decidable (Record.Before nulls keys a b) :=
  decidable_of_iff _ (Record.before_iff keys nulls a b).symm

theorem Record.Before.asymm {keys : List SortKey} {nulls : NullPlacement}
    {a b : Record} (before : Before nulls keys a b) :
    ¬Before nulls keys b a := by
  rw [before_iff] at before ⊢
  rintro (less | ⟨equal, less⟩)
  · rw [← OrientedCmp.gt_iff_lt] at less
    simp [less] at before
  · rw [OrientedCmp.eq_comm] at equal
    rcases before with before | ⟨-, before⟩
    · simp [equal] at before
    · exact String.lt_asymm before less

theorem sortBy_perm (records : List Record) :
    (sortBy keys nulls records).Perm records :=
  List.mergeSort_perm ..

theorem compareBy_ne_gt_iff (a b : Record) :
    (compareBy keys nulls a b != .gt) = true ↔
      (compareBy keys nulls a b).isLE = true := by
  cases compareBy keys nulls a b <;> decide

theorem compareBy_trans (a b c : Record)
    (first : (compareBy keys nulls a b != .gt) = true)
    (second : (compareBy keys nulls b c != .gt) = true) :
    (compareBy keys nulls a c != .gt) = true := by
  rw [compareBy_ne_gt_iff] at *
  exact TransCmp.isLE_trans first second

theorem compareBy_total (a b : Record) :
    (compareBy keys nulls a b != .gt || compareBy keys nulls b a != .gt) =
      true := by
  rw [@OrientedCmp.eq_swap _ (compareBy keys nulls) _ b]
  cases compareBy keys nulls a b <;> decide

theorem sortBy_stable (record : Record) (records : List Record) :
    (sortBy keys nulls records).filter
      (fun other => compareBy keys nulls record other = .eq) =
      records.filter fun other => compareBy keys nulls record other = .eq := by
  have level : (records.filter fun other =>
      compareBy keys nulls record other = .eq).Pairwise
      fun a b => (compareBy keys nulls a b != .gt) = true := by
    refine List.pairwise_of_forall_mem_list ?_
    intro a first b second
    simp only [List.mem_filter, decide_eq_true_eq] at first second
    rw [TransCmp.eq_trans (OrientedCmp.eq_symm first.2) second.2]
    rfl
  have kept := List.sublist_mergeSort (compareBy_trans keys nulls)
    (compareBy_total keys nulls) level List.filter_sublist
  have part :=
    kept.filter fun other => decide (compareBy keys nulls record other = .eq)
  rw [List.filter_filter] at part
  simp only [Bool.and_self] at part
  exact (part.eq_of_length
    ((sortBy_perm keys nulls records).filter _).length_eq.symm).symm

theorem sortBy_pairwise {records : List Record}
    (ascending : records.Pairwise fun a b => a.id < b.id) :
    (sortBy keys nulls records).Pairwise (Record.Before nulls keys) := by
  have sorted := List.pairwise_mergeSort (compareBy_trans keys nulls)
    (compareBy_total keys nulls) records
  rw [List.pairwise_iff_forall_sublist] at sorted ascending ⊢
  intro a b pair
  rw [Record.before_iff]
  cases order : compareBy keys nulls a b with
  | lt => exact .inl rfl
  | gt =>
      have least := sorted pair
      simp [order] at least
  | eq =>
      -- both are among the records that compare equal to the first, whose order
      -- is the old one
      have tied :=
        pair.filter fun other => decide (compareBy keys nulls a other = .eq)
      rw [sortBy_stable] at tied
      simp only [List.filter_cons, Std.ReflCmp.compare_self, order, decide_true,
        if_true, List.filter_nil] at tied
      exact .inr ⟨rfl, ascending (tied.trans List.filter_sublist)⟩

end RecordStore
