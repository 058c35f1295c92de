import Mathlib.Data.List.Nodup
import RecordStore.Index

namespace RecordStore

open Std (TransOrd LawfulEqOrd)

namespace Index

variable {α κ : Type} [Ord κ] {key : α → κ}

theorem ne_of_compare_ne_eq [LawfulEqOrd κ] {a b : κ}
    (unequal : compare a b ≠ .eq) : a ≠ b :=
  fun same => unequal (same ▸ Std.ReflCmp.compare_self)

theorem nodup_keys [LawfulEqOrd κ] (index : Index key) :
    (index.items.map key).Nodup := by
  rw [List.Nodup, List.pairwise_map]
  exact index.ascending.imp fun less => ne_of_compare_ne_eq (by simp [less])

theorem eq_of_key_eq [LawfulEqOrd κ] (index : Index key) {a b : α}
    (memberA : a ∈ index.items) (memberB : b ∈ index.items)
    (same : key a = key b) : a = b :=
  List.inj_on_of_nodup_map index.nodup_keys memberA memberB same

section

variable [TransOrd κ] [LawfulEqOrd κ]

theorem ext_mem {first second : Index key}
    (same : ∀ a, a ∈ first.items ↔ a ∈ second.items) : first = second := by
  have perm : first.items.Perm second.items :=
    (List.perm_ext_iff_of_nodup first.nodup_keys.of_map
      second.nodup_keys.of_map).mpr same
  refine ext_items (perm.eq_of_pairwise ?_ first.ascending second.ascending)
  intro a b _ _ less greater
  rw [Std.OrientedCmp.gt_of_lt less] at greater
  cases greater

theorem mem_insertInto (a x : α) {items : List α}
    (ascending : items.Pairwise fun a b => compare (key a) (key b) = .lt) :
    x ∈ insertInto key a items ↔ x = a ∨ x ∈ items ∧ key x ≠ key a := by
  induction items with
  | nil => simp [insertInto]
  | cons b rest ih =>
      obtain ⟨after, ascending⟩ := List.pairwise_cons.mp ascending
      have apart : ∀ y ∈ rest, compare (key a) (key b) ≠ .gt →
          key y ≠ key a := by
        intro y member notGreater same
        have less := after y member
        rw [same] at less
        exact notGreater (Std.OrientedCmp.gt_of_lt less)
      rw [insertInto]
      split
      next less =>
          have here : key b ≠ key a :=
            (ne_of_compare_ne_eq (by simp [less])).symm
          have rest := fun member => apart x member (by simp [less])
          simp only [List.mem_cons]
          constructor
          · rintro (rfl | rfl | member)
            · exact .inl rfl
            · exact .inr ⟨.inl rfl, here⟩
            · exact .inr ⟨.inr member, rest member⟩
          · rintro (rfl | ⟨member, -⟩)
            · exact .inl rfl
            · exact .inr member
      next equal =>
          have here : key a = key b := LawfulEqOrd.eq_of_compare equal
          have rest := fun member => apart x member (by simp [equal])
          simp only [List.mem_cons]
          constructor
          · rintro (rfl | member)
            · exact .inl rfl
            · exact .inr ⟨.inr member, rest member⟩
          · rintro (rfl | ⟨rfl | member, different⟩)
            · exact .inl rfl
            · exact absurd here.symm different
            · exact .inr member
      next greater =>
          have here : key b ≠ key a :=
            (ne_of_compare_ne_eq (by simp [greater])).symm
          rw [List.mem_cons, ih ascending, List.mem_cons]
          constructor
          · rintro (rfl | rfl | ⟨member, different⟩)
            · exact .inr ⟨.inl rfl, here⟩
            · exact .inl rfl
            · exact .inr ⟨.inr member, different⟩
          · rintro (rfl | ⟨rfl | member, different⟩)
            · exact .inr (.inl rfl)
            · exact .inl rfl
            · exact .inr (.inr ⟨member, different⟩)

theorem mem_insert (index : Index key) (a x : α) :
    x ∈ (index.insert a).items ↔ x = a ∨ x ∈ index.items ∧ key x ≠ key a :=
  mem_insertInto a x index.ascending

theorem mem_insertAll (index : Index key) {items : List α}
    (distinct : (items.map key).Nodup) (x : α) :
    x ∈ (index.insertAll items).items ↔
      x ∈ items ∨ x ∈ index.items ∧ key x ∉ items.map key := by
  induction items generalizing index with
  | nil => simp [insertAll]
  | cons a rest ih =>
      obtain ⟨absent, distinct⟩ := List.nodup_cons.mp distinct
      change x ∈ ((index.insert a).insertAll rest).items ↔ _
      rw [ih _ distinct, mem_insert, List.mem_cons, List.map_cons,
        List.mem_cons, not_or]
      constructor
      · rintro (later | ⟨rfl | ⟨member, different⟩, unlisted⟩)
        · exact .inl (.inr later)
        · exact .inl (.inl rfl)
        · exact .inr ⟨member, different, unlisted⟩
      · rintro ((rfl | later) | ⟨member, different, unlisted⟩)
        · exact .inr ⟨.inl rfl, absent⟩
        · exact .inl later
        · exact .inr ⟨.inr ⟨member, different⟩, unlisted⟩

theorem mem_ofList {items : List α} (distinct : (items.map key).Nodup) (x : α) :
    x ∈ (ofList items : Index key).items ↔ x ∈ items := by
  rw [ofList, mem_insertAll _ distinct]
  simp

end

variable [DecidableEq κ]

theorem get?_eq_some_iff [LawfulEqOrd κ] (index : Index key) (k : κ) (a : α) :
    index.get? k = some a ↔ a ∈ index.items ∧ key a = k := by
  constructor
  · intro found
    exact ⟨List.mem_of_find?_eq_some found,
      by simpa using List.find?_some found⟩
  · rintro ⟨member, rfl⟩
    cases found : index.get? (key a) with
    | none =>
        have missed := List.find?_eq_none.mp found a member
        simp at missed
    | some b =>
        have same : key b = key a := by simpa using List.find?_some found
        rw [index.eq_of_key_eq (List.mem_of_find?_eq_some found) member same]

variable [TransOrd κ] [LawfulEqOrd κ]

theorem get?_insert (index : Index key) (a : α) (k : κ) :
    (index.insert a).get? k = if key a = k then some a else index.get? k := by
  ext x
  rw [get?_eq_some_iff, mem_insert]
  split
  next here =>
      simp only [Option.some.injEq]
      constructor
      · rintro ⟨rfl | ⟨-, different⟩, same⟩
        · rfl
        · exact absurd (same.trans here.symm) different
      · rintro rfl
        exact ⟨.inl rfl, here⟩
  next elsewhere =>
      rw [get?_eq_some_iff]
      constructor
      · rintro ⟨rfl | ⟨member, -⟩, same⟩
        · exact absurd same elsewhere
        · exact ⟨member, same⟩
      · rintro ⟨member, rfl⟩
        exact ⟨.inr ⟨member, fun same => elsewhere same.symm⟩, rfl⟩

theorem get?_insertAll (index : Index key) {items : List α}
    (distinct : (items.map key).Nodup) (k : κ) :
    (index.insertAll items).get? k =
      (items.find? fun a => decide (key a = k)).or (index.get? k) := by
  induction items generalizing index with
  | nil => rfl
  | cons a rest ih =>
      obtain ⟨absent, distinct⟩ := List.nodup_cons.mp distinct
      change ((index.insert a).insertAll rest).get? k = _
      rw [ih _ distinct, get?_insert, List.find?_cons]
      by_cases here : key a = k
      · have none : rest.find? (fun a => decide (key a = k)) = none := by
          rw [List.find?_eq_none]
          intro b member same
          rw [decide_eq_true_eq, ← here] at same
          exact absent (same ▸ List.mem_map_of_mem member)
        simp [here, none]
      · simp [here]

end Index

namespace Fields

variable {α : Type} (fields : Fields α)

@[simp] theorem value?_empty (name : String) :
    (∅ : Fields α).value? name = none := rfl

theorem value?_eq_some_iff (name : String) (a : α) :
    fields.value? name = some a ↔ (name, a) ∈ fields.items := by
  rw [value?, Option.map_eq_some_iff]
  constructor
  · rintro ⟨⟨_, _⟩, found, rfl⟩
    obtain ⟨member, rfl⟩ := (Index.get?_eq_some_iff ..).mp found
    exact member
  · intro member
    exact ⟨(name, a), (Index.get?_eq_some_iff ..).mpr ⟨member, rfl⟩, rfl⟩

theorem ext_value? {others : Fields α}
    (same : ∀ name, fields.value? name = others.value? name) :
    fields = others := by
  refine Index.ext_mem fun (name, a) => ?_
  rw [← value?_eq_some_iff, ← value?_eq_some_iff, same]

theorem contains_eq_isSome (name : String) :
    fields.contains name = (fields.value? name).isSome := by
  rw [Index.contains, value?, Option.isSome_map]

theorem contains_iff_exists (name : String) :
    fields.contains name = true ↔ ∃ a, fields.value? name = some a := by
  rw [contains_eq_isSome, Option.isSome_iff_exists]

theorem contains_eq_false_iff (name : String) :
    fields.contains name = false ↔ fields.value? name = none := by
  rw [contains_eq_isSome, Option.isSome_eq_false_iff, Option.isNone_iff_eq_none]

theorem value?_erase_of_ne {name other : String} (different : other ≠ name) :
    Fields.value? (fields.erase name) other = fields.value? other := by
  ext a
  rw [value?_eq_some_iff, value?_eq_some_iff, Index.erase, Index.items_filter,
    List.mem_filter]
  simp [different]

theorem value?_put (name : String) (a : α) (other : String) :
    (fields.put name a).value? other =
      if name = other then some a else fields.value? other := by
  rw [value?, put, Index.get?_insert]
  split <;> rfl

theorem value?_merge (changes : Fields α) (name : String) :
    (fields.merge changes).value? name =
      (changes.value? name).or (fields.value? name) := by
  rw [merge, value?, Index.get?_insertAll _ changes.nodup_keys]
  change Option.map _ ((changes.get? name).or (fields.get? name)) = _
  rw [Option.map_or]
  rfl

theorem merge_eq_right {changes : Fields α}
    (covers : ∀ name a, fields.value? name = some a →
      (changes.value? name).isSome) :
    fields.merge changes = changes := by
  refine ext_value? _ fun name => ?_
  rw [value?_merge]
  cases changed : changes.value? name with
  | some a => rfl
  | none =>
      cases kept : fields.value? name with
      | none => rfl
      | some a => simpa [changed] using covers name a kept

theorem forall_merge {P : String → α → Prop} {changes : Fields α}
    (old : ∀ name a, fields.value? name = some a → P name a)
    (new : ∀ name a, changes.value? name = some a → P name a) (name : String)
    (a : α) (found : (fields.merge changes).value? name = some a) :
    P name a := by
  rw [value?_merge, Option.or_eq_some_iff] at found
  rcases found with changed | ⟨-, kept⟩
  · exact new name a changed
  · exact old name a kept

end Fields

end RecordStore
