namespace RecordStore

open Std (TransOrd LawfulEqOrd OrientedOrd)

variable {α κ : Type} [Ord κ]

/-! Ascending collections: items kept in strictly ascending order of a key, so
each key occurs at most once and two collections with the same items are
equal. -/

structure Index (key : α → κ) where
  items : List α
  ascending : items.Pairwise fun a b => compare (key a) (key b) = .lt

namespace Index

def insertInto (key : α → κ) (a : α) : List α → List α
  | [] => [a]
  | b :: rest =>
    match compare (key a) (key b) with
    | .lt => a :: b :: rest
    | .eq => a :: rest
    | .gt => b :: insertInto key a rest

theorem eq_or_mem_of_mem_insertInto {key : α → κ} {a x : α} {l : List α}
    (h : x ∈ insertInto key a l) : x = a ∨ x ∈ l := by
  induction l with
  | nil => simpa [insertInto] using h
  | cons b rest ih =>
    rw [insertInto] at h
    split at h
    · simpa using h
    · rcases List.mem_cons.mp h with h | h
      · exact .inl h
      · exact .inr (List.mem_cons_of_mem _ h)
    · rcases List.mem_cons.mp h with h | h
      · exact .inr (by simp [h])
      · exact (ih h).imp_right (List.mem_cons_of_mem _)

theorem pairwise_insertInto [TransOrd κ] {key : α → κ} {a : α} {l : List α}
    (h : l.Pairwise fun a b => compare (key a) (key b) = .lt) :
    (insertInto key a l).Pairwise fun a b => compare (key a) (key b) = .lt := by
  induction l with
  | nil => simp [insertInto]
  | cons b rest ih =>
    obtain ⟨hb, hrest⟩ := List.pairwise_cons.mp h
    rw [insertInto]
    split
    next hlt =>
      refine List.pairwise_cons.mpr ⟨fun x hx => ?_, h⟩
      rcases List.mem_cons.mp hx with rfl | hx
      · exact hlt
      · exact Std.TransCmp.lt_trans hlt (hb x hx)
    next heq =>
      exact List.pairwise_cons.mpr
        ⟨fun x hx => Std.TransCmp.lt_of_eq_of_lt heq (hb x hx), hrest⟩
    next hgt =>
      refine List.pairwise_cons.mpr ⟨fun x hx => ?_, ih hrest⟩
      rcases eq_or_mem_of_mem_insertInto hx with rfl | hx
      · exact Std.OrientedCmp.lt_of_gt hgt
      · exact hb x hx

variable {key : α → κ}

def empty : Index key := ⟨[], .nil⟩

instance : EmptyCollection (Index key) := ⟨empty⟩

instance : Inhabited (Index key) := ⟨empty⟩

/-- Puts `a` at its place; an item with the same key gives way. -/
def insert [TransOrd κ] (index : Index key) (a : α) : Index key :=
  ⟨insertInto key a index.items, pairwise_insertInto index.ascending⟩

def filter (index : Index key) (p : α → Bool) : Index key :=
  ⟨index.items.filter p, index.ascending.filter p⟩

/-- Inserts from left to right, so the last item of a key stays. -/
def insertAll [TransOrd κ] (index : Index key) (items : List α) : Index key :=
  items.foldl insert index

def ofList [TransOrd κ] (items : List α) : Index key :=
  (empty : Index key).insertAll items

section lookup

variable [DecidableEq κ]

def get? (index : Index key) (k : κ) : Option α :=
  index.items.find? fun a => decide (key a = k)

def contains (index : Index key) (k : κ) : Bool :=
  (index.get? k).isSome

def erase (index : Index key) (k : κ) : Index key :=
  index.filter fun a => decide (key a ≠ k)

def modify [TransOrd κ] (index : Index key) (k : κ) (f : α → α) : Index key :=
  match index.get? k with
  | some a => index.insert (f a)
  | none => index

end lookup

@[simp] theorem items_empty : (empty : Index key).items = [] := rfl

@[simp] theorem items_insert [TransOrd κ] (index : Index key) (a : α) :
    (index.insert a).items = insertInto key a index.items := rfl

@[simp] theorem items_filter (index : Index key) (p : α → Bool) :
    (index.filter p).items = index.items.filter p := rfl

theorem ext_items : {a b : Index key} → a.items = b.items → a = b
  | ⟨_, _⟩, ⟨_, _⟩, rfl => rfl

instance [DecidableEq α] : DecidableEq (Index key) := fun a b =>
  decidable_of_iff (a.items = b.items) ⟨ext_items, fun h => h ▸ rfl⟩

end Index

/-! Named entries: the attributes of a record, the members of a payload. -/

abbrev Fields (α : Type) := Index (Prod.fst : String × α → String)

namespace Fields

variable {α : Type}

def value? (fields : Fields α) (name : String) : Option α :=
  (fields.get? name).map Prod.snd

def put (fields : Fields α) (name : String) (a : α) : Fields α :=
  fields.insert (name, a)

def names (fields : Fields α) : List String :=
  fields.items.map Prod.fst

/-- Entries of `changes` win over those already there. -/
def merge (fields changes : Fields α) : Fields α :=
  fields.insertAll changes.items

end Fields

end RecordStore
