import RecordStore.Proofs.Deletion.Apply

namespace RecordStore

/-! What clearing leaves of an array of references. The plan tells records apart
by entity and id, but clearing drops every element whose id is that of some
record that goes: it keeps what it should exactly if no element has its id from
a record of another entity. -/

/-- The entities that the reference fields of one name point to. -/
def Schema.targetsOf (schema : Schema) (entity field : String) : List String :=
  match schema.entity? entity with
  | some owner => (owner.referenceFields.filter (·.name = field)).filterMap
    (schema.target? owner)
  | none => []

theorem filter_eq_filter_iff {α : Type} (p q : α → Bool) (items : List α) :
    items.filter p = items.filter q ↔ ∀ a ∈ items, p a = q a := by
  constructor
  · intro same a member
    have kept : a ∈ items.filter p ↔ a ∈ items.filter q := by rw [same]
    simp only [List.mem_filter, member, true_and] at kept
    exact Bool.eq_iff_iff.mpr kept
  · exact List.filter_congr

namespace DeletePlan

/-- An element has the id of a record that goes. -/
def dropsId (plan : DeletePlan) (item : Value) : Bool :=
  item.refId?.any plan.removedIds.contains

/-- An element refers to a record that goes, of an entity that the field points
to. -/
def drops (plan : DeletePlan) (schema : Schema) (cleared : FieldKey)
    (item : Value) : Bool :=
  item.refId?.any fun id =>
    (schema.targetsOf cleared.entity cleared.field).any fun target =>
      plan.gone.contains ⟨target, id⟩

/-- Afterwards an array to be cleared holds the elements that are not dropped,
in their order. -/
def Leaves (plan : DeletePlan) (dropped : FieldKey → Value → Bool)
    (before after : Store) : Prop :=
  ∀ cleared ∈ plan.cascade.cleared, ∀ old items,
    before.record? cleared.entity cleared.id = some old →
      old.attributes.value? cleared.field = some (.array items) →
      ∃ new, after.record? cleared.entity cleared.id = some new ∧
        new.attributes.value? cleared.field =
          some (.array (items.filter fun item => !dropped cleared item))

/-- An element of an array to be cleared has the id of a record that goes, but
no record that goes has it in an entity that the field points to. -/
def Confuses (plan : DeletePlan) (store : Store) : Prop :=
  ∃ cleared ∈ plan.cascade.cleared, ∃ old items item,
    store.record? cleared.entity cleared.id = some old ∧
    old.attributes.value? cleared.field = some (.array items) ∧ item ∈ items ∧
    plan.dropsId item = true ∧ plan.drops store.schema cleared item = false

theorem dropsId_of_drops {plan : DeletePlan} {schema : Schema}
    {cleared : FieldKey} {item : Value}
    (dropped : plan.drops schema cleared item = true) :
    plan.dropsId item = true := by
  rw [drops, Option.any_eq_true] at dropped
  obtain ⟨id, named, dropped⟩ := dropped
  obtain ⟨target, -, goes⟩ := List.any_eq_true.mp dropped
  have listed : id ∈ plan.removedIds := by
    rw [removedIds_eq]
    exact List.mem_map_of_mem (List.contains_iff_mem.mp goes)
  simp [dropsId, named, listed]

variable {plan : DeletePlan} {store : Store}

theorem Fits.leaves_dropsId (fits : plan.Fits store) (now : Instant) :
    plan.Leaves (fun _ => plan.dropsId) store (plan.apply store now).1 := by
  intro cleared listed old items stored held
  refine ⟨plan.effect now ⟨cleared.entity, cleared.id⟩ old, ?_, ?_⟩
  · rw [fits.record?_carriedOut now ⟨cleared.entity, cleared.id⟩, stored]
    rfl
  · rw [fits.value?_effect, if_pos listed, held]
    rfl

end DeletePlan

/-- Carrying out a plan drops from the arrays that it clears the elements with
the id of some record that goes. These are the elements that refer to such
records exactly if the plan confuses none with another. -/
theorem Store.leaves_drops_iff {store : Store} {entity id : String}
    {plan : DeletePlan} (planned : store.planDelete entity id = .ok plan)
    (now : Instant) :
    plan.Leaves (fun _ => plan.dropsId) store (plan.apply store now).1 ∧
      (plan.Leaves (plan.drops store.schema) store (plan.apply store now).1 ↔
        ¬plan.Confuses store) := by
  obtain ⟨-, -, fits⟩ := planDelete_fits planned
  have actual := fits.leaves_dropsId now
  refine ⟨actual, ?_, ?_⟩
  · rintro intended
      ⟨cleared, listed, old, items, item, stored, held, member, dropped, kept⟩
    obtain ⟨new, found, left⟩ := actual cleared listed old items stored held
    obtain ⟨other, again, right⟩ :=
      intended cleared listed old items stored held
    obtain rfl : new = other := Option.some.inj (found.symm.trans again)
    have same := Option.some.inj (left.symm.trans right)
    rw [Value.array.injEq, filter_eq_filter_iff] at same
    have differs := same item member
    simp [dropped, kept] at differs
  · intro distinct cleared listed old items stored held
    obtain ⟨new, found, left⟩ := actual cleared listed old items stored held
    refine ⟨new, found, ?_⟩
    rw [left, Option.some.injEq, Value.array.injEq, filter_eq_filter_iff]
    intro item member
    cases refers : plan.drops store.schema cleared item with
    | true => simp [DeletePlan.dropsId_of_drops refers]
    | false =>
        cases named : plan.dropsId item with
        | false => simp [named]
        | true =>
            exact absurd ⟨cleared, listed, old, items, item, stored, held,
              member, named, refers⟩ distinct

def Schema.library : Schema where
  entities := .ofList
    [⟨"d", "Author", [{ name := "name", type := ⟨.scalar .string, false⟩ }],
      []⟩,
      ⟨"d", "Book",
        [{ name := "author", type := ⟨.reference "Author", false⟩,
           declaredPolicy := some .cascade }], []⟩,
      ⟨"d", "Shelf",
        [{ name := "authors", type := ⟨.reference "Author", true⟩,
           declaredPolicy := some .setNull }], []⟩]

/-- Author 1 has book 2. A shelf refers to authors 1 and 2. -/
def Store.library : Store where
  schema := .library
  records := .ofList
    [⟨"d.Author", "1", 1, default, default, false, ∅⟩,
      ⟨"d.Author", "2", 1, default, default, false, ∅⟩,
      ⟨"d.Book", "2", 1, default, default, false,
        .ofList [("author", .atom (.ref "1"))]⟩,
      ⟨"d.Shelf", "3", 1, default, default, false,
        .ofList [("authors", .array [.atom (.ref "1"), .atom (.ref "2")])]⟩]

def DeletePlan.library : DeletePlan :=
  ⟨"d.Author", "1", [⟨"d.Book", "2"⟩], [⟨"d.Shelf", "3", "authors"⟩]⟩

theorem Store.library_planned :
    Store.library.planDelete "d.Author" "1" = .ok .library := by
  decide +kernel

theorem Store.library_confuses : DeletePlan.library.Confuses .library :=
  ⟨_, .head _, _, _, .atom (.ref "2"), rfl, rfl, by simp, by decide +kernel,
    by decide +kernel⟩

theorem Store.library_not_drops :
    DeletePlan.library.Leaves (fun _ => DeletePlan.library.dropsId) .library
        (DeletePlan.library.apply .library default).1 ∧
      ¬DeletePlan.library.Leaves (DeletePlan.library.drops .library) .library
        (DeletePlan.library.apply .library default).1 := by
  obtain ⟨actual, intended⟩ := leaves_drops_iff library_planned default
  exact ⟨actual, fun leaves => intended.mp leaves library_confuses⟩

/-- Author 2 is live after all, but the shelf does not refer to it any
longer. -/
theorem Store.not_always_drops :
    ¬∀ (store : Store) (entity id : String) (plan : DeletePlan),
      store.planDelete entity id = .ok plan →
        ∀ now, plan.Leaves (plan.drops store.schema) store
          (plan.apply store now).1 := by
  intro always
  obtain ⟨new, found, held⟩ :=
    always .library "d.Author" "1" .library library_planned default
      ⟨"d.Shelf", "3", "authors"⟩ (.head _) _ _ rfl rfl
  have emptied :
      ((DeletePlan.library.apply .library default).1.record? "d.Shelf" "3").bind
        (·.attributes.value? "authors") = some (.array []) := by decide +kernel
  rw [found, Option.bind_some, held] at emptied
  exact absurd emptied (by decide +kernel)

end RecordStore
