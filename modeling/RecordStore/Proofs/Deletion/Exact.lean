import RecordStore.Proofs.Deletion.Plan

namespace RecordStore

theorem foldlM_stops {ε α β : Type} {f : β → α → Except ε β} {items : List α}
    {x : β} {error : ε} (failed : items.foldlM f x = .error error) :
    ∃ before a after y, items = before ++ a :: after ∧
      before.foldlM f x = .ok y ∧ f y a = .error error := by
  induction items generalizing x with
  | nil => cases failed
  | cons a rest ih =>
      rw [List.foldlM_cons] at failed
      cases first : f x a with
      | error other =>
          rw [first, error_bind] at failed
          cases failed
          exact ⟨[], a, rest, x, rfl, rfl, first⟩
      | ok middle =>
          rw [first, ok_bind] at failed
          obtain ⟨before, b, after, y, rfl, passed, later⟩ := ih failed
          refine ⟨a :: before, b, after, y, rfl, ?_, later⟩
          rw [List.foldlM_cons, first, ok_bind, passed]

theorem foldlM_eq_error {ε α β : Type} {f : β → α → Except ε β} {items : List α}
    {x : β} {error : ε} (failed : items.foldlM f x = .error error) :
    ∃ a ∈ items, ∃ y, f y a = .error error := by
  obtain ⟨before, a, after, y, rfl, -, here⟩ := foldlM_stops failed
  exact ⟨a, by simp, y, here⟩

namespace Store

/-- The least set of records that holds the target and, with a record, every
live one that refers to it through a cascading field. -/
inductive Goes (store : Store) (target : RecordKey) : RecordKey → Prop where
  | target : Goes store target target
  | along {key : RecordKey} {entity : Entity} {field : Field} {record : Record}
      (goes : Goes store target key)
      (refers : store.Refers key entity field record)
      (cascading : field.policy = .cascade) :
      Goes store target ⟨entity.fullName, record.id⟩

theorem cascades_iff (store : Store) (key other : RecordKey) :
    store.Cascades key other ↔
      ∃ entity field record, store.Refers key entity field record ∧
        field.policy = .cascade ∧ other = ⟨entity.fullName, record.id⟩ := by
  simp only [Cascades, mem_referencesTo_iff]
  constructor
  · rintro ⟨-, ⟨entity, field, record, refers, rfl⟩, cascading, rfl⟩
    exact ⟨entity, field, record, refers, cascading, rfl⟩
  · rintro ⟨entity, field, record, refers, cascading, rfl⟩
    exact ⟨_, ⟨entity, field, record, refers, rfl⟩, cascading, rfl⟩

theorem goes_of_reached {store : Store} {target key : RecordKey}
    (reached : Relation.ReflTransGen store.Cascades target key) :
    store.Goes target key := by
  induction reached with
  | refl => exact .target
  | tail _ brings goes =>
      obtain ⟨entity, field, record, refers, cascading, rfl⟩ :=
        (store.cascades_iff ..).mp brings
      exact .along goes refers cascading

theorem mem_iff_goes {store : Store} {target : RecordKey}
    {gone : List RecordKey} (starts : target ∈ gone)
    (reached : ∀ key ∈ gone, Relation.ReflTransGen store.Cascades target key)
    (closed : ∀ key ∈ gone, ∀ next, store.Cascades key next → next ∈ gone)
    (key : RecordKey) : key ∈ gone ↔ store.Goes target key := by
  constructor
  · intro member
    exact goes_of_reached (reached key member)
  · intro goes
    induction goes with
    | target => exact starts
    | along _ refers cascading member =>
        exact closed _ member _
          ((store.cascades_iff ..).mpr ⟨_, _, _, refers, cascading, rfl⟩)

theorem mem_collect_iff {store : Store} {room : Nat} {target : RecordKey}
    {gone : List RecordKey}
    (collected : store.collect room [] target = .ok gone) (key : RecordKey) :
    key ∈ gone ↔ store.Goes target key := by
  obtain ⟨collects, added⟩ := collect_collects collected
  refine mem_iff_goes ?_ ?_ ?_ key
  · exact (added.resolve_left (by simp)).subset (by simp)
  · intro other member
    exact (collects.reached other member).resolve_left (by simp)
  · intro other member
    exact collects.closed other member (by simp)

theorem collect_error {store : Store} {room : Nat} {collected : List RecordKey}
    {key : RecordKey} {error : StoreError}
    (failed : store.collect room collected key = .error error) :
    error = .cascadeTooDeep (maxCascadeDepth + 1) := by
  induction room generalizing collected key with
  | zero =>
      cases failed
      rfl
  | succ room ih =>
      rw [collect] at failed
      split at failed
      next => cases failed
      next =>
          obtain ⟨reference, -, before, failed⟩ := foldlM_eq_error failed
          exact ih failed

theorem settle_error {gone : List RecordKey} {key : RecordKey}
    {cleared : List FieldKey} {reference : Reference} {error : StoreError}
    (failed : settle gone key cleared reference = .error error) :
    reference.holder ∉ gone ∧ reference.policy = .restrict ∧
      error = .restricted key.entity key.id reference.entity
        reference.field := by
  rw [settle] at failed
  split at failed
  next => cases failed
  next stays =>
      refine ⟨by simpa using stays, ?_⟩
      cases policy : reference.policy with
      | restrict =>
          rw [policy] at failed
          cases failed
          exact ⟨rfl, rfl⟩
      | setNull | cascade => simp [policy] at failed

/-- The error names a record that is to go, and a restricting field through
which a live record that stays refers to it. -/
def Restricts (store : Store) (target : RecordKey) (error : StoreError) :
    Prop :=
  ∃ key entity field record, store.Goes target key ∧
    store.Refers key entity field record ∧
    field.policy = .restrict ∧ ¬store.Goes target ⟨entity.fullName, record.id⟩ ∧
    error = .restricted key.entity key.id entity.fullName field.name

theorem planDelete_error_cases {store : Store} {entity id : String}
    {error : StoreError} (failed : store.planDelete entity id = .error error) :
    store.collect (maxCascadeDepth + 1) [] ⟨entity, id⟩ = .error error ∨
      store.Restricts ⟨entity, id⟩ error := by
  rw [planDelete] at failed
  cases collected : store.collect (maxCascadeDepth + 1) [] ⟨entity, id⟩ with
  | error other =>
      rw [collected, error_bind] at failed
      cases failed
      exact .inl rfl
  | ok gone =>
      rw [collected, ok_bind] at failed
      cases settled : gone.foldlM (store.settleAll gone) [] with
      | ok cleared =>
          rw [settled, ok_bind] at failed
          cases failed
      | error other =>
          rw [settled, error_bind] at failed
          cases failed
          obtain ⟨key, goes, before, failed⟩ := foldlM_eq_error settled
          obtain ⟨reference, listed, before, failed⟩ := foldlM_eq_error failed
          obtain ⟨stays, policy, rfl⟩ := settle_error failed
          obtain ⟨owner, field, record, refers, rfl⟩ :=
            (store.mem_referencesTo_iff ..).mp listed
          rw [mem_collect_iff collected] at goes stays
          exact .inr
            ⟨key, owner, field, record, goes, refers, policy, stays, rfl⟩

theorem planDelete_error {store : Store} {entity id : String}
    {error : StoreError} (failed : store.planDelete entity id = .error error) :
    error = .cascadeTooDeep (maxCascadeDepth + 1) ∨
      store.Restricts ⟨entity, id⟩ error :=
  (planDelete_error_cases failed).imp_left collect_error

end Store

/-- The plan lists what goes with the target, once each, and the fields that are
to be cleared for it, once each; no live record that stays refers to what goes
through a restricting field. -/
structure DeletePlan.Exact (plan : DeletePlan) (store : Store)
    (target : RecordKey) : Prop where
  own : ⟨plan.entity, plan.id⟩ = target
  nodup : (target :: plan.cascade.deleted).Nodup
  mem_iff : ∀ key, key ∈ target :: plan.cascade.deleted ↔ store.Goes target key
  nodup_cleared : plan.cascade.cleared.Nodup
  cleared_iff :
    ∀ cleared, cleared ∈ plan.cascade.cleared ↔
      ∃ key entity field record, store.Goes target key ∧
        store.Refers key entity field record ∧ field.policy = .setNull ∧
        ¬store.Goes target ⟨entity.fullName, record.id⟩ ∧
        cleared = ⟨entity.fullName, record.id, field.name⟩
  unrestricted : ∀ key entity field record, store.Goes target key →
    store.Refers key entity field record → field.policy = .restrict →
      store.Goes target ⟨entity.fullName, record.id⟩

theorem DeletePlan.Fits.mem_gone_iff {plan : DeletePlan} {store : Store}
    (fits : plan.Fits store) (key : RecordKey) :
    key ∈ plan.gone ↔ store.Goes ⟨plan.entity, plan.id⟩ key := by
  refine Store.mem_iff_goes (List.mem_cons_self ..) fits.reached ?_ key
  rintro other goes - ⟨reference, listed, cascading, rfl⟩
  refine (fits.settled other goes reference listed).resolve_right ?_
  rintro ⟨policy, -⟩
  rw [cascading] at policy
  cases policy

theorem DeletePlan.Fits.exact {plan : DeletePlan} {store : Store}
    (fits : plan.Fits store) : plan.Exact store ⟨plan.entity, plan.id⟩ where
  own := rfl
  nodup := fits.nodup
  mem_iff := fits.mem_gone_iff
  nodup_cleared := fits.nodup_cleared
  cleared_iff := by
    intro cleared
    constructor
    · intro member
      obtain ⟨stays, key, goes, entity, field, record, refers, policy, own, id,
        name⟩ :=
        fits.refers_of_cleared member
      rw [fits.mem_gone_iff] at goes stays
      rw [own, id] at stays
      refine ⟨key, entity, field, record, goes, refers, policy, stays, ?_⟩
      rw [← own, ← id, ← name]
    · rintro ⟨key, entity, field, record, goes, refers, policy, stays, rfl⟩
      rw [← fits.mem_gone_iff] at goes stays
      have listed :=
        (store.mem_referencesTo_iff ..).mpr ⟨entity, field, record, refers, rfl⟩
      exact ((fits.settled key goes _ listed).resolve_left stays).2
  unrestricted := by
    intro key entity field record goes refers policy
    rw [← fits.mem_gone_iff] at goes ⊢
    have listed :=
      (store.mem_referencesTo_iff ..).mpr ⟨entity, field, record, refers, rfl⟩
    refine (fits.settled key goes _ listed).resolve_right ?_
    rintro ⟨clears, -⟩
    rw [show field.policy = .setNull from clears] at policy
    cases policy

/-- A deletion is planned exactly, or refused because a record that stays
restricts it, or because its search goes too deep. -/
theorem Store.planDelete_exact (store : Store) (entity id : String) :
    match store.planDelete entity id with
    | .ok plan => plan.Exact store ⟨entity, id⟩
    | .error error =>
      error = .cascadeTooDeep (maxCascadeDepth + 1) ∨
        store.Restricts ⟨entity, id⟩ error := by
  cases planned : store.planDelete entity id with
  | error error => exact planDelete_error planned
  | ok plan =>
      obtain ⟨rfl, rfl, fits⟩ := planDelete_fits planned
      exact fits.exact

/-- Books go with their author; a loan keeps both. -/
def Schema.loans : Schema where
  entities := .ofList
    [⟨"d", "Author",
        [{ name := "mentor", type := ⟨.reference "Author", false⟩,
           declaredPolicy := some .setNull }], []⟩,
      ⟨"d", "Book",
        [{ name := "author", type := ⟨.reference "Author", false⟩,
           declaredPolicy := some .cascade }], []⟩,
      ⟨"d", "Loan",
        [{ name := "book", type := ⟨.reference "Book", false⟩,
           declaredPolicy := some .restrict }], []⟩]

/-- Author 1, the mentor of author 2, has book 3; author 2 has book 4, which
is on loan. -/
def Store.loans : Store where
  schema := .loans
  records := .ofList
    [⟨"d.Author", "1", 1, default, default, false, ∅⟩,
      ⟨"d.Author", "2", 1, default, default, false,
        .ofList [("mentor", .atom (.ref "1"))]⟩,
      ⟨"d.Book", "3", 1, default, default, false,
        .ofList [("author", .atom (.ref "1"))]⟩,
      ⟨"d.Book", "4", 1, default, default, false,
        .ofList [("author", .atom (.ref "2"))]⟩,
      ⟨"d.Loan", "5", 1, default, default, false,
        .ofList [("book", .atom (.ref "4"))]⟩]

example :
    Store.loans.planDelete "d.Author" "1" = .ok
      ⟨"d.Author", "1", [⟨"d.Book", "3"⟩], [⟨"d.Author", "2", "mentor"⟩]⟩ := by
  decide +kernel

example : Store.loans.planDelete "d.Author" "2" =
    .error (.restricted "d.Book" "4" "d.Loan" "book") := by
  decide +kernel

end RecordStore
