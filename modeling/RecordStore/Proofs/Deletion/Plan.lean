import Mathlib.Logic.Relation
import RecordStore.Proofs.Reference

namespace RecordStore

/-! What a plan of deletion lists. The search collects the target with all that
cascading references bring along, each once; the second pass lists every other
reference to what is collected, to be cleared. -/

/-- A fold of steps that may fail takes the relation of its steps from start to
end, and what each step establishes for its own item lasts. -/
theorem foldlM_relates {ε α β : Type} {f : β → α → Except ε β}
    {R : β → β → Prop} {Q : α → β → Prop} (refl : ∀ x, R x x)
    (trans : ∀ {x y z}, R x y → R y z → R x z)
    (lasts : ∀ {a x y}, R x y → Q a x → Q a y) {items : List α}
    (step : ∀ a ∈ items, ∀ x y, f x a = .ok y → R x y ∧ Q a y) {x y : β}
    (folded : items.foldlM f x = .ok y) : R x y ∧ ∀ a ∈ items, Q a y := by
  induction items generalizing x with
  | nil =>
      cases folded
      exact ⟨refl _, by simp⟩
  | cons a rest ih =>
      rw [List.foldlM_cons, bind_eq_ok_iff] at folded
      obtain ⟨middle, first, folded⟩ := folded
      obtain ⟨toMiddle, here⟩ := step a (by simp) x middle first
      obtain ⟨toEnd, others⟩ :=
        ih (fun b member => step b (by simp [member])) folded
      refine ⟨trans toMiddle toEnd, ?_⟩
      intro b member
      rcases List.mem_cons.mp member with rfl | member
      · exact lasts toEnd here
      · exact others b member

/-- All records that go: the target first, then those that go along. -/
def DeletePlan.gone (plan : DeletePlan) : List RecordKey :=
  ⟨plan.entity, plan.id⟩ :: plan.cascade.deleted

theorem DeletePlan.removedIds_eq (plan : DeletePlan) :
    plan.removedIds = plan.gone.map RecordKey.id := rfl

namespace Store

/-- The deletion of one record brings along the deletion of another. -/
def Cascades (store : Store) (key other : RecordKey) : Prop :=
  ∃ reference ∈ store.referencesTo key.entity key.id,
    reference.policy = .cascade ∧ reference.holder = other

structure Collects (store : Store) (key : RecordKey)
    (before after : List RecordKey) : Prop where
  kept : before <+: after
  nodup : before.Nodup → after.Nodup
  reached : ∀ other ∈ after, other ∈ before ∨
    Relation.ReflTransGen store.Cascades key other
  closed : ∀ other ∈ after, other ∉ before →
    ∀ next, store.Cascades other next → next ∈ after

theorem Collects.refl (store : Store) (key : RecordKey)
    (keys : List RecordKey) : store.Collects key keys keys :=
  ⟨List.prefix_rfl, id, fun _ member => .inl member,
    fun _ member new => absurd member new⟩

theorem Collects.trans {store : Store} {key : RecordKey}
    {first second third : List RecordKey}
    (left : store.Collects key first second)
    (right : store.Collects key second third) :
    store.Collects key first third where
  kept := left.kept.trans right.kept
  nodup := right.nodup ∘ left.nodup
  reached := by
    intro other member
    rcases right.reached other member with member | reached
    · exact left.reached other member
    · exact .inr reached
  closed := by
    intro other member new next brings
    by_cases middle : other ∈ second
    · exact right.kept.subset (left.closed other middle new next brings)
    · exact right.closed other member middle next brings

theorem Collects.of_cascades {store : Store} {key holder : RecordKey}
    {before after : List RecordKey} (brings : store.Cascades key holder)
    (collects : store.Collects holder before after) :
    store.Collects key before after where
  kept := collects.kept
  nodup := collects.nodup
  reached := by
    intro other member
    rcases collects.reached other member with old | reached
    · exact .inl old
    · exact .inr (.head brings reached)
  closed := collects.closed

theorem Collects.of_added {store : Store} {key : RecordKey}
    {before after : List RecordKey} (new : key ∉ before)
    (collects : store.Collects key (before ++ [key]) after)
    (brought : ∀ next, store.Cascades key next → next ∈ after) :
    store.Collects key before after where
  kept := (List.prefix_append ..).trans collects.kept
  nodup := by
    intro distinct
    apply collects.nodup
    rw [← List.concat_eq_append]
    exact .concat new distinct
  reached := by
    intro other member
    rcases collects.reached other member with old | reached
    · rcases List.mem_append.mp old with old | own
      · exact .inl old
      · rw [List.mem_singleton] at own
        exact .inr (own ▸ .refl)
    · exact .inr reached
  closed := by
    intro other member absent next brings
    by_cases own : other = key
    · subst own
      exact brought next brings
    · exact collects.closed other member (by simp [absent, own]) next brings

theorem collect_collects {store : Store} {room : Nat}
    {collected result : List RecordKey} {key : RecordKey}
    (found : store.collect room collected key = .ok result) :
    store.Collects key collected result ∧
      (key ∈ collected ∨ collected ++ [key] <+: result) := by
  -- on the depth that is left: each reference searches with one less
  induction room generalizing collected result key with
  | zero => simp [collect] at found
  | succ room ih =>
      rw [collect] at found
      split at found
      next old =>
          cases found
          exact ⟨.refl store key collected, .inl (by simpa using old)⟩
      next new =>
          have new : key ∉ collected := by simpa using new
          obtain ⟨collects, holders⟩ :=
            foldlM_relates (R := store.Collects key) (Q := fun reference keys =>
              reference.holder ∈ keys) (Collects.refl store key) Collects.trans
              (fun grown member => grown.kept.subset member)
              (fun reference member before after searched => by
                obtain ⟨listed, cascading⟩ := List.mem_filter.mp member
                obtain ⟨collects, holder⟩ := ih searched
                refine ⟨collects.of_cascades
                  ⟨reference, listed, by simpa using cascading, rfl⟩, ?_⟩
                rcases holder with old | added
                · exact collects.kept.subset old
                · exact added.subset (by simp))
              found
          refine ⟨collects.of_added new ?_, .inr collects.kept⟩
          rintro next ⟨reference, listed, cascading, rfl⟩
          exact holders reference (by simp [listed, cascading])

theorem live?_of_reached {store : Store} {key other : RecordKey}
    (reached : Relation.ReflTransGen store.Cascades key other) :
    other = key ∨
      ∃ record, store.live? other.entity other.id = some record := by
  cases reached with
  | refl => exact .inl rfl
  | tail _ brings =>
      obtain ⟨reference, listed, -, rfl⟩ := brings
      exact .inr (live?_holder _ listed)

structure Settles (store : Store) (gone : List RecordKey)
    (before after : List FieldKey) : Prop where
  kept : ∀ field ∈ before, field ∈ after
  nodup : before.Nodup → after.Nodup
  justified :
    ∀ field ∈ after, field ∈ before ∨
      ∃ key ∈ gone, ∃ reference ∈ store.referencesTo key.entity key.id,
        reference.policy = .setNull ∧ reference.holder ∉ gone ∧
          reference.cleared = field

theorem Settles.refl (store : Store) (gone : List RecordKey)
    (fields : List FieldKey) : store.Settles gone fields fields :=
  ⟨fun _ member => member, id, fun _ member => .inl member⟩

theorem Settles.trans {store : Store} {gone : List RecordKey}
    {first second third : List FieldKey}
    (left : store.Settles gone first second)
    (right : store.Settles gone second third) :
    store.Settles gone first third where
  kept := fun field member => right.kept field (left.kept field member)
  nodup := right.nodup ∘ left.nodup
  justified := by
    intro field member
    rcases right.justified field member with member | justified
    · exact left.justified field member
    · exact .inr justified

/-- A reference needs nothing more: its record goes too, or its field is
listed. -/
def Settled (gone : List RecordKey) (reference : Reference)
    (cleared : List FieldKey) : Prop :=
  reference.policy ≠ .cascade → reference.holder ∈ gone ∨
    reference.policy = .setNull ∧ reference.cleared ∈ cleared

theorem Settled.mono {gone : List RecordKey} {reference : Reference}
    {before after : List FieldKey} (kept : ∀ field ∈ before, field ∈ after)
    (settled : Settled gone reference before) :
    Settled gone reference after := by
  intro policy
  exact (settled policy).imp_right fun listed => ⟨listed.1, kept _ listed.2⟩

theorem settle_settles {store : Store} {gone : List RecordKey} {key : RecordKey}
    (goes : key ∈ gone) {reference : Reference}
    (listed : reference ∈ store.referencesTo key.entity key.id)
    {before after : List FieldKey}
    (done : settle gone key before reference = .ok after) :
    store.Settles gone before after ∧ Settled gone reference after := by
  rw [settle] at done
  split at done
  next along =>
      cases done
      exact ⟨.refl .., fun _ => .inl (by simpa using along)⟩
  next stays =>
      have stays : reference.holder ∉ gone := by simpa using stays
      cases policy : reference.policy with
      | restrict => simp [policy] at done
      | cascade =>
          rw [policy] at done
          cases done
          exact ⟨.refl .., fun noncascading => absurd policy noncascading⟩
      | setNull =>
          simp only [policy, Except.ok.injEq] at done
          by_cases present : reference.cleared ∈ before
          · have same : before = after := by simpa [present] using done
            subst same
            exact ⟨.refl .., fun _ => .inr ⟨policy, present⟩⟩
          · have added : before ++ [reference.cleared] = after := by
              simpa [present] using done
            subst added
            refine ⟨⟨fun field member => by simp [member], ?_, ?_⟩,
              fun _ => .inr ⟨policy, by simp⟩⟩
            · intro distinct
              rw [← List.concat_eq_append]
              exact .concat present distinct
            · intro field member
              rcases List.mem_append.mp member with old | own
              · exact .inl old
              · rw [List.mem_singleton] at own
                exact .inr
                  ⟨key, goes, reference, listed, policy, stays, own.symm⟩

theorem settleAll_settles {store : Store} {gone : List RecordKey}
    {key : RecordKey} (goes : key ∈ gone) {before after : List FieldKey}
    (done : store.settleAll gone before key = .ok after) :
    store.Settles gone before after ∧
      ∀ reference ∈ store.referencesTo key.entity key.id,
        Settled gone reference after :=
  foldlM_relates (R := store.Settles gone) (Q := Settled gone)
    (Settles.refl store gone) Settles.trans
    (fun grown settled => settled.mono grown.kept)
    (fun _ listed _ _ settled => settle_settles goes listed settled) done

end Store

/-- A plan lists what goes with its target, none twice, and the fields to be
cleared, none twice; a reference to what goes comes from a record that goes too,
or its field is listed. -/
structure DeletePlan.Fits (plan : DeletePlan) (store : Store) : Prop where
  nodup : plan.gone.Nodup
  reached : ∀ key ∈ plan.gone,
    Relation.ReflTransGen store.Cascades ⟨plan.entity, plan.id⟩ key
  settled :
    ∀ key ∈ plan.gone, ∀ reference ∈ store.referencesTo key.entity key.id,
      reference.holder ∈ plan.gone ∨
        reference.policy = .setNull ∧ reference.cleared ∈ plan.cascade.cleared
  nodup_cleared : plan.cascade.cleared.Nodup
  justified :
    ∀ field ∈ plan.cascade.cleared,
      ∃ key ∈ plan.gone, ∃ reference ∈ store.referencesTo key.entity key.id,
        reference.policy = .setNull ∧ reference.holder ∉ plan.gone ∧
          reference.cleared = field

theorem DeletePlan.Fits.refers_of_cleared {plan : DeletePlan} {store : Store}
    (fits : plan.Fits store) {entity id name : String}
    (listed : ⟨entity, id, name⟩ ∈ plan.cascade.cleared) :
    ⟨entity, id⟩ ∉ plan.gone ∧
      ∃ key ∈ plan.gone, ∃ owner field record,
        store.Refers key owner field record ∧ field.policy = .setNull ∧
          entity = owner.fullName ∧ id = record.id ∧ name = field.name := by
  obtain ⟨key, goes, reference, known, policy, stays, same⟩ :=
    fits.justified _ listed
  obtain ⟨owner, field, record, refers, rfl⟩ :=
    (store.mem_referencesTo_iff ..).mp known
  obtain ⟨rfl, rfl, rfl⟩ := FieldKey.mk.inj same
  exact ⟨stays, key, goes, owner, field, record, refers, policy, rfl, rfl, rfl⟩

theorem Store.planDelete_fits {store : Store} {entity id : String}
    {plan : DeletePlan} (planned : store.planDelete entity id = .ok plan) :
    plan.entity = entity ∧ plan.id = id ∧ plan.Fits store := by
  rw [planDelete, bind_eq_ok_iff] at planned
  obtain ⟨gone, collected, planned⟩ := planned
  rw [bind_eq_ok_iff] at planned
  obtain ⟨cleared, settled, planned⟩ := planned
  cases planned
  obtain ⟨collects, added⟩ := collect_collects collected
  obtain ⟨along, rfl⟩ : ∃ along, gone = ⟨entity, id⟩ :: along := by
    obtain ⟨along, rfl⟩ := added.resolve_left (by simp)
    exact ⟨along, rfl⟩
  obtain ⟨settles, all⟩ := foldlM_relates
    (R := store.Settles (⟨entity, id⟩ :: along))
    (Q := fun key cleared => ∀ reference ∈ store.referencesTo key.entity key.id,
      Settled (⟨entity, id⟩ :: along) reference cleared)
    (Settles.refl store _) Settles.trans
    (by
      intro key before after grown settled reference listed
      exact (settled reference listed).mono grown.kept)
    (fun _ goes _ _ done => settleAll_settles goes done) settled
  refine ⟨rfl, rfl, ⟨collects.nodup .nil, ?_, ?_, settles.nodup .nil, ?_⟩⟩
  · intro key goes
    exact (collects.reached key goes).resolve_left (by simp)
  · intro key goes reference listed
    by_cases policy : reference.policy = .cascade
    · exact .inl
        (collects.closed key goes (by simp) _ ⟨reference, listed, policy, rfl⟩)
    · exact all key goes reference listed policy
  · intro field member
    exact (settles.justified field member).resolve_left (by simp)

theorem Store.planDelete_target {store : Store} {entity id : String}
    {plan : DeletePlan} (planned : store.planDelete entity id = .ok plan)
    {target : Record} (live : store.live? entity id = some target) :
    plan.Fits store ∧ store.record? plan.entity plan.id = some target := by
  obtain ⟨rfl, rfl, fits⟩ := planDelete_fits planned
  exact ⟨fits, record?_of_live? live⟩

end RecordStore
