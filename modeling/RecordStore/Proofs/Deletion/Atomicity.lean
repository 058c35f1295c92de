import RecordStore.Proofs.Deletion.Pruning

namespace RecordStore

/-! Whether carrying out a plan is one commit. A plan is made for any target. If
the target is stored, all that the plan lists is done and committed; if it is
not, the same is done and not committed, so that nothing may refer to an unknown
target if the plan is to be all or nothing. -/

theorem Record.version_touch_ne (record : Record) (now : Instant) :
    (record.touch now).version ≠ record.version := by
  simp [touch]

namespace DeletePlan

/-- Without a reply the store is as it was before, and a store with any record
changed counts a commit. -/
structure AllOrNothing (plan : DeletePlan) (store : Store) (now : Instant) :
    Prop where
  nothing :
    (plan.apply store now).2 = none →
      (plan.apply store now).1.records = store.records ∧
        (plan.apply store now).1.epoch = store.epoch
  counted : (plan.apply store now).1.records ≠ store.records →
    store.epoch < (plan.apply store now).1.epoch

variable {plan : DeletePlan} {store : Store}

theorem Fits.allOrNothing_of_stored (fits : plan.Fits store) (now : Instant)
    (stored : (store.record? plan.entity plan.id).isSome) :
    (plan.apply store now).1.epoch = store.epoch + 1 ∧
      plan.AllOrNothing store now := by
  obtain ⟨target, stored⟩ := Option.isSome_iff_exists.mp stored
  obtain ⟨⟨records, committed⟩, reply⟩ := fits.apply_commits now stored
  have epoch : (plan.apply store now).1.epoch = store.epoch + 1 := by
    rw [committed]
    rfl
  refine ⟨epoch, ?_, fun _ => by rw [epoch]; exact Nat.lt_succ_self _⟩
  intro none
  rw [reply] at none
  cases none

theorem Fits.epoch_of_unknown (fits : plan.Fits store) (now : Instant)
    (unknown : store.record? plan.entity plan.id = none) :
    (plan.apply store now).2 = none ∧
      (plan.apply store now).1.epoch = store.epoch := by
  obtain ⟨records, prepared⟩ := plan.prepare_eq store now
  rw [fits.apply_unknown now unknown, prepared]
  exact ⟨rfl, rfl⟩

theorem Fits.cascade_eq_nil (fits : plan.Fits store)
    (unreferenced : store.referencesTo plan.entity plan.id = []) :
    plan.cascade.deleted = [] ∧ plan.cascade.cleared = [] := by
  have only : ∀ key ∈ plan.gone, key = ⟨plan.entity, plan.id⟩ := by
    intro key goes
    rcases (fits.reached key goes).cases_head with
      same | ⟨next, ⟨reference, listed, -⟩, -⟩
    · exact same.symm
    · rw [unreferenced] at listed
      cases listed
  constructor
  · rw [List.eq_nil_iff_forall_not_mem]
    intro key along
    have same := only key (List.mem_cons_of_mem _ along)
    exact (List.nodup_cons.mp fits.nodup).1 (same ▸ along)
  · rw [List.eq_nil_iff_forall_not_mem]
    intro field cleared
    obtain ⟨key, goes, reference, listed, -⟩ := fits.justified field cleared
    rw [only key goes, unreferenced] at listed
    cases listed

theorem Fits.apply_of_unreferenced (fits : plan.Fits store) (now : Instant)
    (unknown : store.record? plan.entity plan.id = none)
    (unreferenced : store.referencesTo plan.entity plan.id = []) :
    (plan.apply store now).1 = store := by
  obtain ⟨deleted, cleared⟩ := fits.cascade_eq_nil unreferenced
  rw [fits.apply_unknown now unknown, prepare, deleted, cleared]
  rfl

theorem Fits.records_ne_of_referenced (fits : plan.Fits store) (now : Instant)
    {reference : Reference}
    (listed : reference ∈ store.referencesTo plan.entity plan.id) :
    (plan.apply store now).1.records ≠ store.records := by
  have touches : plan.Touches reference.holder := by
    refine (fits.settled ⟨plan.entity, plan.id⟩ plan.target_mem_gone reference
      listed).imp_right ?_
    rintro ⟨-, cleared⟩
    exact ⟨reference.field, cleared⟩
  obtain ⟨record, live⟩ := Store.live?_holder ⟨plan.entity, plan.id⟩ listed
  have before : store.record? reference.holder.entity reference.holder.id =
      some record :=
    Store.record?_of_live? live
  have after := fits.record?_carriedOut now reference.holder
  intro same
  rw [Store.record?, same, ← Store.record?, before, Option.map_some,
    Option.some.injEq] at after
  obtain ⟨deleted, attributes, changed⟩ := effect_of_touches now touches record
  rw [changed] at after
  exact Record.version_touch_ne _ now (congrArg Record.version after).symm

end DeletePlan

/-- Carrying out a plan is all or nothing exactly if its target is stored or
nothing refers to it: it replies, and is committed, exactly if the target is
stored. -/
theorem Store.allOrNothing_iff {store : Store} {entity id : String}
    {plan : DeletePlan} (planned : store.planDelete entity id = .ok plan)
    (now : Instant) :
    ((plan.apply store now).2.isSome ↔ (store.record? entity id).isSome) ∧
      (plan.apply store now).1.epoch =
        (if (store.record? entity id).isSome then store.epoch + 1
          else store.epoch) ∧
      (plan.AllOrNothing store now ↔
        (store.record? entity id).isSome ∨
          store.referencesTo entity id = []) := by
  obtain ⟨rfl, rfl, fits⟩ := planDelete_fits planned
  cases stored : store.record? plan.entity plan.id with
  | some target =>
      have found : (store.record? plan.entity plan.id).isSome := by
        rw [stored]; rfl
      obtain ⟨epoch, whole⟩ := fits.allOrNothing_of_stored now found
      have replies := plan.isSome_apply found now
      exact ⟨by simp [replies], by simp [epoch], by simp [whole]⟩
  | none =>
      obtain ⟨silent, epoch⟩ := fits.epoch_of_unknown now stored
      refine ⟨by simp [silent], by simp [epoch], ?_⟩
      simp only [Option.isSome_none, Bool.false_eq_true, false_or]
      constructor
      · intro whole
        rw [List.eq_nil_iff_forall_not_mem]
        intro reference listed
        exact fits.records_ne_of_referenced now listed (whole.nothing silent).1
      · intro unreferenced
        have idle := fits.apply_of_unreferenced now stored unreferenced
        exact ⟨fun _ => by rw [idle]; exact ⟨rfl, rfl⟩,
          fun changed => absurd (by rw [idle]) changed⟩

/-- A book and a shelf refer to author 1, who is not stored. -/
def Store.orphans : Store where
  schema := .library
  records := .ofList
    [⟨"d.Book", "2", 1, default, default, false,
      .ofList [("author", .atom (.ref "1"))]⟩,
      ⟨"d.Shelf", "3", 1, default, default, false,
        .ofList [("authors", .array [.atom (.ref "1")])]⟩]

theorem Store.orphans_not_allOrNothing :
    Store.orphans.planDelete "d.Author" "1" = .ok .library ∧
      (DeletePlan.library.apply .orphans default).2 = none ∧
      (DeletePlan.library.apply .orphans default).1.epoch =
        Store.orphans.epoch ∧
      ¬DeletePlan.library.AllOrNothing .orphans default := by
  have planned : Store.orphans.planDelete "d.Author" "1" = .ok .library := by
    decide +kernel
  obtain ⟨replies, epoch, whole⟩ := allOrNothing_iff planned default
  have unknown : Store.orphans.record? "d.Author" "1" = none := rfl
  refine ⟨planned, ?_, ?_, ?_⟩
  · simpa [unknown] using replies
  · simpa [unknown] using epoch
  · rw [whole]
    decide +kernel

theorem Store.not_always_allOrNothing :
    ¬∀ (store : Store) (entity id : String) (plan : DeletePlan),
      store.planDelete entity id = .ok plan →
        ∀ now, plan.AllOrNothing store now := by
  intro always
  have whole :=
    always .orphans "d.Author" "1" .library (by decide +kernel) default
  have changed : (DeletePlan.library.apply .orphans default).1.records ≠
      Store.orphans.records := by
    decide +kernel
  exact changed (whole.nothing (by decide +kernel)).1

end RecordStore
