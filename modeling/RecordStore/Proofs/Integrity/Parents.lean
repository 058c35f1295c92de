import RecordStore.Proofs.Integrity.References
import RecordStore.Proofs.Integrity.Types

namespace RecordStore

section redirect

open Relation (ReflTransGen TransGen)

variable {α : Type} {old new : α → α → Prop} {a : α}

/-! The parents of records form a forest, those of deleted records too, whatever
operations run at once. A commit redirects at most one pointer, and only to a
record from which no pointers lead back. -/

theorem reflTransGen_of_redirect (elsewhere : ∀ x y, x ≠ a → new x y → old x y)
    {x : α} (reaches : ReflTransGen new x a) : ReflTransGen old x a := by
  induction reaches using ReflTransGen.head_induction_on with
  | refl => exact .refl
  | @head x y first _ ih =>
      by_cases here : x = a
      · rw [here]
      · exact .head (elsewhere x y here first) ih

theorem transGen_of_redirect (elsewhere : ∀ x y, x ≠ a → new x y → old x y)
    {x y : α} (reaches : TransGen new x y) :
    TransGen old x y ∨
      ∃ z, ReflTransGen new x a ∧ new a z ∧ ReflTransGen new z y := by
  induction reaches with
  | @single y only =>
      by_cases here : x = a
      · exact .inr ⟨y, here ▸ .refl, here ▸ only, .refl⟩
      · exact .inl (.single (elsewhere x y here only))
  | @tail y z before last ih =>
      rcases ih with before | ⟨w, toward, through, onward⟩
      · by_cases here : y = a
        · subst here
          exact .inr ⟨z, ‹TransGen new x y›.to_reflTransGen, last, .refl⟩
        · exact .inl (before.tail (elsewhere y z here last))
      · exact .inr ⟨w, toward, through, onward.tail last⟩

/-- New pointers from one place close no loop if nothing led back there from
where they lead to. -/
theorem acyclic_of_redirect (acyclic : ∀ x, ¬TransGen old x x)
    (elsewhere : ∀ x y, x ≠ a → new x y → old x y)
    (safe : ∀ y, new a y → ¬ReflTransGen old y a) (x : α) :
    ¬TransGen new x x := by
  intro loop
  rcases transGen_of_redirect elsewhere loop with
    before | ⟨y, toward, through, onward⟩
  · exact acyclic x before
  · exact safe y through
      (reflTransGen_of_redirect elsewhere (onward.trans toward))

end redirect

namespace Value

theorem refId?_of_prune {removed : List String} {value : Value} {id : String}
    (named : (value.prune removed).refId? = some id) :
    value.refId? = some id := by
  cases value with
  | null => simp [refId?, atom?] at named
  | array items => simp [prune_array, refId?, atom?] at named
  | atom a =>
      rw [prune_atom] at named
      split at named
      · simp [refId?, atom?] at named
      · exact named

end Value

namespace Attributes

def pointer? (attributes : Attributes) (field : String) : Option String :=
  (attributes.value? field).bind Value.refId?

theorem pointer?_merge (attributes changes : Attributes) (field : String) :
    pointer? (attributes.merge changes) field =
      if (changes.value? field).isSome then changes.pointer? field
      else attributes.pointer? field := by
  rw [pointer?, Fields.value?_merge]
  cases changed : changes.value? field with
  | none => rfl
  | some value => simp [pointer?, changed]

end Attributes

namespace Store

def IsParent (store : Store) (entity field child parent : String) : Prop :=
  store.parent? entity field child = some parent

theorem parent?_eq (store : Store) (entity field id : String) :
    store.parent? entity field id =
      (store.record? entity id).bind (·.attributes.pointer? field) := by
  rw [parent?, Option.bind_assoc]
  rfl

theorem parent?_put (store : Store) (record : Record)
    (entity field id : String) :
    (store.put record).parent? entity field id =
      if record.key = ⟨entity, id⟩ then record.attributes.pointer? field
      else store.parent? entity field id := by
  rw [parent?_eq, record?_put]
  split
  · rfl
  · rw [parent?_eq]

variable {store after : Store} {entity : Entity} {field : String}

theorem ne_of_chainEnds {name own : String} {links : Nat} {seen : List String}
    {id other : String}
    (ends : store.chainEnds name field (some own) links seen id = true)
    (leads : Relation.ReflTransGen (store.IsParent name field) id other) :
    other ≠ own := by
  induction links generalizing seen id with
  | zero => simp [chainEnds] at ends
  | succ links ih =>
      rw [chainEnds] at ends
      split at ends
      next => cases ends
      next apart =>
          rcases leads.cases_head with rfl | ⟨next, first, leads⟩
          · rintro rfl
            simp at apart
          · rw [show store.parent? name field id = some next from first] at ends
            exact ih ends leads

theorem field_of_parentField? {schema : Schema} {settings : Settings}
    (pointer : schema.parentField? settings entity = some field) :
    ∃ declared ∈ entity.referenceFields, declared.name = field ∧
      schema.target? entity declared = some entity.fullName := by
  rw [Schema.parentField?] at pointer
  split at pointer
  next declared found =>
      split at pointer
      next own =>
          obtain ⟨-, target⟩ := Bool.and_eq_true_iff.mp own
          have target := of_decide_eq_true target
          have isReference : declared.type.isReference = true := by
            obtain ⟨name, named, -⟩ := Option.bind_eq_some_iff.mp target
            rw [FieldType.target?] at named
            rw [FieldType.isReference]
            split at named
            next => rfl
            next => cases named
          refine ⟨declared,
            List.mem_filter.mpr ⟨List.mem_of_find?_eq_some found, isReference⟩,
            ?_, target⟩
          simpa using pointer
      next => cases pointer
  next => cases pointer

theorem pointer_checked {settings : Settings} {own : Option String}
    {attributes : Attributes}
    (sound : store.checkIntegrity settings store.schema entity own attributes =
      .ok ()) (pointer : store.schema.parentField? settings entity = some field)
    {parent : String} (points : attributes.pointer? field = some parent) :
    (store.record? entity.fullName parent).isSome ∧
      ∀ id, own = some id →
        ¬Relation.ReflTransGen (store.IsParent entity.fullName field) parent
          id := by
  obtain ⟨value, held, named⟩ := Option.bind_eq_some_iff.mp points
  constructor
  · obtain ⟨declared, reference, rfl, target⟩ := field_of_parentField? pointer
    have present : value.isNull = false := by
      cases value with
      | null => simp [Value.refId?, Value.atom?] at named
      | atom | array => rfl
    obtain ⟨name, found, refs⟩ :=
      resolves_of_checkIntegrity sound declared reference value
        ((Attributes.present?_eq_some_iff ..).mpr ⟨held, present⟩)
    rw [target, Option.some.injEq] at found
    subst found
    have single : ∀ inner, value ≠ .array inner := by
      rintro inner rfl
      simp [Value.refId?, Value.atom?] at named
    have live := refs.live_of_references
      ((Value.references_iff_refId? single parent).mpr named)
    obtain ⟨record, live⟩ := Option.isSome_iff_exists.mp live
    rw [record?_of_live? live]
    rfl
  · rintro id rfl leads
    rw [checkIntegrity, accept_eq_ok_iff, integrityErrors,
      List.append_eq_nil_iff] at sound
    have passed : store.parentError? settings entity (some id) attributes =
        none := by
      simpa using sound.2
    rw [parentError?, pointer, Option.bind_some, held, Option.bind_some, named,
      Option.bind_some] at passed
    split at passed
    next => cases passed
    next =>
        split at passed
        next ends => exact ne_of_chainEnds ends leads rfl
        next => cases passed

/-- Pointers lead to stored records, and never back. -/
structure Forest (store : Store) (entity field : String) : Prop where
  rooted : ∀ child parent, store.IsParent entity field child parent →
    (store.record? entity parent).isSome
  acyclic : ∀ id, ¬Relation.TransGen (store.IsParent entity field) id id

theorem Forest.stored_of_leads {name : String}
    (forest : store.Forest name field) {id other : String}
    (stored : (store.record? name id).isSome)
    (leads : Relation.ReflTransGen (store.IsParent name field) id other) :
    (store.record? name other).isSome := by
  rcases leads.cases_tail with rfl | ⟨child, -, last⟩
  · exact stored
  · exact forest.rooted child other last

theorem Forest.of_imp {name : String} (forest : store.Forest name field)
    (pointers : ∀ child parent, after.IsParent name field child parent →
      store.IsParent name field child parent)
    (kept : ∀ id, (store.record? name id).isSome →
      (after.record? name id).isSome) :
    after.Forest name field where
  rooted := fun child parent points =>
    kept parent (forest.rooted child parent (pointers _ _ points))
  acyclic := fun id loop =>
    forest.acyclic id (Relation.TransGen.mono pointers id id loop)

theorem Forest.put {name : String} (forest : store.Forest name field)
    {record : Record}
    (checked : record.entity = name →
      ∀ parent, record.attributes.pointer? field = some parent →
        store.IsParent name field record.id parent ∨
          (store.record? name parent).isSome ∧
            ¬Relation.ReflTransGen (store.IsParent name field) parent
              record.id) :
    (store.put record).commit.Forest name field := by
  have kept : ∀ id, (store.record? name id).isSome →
      ((store.put record).commit.record? name id).isSome := by
    intro id stored
    rw [record?_commit, record?_put]
    split
    · rfl
    · exact stored
  have pointers : ∀ child parent,
      (store.put record).commit.IsParent name field child parent →
        store.IsParent name field child parent ∨
          record.key = ⟨name, child⟩ ∧
            record.attributes.pointer? field = some parent := by
    intro child parent points
    change (store.put record).parent? name field child = some parent at points
    rw [parent?_put] at points
    split at points
    next own => exact .inr ⟨own, points⟩
    next => exact .inl points
  by_cases here : record.entity = name
  · refine ⟨?_, ?_⟩
    · intro child parent points
      rcases pointers child parent points with before | ⟨-, points⟩
      · exact kept parent (forest.rooted child parent before)
      · rcases checked here parent points with before | ⟨stored, -⟩
        · exact kept parent (forest.rooted _ parent before)
        · exact kept parent stored
    · refine acyclic_of_redirect (a := record.id) forest.acyclic ?_ ?_
      · intro child parent other points
        refine (pointers child parent points).resolve_right ?_
        rintro ⟨own, -⟩
        exact other (RecordKey.mk.inj own).2.symm
      · intro parent points leads
        have before : store.IsParent name field record.id parent ∨
            (store.record? name parent).isSome ∧
              ¬Relation.ReflTransGen (store.IsParent name field) parent
                record.id := by
          rcases pointers record.id parent points with before | ⟨-, points⟩
          · exact .inl before
          · exact checked here parent points
        rcases before with before | ⟨-, safe⟩
        · exact forest.acyclic record.id (.head' before leads)
        · exact safe leads
  · refine forest.of_imp ?_ kept
    intro child parent points
    refine (pointers child parent points).resolve_right ?_
    rintro ⟨own, -⟩
    exact here (RecordKey.mk.inj own).1

theorem Forest.apply {name : String} (forest : store.Forest name field)
    {plan : DeletePlan} (fits : plan.Fits store) {target : Record}
    (stored : store.record? plan.entity plan.id = some target) (now : Instant) :
    (plan.apply store now).1.Forest name field := by
  refine forest.of_imp ?_ ?_
  · intro child parent points
    rw [IsParent, parent?_eq,
      fits.record?_apply now stored ⟨name, child⟩] at points
    obtain ⟨record, found, points⟩ := Option.bind_eq_some_iff.mp points
    obtain ⟨old, before, rfl⟩ := Option.map_eq_some_iff.mp found
    rw [Attributes.pointer?, fits.value?_effect now] at points
    rw [IsParent, parent?_eq,
      show store.record? name child = some old from before, Option.bind_some]
    split at points
    next listed =>
        obtain ⟨left, pruned, named⟩ := Option.bind_eq_some_iff.mp points
        obtain ⟨value, held, rfl⟩ := Option.map_eq_some_iff.mp pruned
        exact Option.bind_eq_some_iff.mpr
          ⟨value, held, Value.refId?_of_prune named⟩
    next unlisted => exact points
  · intro id found
    rw [fits.record?_apply now stored ⟨name, id⟩, Option.isSome_map]
    exact found

variable {settings : Settings} {fresh : String} {now : Instant}
  {request : Request} {reply : Reply}

theorem Commits.forest
    (commits : store.Commits settings fresh now request after reply)
    (unused : ∀ entity, store.record? entity fresh = none)
    (sameSchema : ∀ schema, request ≠ .reload schema)
    (declared : entity ∈ store.schema.entities.items)
    (pointer : store.schema.parentField? settings entity = some field)
    (forest : store.Forest entity.fullName field) :
    after.Forest entity.fullName field := by
  cases commits with
  | @create name payload definition attributes found valid sound =>
      refine forest.put fun own parent points => ?_
      obtain rfl := entity_eq found declared own
      obtain ⟨stored, -⟩ := pointer_checked sound pointer points
      refine .inr ⟨stored, fun leads => ?_⟩
      have used := forest.stored_of_leads stored leads
      rw [show (Record.create name fresh attributes now).id = fresh from rfl,
        unused] at used
      cases used
  | @update write id definition record current attributes existing found live
    valid sound =>
      obtain ⟨name, same⟩ := key_of_record? (record?_of_live? live)
      refine forest.put fun own parent points => ?_
      obtain rfl := entity_eq found declared (name.symm.trans own)
      have checked : attributes.pointer? field = some parent →
          (store.record? definition.fullName parent).isSome ∧
            ¬Relation.ReflTransGen (store.IsParent definition.fullName field)
              parent id := by
        intro points
        obtain ⟨stored, safe⟩ := pointer_checked sound pointer points
        exact ⟨stored, safe id rfl⟩
      change record.entity = _ at own
      change Attributes.pointer? (if _ then _ else _) field =
        some parent at points
      change store.IsParent _ _ record.id parent ∨
        _ ∧ ¬Relation.ReflTransGen _ parent record.id
      rw [same]
      split at points
      next patch =>
          rw [Attributes.pointer?_merge] at points
          split at points
          next => exact .inr (checked points)
          next =>
              refine .inl ?_
              rw [IsParent, parent?_eq, ← own, name, record?_of_live? live]
              exact points
      next replace => exact .inr (checked points)
  | delete live planned =>
      obtain ⟨fits, stored⟩ := planDelete_target planned live
      exact forest.apply fits stored now
  | @restore restoration record definition stored =>
      obtain ⟨name, same⟩ := key_of_record? stored
      refine forest.put fun own parent points => .inl ?_
      change record.entity = _ at own
      change store.IsParent _ _ record.id parent
      rw [IsParent, parent?_eq, ← own, name, same, stored]
      exact points
  | restored => exact forest
  | reload => exact absurd rfl (sameSchema _)

end Store

namespace Workload

variable {load : Workload} {system : System}

theorem step_forest (sameSchema : ∀ i other, load.request i ≠ .reload other)
    (coherent : system.Coherent load) {entity : Entity}
    (declared : entity ∈ system.store.schema.entities.items) {field : String}
    (pointer : system.store.schema.parentField? load.settings entity =
      some field)
    (forest : system.store.Forest entity.fullName field) (i : Nat) :
    (load.step system i).store.Forest entity.fullName field := by
  rcases step_cases coherent i with ⟨same, -⟩ | ⟨reply, underway, -, commits⟩
  · rw [same]
    exact forest
  · exact commits.forest (coherent.unused i underway) (sameSchema i) declared
      pointer forest

/-- After every schedule that starts from nothing and keeps the schema, no
parent pointers of records, live or deleted, lead back to where they start. -/
theorem parents_acyclic (load : Workload) (schema : Schema)
    (sameSchema : ∀ i other, load.request i ≠ .reload other) {entity : Entity}
    (declared : entity ∈ schema.entities.items) {field : String}
    (pointer : schema.parentField? load.settings entity = some field)
    (schedule : List Nat) :
    ∀ id, ¬Relation.TransGen
      ((load.run (.initial { schema }) schedule).store.IsParent entity.fullName
        field) id id := by
  have invariant :
      (load.run (.initial { schema }) schedule).store.schema = schema ∧
        (load.run (.initial { schema }) schedule).store.Forest entity.fullName
          field := by
    refine load.run_invariant (P := fun system =>
      system.store.schema = schema ∧ system.store.Forest entity.fullName field)
      (fun _ _ => rfl) ⟨rfl, ?_, ?_⟩ ?_ schedule
    · intro child parent points
      cases points
    · intro id loop
      obtain ⟨parent, points, -⟩ := Relation.TransGen.head'_iff.mp loop
      cases points
    · rintro system i coherent ⟨same, forest⟩
      refine ⟨(step_schema sameSchema coherent i).trans same, ?_⟩
      exact step_forest sameSchema coherent (same ▸ declared) (same ▸ pointer)
        forest i
  exact invariant.2.acyclic

end Workload

def Entity.folder : Entity :=
  ⟨"d", "Folder",
    [{ name := "parent_id", type := ⟨.reference "Folder", false⟩ }], []⟩

def Schema.filing : Schema where
  entities := .ofList [.folder]

namespace Workload

/-- Each of two folders is to be the parent of the other. -/
def crossing : Workload :=
  ofList [.write ⟨"d.Folder", .create, ∅⟩, .write ⟨"d.Folder", .create, ∅⟩,
    .write
      ⟨"d.Folder", .patch "0" (some 1), .ofList [("parent_id", .string "1")]⟩,
    .write
      ⟨"d.Folder", .patch "1" (some 1), .ofList [("parent_id", .string "0")]⟩]

def crossingSchedule : List Nat :=
  [0, 0, 0, 1, 1, 1, 2, 3, 2, 3, 2, 3]

theorem crossing_acyclic :
    let final := crossing.run (.initial { schema := .filing }) crossingSchedule
    final.store.IsParent Entity.folder.fullName "parent_id" "0" "1" ∧
      final.stage 3 =
        .finished (.error (.invalid [⟨"parent_id", .parentCycle⟩])) ∧
      ∀ id, ¬Relation.TransGen
        (final.store.IsParent Entity.folder.fullName "parent_id") id id := by
  intro final
  have sameSchema : ∀ i other, crossing.request i ≠ .reload other :=
    ofList_sameSchema (by simp)
  refine ⟨?_, rfl, ?_⟩
  · rw [Store.IsParent]
    decide +kernel
  · exact parents_acyclic crossing .filing sameSchema (.head _)
      (by decide +kernel) crossingSchedule

end Workload

end RecordStore
