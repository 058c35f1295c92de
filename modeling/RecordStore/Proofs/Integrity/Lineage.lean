import RecordStore.Proofs.Integrity.Parents

namespace RecordStore

namespace Store

/-- The records met on the way up from one of them, through stored records, live
or deleted, to one that is not stored or has no parent. -/
inductive Lineage (store : Store) (entity field : String) :
    String → List String → Prop
  | top {id : String} (parentless : store.parent? entity field id = none) :
      Lineage store entity field id [id]
  | child {id parent : String} {ids : List String}
      (points : store.IsParent entity field id parent)
      (above : Lineage store entity field parent ids) :
      Lineage store entity field id (id :: ids)

/-- The way up from a record ends, after at most so many records, without
`own`. -/
def EndsClear (store : Store) (entity field : String) (own : Option String)
    (limit : Nat) (id : String) : Prop :=
  ∃ ids, store.Lineage entity field id ids ∧ ids.length ≤ limit ∧
    ∀ other ∈ ids, own ≠ some other

variable {store : Store} {entity field : String}

theorem Lineage.mem_self {id : String} {ids : List String}
    (lineage : store.Lineage entity field id ids) : id ∈ ids := by
  cases lineage <;> exact List.mem_cons_self

theorem lineage_iff {id parent : String} {ids : List String}
    (points : store.IsParent entity field id parent) :
    store.Lineage entity field id ids ↔
      ∃ above, store.Lineage entity field parent above ∧ ids = id :: above := by
  constructor
  · intro lineage
    cases lineage with
    | top parentless =>
        rw [IsParent, parentless] at points
        cases points
    | child again above =>
        obtain rfl := Option.some.inj (points.symm.trans again)
        exact ⟨_, above, rfl⟩
  · rintro ⟨above, lineage, rfl⟩
    exact .child points lineage

theorem Lineage.unique {id : String} {ids others : List String}
    (lineage : store.Lineage entity field id ids)
    (other : store.Lineage entity field id others) : ids = others := by
  induction lineage generalizing others with
  | top parentless =>
      cases other with
      | top => rfl
      | child points =>
          rw [IsParent, parentless] at points
          cases points
  | child points _ ih =>
      obtain ⟨above, lineage, rfl⟩ := (lineage_iff points).mp other
      rw [ih lineage]

theorem Lineage.suffix {id other : String} {ids : List String}
    (lineage : store.Lineage entity field id ids) (member : other ∈ ids) :
    ∃ rest, store.Lineage entity field other rest ∧ rest <:+ ids := by
  induction lineage with
  | top parentless =>
      obtain rfl := List.mem_singleton.mp member
      exact ⟨_, .top parentless, List.suffix_rfl⟩
  | child points above ih =>
      rcases List.mem_cons.mp member with rfl | member
      · exact ⟨_, .child points above, List.suffix_rfl⟩
      · obtain ⟨rest, lineage, part⟩ := ih member
        exact ⟨rest, lineage, part.trans (List.suffix_cons ..)⟩

theorem Lineage.not_mem_above {id parent : String} {ids : List String}
    (points : store.IsParent entity field id parent)
    (above : store.Lineage entity field parent ids) : id ∉ ids := by
  intro again
  obtain ⟨rest, lineage, part⟩ := above.suffix again
  have same := lineage.unique (.child points above)
  have shorter := part.length_le
  rw [same, List.length_cons] at shorter
  exact Nat.not_succ_le_self _ shorter

/-- Whether the rest of the way up keeps clear may be asked with the record it
starts from counted as seen: the way does not come back to it. -/
theorem Lineage.clear_cons_iff {id parent : String} {ids : List String}
    (points : store.IsParent entity field id parent)
    (above : store.Lineage entity field parent ids) {own : Option String}
    {seen : List String} :
    (∀ other ∈ id :: ids, own ≠ some other ∧ other ∉ seen) ↔
      (own ≠ some id ∧ id ∉ seen) ∧
        ∀ other ∈ ids, own ≠ some other ∧ other ∉ id :: seen := by
  rw [List.forall_mem_cons]
  refine and_congr_right fun _ => forall₂_congr fun other member => ?_
  have apart : other ≠ id := by
    rintro rfl
    exact above.not_mem_above points member
  simp [apart]

theorem Lineage.mem_of_leads {id other : String} {ids : List String}
    (lineage : store.Lineage entity field id ids)
    (leads : Relation.ReflTransGen (store.IsParent entity field) id other) :
    other ∈ ids := by
  induction lineage with
  | top parentless =>
      rcases leads.cases_head with rfl | ⟨parent, points, -⟩
      · exact List.mem_cons_self
      · rw [IsParent, parentless] at points
        cases points
  | child points _ ih =>
      rcases leads.cases_head with rfl | ⟨parent, first, leads⟩
      · exact List.mem_cons_self
      · obtain rfl := Option.some.inj (points.symm.trans first)
        exact List.mem_cons_of_mem _ (ih leads)

theorem Lineage.acyclic {id : String} {ids : List String}
    (lineage : store.Lineage entity field id ids) :
    ¬Relation.TransGen (store.IsParent entity field) id id := by
  intro loop
  obtain ⟨parent, points, back⟩ := Relation.TransGen.head'_iff.mp loop
  obtain ⟨_, above, rfl⟩ := (lineage_iff points).mp lineage
  exact above.not_mem_above points (above.mem_of_leads back)

theorem chainEnds_iff {own : Option String} {links : Nat} {seen : List String}
    {id : String} :
    store.chainEnds entity field own links seen id = true ↔
      ∃ ids, store.Lineage entity field id ids ∧ ids.length ≤ links ∧
        ∀ other ∈ ids, own ≠ some other ∧ other ∉ seen := by
  induction links generalizing seen id with
  | zero =>
      refine iff_of_false (by simp [chainEnds]) ?_
      rintro ⟨ids, lineage, short, -⟩
      obtain rfl := List.length_eq_zero_iff.mp (Nat.le_zero.mp short)
      cases lineage
  | succ links ih =>
      rw [chainEnds]
      split
      next met =>
          refine iff_of_false (by simp) ?_
          rintro ⟨ids, lineage, -, clear⟩
          obtain ⟨other, new⟩ := clear id lineage.mem_self
          simp [other, new] at met
      next unmet =>
          have here : own ≠ some id ∧ id ∉ seen := by simpa using unmet
          cases points : store.parent? entity field id with
          | none =>
              refine iff_of_true rfl ⟨[id], .top points, by simp, ?_⟩
              simpa using here
          | some parent =>
              rw [ih]
              constructor
              · rintro ⟨ids, above, short, clear⟩
                exact ⟨id :: ids, .child points above, Nat.succ_le_succ short,
                  (above.clear_cons_iff points).mpr ⟨here, clear⟩⟩
              · rintro ⟨_, lineage, short, clear⟩
                obtain ⟨ids, above, rfl⟩ := (lineage_iff points).mp lineage
                exact ⟨ids, above, Nat.le_of_succ_le_succ short,
                  ((above.clear_cons_iff points).mp clear).2⟩

theorem chainEnds_iff_endsClear {own : Option String} {links : Nat}
    {id : String} :
    store.chainEnds entity field own links [] id = true ↔
      store.EndsClear entity field own links id := by
  simp [chainEnds_iff, EndsClear]

end Store

/-- A record may not be its own parent. Any other parent is accepted exactly if
the way up from it ends clear of the record within the number of records
allowed, and is otherwise taken to close a cycle. -/
theorem Store.parentError?_exact {store : Store} {settings : Settings}
    {entity : Entity} {field : String}
    (pointer : store.schema.parentField? settings entity = some field)
    {attributes : Attributes} {parent : String}
    (points : attributes.pointer? field = some parent) (own : Option String) :
    (store.parentError? settings entity own attributes =
      some ⟨field, .ownParent⟩ ↔ own = some parent) ∧
      (own ≠ some parent →
        (store.parentError? settings entity own attributes = none ↔
          store.EndsClear entity.fullName field own settings.maxParentDepth
            parent) ∧
          (¬store.EndsClear entity.fullName field own settings.maxParentDepth
            parent →
            store.parentError? settings entity own attributes =
              some ⟨field, .parentCycle⟩)) := by
  have verdict : store.parentError? settings entity own attributes =
      if own = some parent then some ⟨field, .ownParent⟩
      else if store.chainEnds entity.fullName field own settings.maxParentDepth
        [] parent then
        none
      else some ⟨field, .parentCycle⟩ := by
    rw [Attributes.pointer?] at points
    rw [parentError?, pointer, Option.bind_some, points, Option.bind_some]
  rw [verdict, ← chainEnds_iff_endsClear]
  by_cases same : own = some parent
  · simp [same]
  · rw [if_neg same]
    cases store.chainEnds entity.fullName field own settings.maxParentDepth []
      parent <;> simp [same]

/-- Folder 3 is in folder 2, which is deleted and is in folder 1, which is not
stored. Folders 4 and 5 are in each other. -/
def Store.cabinet : Store where
  schema := .filing
  records := .ofList
    [⟨"d.Folder", "2", 1, default, default, true,
      .ofList [("parent_id", .atom (.ref "1"))]⟩,
      ⟨"d.Folder", "3", 1, default, default, false,
        .ofList [("parent_id", .atom (.ref "2"))]⟩,
      ⟨"d.Folder", "4", 1, default, default, false,
        .ofList [("parent_id", .atom (.ref "5"))]⟩,
      ⟨"d.Folder", "5", 1, default, default, false,
        .ofList [("parent_id", .atom (.ref "4"))]⟩]

theorem Store.cabinet_parentError? :
    let inThree : Attributes := .ofList [("parent_id", .atom (.ref "3"))]
    let inFour : Attributes := .ofList [("parent_id", .atom (.ref "4"))]
    Store.cabinet.Lineage "d.Folder" "parent_id" "3" ["3", "2", "1"] ∧
      Store.cabinet.parentError? { maxParentDepth := 3 } .folder (some "6")
        inThree = none ∧ Store.cabinet.parentError? { maxParentDepth := 2 }
          .folder (some "6") inThree = some ⟨"parent_id", .parentCycle⟩ ∧
      Store.cabinet.parentError? { maxParentDepth := 3 } .folder (some "1")
        inThree = some ⟨"parent_id", .parentCycle⟩ ∧
      Store.cabinet.parentError? {} .folder (some "3") inThree =
        some ⟨"parent_id", .ownParent⟩ ∧
      Store.cabinet.parentError? {} .folder none inFour =
        some ⟨"parent_id", .parentCycle⟩ := by
  intro inThree inFour
  have lineage : Store.cabinet.Lineage "d.Folder" "parent_id" "3"
      ["3", "2", "1"] :=
    .child rfl (.child rfl (.top rfl))
  have pointer (settings : Settings)
      (named : settings.parentField = "parent_id") :
        Store.cabinet.schema.parentField? settings .folder =
          some "parent_id" := by
    rw [Schema.parentField?, named]
    decide +kernel
  have points : inThree.pointer? "parent_id" = some "3" := rfl
  refine ⟨lineage, ?_, ?_, ?_, ?_, ?_⟩
  · refine ((parentError?_exact (pointer _ rfl) points (some "6")).2
      (by decide)).1.mpr ?_
    exact ⟨_, lineage, by decide, by decide⟩
  · refine ((parentError?_exact (pointer _ rfl) points (some "6")).2
      (by decide)).2 ?_
    rintro ⟨ids, other, short, -⟩
    rw [← lineage.unique other] at short
    exact absurd short (by decide)
  · refine ((parentError?_exact (pointer _ rfl) points (some "1")).2
      (by decide)).2 ?_
    rintro ⟨ids, other, -, clear⟩
    rw [← lineage.unique other] at clear
    exact clear "1" (by decide) rfl
  · exact (parentError?_exact (pointer _ rfl) points (some "3")).1.mpr rfl
  · have points : inFour.pointer? "parent_id" = some "4" := rfl
    refine ((parentError?_exact (pointer _ rfl) points none).2 (by decide)).2 ?_
    rintro ⟨ids, other, -, -⟩
    exact other.acyclic (.tail (.single (b := "5") rfl) rfl)

end RecordStore
