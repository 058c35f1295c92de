import RecordStore.Proofs.Query.Order
import RecordStore.Proofs.Store
import RecordStore.Query.Page

namespace RecordStore

theorem Settings.clamp_le (default greatest : Nat) (requested : Option Nat) :
    clamp default greatest requested ≤ greatest := by
  rw [clamp.eq_def]
  split
  · exact Nat.min_le_right ..
  · exact Nat.min_le_right ..

namespace Store

/-- The live records of an entity that a query accepts, each once, in the order
of its keys. -/
structure Listing (store : Store) (settings : Settings) (entity : Entity)
    (query : Query) (records : List Record) : Prop where
  mem_iff :
    ∀ record, record ∈ records ↔
      store.live? entity.fullName record.id = some record ∧
        query.filter.accepts entity record = true
  nodup : records.Nodup
  ordered : records.Pairwise
    (Record.Before (query.nulls.getD settings.defaultNulls) query.sort)

theorem mem_matching_iff (store : Store) (entity : Entity) (filter : Filter)
    (record : Record) :
    record ∈ store.matching entity filter ↔
      store.live? entity.fullName record.id = some record ∧
        filter.accepts entity record = true := by
  rw [matching, List.mem_filter, mem_liveOf_iff]

theorem ascending_matching (store : Store) (entity : Entity) (filter : Filter) :
    (store.matching entity filter).Pairwise fun a b => a.id < b.id := by
  have ascending :=
    ((store.records.ascending.filter (·.entity == entity.fullName)).filter
      Record.isLive).filter (filter.accepts entity)
  refine List.Pairwise.imp_of_mem ?_ ascending
  intro a b first second less
  have own : ∀ record ∈ store.matching entity filter,
      record.entity = entity.fullName := by
    intro record member
    exact (key_of_record?
      (record?_of_live? ((mem_matching_iff ..).mp member).1)).1
  have same : a.key.entity = b.key.entity :=
    (own a first).trans (own b second).symm
  change (compare a.key.entity b.key.entity).then (compare a.id b.id) =
    .lt at less
  rw [same, Std.compare_self, Ordering.eq_then] at less
  exact (compare_eq_lt_iff ..).mp less

theorem found_listing (store : Store) (settings : Settings) (entity : Entity)
    (query : Query) :
    store.Listing settings entity query
      (store.found settings entity query) where
  mem_iff := by
    intro record
    rw [found, (sortBy_perm ..).mem_iff, mem_matching_iff]
  nodup := by
    rw [found, (sortBy_perm ..).nodup_iff]
    refine (store.ascending_matching entity query.filter).imp ?_
    rintro a b less rfl
    exact String.lt_irrefl _ less
  ordered := sortBy_pairwise _ _ (store.ascending_matching entity query.filter)

variable {store : Store} {settings : Settings} {entity : Entity} {query : Query}

theorem Listing.unique {first second : List Record}
    (left : store.Listing settings entity query first)
    (right : store.Listing settings entity query second) : first = second := by
  have same : first.Perm second := by
    rw [List.perm_ext_iff_of_nodup left.nodup right.nodup]
    intro record
    rw [left.mem_iff, right.mem_iff]
  refine same.eq_of_pairwise ?_ left.ordered right.ordered
  intro a b _ _ before after
  exact absurd after before.asymm

/-- The first pages of one size, laid end to end. -/
def pages (store : Store) (settings : Settings) (entity : Entity)
    (query : Query) (size count : Nat) : List Record :=
  (List.range count).flatMap fun i => (store.page settings entity
    { query with offset := i * size, limit := some size }).records

theorem pages_eq_take {size : Nat} (positive : 0 < size)
    (allowed : size ≤ settings.maxLimit) (count : Nat) :
    store.pages settings entity query size count =
      (store.found settings entity query).take (count * size) := by
  have limit : settings.pageLimit (some size) = size := by
    obtain ⟨size, rfl⟩ := Nat.exists_eq_add_one.mpr positive
    exact Nat.min_eq_left allowed
  induction count with
  | zero => simp [pages]
  | succ count ih =>
      rw [pages] at ih ⊢
      rw [List.range_succ, List.flatMap_append, ih, List.flatMap_singleton,
        Nat.succ_mul, List.take_add]
      simp only [page, found, limit]

/-- What a query finds is the one sequence of the matching live records in the
order of its keys. Pages of any allowed size, laid end to end, are that sequence
as far as they reach; every page gives its length, and none is longer than the
greatest size. -/
theorem listing_paged (store : Store) (settings : Settings) (entity : Entity)
    (query : Query) :
        let all := store.found settings entity query
        (∀ records, store.Listing settings entity query records ↔
          records = all) ∧
          (∀ size, 0 < size → size ≤ settings.maxLimit →
            ∀ count, store.pages settings entity query size count =
              all.take (count * size) ∧
              (all.length ≤ count * size →
                store.pages settings entity query size count = all)) ∧
          ∀ offset limit,
            let page := store.page settings entity { query with offset, limit }
            page.total = all.length ∧
              page.total = store.count entity query.filter ∧
              page.records.length ≤ settings.maxLimit := by
  intro all
  refine ⟨?_, ?_, ?_⟩
  · intro records
    constructor
    · intro listing
      exact listing.unique (store.found_listing settings entity query)
    · rintro rfl
      exact store.found_listing settings entity query
  · intro size positive allowed count
    have part : store.pages settings entity query size count =
        all.take (count * size) :=
      pages_eq_take positive allowed count
    refine ⟨part, ?_⟩
    intro enough
    rw [part, List.take_of_length_le enough]
  · intro offset limit page
    refine ⟨(sortBy_perm ..).length_eq.symm, rfl, ?_⟩
    exact Nat.le_trans (List.length_take_le ..) (Settings.clamp_le ..)

def reading (id : String) (level : Option String) (deleted : Bool) : Record :=
  ⟨"d.Reading", id, 1, default, default, deleted,
    .ofList ((level.map fun text => ("level", .atom (.string text))).toList)⟩

def readings : Store where
  schema := {}
  records := .ofList [reading "1" (some "b") false, reading "2" none false,
    reading "3" (some "c") false, reading "4" (some "b") false,
    reading "5" (some "d") true]

theorem readings_paged :
    let query : Query := { sort := [⟨"level", true⟩] }
    (0 < 2 ∧ 2 ≤ ({} : Settings).maxLimit) ∧
      readings.pages {} ⟨"d", "Reading", [], []⟩ query 2 2 =
        [reading "3" (some "c") false, reading "1" (some "b") false,
          reading "4" (some "b") false, reading "2" none false] := by
  intro query
  have listing : readings.Listing {} ⟨"d", "Reading", [], []⟩ query
      [reading "3" (some "c") false, reading "1" (some "b") false,
        reading "4" (some "b") false, reading "2" none false] := by
    refine ⟨?_, by decide +kernel, by decide +kernel⟩
    have live : readings.matching ⟨"d", "Reading", [], []⟩ query.filter =
        [reading "1" (some "b") false, reading "2" none false,
          reading "3" (some "c") false, reading "4" (some "b") false] := by
      decide +kernel
    intro record
    rw [← mem_matching_iff, live]
    simp only [List.mem_cons, List.not_mem_nil, or_false]
    tauto
  have ⟨found, paged, _⟩ :=
    listing_paged readings {} ⟨"d", "Reading", [], []⟩ query
  refine ⟨by decide, ?_⟩
  rw [(paged 2 (by decide) (by decide) 2).2
    (by rw [← (found _).mp listing]; decide)]
  exact ((found _).mp listing).symm

end Store

end RecordStore
