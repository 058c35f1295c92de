import Mathlib.Data.List.Chain
import Mathlib.Data.List.Perm.Subperm
import RecordStore.Proofs.Deletion.Exact

namespace RecordStore

namespace Store

/-! Deletions that are refused for their depth. The search stands at the end of
a chain of as many cascading references as are allowed, before one reference
more. The depth is looked at before the records collected so far, so that one
more reference is too many even if it leads back to one of them. -/

/-- Different records, each of them brought along by the one before, the first
by `target`; all but the first are live. -/
structure Chain (store : Store) (target : RecordKey) (keys : List RecordKey) :
    Prop where
  starts : keys.head? = some target
  linked : keys.IsChain store.Cascades
  nodup : keys.Nodup
  live :
    ∀ key ∈ keys.tail, ∃ record, store.live? key.entity key.id = some record

theorem cascades_iff_mem_filter (store : Store) (key next : RecordKey) :
    store.Cascades key next ↔
      ∃ reference ∈ (store.referencesTo key.entity key.id).filter
        (·.policy = .cascade), reference.holder = next := by
  simp [Cascades, and_assoc]

theorem live?_of_cascades {store : Store} {key next : RecordKey}
    (brings : store.Cascades key next) :
    ∃ record, store.live? next.entity next.id = some record := by
  obtain ⟨reference, listed, -, rfl⟩ := brings
  exact live?_holder key listed

theorem live?_of_linked {store : Store} {keys : List RecordKey}
    (linked : keys.IsChain store.Cascades) :
    ∀ key ∈ keys.tail, ∃ record, store.live? key.entity key.id =
      some record := by
  induction keys with
  | nil => simp
  | cons first rest ih =>
      rw [List.isChain_cons] at linked
      obtain ⟨brings, linked⟩ := linked
      cases rest with
      | nil => simp
      | cons second rest =>
          intro key member
          rcases List.mem_cons.mp member with rfl | member
          · exact live?_of_cascades (brings key rfl)
          · exact ih linked key member

theorem Chain.subset {store : Store} {target : RecordKey}
    {keys : List RecordKey} (chain : store.Chain target keys) :
    keys ⊆ target :: store.records.items.map Record.key := by
  intro key member
  obtain ⟨first, rest, rfl⟩ :=
    List.exists_cons_of_ne_nil (List.ne_nil_of_mem member)
  obtain rfl : first = target := Option.some.inj chain.starts
  rcases List.mem_cons.mp member with rfl | member
  · exact List.mem_cons_self ..
  · obtain ⟨record, live⟩ := chain.live key member
    obtain ⟨stored, own⟩ :=
      (store.records.get?_eq_some_iff ..).mp (record?_of_live? live)
    exact List.mem_cons_of_mem _ (List.mem_map.mpr ⟨record, stored, own⟩)

/-- A search from a record runs out of room: it passes through records that it
collects, and comes to one more when it has collected those of `stopped`. -/
inductive Overruns (store : Store) :
    (room : Nat) → (collected : List RecordKey) → (key : RecordKey) →
      (passed : List RecordKey) → (last : RecordKey) →
        (stopped : List RecordKey) → Prop where
  | here {collected : List RecordKey} {key : RecordKey} :
      Overruns store 0 collected key [] key collected
  | further {room : Nat} {collected middle passed stopped : List RecordKey}
      {key last : RecordKey} {before after : List Reference}
      {reference : Reference} (new : key ∉ collected)
      (split : (store.referencesTo key.entity key.id).filter
        (·.policy = .cascade) = before ++ reference :: after)
      (done : before.foldlM (fun collected reference => store.collect room
        collected reference.holder) (collected ++ [key]) = .ok middle)
      (overruns : Overruns store room middle reference.holder passed last
        stopped) :
      Overruns store (room + 1) collected key (key :: passed) last stopped

theorem collect_eq_error_iff (store : Store) (room : Nat)
    (collected : List RecordKey) (key : RecordKey) :
    store.collect room collected key =
      .error (.cascadeTooDeep (maxCascadeDepth + 1)) ↔
      ∃ passed last stopped,
        store.Overruns room collected key passed last stopped := by
  constructor
  · intro failed
    induction room generalizing collected key with
    | zero => exact ⟨[], key, collected, .here⟩
    | succ room ih =>
        rw [collect] at failed
        split at failed
        next => cases failed
        next new =>
            obtain ⟨before, reference, after, middle, split, done, failed⟩ :=
              foldlM_stops failed
            obtain ⟨passed, last, stopped, overruns⟩ :=
              ih middle reference.holder failed
            exact ⟨key :: passed, last, stopped,
              .further (by simpa using new) split done overruns⟩
  · rintro ⟨passed, last, stopped, overruns⟩
    induction overruns with
    | here => rfl
    | further new split done _ failed =>
        rw [collect, if_neg (by simpa using new), split, List.foldlM_append,
          done, ok_bind, List.foldlM_cons, failed, error_bind]

theorem collectAll_kept {store : Store} {room : Nat}
    {references : List Reference} {collected result : List RecordKey}
    (done : references.foldlM (fun collected reference =>
      store.collect room collected reference.holder) collected = .ok result) :
    collected ⊆ result :=
  (foldlM_relates (R := fun before after => before ⊆ after) (Q := fun _ _ =>
    True) List.Subset.refl List.Subset.trans (fun _ _ => trivial)
    (fun _ _ _ _ found => ⟨(collect_collects found).1.kept.subset, trivial⟩)
    done).1

theorem Overruns.length_passed {store : Store} {room : Nat}
    {collected passed stopped : List RecordKey} {key last : RecordKey}
    (overruns : store.Overruns room collected key passed last stopped) :
    passed.length = room := by
  induction overruns with
  | here => rfl
  | further _ _ _ _ length => rw [List.length_cons, length]

theorem Overruns.linked {store : Store} {room : Nat}
    {collected passed stopped : List RecordKey} {key last : RecordKey}
    (overruns : store.Overruns room collected key passed last stopped) :
    (passed ++ [last]).head? = some key ∧
      (passed ++ [last]).IsChain store.Cascades := by
  induction overruns with
  | here => exact ⟨rfl, .singleton _⟩
  | @further room _ _ _ _ key _ before after reference _ split _ _ ih =>
      obtain ⟨starts, linked⟩ := ih
      refine ⟨rfl, ?_⟩
      rw [List.cons_append, List.isChain_cons]
      refine ⟨?_, linked⟩
      intro next first
      obtain rfl : reference.holder = next := by simpa [starts] using first
      exact (store.cascades_iff_mem_filter ..).mpr
        ⟨reference, by simp [split], rfl⟩

theorem Overruns.fresh {store : Store} {room : Nat}
    {collected passed stopped : List RecordKey} {key last : RecordKey}
    (overruns : store.Overruns room collected key passed last stopped) :
    collected ⊆ stopped ∧ passed ⊆ stopped ∧
      passed.Nodup ∧ ∀ other ∈ passed, other ∉ collected := by
  induction overruns with
  | here => simp
  | @further room collected middle passed stopped key last before after
    reference new split done _ ih =>
      obtain ⟨kept, within, nodup, apart⟩ := ih
      have grown := collectAll_kept done
      have own : key ∈ middle := grown (by simp)
      refine ⟨?_, ?_, ?_, ?_⟩
      · intro other member
        exact kept (grown (by simp [member]))
      · intro other member
        rcases List.mem_cons.mp member with rfl | member
        · exact kept own
        · exact within member
      · exact List.nodup_cons.mpr ⟨fun member => apart key member own, nodup⟩
      · intro other member
        rcases List.mem_cons.mp member with rfl | member
        · exact new
        · exact fun old => apart other member (grown (by simp [old]))

/-- What a search passes through, when nothing has been collected before it,
is a chain. It goes on to the record that is too many exactly if that is not
on it. -/
theorem Overruns.chain {store : Store} {room : Nat}
    {passed stopped : List RecordKey} {key last : RecordKey}
    (overruns : store.Overruns (room + 1) [] key passed last stopped) :
    store.Chain key passed ∧
      (store.Chain key (passed ++ [last]) ↔ last ∉ passed) := by
  obtain ⟨starts, linked⟩ := overruns.linked
  obtain ⟨-, -, nodup, -⟩ := overruns.fresh
  refine ⟨?_, ?_, ?_⟩
  · have first : passed.head? = some key := by
      cases overruns with
      | further => rfl
    have part := linked.left_of_append
    exact ⟨first, part, nodup, live?_of_linked part⟩
  · intro chain again
    exact (List.nodup_append.mp chain.nodup).2.2 last again last (by simp) rfl
  · intro new
    refine ⟨starts, linked, ?_, live?_of_linked linked⟩
    rw [← List.concat_eq_append]
    exact nodup.concat new

theorem collect_eq_error_of_walk {store : Store} {room : Nat}
    (walk : Nat → RecordKey)
    (leads : ∀ i < room, ∀ next, store.Cascades (walk i) next ↔
      next = walk (i + 1))
    (distinct : ∀ i j, i < j → j < room → walk i ≠ walk j)
    {collected : List RecordKey} (fresh : ∀ i < room, walk i ∉ collected) :
    store.collect room collected (walk 0) =
      .error (.cascadeTooDeep (maxCascadeDepth + 1)) := by
  induction room generalizing walk collected with
  | zero => rfl
  | succ room ih =>
      have deeper : store.collect room (collected ++ [walk 0]) (walk 1) =
          .error (.cascadeTooDeep (maxCascadeDepth + 1)) := by
        refine ih (fun i => walk (i + 1)) ?_ ?_ ?_
        · exact fun i below => leads (i + 1) (by omega)
        · exact fun i j less below =>
            distinct (i + 1) (j + 1) (by omega) (by omega)
        · intro i below
          rw [List.mem_append, List.mem_singleton, not_or]
          exact ⟨fresh (i + 1) (by omega),
            (distinct 0 (i + 1) (by omega) (by omega)).symm⟩
      have leads : ∀ next, store.Cascades (walk 0) next ↔ next = walk 1 :=
        leads 0 (by omega)
      obtain ⟨reference, member, -⟩ :=
        (store.cascades_iff_mem_filter ..).mp ((leads _).mpr rfl)
      rw [collect, if_neg (by simpa using fresh 0 (by omega))]
      cases references : (store.referencesTo (walk 0).entity (walk 0).id).filter
        (·.policy = .cascade) with
      | nil => simp [references] at member
      | cons first rest =>
          have holder : first.holder = walk 1 :=
            (leads _).mp ((store.cascades_iff_mem_filter ..).mpr
              ⟨first, by simp [references], rfl⟩)
          rw [List.foldlM_cons, holder, deeper, error_bind]

theorem planDelete_eq_tooDeep_iff (store : Store) (entity id : String) :
    store.planDelete entity id =
      .error (.cascadeTooDeep (maxCascadeDepth + 1)) ↔
      store.collect (maxCascadeDepth + 1) [] ⟨entity, id⟩ =
        .error (.cascadeTooDeep (maxCascadeDepth + 1)) := by
  constructor
  · intro failed
    rcases planDelete_error_cases failed with
      deep | ⟨_, _, _, _, -, -, -, -, restricted⟩
    · exact deep
    · cases restricted
  · intro failed
    rw [planDelete, failed, error_bind]

/-- A deletion is refused for its depth exactly if its search runs out of room.
It has then passed through a chain of as many references as are allowed, and has
come to a record that brings along one more. The chain goes on to that record
exactly if it is not on it, as it is not if it has not been collected. -/
theorem tooDeep_iff_overruns (store : Store) (entity id : String) :
    (store.planDelete entity id =
      .error (.cascadeTooDeep (maxCascadeDepth + 1)) ↔
      ∃ passed last stopped, store.Overruns (maxCascadeDepth + 1) []
        ⟨entity, id⟩ passed last stopped) ∧
      ∀ passed last stopped, store.Overruns (maxCascadeDepth + 1) []
        ⟨entity, id⟩ passed last stopped →
        store.Chain ⟨entity, id⟩ passed ∧ passed.length = maxCascadeDepth + 1 ∧
          passed ⊆ stopped ∧ (passed ++ [last]).IsChain store.Cascades ∧
          (store.Chain ⟨entity, id⟩ (passed ++ [last]) ↔ last ∉ passed) := by
  refine ⟨?_, ?_⟩
  · rw [planDelete_eq_tooDeep_iff, collect_eq_error_iff]
  · intro passed last stopped overruns
    obtain ⟨-, linked⟩ := overruns.linked
    obtain ⟨-, within, -, -⟩ := overruns.fresh
    obtain ⟨chain, goesOn⟩ := overruns.chain
    exact ⟨chain, overruns.length_passed, within, linked, goesOn⟩

/-- The search for what goes with the target runs out of room. -/
def Deep (store : Store) (target : RecordKey) : Prop :=
  ∃ passed last stopped,
    store.Overruns (maxCascadeDepth + 1) [] target passed last stopped

theorem planDelete_of_deep {store : Store} {entity id : String}
    (deep : store.Deep ⟨entity, id⟩) :
    store.planDelete entity id =
      .error (.cascadeTooDeep (maxCascadeDepth + 1)) :=
  (planDelete_eq_tooDeep_iff ..).mpr ((collect_eq_error_iff ..).mpr deep)

/-- A deletion is planned if and only if its search has room and no record
that stays restricts it. Its depth is what it is refused for first. -/
theorem planDelete_outcome (store : Store) (entity id : String) :
    match store.planDelete entity id with
    | .ok plan =>
      plan.Exact store ⟨entity, id⟩ ∧ ¬store.Deep ⟨entity, id⟩ ∧
        ∀ error, ¬store.Restricts ⟨entity, id⟩ error
    | .error error =>
      (store.Deep ⟨entity, id⟩ ∧
        error = .cascadeTooDeep (maxCascadeDepth + 1)) ∨
      (¬store.Deep ⟨entity, id⟩ ∧ store.Restricts ⟨entity, id⟩ error) := by
  cases planned : store.planDelete entity id with
  | ok plan =>
      have shallow : ¬store.Deep ⟨entity, id⟩ := by
        intro deep
        rw [planDelete_of_deep deep] at planned
        cases planned
      obtain ⟨rfl, rfl, fits⟩ := planDelete_fits planned
      refine ⟨fits.exact, shallow, ?_⟩
      rintro error ⟨key, owner, field, record, goes, refers, policy, stays, -⟩
      exact stays
        (fits.exact.unrestricted key owner field record goes refers policy)
  | error error =>
      by_cases deep : store.Deep ⟨entity, id⟩
      · rw [planDelete_of_deep deep] at planned
        cases planned
        exact .inl ⟨deep, rfl⟩
      · refine .inr ⟨deep, (planDelete_error_cases planned).resolve_left ?_⟩
        intro failed
        obtain rfl := collect_error failed
        exact deep ((collect_eq_error_iff ..).mp failed)

theorem not_deep_of_few {store : Store}
    (few : store.records.items.length < maxCascadeDepth)
    (target : RecordKey) : ¬store.Deep target := by
  rintro ⟨passed, last, stopped, overruns⟩
  have chain := overruns.chain.1
  have shorter := (List.subperm_of_subset chain.nodup chain.subset).length_le
  rw [overruns.length_passed, List.length_cons, List.length_map] at shorter
  omega

/-- With fewer records than references are allowed, no deletion is refused for
its depth: it is planned exactly, or a record that stays restricts it. -/
theorem planDelete_of_few {store : Store}
    (few : store.records.items.length < maxCascadeDepth)
    (entity id : String) :
    match store.planDelete entity id with
    | .ok plan => plan.Exact store ⟨entity, id⟩
    | .error error => store.Restricts ⟨entity, id⟩ error := by
  have outcome := store.planDelete_outcome entity id
  cases planned : store.planDelete entity id with
  | ok plan =>
      rw [planned] at outcome
      exact outcome.1
  | error error =>
      rw [planned] at outcome
      obtain ⟨deep, -⟩ | ⟨-, restricts⟩ := outcome
      · exact absurd deep (not_deep_of_few few _)
      · exact restricts

end Store

/-- Nodes that go with the one above them. -/
def Entity.node : Entity :=
  ⟨"d", "Node",
    [{ name := "up", type := ⟨.reference "Node", false⟩,
       declaredPolicy := some .cascade }], []⟩

namespace NodeRing

def id (i : Nat) : String :=
  String.ofList (Decimal.digits i)

def size : Nat := maxCascadeDepth + 1

/-- The node above the first one is the last one. -/
def node (i : Nat) : Record :=
  ⟨"d.Node", id i, 1, default, default, false,
    .ofList [("up", .atom (.ref (id ((i + maxCascadeDepth) % size))))]⟩

def store : Store where
  schema := { entities := .ofList [.node] }
  records := .ofList ((List.range size).map node)

theorem id_injective {i j : Nat} (same : id i = id j) : i = j := by
  have digits := String.ofList_injective same
  rw [← Decimal.ofDigits_digits i, digits, Decimal.ofDigits_digits]

theorem mem_records_iff (record : Record) :
    record ∈ store.records.items ↔ ∃ i < size, record = node i := by
  rw [store, Index.mem_ofList]
  · simp [eq_comm]
  · rw [List.map_map]
    refine List.nodup_range.map ?_
    intro i j same
    exact id_injective (congrArg RecordKey.id same)

theorem live?_eq_some_iff (name : String) (record : Record) :
    store.live? "d.Node" name = some record ↔
      ∃ i < size, name = id i ∧ record = node i := by
  rw [Store.live?_eq_some_iff, Store.record?, Index.get?_eq_some_iff,
    mem_records_iff]
  constructor
  · rintro ⟨⟨⟨i, inside, rfl⟩, key⟩, -⟩
    exact ⟨i, inside, (congrArg RecordKey.id key).symm, rfl⟩
  · rintro ⟨i, inside, rfl, rfl⟩
    exact ⟨⟨⟨i, inside, rfl⟩, rfl⟩, rfl⟩

theorem value?_node (i : Nat) :
    (node i).attributes.value? "up" =
      some (.atom (.ref (id ((i + maxCascadeDepth) % size)))) := by
  change ((∅ : Attributes).put "up" _).value? "up" = _
  rw [Fields.value?_put, if_pos rfl]

theorem cascades_iff {i : Nat} (inside : i < size) (next : RecordKey) :
    store.Cascades ⟨"d.Node", id i⟩ next ↔
      next = ⟨"d.Node", id ((i + 1) % size)⟩ := by
  rw [Store.cascades_iff]
  constructor
  · rintro ⟨entity, field, record, refers, -, rfl⟩
    obtain rfl : entity = .node := List.mem_singleton.mp refers.declared
    obtain rfl := List.mem_singleton.mp refers.reference
    obtain ⟨j, below, named, rfl⟩ := (live?_eq_some_iff ..).mp refers.live
    obtain ⟨value, held, holds⟩ := refers.holds
    obtain rfl := Option.some.inj ((value?_node j).symm.trans held)
    have same : id ((j + maxCascadeDepth) % size) = id i := by
      simpa [Value.references, Atom.refId?] using holds
    have around : j = (i + 1) % size := by
      have index := id_injective same
      simp only [size, maxCascadeDepth] at *
      omega
    rw [named, around]
    rfl
  · rintro rfl
    have below : (i + 1) % size < size := Nat.mod_lt _ (by decide)
    have back : ((i + 1) % size + maxCascadeDepth) % size = i := by
      simp only [size, maxCascadeDepth] at *
      omega
    have target : store.schema.target? .node
        { name := "up", type := ⟨.reference "Node", false⟩,
          declaredPolicy := some .cascade } = some "d.Node" := by decide +kernel
    refine ⟨.node, _, node ((i + 1) % size), ⟨.head _, .head _, target, ?_, ?_⟩,
      rfl, rfl⟩
    · exact (live?_eq_some_iff ..).mpr ⟨_, below, rfl, rfl⟩
    · refine ⟨_, value?_node _, ?_⟩
      rw [back]
      simp [Value.references, Atom.refId?]

theorem planDelete_tooDeep :
    store.planDelete "d.Node" (id 0) =
      .error (.cascadeTooDeep (maxCascadeDepth + 1)) := by
  rw [Store.planDelete_eq_tooDeep_iff]
  refine Store.collect_eq_error_of_walk (fun i => ⟨"d.Node", id (i % size)⟩) ?_
    ?_ (by simp)
  · intro i inside next
    rw [cascades_iff (Nat.mod_lt _ (by decide)), Nat.mod_add_mod]
  · intro i j less below same
    have index := id_injective (congrArg RecordKey.id same)
    rw [Nat.mod_eq_of_lt (show j < size from below),
      Nat.mod_eq_of_lt (show i < size from Nat.lt_trans less below)] at index
    omega

theorem length_chain {keys : List RecordKey}
    (chain : store.Chain ⟨"d.Node", id 0⟩ keys) : keys.length ≤ size := by
  have nodes : keys ⊆
      (List.range size).map fun i => (⟨"d.Node", id i⟩ : RecordKey) := by
    intro key member
    rw [List.mem_map]
    rcases List.mem_cons.mp (chain.subset member) with rfl | member
    · exact ⟨0, by decide, rfl⟩
    · obtain ⟨record, stored, rfl⟩ := List.mem_map.mp member
      obtain ⟨i, inside, rfl⟩ := (mem_records_iff record).mp stored
      exact ⟨i, List.mem_range.mpr inside, rfl⟩
  have fewer := (List.subperm_of_subset chain.nodup nodes).length_le
  rwa [List.length_map, List.length_range] at fewer

/-- The search for what goes with the first node comes back to a node that it
has passed through. -/
theorem overruns_back :
    ∃ passed last stopped, store.Overruns (maxCascadeDepth + 1) []
      ⟨"d.Node", id 0⟩ passed last stopped ∧
      store.Chain ⟨"d.Node", id 0⟩ passed ∧ last ∈ stopped := by
  obtain ⟨deep, chains⟩ := store.tooDeep_iff_overruns "d.Node" (id 0)
  obtain ⟨passed, last, stopped, overruns⟩ := deep.mp planDelete_tooDeep
  obtain ⟨chain, length, within, -, goesOn⟩ :=
    chains passed last stopped overruns
  refine ⟨passed, last, stopped, overruns, chain, within ?_⟩
  by_contra new
  have longer := length_chain (goesOn.mpr new)
  rw [List.length_append, length] at longer
  exact Nat.not_succ_le_self _ longer

theorem not_always_deep :
    ¬∀ (store : Store) (entity id : String), store.planDelete entity id =
      .error (.cascadeTooDeep (maxCascadeDepth + 1)) →
      ∃ keys, store.Chain ⟨entity, id⟩ keys ∧
        maxCascadeDepth + 1 < keys.length := by
  intro always
  obtain ⟨keys, chain, longer⟩ :=
    always store "d.Node" (id 0) planDelete_tooDeep
  exact absurd (length_chain chain) (Nat.not_le.mpr longer)

end NodeRing

end RecordStore
