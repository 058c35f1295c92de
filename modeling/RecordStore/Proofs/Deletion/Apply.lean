import RecordStore.Proofs.Deletion.Plan

namespace RecordStore

namespace Record

def pruneFields (record : Record) (removed : List String)
    (fields : List String) : Record :=
  fields.foldl (fun record field => record.pruneField removed field) record

theorem pruneField_eq (record : Record) (removed : List String)
    (field : String) :
    ∃ attributes, record.pruneField removed field =
      { record with attributes } := by
  rw [pruneField]
  split
  · exact ⟨_, rfl⟩
  · exact ⟨record.attributes, rfl⟩

theorem pruneField_touch (record : Record) (removed : List String)
    (field : String) (now : Instant) :
    (record.touch now).pruneField removed field =
      (record.pruneField removed field).touch now := by
  simp only [pruneField, touch]
  split <;> rfl

theorem value?_pruneField (record : Record) (removed : List String)
    (field name : String) :
    (record.pruneField removed field).attributes.value? name =
      if field = name then
        (record.attributes.value? name).map (Value.prune removed)
      else record.attributes.value? name := by
  rw [pruneField]
  cases found : record.attributes.value? field with
  | none =>
      by_cases here : field = name
      · subst here
        simp [found]
      · simp [here]
  | some value =>
      simp only [Fields.value?_put]
      by_cases here : field = name
      · subst here
        simp [found]
      · simp [here]

theorem pruneFields_eq (record : Record) (removed : List String)
    (fields : List String) :
    ∃ attributes, record.pruneFields removed fields =
      { record with attributes } := by
  induction fields generalizing record with
  | nil => exact ⟨record.attributes, rfl⟩
  | cons field rest ih =>
      obtain ⟨pruned, first⟩ := record.pruneField_eq removed field
      obtain ⟨attributes, others⟩ := ih (record.pruneField removed field)
      refine ⟨attributes, ?_⟩
      rw [pruneFields, List.foldl_cons, ← pruneFields, others, first]

theorem pruneFields_touch (record : Record) (removed : List String)
    (fields : List String) (now : Instant) :
    (record.touch now).pruneFields removed fields =
      (record.pruneFields removed fields).touch now := by
  induction fields generalizing record with
  | nil => rfl
  | cons field rest ih =>
      simp only [pruneFields, List.foldl_cons, pruneField_touch]
      exact ih (record.pruneField removed field)

theorem value?_pruneFields (record : Record) (removed : List String)
    {fields : List String} (distinct : fields.Nodup) (name : String) :
    (record.pruneFields removed fields).attributes.value? name =
      if name ∈ fields then
        (record.attributes.value? name).map (Value.prune removed)
      else record.attributes.value? name := by
  induction fields generalizing record with
  | nil => simp [pruneFields]
  | cons field rest ih =>
      obtain ⟨absent, distinct⟩ := List.nodup_cons.mp distinct
      change ((record.pruneField removed field).pruneFields removed
        rest).attributes.value? name = _
      rw [ih _ distinct, value?_pruneField]
      by_cases here : field = name
      · subst here
        simp [absent]
      · simp [here, Ne.symm here]

end Record

namespace DeletePlan

def fieldsOf (cleared : List FieldKey) (key : RecordKey) : List String :=
  (cleared.filter fun field => (⟨field.entity, field.id⟩ : RecordKey) = key).map
    FieldKey.field

theorem mem_fieldsOf_iff (cleared : List FieldKey) (key : RecordKey)
    (name : String) :
    name ∈ fieldsOf cleared key ↔ ⟨key.entity, key.id, name⟩ ∈ cleared := by
  simp only [fieldsOf, List.mem_map, List.mem_filter, decide_eq_true_eq]
  constructor
  · rintro ⟨field, ⟨member, rfl⟩, rfl⟩
    exact member
  · intro member
    exact ⟨_, ⟨member, rfl⟩, rfl⟩

theorem nodup_fieldsOf {cleared : List FieldKey} (distinct : cleared.Nodup)
    (key : RecordKey) : (fieldsOf cleared key).Nodup := by
  refine (List.nodup_map_iff_inj_on (distinct.filter _)).mpr ?_
  rintro ⟨_, _, name⟩ first ⟨_, _, other⟩ second same
  simp only [List.mem_filter, decide_eq_true_eq] at first second
  obtain ⟨-, rfl⟩ := first
  obtain ⟨rfl, rfl⟩ := RecordKey.mk.inj second.2
  rw [show name = other from same]

theorem fieldsOf_eq_nil_iff (cleared : List FieldKey) (key : RecordKey) :
    fieldsOf cleared key = [] ↔
      ∀ name, ⟨key.entity, key.id, name⟩ ∉ cleared := by
  simp [List.eq_nil_iff_forall_not_mem, mem_fieldsOf_iff]

theorem clear_eq (removed : List String) (now : Instant)
    (touched : List RecordKey) (store : Store) (cleared : List FieldKey) :
    ∃ records, clear removed now touched store cleared =
      { store with records } := by
  induction cleared generalizing touched store with
  | nil => exact ⟨store.records, rfl⟩
  | cons field rest ih =>
      rw [clear]
      split
      · exact ih touched store
      · split
        · exact ih touched _
        · exact ih _ _

theorem record?_clear (removed : List String) (now : Instant)
    (touched : List RecordKey) (store : Store) (cleared : List FieldKey)
    (key : RecordKey) :
    (clear removed now touched store cleared).record? key.entity key.id =
      (store.record? key.entity key.id).map fun record =>
        if fieldsOf cleared key = [] ∨ key ∈ touched then
          record.pruneFields removed (fieldsOf cleared key)
        else (record.pruneFields removed (fieldsOf cleared key)).touch now := by
  -- a record is counted on at its first field, after which its key is among
  -- those touched
  induction cleared generalizing touched store with
  | nil => simp [clear, fieldsOf, Record.pruneFields]
  | cons field rest ih =>
      obtain ⟨entity, id, name⟩ := field
      by_cases here : (⟨entity, id⟩ : RecordKey) = key
      · subst here
        have fields : fieldsOf (⟨entity, id, name⟩ :: rest) ⟨entity, id⟩ =
            name :: fieldsOf rest ⟨entity, id⟩ := by simp [fieldsOf]
        rw [clear, fields]
        cases found : store.record? entity id with
        | none => simp [ih, found]
        | some record =>
            obtain ⟨attributes, pruned⟩ := record.pruneField_eq removed name
            have own : (record.pruneField removed name).key = ⟨entity, id⟩ := by
              obtain ⟨rfl, rfl⟩ := Store.key_of_record? found
              rw [pruned]
              rfl
            dsimp only
            split
            next old =>
                have old : (⟨entity, id⟩ : RecordKey) ∈ touched := by
                  simpa using old
                rw [ih, Store.record?_put, if_pos own]
                simp [old, Record.pruneFields]
            next new =>
                have new : (⟨entity, id⟩ : RecordKey) ∉ touched := by
                  simpa using new
                rw [ih, Store.record?_put]
                simp only [show ((record.pruneField removed name).touch
                  now).key = ⟨entity, id⟩ from own, if_true, Option.map_some,
                  List.mem_cons_self, or_true, new, or_false]
                rw [Record.pruneFields_touch]
                rfl
      · have fields : fieldsOf (⟨entity, id, name⟩ :: rest) key =
            fieldsOf rest key := by
          simp [fieldsOf, here]
        rw [clear, fields]
        cases found : store.record? entity id with
        | none => exact ih touched store
        | some record =>
            obtain ⟨attributes, pruned⟩ := record.pruneField_eq removed name
            have other : (record.pruneField removed name).key ≠ key := by
              obtain ⟨rfl, rfl⟩ := Store.key_of_record? found
              rw [pruned]
              exact here
            dsimp only
            split
            · rw [ih, Store.record?_put, if_neg other]
            · rw [ih, Store.record?_put,
                if_neg (show (Record.touch _ now).key ≠ key from other)]
              simp [Ne.symm here]

theorem flagAll_eq (now : Instant) (store : Store) (keys : List RecordKey) :
    ∃ records, keys.foldl (flag now) store = { store with records } := by
  induction keys generalizing store with
  | nil => exact ⟨store.records, rfl⟩
  | cons key rest ih =>
      obtain ⟨records, flagged⟩ := ih (flag now store key)
      obtain ⟨first, here⟩ :
          ∃ records, flag now store key = { store with records } := by
        rw [flag, Store.update]
        split
        · exact ⟨_, rfl⟩
        · exact ⟨store.records, rfl⟩
      exact ⟨records, by rw [List.foldl_cons, flagged, here]⟩

theorem record?_flagAll (now : Instant) (store : Store) {keys : List RecordKey}
    (distinct : keys.Nodup) (key : RecordKey) :
    (keys.foldl (flag now) store).record? key.entity key.id =
      (store.record? key.entity key.id).map fun record =>
        if key ∈ keys then record.markDeleted now else record := by
  induction keys generalizing store with
  | nil => simp
  | cons first rest ih =>
      obtain ⟨absent, distinct⟩ := List.nodup_cons.mp distinct
      rw [List.foldl_cons, ih _ distinct, flag,
        Store.record?_update _ first (fun record =>
          (rfl : (record.markDeleted now).key = record.key)), Option.map_map]
      congr 1
      funext record
      by_cases here : first = key
      · subst here
        simp [absent]
      · simp [here, Ne.symm here]

theorem isSome_record?_flagAll (now : Instant) (store : Store)
    (keys : List RecordKey) (key : RecordKey) :
    ((keys.foldl (flag now) store).record? key.entity key.id).isSome =
      (store.record? key.entity key.id).isSome := by
  induction keys generalizing store with
  | nil => rfl
  | cons first rest ih =>
      rw [List.foldl_cons, ih, flag,
        Store.record?_update _ first (fun record =>
          (rfl : (record.markDeleted now).key = record.key)), Option.isSome_map]

theorem isSome_apply (plan : DeletePlan) {store : Store}
    (stored : (store.record? plan.entity plan.id).isSome) (now : Instant) :
    (plan.apply store now).2.isSome := by
  have kept : ((plan.cascade.deleted.foldl (flag now)
      (clear plan.removedIds now [] store plan.cascade.cleared)).record?
      plan.entity plan.id).isSome := by
    rw [isSome_record?_flagAll now _ plan.cascade.deleted
      ⟨plan.entity, plan.id⟩,
      record?_clear plan.removedIds now [] store plan.cascade.cleared
        ⟨plan.entity, plan.id⟩, Option.isSome_map]
    exact stored
  obtain ⟨target, found⟩ := Option.isSome_iff_exists.mp kept
  simp only [apply, found, Option.isSome_some]

def effect (plan : DeletePlan) (now : Instant) (key : RecordKey)
    (record : Record) : Record :=
  if key ∈ plan.gone then record.markDeleted now
  else if fieldsOf plan.cascade.cleared key = [] then record
  else (record.pruneFields plan.removedIds
    (fieldsOf plan.cascade.cleared key)).touch now

theorem target_mem_gone (plan : DeletePlan) :
    ⟨plan.entity, plan.id⟩ ∈ plan.gone :=
  List.mem_cons_self ..

variable {plan : DeletePlan} {store : Store}

theorem Fits.fieldsOf_gone (fits : plan.Fits store) {key : RecordKey}
    (goes : key ∈ plan.gone) : fieldsOf plan.cascade.cleared key = [] := by
  rw [fieldsOf_eq_nil_iff]
  exact fun name listed => (fits.refers_of_cleared listed).1 goes

def Touches (plan : DeletePlan) (key : RecordKey) : Prop :=
  key ∈ plan.gone ∨ ∃ name, ⟨key.entity, key.id, name⟩ ∈ plan.cascade.cleared

theorem effect_of_gone (now : Instant) {key : RecordKey}
    (goes : key ∈ plan.gone) (record : Record) :
    plan.effect now key record = record.markDeleted now :=
  if_pos goes

theorem effect_of_not_touches (now : Instant) {key : RecordKey}
    (apart : ¬plan.Touches key) (record : Record) :
    plan.effect now key record = record := by
  obtain ⟨stays, unlisted⟩ := not_or.mp apart
  rw [effect, if_neg stays, if_pos]
  rw [fieldsOf_eq_nil_iff]
  exact fun name listed => unlisted ⟨name, listed⟩

theorem effect_of_touches (now : Instant) {key : RecordKey}
    (touches : plan.Touches key) (record : Record) :
    ∃ deleted attributes, plan.effect now key record =
      { record with deleted, attributes }.touch now := by
  rw [effect]
  split
  next => exact ⟨true, record.attributes, rfl⟩
  next stays =>
      obtain ⟨name, listed⟩ := touches.resolve_left stays
      rw [if_neg]
      · obtain ⟨attributes, pruned⟩ :=
          record.pruneFields_eq plan.removedIds
            (fieldsOf plan.cascade.cleared key)
        exact ⟨record.deleted, attributes, by rw [pruned]⟩
      · intro none
        exact (fieldsOf_eq_nil_iff ..).mp none name listed

@[simp] theorem effect_key (now : Instant) (key : RecordKey) (record : Record) :
    (plan.effect now key record).key = record.key := by
  by_cases touches : plan.Touches key
  · obtain ⟨deleted, attributes, changed⟩ :=
      effect_of_touches now touches record
    rw [changed]
    rfl
  · rw [effect_of_not_touches now touches]

theorem effect_deleted (now : Instant) (key : RecordKey) (record : Record) :
    (plan.effect now key record).deleted = true ↔
      key ∈ plan.gone ∨ record.deleted = true := by
  rw [effect]
  split
  next goes => simp [goes, Record.markDeleted, Record.touch]
  next stays =>
      obtain ⟨attributes, pruned⟩ :=
        record.pruneFields_eq plan.removedIds
          (fieldsOf plan.cascade.cleared key)
      split <;> simp [stays, pruned, Record.touch]

theorem Fits.value?_effect (fits : plan.Fits store) (now : Instant)
    (key : RecordKey) (record : Record) (name : String) :
    (plan.effect now key record).attributes.value? name =
      if ⟨key.entity, key.id, name⟩ ∈ plan.cascade.cleared then
        (record.attributes.value? name).map (Value.prune plan.removedIds)
      else record.attributes.value? name := by
  simp only [← mem_fieldsOf_iff]
  rw [effect]
  split
  next goes =>
      rw [fits.fieldsOf_gone goes]
      rfl
  next stays =>
      have pruned := record.value?_pruneFields plan.removedIds
        (nodup_fieldsOf fits.nodup_cleared key) name
      split
      next none => simp [none]
      next some => exact pruned

theorem Fits.forall_effect (fits : plan.Fits store) {P : String → Value → Prop}
    (pruned : ∀ name value, P name value → P name (value.prune plan.removedIds))
    {record : Record}
    (before : ∀ name value, record.attributes.value? name = some value →
      P name value)
    (now : Instant) (key : RecordKey) (name : String) (value : Value)
    (found : (plan.effect now key record).attributes.value? name = some value) :
    P name value := by
  rw [fits.value?_effect now] at found
  split at found
  next listed =>
      obtain ⟨whole, held, rfl⟩ := Option.map_eq_some_iff.mp found
      exact pruned name whole (before name whole held)
  next unlisted => exact before name value found

def prepare (plan : DeletePlan) (store : Store) (now : Instant) : Store :=
  plan.cascade.deleted.foldl (flag now)
    (clear plan.removedIds now [] store plan.cascade.cleared)

theorem prepare_eq (plan : DeletePlan) (store : Store) (now : Instant) :
    ∃ records, plan.prepare store now = { store with records } := by
  obtain ⟨cleared, clears⟩ :=
    clear_eq plan.removedIds now [] store plan.cascade.cleared
  obtain ⟨records, flags⟩ :=
    flagAll_eq now (clear plan.removedIds now [] store plan.cascade.cleared)
      plan.cascade.deleted
  exact ⟨records, by rw [prepare, flags, clears]⟩

theorem Fits.record?_prepare (fits : plan.Fits store) (now : Instant)
    (key : RecordKey) :
    (plan.prepare store now).record? key.entity key.id =
      (store.record? key.entity key.id).map fun record =>
        if key = ⟨plan.entity, plan.id⟩ then record
        else plan.effect now key record := by
  obtain ⟨absent, distinct⟩ := List.nodup_cons.mp fits.nodup
  rw [prepare, record?_flagAll now _ distinct, record?_clear, Option.map_map]
  congr 1
  funext record
  simp only [Function.comp_apply, List.not_mem_nil, or_false, effect]
  by_cases target : key = ⟨plan.entity, plan.id⟩
  · subst target
    have own := fits.fieldsOf_gone plan.target_mem_gone
    simp [own, absent, Record.pruneFields]
  · have goes : key ∈ plan.gone ↔ key ∈ plan.cascade.deleted := by
      simp [gone, target]
    by_cases along : key ∈ plan.cascade.deleted
    · have own := fits.fieldsOf_gone (goes.mpr along)
      simp [own, along, goes, target, Record.pruneFields]
    · by_cases none : fieldsOf plan.cascade.cleared key = []
      · simp [none, along, goes, target, Record.pruneFields]
      · simp [none, along, goes, target]

theorem Fits.apply_eq (fits : plan.Fits store) (now : Instant) {target : Record}
    (stored : store.record? plan.entity plan.id = some target) :
    plan.apply store now =
      (((plan.prepare store now).put (target.markDeleted now)).commit,
        some (target.markDeleted now)) := by
  have kept := fits.record?_prepare now ⟨plan.entity, plan.id⟩
  simp only [stored, Option.map_some, if_true] at kept
  rw [prepare] at kept ⊢
  simp only [apply, kept]

theorem Fits.apply_commits (fits : plan.Fits store) (now : Instant)
    {target : Record}
    (stored : store.record? plan.entity plan.id = some target) :
    (∃ records, (plan.apply store now).1 =
      ({ store with records } : Store).commit) ∧
      (plan.apply store now).2 = some (target.markDeleted now) := by
  obtain ⟨records, prepared⟩ := plan.prepare_eq store now
  rw [fits.apply_eq now stored, prepared]
  exact ⟨⟨_, rfl⟩, rfl⟩

theorem Fits.schema_apply (fits : plan.Fits store) (now : Instant)
    {target : Record}
    (stored : store.record? plan.entity plan.id = some target) :
    (plan.apply store now).1.schema = store.schema := by
  obtain ⟨⟨records, committed⟩, -⟩ := fits.apply_commits now stored
  rw [committed]
  rfl

theorem Fits.record?_apply (fits : plan.Fits store) (now : Instant)
    {target : Record} (stored : store.record? plan.entity plan.id = some target)
    (key : RecordKey) :
    (plan.apply store now).1.record? key.entity key.id =
      (store.record? key.entity key.id).map (plan.effect now key) := by
  have own : (target.markDeleted now).key = ⟨plan.entity, plan.id⟩ := by
    obtain ⟨entity, id⟩ := Store.key_of_record? stored
    rw [← entity, ← id]
    rfl
  rw [fits.apply_eq now stored, Store.record?_commit, Store.record?_put, own]
  by_cases here : key = ⟨plan.entity, plan.id⟩
  · subst here
    simp [stored, effect, gone]
  · rw [if_neg (Ne.symm here), fits.record?_prepare]
    simp [here]

/-- Without a target everything else is done all the same, and not committed. -/
theorem Fits.apply_unknown (fits : plan.Fits store) (now : Instant)
    (unknown : store.record? plan.entity plan.id = none) :
    plan.apply store now = (plan.prepare store now, none) := by
  have missing := fits.record?_prepare now ⟨plan.entity, plan.id⟩
  simp only [unknown, Option.map_none] at missing
  rw [prepare] at missing ⊢
  simp only [apply, missing]

theorem Fits.record?_carriedOut (fits : plan.Fits store) (now : Instant)
    (key : RecordKey) :
    (plan.apply store now).1.record? key.entity key.id =
      (store.record? key.entity key.id).map (plan.effect now key) := by
  cases stored : store.record? plan.entity plan.id with
  | some target => exact fits.record?_apply now stored key
  | none =>
      rw [fits.apply_unknown now stored, fits.record?_prepare]
      by_cases here : key = ⟨plan.entity, plan.id⟩
      · subst here
        simp [stored]
      · simp [here]

end DeletePlan

end RecordStore
