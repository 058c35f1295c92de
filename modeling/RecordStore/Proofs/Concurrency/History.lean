import RecordStore.Proofs.Concurrency.Linearizable
import RecordStore.Proofs.Concurrency.Protection

namespace RecordStore

/-- The second record may have come of the first. It is the first if it has the
version of the first. -/
structure Record.Precedes (old new : Record) : Prop where
  key : new.key = old.key
  createdAt : new.createdAt = old.createdAt
  version_le : old.version.toNat ≤ new.version.toNat
  eq_of_version : old.version = new.version → old = new

namespace Record.Precedes

theorem refl (record : Record) : record.Precedes record :=
  ⟨rfl, rfl, Nat.le_refl _, fun _ => rfl⟩

theorem trans {first second third : Record} (left : first.Precedes second)
    (right : second.Precedes third) : first.Precedes third where
  key := right.key.trans left.key
  createdAt := right.createdAt.trans left.createdAt
  version_le := Nat.le_trans left.version_le right.version_le
  eq_of_version := by
    intro same
    have middle : first.version = second.version :=
      UInt64.toNat_inj.mp
        (Nat.le_antisymm left.version_le (same ▸ right.version_le))
    exact (left.eq_of_version middle).trans
      (right.eq_of_version (middle.symm.trans same))

theorem of_next {old new : Record} {deleted : Bool} {attributes : Attributes}
    {now : Instant} (made : new = { old with deleted, attributes }.touch now)
    (next : new.version.toNat = old.version.toNat + 1) : old.Precedes new where
  key := made ▸ rfl
  createdAt := made ▸ rfl
  version_le := by omega
  eq_of_version := by
    intro same
    rw [same] at next
    omega

end Record.Precedes

/-- Whatever was committed between the two stores, every record of the first has
come to one of the second. -/
structure Store.Preserves (earlier later : Store) : Prop where
  precedes : earlier.Precedes later
  kept : ∀ entity id old, earlier.record? entity id = some old →
    ∃ new, later.record? entity id = some new ∧ old.Precedes new

namespace Store.Preserves

variable {earlier later : Store}

theorem refl (store : Store) : store.Preserves store :=
  ⟨.refl store, fun _ _ old stored => ⟨old, stored, .refl old⟩⟩

theorem trans {first second third : Store} (left : first.Preserves second)
    (right : second.Preserves third) : first.Preserves third where
  precedes := left.precedes.trans right.precedes
  kept := by
    intro entity id old stored
    obtain ⟨middle, found, before⟩ := left.kept entity id old stored
    obtain ⟨new, found, after⟩ := right.kept entity id middle found
    exact ⟨new, found, before.trans after⟩

theorem record (preserves : earlier.Preserves later) {entity id : String}
    {old new : Record} (before : earlier.record? entity id = some old)
    (after : later.record? entity id = some new) : old.Precedes new := by
  obtain ⟨found, stored, precedes⟩ := preserves.kept entity id old before
  rw [after, Option.some.injEq] at stored
  exact stored ▸ precedes

theorem epoch_lt (preserves : earlier.Preserves later)
    (differ : earlier.records ≠ later.records ∨ earlier.schema ≠ later.schema) :
    earlier.epoch < later.epoch := by
  refine Nat.lt_of_le_of_ne preserves.precedes.epoch_le fun unmoved => ?_
  obtain rfl := preserves.precedes.eq_of_epoch unmoved
  simp at differ

end Store.Preserves

/-- The version that a write expects of its record: the one it is asked with,
else that of its payload. -/
def Write.expected? (write : Write) : Option UInt64 :=
  write.goal.expected?.or
    ((write.payload.value? "version").bind Payload.versionHint?)

theorem Draft.ReadFrom.expected_eq {draft : Draft} {write : Write}
    {store : Store} (read : draft.ReadFrom write store) :
    draft.expected = write.expected? := by
  obtain ⟨hint, permitted, expected⟩ := read.permitted
  obtain ⟨-, -, rfl⟩ := (Payload.checkProtected_eq_ok_iff ..).mp permitted
  exact expected

namespace Workload

variable {load : Workload} {system : System} {i : Nat}

/-- What the next phase of an operation does to the record of a key: it inserts
the first version, puts the next version in the place of another, or does
nothing; and it does so only to the target and the cascade of an operation that
succeeds with it. -/
structure CountsOne (load : Workload) (system : System) (i : Nat)
    (key : RecordKey) : Prop where
  first :
    ∀ new, system.store.record? key.entity key.id = none →
      (load.step system i).store.record? key.entity key.id = some new →
      new.version = 1
  next : ∀ old new, system.store.record? key.entity key.id = some old →
    (load.step system i).store.record? key.entity key.id = some new →
      new = old ∨ new.version.toNat = old.version.toNat + 1
  concerned : (load.step system i).store.record? key.entity key.id ≠
      system.store.record? key.entity key.id →
    ∃ reply, (system.stage i).isFinished = false ∧
      (load.step system i).stage i = .finished (.ok reply) ∧
      ((load.request i).target? (load.fresh i) = some key ∨ reply.InCascade key)

/-- The next phase of the operation leaves a record that was not there before,
with the given version. -/
def Produces (load : Workload) (system : System) (i : Nat) (key : RecordKey)
    (version : UInt64) : Prop :=
  ∃ record, (load.step system i).store.record? key.entity key.id = some record ∧
    record.version = version ∧
    system.store.record? key.entity key.id ≠ some record

theorem step_affects (coherent : system.Coherent load) (i : Nat)
    (key : RecordKey) :
    (load.step system i).store.record? key.entity key.id =
      system.store.record? key.entity key.id ∨
      ∃ reply, (system.stage i).isFinished = false ∧
        (load.step system i).stage i = .finished (.ok reply) ∧
        system.store.Affects (load.step system i).store (load.fresh i)
          (load.time i) (load.request i) reply key := by
  rcases step_cases coherent i with ⟨same, -⟩ | ⟨reply, underway, done, commits⟩
  · exact .inl (by rw [same])
  · exact .inr
      ⟨reply, underway, done, commits.affects (coherent.unused i underway) key⟩

theorem step_countsOne (coherent : system.Coherent load)
    (fit : load.CounterFits system i) (key : RecordKey) :
    load.CountsOne system i key where
  first := by
    intro new absent found
    rcases step_affects coherent i key with same | ⟨reply, -, -, affects⟩
    · rw [same, absent] at found
      cases found
    · cases affects with
      | leaves same =>
          rw [same, absent] at found
          cases found
      | inserts drawn target before inserted =>
          cases found.symm.trans inserted
          rfl
      | changes involved stored =>
          rw [absent] at stored
          cases stored
  next := by
    intro old new stored found
    obtain ⟨left, present, changed⟩ := fit.record?_step coherent stored
    obtain rfl := Option.some.inj (found.symm.trans present)
    exact changed.imp_right And.left
  concerned := by
    intro differ
    rcases step_affects coherent i key with
      same | ⟨reply, underway, done, affects⟩
    · exact absurd same differ
    · refine ⟨reply, underway, done, ?_⟩
      cases affects with
      | leaves same => exact absurd same differ
      | inserts drawn target => exact .inl target
      | changes involved => exact involved

theorem step_preserves (coherent : system.Coherent load)
    (fit : load.CounterFits system i) :
    system.store.Preserves (load.step system i).store where
  precedes := step_precedes coherent i
  kept := by
    intro entity id old stored
    obtain ⟨new, found, rfl | ⟨next, deleted, attributes, made⟩⟩ :=
      fit.record?_step coherent stored
    · exact ⟨new, found, .refl new⟩
    · exact ⟨new, found, .of_next made next⟩

/-- The next phase of the write rewrites `old`, which has the version that the
write expects. What the payload comes to has been checked for the store that the
phase finds, and for a patch beside `old`. -/
structure Rewrites (load : Workload) (system : System) (i : Nat) (write : Write)
    (id : String) (reply : Reply) (old : Record) (changes : Attributes) :
    Prop where
  expected : write.expected? = some old.version
  live : system.store.live? write.entity id = some old
  passes : write.Passes load.settings system.store
    (if write.goal.mode = .patch then old.attributes else ∅) changes
  replied : reply = .record (old.rewrite write.goal.mode changes (load.time i))
  stored : (load.step system i).store.record? write.entity id =
    some (old.rewrite write.goal.mode changes (load.time i))

theorem rewrites_of_success (sound : system.Sound load Store.Preserves)
    {write : Write} (asked : load.request i = .write write) {id : String}
    (existing : write.goal.id? = some id)
    (underway : (system.stage i).isFinished = false) {reply : Reply}
    (done : (load.step system i).stage i = .finished (.ok reply)) :
    ∃ old changes, load.Rewrites system i write id reply old changes := by
  obtain ⟨ready, seen, record, rfl, writes⟩ :=
    writes_of_success Store.Preserves.precedes Store.Preserves.trans sound asked
      underway done
  have read := writes.readFrom
  obtain ⟨changes, validated,
    ⟨new, -⟩ | ⟨other, old, target, live, version, rfl⟩⟩ :=
    Draft.cases_of_result writes.result
  · rw [read.goal, existing] at new
    cases new
  rw [read.goal] at target
  obtain rfl : id = other := Option.some.inj (existing.symm.trans target)
  rw [read.entity] at live
  have passes := read.passes validated
  have current := read.current
  rw [existing] at current
  -- the record that was read had the version that the record has now, so that
  -- it is this one
  obtain ⟨first, before, firstVersion, taken⟩ := current
  have preserved := writes.since.record (Store.record?_of_live? before)
    (Store.record?_of_live? live)
  rw [version, Option.some.injEq] at firstVersion
  obtain rfl := preserved.eq_of_version firstVersion.symm
  rw [taken] at passes
  rw [read.goal]
  refine ⟨first, changes, ?_, live, passes, rfl, ?_⟩
  · rw [← read.expected_eq, version]
  · obtain ⟨own, same⟩ := Store.key_of_record? (Store.record?_of_live? live)
    rw [writes.after, Store.record?_commit, Store.record?_put, read.goal,
      if_pos]
    rw [Record.rewrite_key, Record.key, own, same]

theorem countersFit_append {first second : List Nat} :
    load.CountersFit system (first ++ second) ↔
      load.CountersFit system first ∧
        load.CountersFit (load.run system first) second := by
  induction first generalizing system with
  | nil => simp [CountersFit]
  | cons i rest ih =>
      simp only [List.cons_append, CountersFit, ih, run_cons, and_assoc]

theorem CountersFit.next {schedule : List Nat}
    (fit : load.CountersFit system schedule) {before : List Nat} {i : Nat}
    (within : before ++ [i] <+: schedule) :
    load.CounterFits (load.run system before) i := by
  obtain ⟨rest, rfl⟩ := within
  exact (countersFit_append.mp (countersFit_append.mp fit).1).2.1

structure Recorded (load : Workload) (system : System) : Prop where
  coherent : system.Coherent load
  sound : system.Sound load Store.Preserves

theorem Recorded.run (recorded : load.Recorded system) {schedule : List Nat}
    (fit : load.CountersFit system schedule) :
    load.Recorded (load.run system schedule) ∧
      system.store.Preserves (load.run system schedule).store := by
  induction schedule generalizing system with
  | nil => exact ⟨recorded, .refl system.store⟩
  | cons i rest ih =>
      have preserves := step_preserves recorded.coherent fit.1
      have next : load.Recorded (load.step system i) :=
        ⟨step_coherent recorded.coherent i,
          recorded.sound.step .refl .trans preserves⟩
      obtain ⟨last, onward⟩ := ih next fit.2
      exact ⟨last, preserves.trans onward⟩

section run

variable {schedule : List Nat} (recorded : load.Recorded system)
  (fit : load.CountersFit system schedule)
include recorded fit

theorem run_preserves {earlier later : List Nat} (part : earlier <+: later)
    (within : later <+: schedule) :
    load.Recorded (load.run system earlier) ∧
      (load.run system earlier).store.Preserves
        (load.run system later).store := by
  obtain ⟨between, rfl⟩ := part
  obtain ⟨rest, rfl⟩ := within
  obtain ⟨first, second⟩ := countersFit_append.mp (countersFit_append.mp fit).1
  have along := (recorded.run first).1
  rw [run_append]
  exact ⟨along, (along.run second).2⟩

theorem run_eq_of_version {first second : List Nat} (left : first <+: schedule)
    (right : second <+: schedule) {entity id : String} {a b : Record}
    (found : (load.run system first).store.record? entity id = some a)
    (other : (load.run system second).store.record? entity id = some b)
    (same : a.version = b.version) : a = b := by
  rcases List.prefix_or_prefix_of_prefix left right with part | part
  · have preserves := (run_preserves recorded fit part right).2
    exact (preserves.record found other).eq_of_version same
  · have preserves := (run_preserves recorded fit part left).2
    exact ((preserves.record other found).eq_of_version same.symm).symm

theorem not_produced_again {before later : List Nat} {i j : Nat}
    (part : before ++ [i] <+: later) (within : later ++ [j] <+: schedule)
    {key : RecordKey} {version : UInt64}
    (first : load.Produces (load.run system before) i key version) :
    ¬load.Produces (load.run system later) j key version := by
  rintro ⟨new, found, rfl, fresh⟩
  obtain ⟨old, produced, same, -⟩ := first
  rw [← run_concat] at produced found
  -- a record of this version was there all along
  obtain rfl := run_eq_of_version recorded fit
    (part.trans ((List.prefix_append ..).trans within)) within
    produced found same
  obtain ⟨middle, stored, onward⟩ := (run_preserves recorded fit part
    ((List.prefix_append ..).trans within)).2.kept
    key.entity key.id old produced
  have kept :=
    (run_preserves recorded fit (List.prefix_append later [j]) within).2.record
      stored found
  have unmoved : old.version = middle.version :=
    UInt64.toNat_inj.mp (Nat.le_antisymm onward.version_le kept.version_le)
  exact fresh (onward.eq_of_version unmoved ▸ stored)

theorem produced_once {before other : List Nat} {i j : Nat}
    (left : before ++ [i] <+: schedule) (right : other ++ [j] <+: schedule)
    {key : RecordKey} {version : UInt64}
    (first : load.Produces (load.run system before) i key version)
    (second : load.Produces (load.run system other) j key version) :
    before ++ [i] = other ++ [j] := by
  rcases List.prefix_or_prefix_of_prefix left right with part | part
  · rcases List.prefix_concat_iff.mp part with same | earlier
    · exact same
    · exact absurd second (not_produced_again recorded fit earlier right first)
  · rcases List.prefix_concat_iff.mp part with same | earlier
    · exact same.symm
    · exact absurd first (not_produced_again recorded fit earlier left second)

end run

/-- Whatever operations and changes of schema run at once, as long as versions
do not come to their end: records stay as long as the run lasts, and are told
apart by their versions; a phase makes one version of a record out of the last,
and only of the target and the cascade of its operation; no version of a record
is made twice; a replacement or a patch is applied to the one state of its
record that has the version it expects; and no change of the records or the
schema leaves the epoch as it was. -/
theorem record_history (load : Workload) (start : Store)
    (unused : ∀ i entity, start.record? entity (load.fresh i) = none)
    (schedule : List Nat) (fit : load.CountersFit (.initial start) schedule) :
    let after (part : List Nat) : System := load.run (.initial start) part
    (∀ earlier later, earlier <+: later → later <+: schedule →
      (after earlier).store.Preserves (after later).store ∧
        ((after earlier).store.records ≠ (after later).store.records ∨
          (after earlier).store.schema ≠ (after later).store.schema →
          (after earlier).store.epoch < (after later).store.epoch)) ∧
      (∀ before i, before ++ [i] <+: schedule →
        ∀ key, load.CountsOne (after before) i key) ∧
      (∀ before i other j key version, before ++ [i] <+: schedule →
        other ++ [j] <+: schedule → load.Produces (after before) i key version →
        load.Produces (after other) j key version →
        before ++ [i] = other ++ [j]) ∧
      ∀ before i write id reply, before ++ [i] <+: schedule →
        load.request i = .write write →
        write.goal.id? = some id → ((after before).stage i).isFinished = false →
        (after (before ++ [i])).stage i = .finished (.ok reply) →
        ∃ old changes,
          load.Rewrites (after before) i write id reply old changes ∧
            ∀ part record, part <+: schedule →
              (after part).store.record? write.entity id = some record →
              record.version = old.version → record = old := by
  intro after
  have recorded : load.Recorded (.initial start) :=
    ⟨.initial unused, fun _ => trivial⟩
  refine ⟨?_, ?_, ?_, ?_⟩
  · intro earlier later part within
    have preserves := (run_preserves recorded fit part within).2
    exact ⟨preserves, preserves.epoch_lt⟩
  · intro before i within key
    have here :=
      (run_preserves recorded fit (List.prefix_append before [i]) within).1
    exact step_countsOne here.coherent (fit.next within) key
  · intro before i other j key version left right first second
    exact produced_once recorded fit left right first second
  · intro before i write id reply within asked existing underway done
    have part := (List.prefix_append before [i]).trans within
    have here := (run_preserves recorded fit (List.prefix_refl before) part).1
    rw [show after (before ++ [i]) =
      load.step (after before) i from run_concat ..] at done
    obtain ⟨old, changes, rewrites⟩ :=
      rewrites_of_success here.sound asked existing underway done
    refine ⟨old, changes, rewrites, ?_⟩
    intro other record inside found same
    exact run_eq_of_version recorded fit inside part found
      (Store.record?_of_live? rewrites.live) same

/-- Of two patches that race for the first version of a tag, the one that is
accepted rewrites the only state in which the tag had that version; the tag
comes to its fourth version. -/
theorem race_history :
    ((race.run (.initial { schema := .tagging }) raceSchedule).store.record?
      "d.Tag" "0").map Record.version = some 4 ∧
      ∃ old changes,
        race.Rewrites (race.run (.initial { schema := .tagging })
          [0, 0, 0, 1, 2, 3, 1, 2]) 1
          ⟨"d.Tag", .patch "0" (some 1), .ofList [("name", .string "b")]⟩ "0"
          (.record ⟨"d.Tag", "0", 2, default, default, false,
            .ofList [("name", .atom (.string "b"))]⟩) old changes ∧
          ∀ part record, part <+: raceSchedule →
            (race.run (.initial { schema := .tagging }) part).store.record?
              "d.Tag" "0" = some record →
            record.version = old.version → record = old := by
  refine ⟨by decide +kernel, ?_⟩
  have fit : race.CountersFit (.initial { schema := .tagging })
      raceSchedule := by decide +kernel
  obtain ⟨-, -, -, accepted⟩ :=
    record_history race { schema := .tagging } (fun _ _ => rfl) raceSchedule fit
  exact accepted [0, 0, 0, 1, 2, 3, 1, 2] 1 _ _ _ ⟨[2, 3, 4, 4], rfl⟩ rfl rfl
    rfl rfl

end Workload

end RecordStore
