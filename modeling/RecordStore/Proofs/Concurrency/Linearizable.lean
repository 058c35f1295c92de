import RecordStore.Proofs.Concurrency.Atomic

namespace RecordStore

namespace Workload

variable (load : Workload)

/-- No record that the step changes has come to the greatest version. -/
def CounterFits (system : System) (i : Nat) : Prop :=
  ∀ record ∈ system.store.records.items,
    (load.step system i).store.record? record.entity record.id = some record ∨
      record.version.toNat + 1 < UInt64.size

instance decidableCounterFits (system : System) (i : Nat) :
    Decidable (load.CounterFits system i) :=
  inferInstanceAs (Decidable (∀ record ∈ system.store.records.items, _))

def CountersFit : System → List Nat → Prop
  | _, [] => True
  | system, i :: rest =>
    load.CounterFits system i ∧ CountersFit (load.step system i) rest

instance decidableCountersFit : (system : System) → (schedule : List Nat) →
    Decidable (load.CountersFit system schedule)
  | _, [] => isTrue trivial
  | system, i :: rest =>
    have := decidableCountersFit (load.step system i) rest
    inferInstanceAs (Decidable (_ ∧ _))

/-- The operations that succeed, in the order of the phases in which they do,
with their replies. -/
def successes : System → List Nat → List (Nat × Reply)
  | _, [] => []
  | system, i :: rest =>
    let next := load.step system i
    match (system.stage i).isFinished, next.stage i with
    | false, .finished (.ok reply) => (i, reply) :: successes next rest
    | _, _ => successes next rest

/-- Operations in one go, one after another, all of which succeed and reply as
listed. -/
inductive Serial : Store → List (Nat × Reply) → Store → Prop where
  | nil (store : Store) : Serial store [] store
  | cons {store middle after : Store} {i : Nat} {reply : Reply}
      {rest : List (Nat × Reply)}
      (first : load.atomically i store = (middle, .ok reply))
      (others : Serial middle rest after) :
      Serial store ((i, reply) :: rest) after

/-- What operations hold was in the store when versions were as they are. -/
structure Steady (system : System) : Prop where
  coherent : system.Coherent load
  sound : system.Sound load Store.Evolves

variable {load} {system : System}

theorem CounterFits.record?_step {i : Nat} (fit : load.CounterFits system i)
    (coherent : system.Coherent load) {entity id : String} {old : Record}
    (stored : system.store.record? entity id = some old) :
    ∃ new, (load.step system i).store.record? entity id = some new ∧
      (new = old ∨
        new.version.toNat = old.version.toNat + 1 ∧
          ∃ deleted attributes,
            new = { old with deleted, attributes }.touch (load.time i)) := by
  rcases step_cases coherent i with ⟨same, -⟩ | ⟨reply, underway, -, commits⟩
  · exact ⟨old, same ▸ stored, .inl rfl⟩
  obtain ⟨new, found, changed⟩ :=
    commits.record?_kept (coherent.unused i underway) stored
  refine ⟨new, found, changed.imp_right ?_⟩
  rintro ⟨deleted, attributes, rfl⟩
  obtain ⟨rfl, rfl⟩ := Store.key_of_record? stored
  have room : old.version.toNat + 1 < UInt64.size := by
    refine
      (fit old ((system.store.mem_records_iff old).mpr stored)).resolve_left ?_
    intro kept
    have same :=
      congrArg Record.version (Option.some.inj (found.symm.trans kept))
    have impossible : (1 : UInt64) = 0 := UInt64.add_eq_left.mp same
    contradiction
  refine ⟨?_, deleted, attributes, rfl⟩
  change (old.version + 1).toNat = _
  rw [UInt64.toNat_add]
  exact Nat.mod_eq_of_lt room

theorem step_evolves (coherent : system.Coherent load)
    (sameSchema : ∀ i other, load.request i ≠ .reload other) {i : Nat}
    (fit : load.CounterFits system i) :
    system.store.Evolves (load.step system i).store where
  precedes := step_precedes coherent i
  generation := step_keeps (P := (system.store.generation = ·.generation))
    coherent rfl i fun commits => (commits.schema_kept (sameSchema i)).2.symm
  kept := by
    intro entity id old stored
    obtain ⟨new, found, rfl | ⟨next, -⟩⟩ := fit.record?_step coherent stored
    · exact ⟨new, found, UInt64.le_refl _, fun _ => rfl⟩
    · have more : old.version < new.version :=
        UInt64.lt_iff_toNat_lt.mpr (by omega)
      exact ⟨new, found, UInt64.le_of_lt more,
        fun same => absurd same (UInt64.ne_of_lt more)⟩

theorem Steady.step (steady : load.Steady system)
    (sameSchema : ∀ i other, load.request i ≠ .reload other) {i : Nat}
    {rest : List Nat} (fit : load.CountersFit system (i :: rest)) :
    load.Steady (load.step system i) where
  coherent := step_coherent steady.coherent i
  sound := steady.sound.step .refl .trans
    (step_evolves steady.coherent sameSchema fit.1)

theorem Steady.run (steady : load.Steady system)
    (sameSchema : ∀ i other, load.request i ≠ .reload other)
    {before schedule : List Nat} (fit : load.CountersFit system schedule)
    (part : before <+: schedule) : load.Steady (load.run system before) := by
  induction before generalizing system schedule with
  | nil => exact steady
  | cons i before ih =>
      obtain ⟨rest, rfl⟩ := part
      exact ih (steady.step sameSchema fit) fit.2 ⟨rest, rfl⟩

theorem finishing_step {i : Nat} {verdict : Verdict}
    (underway : (system.stage i).isFinished = false) {schedule : List Nat}
    (done : (load.run system schedule).stage i = .finished verdict) :
    ∃ before, before ++ [i] <+: schedule ∧
      ((load.run system before).stage i).isFinished = false ∧
      (load.step (load.run system before) i).stage i = .finished verdict := by
  induction schedule generalizing system with
  | nil =>
      rw [run_nil] at done
      simp [done, Stage.isFinished] at underway
  | cons j rest ih =>
      rw [run_cons] at done
      cases next : ((load.step system j).stage i).isFinished with
      | false =>
          obtain ⟨before, part, still, ends⟩ := ih next done
          exact ⟨j :: before, List.cons_prefix_cons.mpr ⟨rfl, part⟩, still,
            ends⟩
      | true =>
          have own : i = j := by
            by_contra other
            rw [load.step_stage_of_ne system other, underway] at next
            contradiction
          subst own
          refine ⟨[], ⟨rest, rfl⟩, underway, ?_⟩
          cases stage : (load.step system i).stage i with
          | finished first =>
              rw [load.run_finished _ stage] at done
              rw [run_nil, stage, done]
          | submitted | drafted | checked | planned | vetted =>
              simp [stage, Stage.isFinished] at next

theorem mem_successes_iff (system : System) (schedule : List Nat) (i : Nat)
    (reply : Reply) :
    (i, reply) ∈ load.successes system schedule ↔
      (system.stage i).isFinished = false ∧
        (load.run system schedule).stage i = .finished (.ok reply) := by
  induction schedule generalizing system with
  | nil =>
      rw [successes, run_nil]
      constructor
      · intro member
        cases member
      · rintro ⟨underway, done⟩
        simp [done, Stage.isFinished] at underway
  | cons j rest ih =>
      have elsewhere : i ≠ j →
          ((i, reply) ∈ load.successes (load.step system j) rest ↔
            (system.stage i).isFinished = false ∧
              (load.run system (j :: rest)).stage i =
                .finished (.ok reply)) := by
        intro other
        rw [ih, load.step_stage_of_ne system other, run_cons]
      rw [successes]
      split
      next first underway done =>
          rw [List.mem_cons, Prod.mk.injEq]
          by_cases own : i = j
          · subst own
            have still := load.run_finished (load.step system i) done rest
            rw [ih, done, run_cons, still]
            constructor
            · rintro (⟨-, rfl⟩ | ⟨finished, -⟩)
              · exact ⟨underway, rfl⟩
              · cases finished
            · rintro ⟨-, same⟩
              cases same
              exact .inl ⟨rfl, rfl⟩
          · simp [own, elsewhere own]
      next unsuccessful =>
          by_cases own : i = j
          · subst own
            rw [ih, run_cons]
            constructor
            · rintro ⟨underway, done⟩
              exact ⟨isFinished_step i i underway, done⟩
            · rintro ⟨underway, done⟩
              refine ⟨?_, done⟩
              cases stage : (load.step system i).stage i with
              | finished verdict =>
                  rw [load.run_finished _ stage, Stage.finished.injEq] at done
                  rw [done] at stage
                  exact absurd stage (unsuccessful reply underway)
              | submitted | drafted | checked | planned | vetted => rfl
          · exact elsewhere own

theorem nodup_successes (system : System) (schedule : List Nat) :
    ((load.successes system schedule).map Prod.fst).Nodup := by
  induction schedule generalizing system with
  | nil => exact .nil
  | cons i rest ih =>
      rw [successes]
      split
      next reply underway done =>
          refine List.nodup_cons.mpr ⟨?_, ih _⟩
          intro again
          obtain ⟨⟨j, other⟩, member, rfl⟩ := List.mem_map.mp again
          have still := ((mem_successes_iff ..).mp member).1
          simp [done, Stage.isFinished] at still
      next => exact ih _

theorem serial_successes (steady : load.Steady system)
    (sameSchema : ∀ i other, load.request i ≠ .reload other)
    {schedule : List Nat} (fit : load.CountersFit system schedule) :
    load.Serial system.store (load.successes system schedule)
      (load.run system schedule).store := by
  -- the store of the history is that of the system all along, since only
  -- successes change it
  induction schedule generalizing system with
  | nil => exact .nil _
  | cons i rest ih =>
      have others := ih (steady.step sameSchema fit) fit.2
      rw [run_cons, successes]
      split
      next reply underway done =>
          have ends : load.advance i system.store (system.stage i) =
              ((load.step system i).store, .finished (.ok reply)) := by
            rw [← done, step_store, step_stage_self]
          exact .cons (matches_advance (steady.sound i) underway ends) others
      next unsuccessful =>
          rcases step_cases steady.coherent i with
            ⟨same, -⟩ | ⟨reply, underway, done, -⟩
          · rw [same] at others
            exact others
          · exact absurd done (unsuccessful reply underway)

/-- After every schedule under one schema whose versions do not come to an end,
the operations that have succeeded, run one after another in one go, give the
same replies and the same store; and an operation that has failed would fail in
one go on the store that one of its phases found. -/
theorem phases_linearize (load : Workload) (start : Store) (schedule : List Nat)
    (sameSchema : ∀ i other, load.request i ≠ .reload other)
    (unused : ∀ i entity, start.record? entity (load.fresh i) = none)
    (fit : load.CountersFit (.initial start) schedule) :
    let final := load.run (.initial start) schedule
    let history := load.successes (.initial start) schedule
    load.Serial start history final.store ∧ (history.map Prod.fst).Nodup ∧ (∀ i
      reply, (i, reply) ∈ history ↔ final.stage i = .finished (.ok reply)) ∧
      ∀ i error, final.stage i = .finished (.error error) →
        ∃ before, before ++ [i] <+: schedule ∧
          ((load.run (.initial start) before).stage i).isFinished = false ∧
          ∃ other, (load.atomically i
            (load.run (.initial start) before).store).2 = .error other := by
  intro final history
  have steady : load.Steady (.initial start) :=
    ⟨.initial unused, fun _ => trivial⟩
  refine ⟨serial_successes steady sameSchema fit, nodup_successes _ _, ?_, ?_⟩
  · intro i reply
    rw [mem_successes_iff]
    exact and_iff_right rfl
  · intro i error failed
    obtain ⟨before, part, underway, ends⟩ := finishing_step rfl failed
    refine ⟨before, part, underway, ?_⟩
    have earlier :=
      steady.run sameSchema fit ((List.prefix_append ..).trans part)
    rw [step_stage_self] at ends
    exact matches_advance (earlier.sound i) underway (Prod.ext rfl ends)

/-- Two patches at one version race each other and a deletion, which is taken
back. -/
def race : Workload :=
  ofList
    [.write ⟨"d.Tag", .create, .ofList [("name", .string "a")]⟩,
      .write ⟨"d.Tag", .patch "0" (some 1), .ofList [("name", .string "b")]⟩,
      .write ⟨"d.Tag", .patch "0" (some 1), .ofList [("name", .string "c")]⟩,
      .delete ⟨"d.Tag", "0", none⟩,
      .restore ⟨"d.Tag", "0"⟩]

def raceSchedule : List Nat :=
  [0, 0, 0, 1, 2, 3, 1, 2, 1, 2, 3, 4, 4]

theorem race_linearizes :
    (race.successes (.initial { schema := .tagging }) raceSchedule).map
      Prod.fst = [0, 1, 3, 4] ∧
      race.Serial { schema := .tagging }
        (race.successes (.initial { schema := .tagging }) raceSchedule)
        (race.run (.initial { schema := .tagging }) raceSchedule).store ∧
      ∃ before, before ++ [2] <+: raceSchedule ∧
        ∃ other, (race.atomically 2
          (race.run (.initial { schema := .tagging }) before).store).2 =
          .error other := by
  have sameSchema : ∀ i other, race.request i ≠ .reload other := by
    intro i other
    refine ofList_request (P := (· ≠ .reload other)) ?_ (by simp) i
    simp
  have fit : race.CountersFit (.initial { schema := .tagging })
      raceSchedule := by decide +kernel
  obtain ⟨serial, -, replies, failing⟩ :=
    phases_linearize race { schema := .tagging } raceSchedule sameSchema
      (fun _ _ => rfl) fit
  have order : (race.successes (.initial { schema := .tagging })
      raceSchedule).map Prod.fst = [0, 1, 3, 4] := by
    decide +kernel
  have done : ((race.run (.initial { schema := .tagging }) raceSchedule).stage
      2).isFinished = true := by
    decide +kernel
  refine ⟨order, serial, ?_⟩
  cases stage : (race.run (.initial { schema := .tagging }) raceSchedule).stage
    2 with
  | finished verdict =>
      cases verdict with
      | error error =>
          obtain ⟨before, part, -, fails⟩ := failing 2 error stage
          exact ⟨before, part, fails⟩
      | ok reply =>
          have listed :=
            List.mem_map_of_mem (f := Prod.fst) ((replies 2 reply).mpr stage)
          rw [order] at listed
          contradiction
  | submitted | drafted | checked | planned | vetted =>
      simp [stage, Stage.isFinished] at done

end Workload

end RecordStore
