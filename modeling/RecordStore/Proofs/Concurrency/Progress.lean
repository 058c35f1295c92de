import RecordStore.Proofs.Concurrency.Commit

namespace RecordStore

/-! How far operations have come, after every schedule. What an operation holds
was in the store before the commits since then, the ids of operations under way
are not in use, and each step either leaves the store alone or is a commit. -/

/-- From every store that the operation has looked at, `R` leads to the present
one. -/
def Stage.Sound (load : Workload) (R : Store → Store → Prop) (i : Nat)
    (store : Store) : Stage → Prop
  | .submitted | .finished _ => True
  | .drafted draft => ∃ write seen,
    load.request i = .write write ∧ write.draft seen = .ok draft ∧ R seen store
  | .checked ready => ∃ write seen middle, load.request i = .write write ∧
    write.draft seen = .ok ready.draft ∧ R seen middle ∧
    ready.draft.check load.settings middle = .ok ready ∧ R middle store
  | .planned plan => ∃ deletion seen, load.request i = .delete deletion ∧
    deletion.read seen = .ok plan ∧ R seen store
  | .vetted sought epoch => ∃ restoration seen,
      load.request i = .restore restoration ∧
        restoration.read seen = .ok (.checked sought epoch) ∧ R seen store

def System.Sound (system : System) (load : Workload)
    (R : Store → Store → Prop) : Prop :=
  ∀ i, (system.stage i).Sound load R i system.store

variable {load : Workload} {R S : Store → Store → Prop}

theorem Stage.Sound.imp (weaker : ∀ {x y}, R x y → S x y) {store after : Store}
    (later : ∀ {x}, R x store → S x after) {i : Nat} {stage : Stage}
    (sound : stage.Sound load R i store) : stage.Sound load S i after := by
  cases stage with
  | submitted | finished => trivial
  | drafted draft =>
      obtain ⟨write, seen, asked, read, before⟩ := sound
      exact ⟨write, seen, asked, read, later before⟩
  | checked ready =>
      obtain ⟨write, seen, middle, asked, read, before, passed, since⟩ := sound
      exact ⟨write, seen, middle, asked, read, weaker before, passed,
        later since⟩
  | planned plan =>
      obtain ⟨deletion, seen, asked, read, before⟩ := sound
      exact ⟨deletion, seen, asked, read, later before⟩
  | vetted sought epoch =>
      obtain ⟨restoration, seen, asked, read, before⟩ := sound
      exact ⟨restoration, seen, asked, read, later before⟩

theorem Stage.Sound.advance (refl : ∀ store, R store store) {i : Nat}
    {store : Store} {stage : Stage} (sound : stage.Sound load R i store) :
    (load.advance i store stage).2.Sound load R i store := by
  cases stage with
  | submitted =>
      rw [Workload.advance, Workload.start]
      cases asked : load.request i with
      | write write =>
          dsimp only
          cases read : write.draft store with
          | error error => trivial
          | ok draft => exact ⟨write, store, asked, read, refl store⟩
      | delete deletion =>
          dsimp only
          cases read : deletion.read store with
          | error error => trivial
          | ok planned => exact ⟨deletion, store, asked, read, refl store⟩
      | restore restoration =>
          dsimp only
          cases read : restoration.read store with
          | error error => trivial
          | ok planned =>
              cases planned with
              | alreadyLive record => trivial
              | checked sought epoch =>
                  exact ⟨restoration, store, asked, read, refl store⟩
      | reload schema => trivial
  | drafted draft =>
      obtain ⟨write, seen, asked, read, before⟩ := sound
      rw [Workload.advance]
      cases passed : draft.check load.settings store with
      | error error => trivial
      | ok ready =>
          obtain ⟨rfl, -⟩ := (Draft.check_eq_ok_iff ..).mp passed
          exact ⟨write, seen, store, asked, read, before, passed, refl store⟩
  | checked ready => trivial
  | planned plan => trivial
  | vetted sought epoch => trivial
  | finished verdict => trivial

/-- A phase leaves the store alone and does not succeed, or the operation
commits and ends with it. -/
inductive Workload.Advances (load : Workload) (i : Nat) (store : Store)
    (stage : Stage) : Store × Stage → Prop where
  | stays (next : Stage)
      (unsuccessful : ∀ reply, next = .finished (.ok reply) → stage = next) :
      Advances load i store stage (store, next)
  | commits {after : Store} {reply : Reply}
      (underway : stage.isFinished = false)
      (commits : store.Commits load.settings (load.fresh i) (load.time i)
        (load.request i) after reply) :
      Advances load i store stage (after, .finished (.ok reply))

theorem Workload.Advances.of_yields {i : Nat} {store : Store} {stage : Stage}
    (underway : stage.isFinished = false) {α : Type} {reply : α → Reply}
    {outcome : Store × Except StoreError α}
    (yields : store.Yields load.settings (load.fresh i) (load.time i)
      (load.request i) reply outcome) :
    load.Advances i store stage
      (outcome.1, .finished (outcome.2.map reply)) := by
  cases yields with
  | failure error => exact .stays _ (by simp [Except.map])
  | success commits => exact .commits underway commits

theorem Stage.Sound.advances {i : Nat} {store : Store} {stage : Stage}
    (sound : stage.Sound load Store.Precedes i store) :
    load.Advances i store stage (load.advance i store stage) := by
  -- phases that end no operation, or only with an error
  have continues : ∀ {α : Type} (next : α → Stage)
      (outcome : Except StoreError α),
      (∀ a reply, outcome = .ok a → next a ≠ .finished (.ok reply)) →
        load.Advances i store stage (store, Workload.proceed next outcome) := by
    intro α next outcome onward
    refine .stays _ ?_
    intro reply success
    cases outcome with
    | error error => simp [Workload.proceed] at success
    | ok a => exact absurd success (onward a reply rfl)
  cases stage with
  | submitted =>
      rw [Workload.advance, Workload.start]
      cases asked : load.request i with
      | write write => exact continues _ _ (by simp)
      | delete deletion => exact continues _ _ (by simp)
      | restore restoration =>
          dsimp only
          cases read : restoration.read store with
          | error error => exact .stays _ (by simp [Workload.proceed])
          | ok planned =>
              cases planned with
              | checked sought epoch =>
                  exact .stays _ (by simp [Workload.proceed])
              | alreadyLive record =>
                  have commits : store.Commits load.settings (load.fresh i)
                      (load.time i) _ _ _ :=
                    .restored (Restoration.live_of_read read)
                  rw [← asked] at commits
                  exact .commits rfl commits
      | reload schema =>
          have yields := (load.database i store).reload_yields schema
            load.settings (load.fresh i) (load.time i)
          rw [← asked] at yields
          exact .of_yields rfl yields
  | drafted draft => exact continues _ _ (by simp)
  | checked ready =>
      obtain ⟨write, seen, middle, asked, read, before, passed, since⟩ := sound
      obtain ⟨read, -⟩ := (Write.draft_eq_ok_iff ..).mp read
      have yields := CheckedWrite.commit_yields read before passed since
        (load.fresh i) (load.time i)
      rw [← asked] at yields
      exact .of_yields rfl yields
  | planned plan =>
      obtain ⟨deletion, seen, asked, read, before⟩ := sound
      have yields :=
        deletion.run_yields load.settings (load.fresh i) (load.time i) store
      rw [← PlannedDeletion.commit_eq_run read before, ← asked] at yields
      exact .of_yields rfl yields
  | vetted sought epoch =>
      obtain ⟨restoration, seen, asked, read, before⟩ := sound
      have yields :=
        restoration.run_yields load.settings (load.fresh i) (load.time i) store
      rw [← PlannedRestoration.commit_eq_run read before, ← asked] at yields
      exact .of_yields rfl yields
  | finished verdict => exact .stays _ (by simp)

/-- What operations hold was in the store, and the ids of those under way are
not in use. -/
structure System.Coherent (system : System) (load : Workload) : Prop where
  sound : system.Sound load Store.Precedes
  unused : ∀ i, (system.stage i).isFinished = false →
    ∀ entity, system.store.record? entity (load.fresh i) = none

theorem System.Coherent.initial {start : Store}
    (unused : ∀ i entity, start.record? entity (load.fresh i) = none) :
    (System.initial start).Coherent load :=
  ⟨fun _ => trivial, fun i _ => unused i⟩

theorem System.Sound.step (refl : ∀ store, R store store)
    (trans : ∀ {x y z}, R x y → R y z → R x z) {system : System}
    (sound : system.Sound load R) {i : Nat}
    (later : R system.store (load.step system i).store) :
    (load.step system i).Sound load R := by
  intro j
  by_cases own : j = i
  · subst own
    rw [load.step_stage_self]
    exact ((sound j).advance refl).imp id (fun before => trans before later)
  · rw [load.step_stage_of_ne system own]
    exact (sound j).imp id (fun before => trans before later)

namespace Workload

variable {system : System}

/-- A step leaves the store alone and lets no operation succeed, or one
operation commits with it. -/
theorem step_cases (coherent : system.Coherent load) (i : Nat) :
    ((load.step system i).store = system.store ∧
      ∀ reply, (load.step system i).stage i = .finished (.ok reply) →
        system.stage i = .finished (.ok reply)) ∨
      ∃ reply, (system.stage i).isFinished = false ∧
        (load.step system i).stage i = .finished (.ok reply) ∧
        system.store.Commits load.settings (load.fresh i) (load.time i)
          (load.request i) (load.step system i).store reply := by
  rw [step_store, step_stage_self]
  have advances := (coherent.sound i).advances
  generalize load.advance i system.store
    (system.stage i) = outcome at advances ⊢
  cases advances with
  | stays next unsuccessful =>
      refine .inl ⟨rfl, ?_⟩
      rintro reply rfl
      exact unsuccessful reply rfl
  | commits underway commits => exact .inr ⟨_, underway, rfl, commits⟩

theorem step_keeps {P : Store → Prop} (coherent : system.Coherent load)
    (before : P system.store) (i : Nat)
    (kept : ∀ {after reply}, system.store.Commits load.settings (load.fresh i)
      (load.time i) (load.request i) after reply → P after) :
    P (load.step system i).store := by
  rcases step_cases coherent i with ⟨same, -⟩ | ⟨reply, -, -, commits⟩
  · rw [same]
    exact before
  · exact kept commits

theorem step_precedes (coherent : system.Coherent load) (i : Nat) :
    system.store.Precedes (load.step system i).store :=
  step_keeps coherent (.refl system.store) i fun commits => commits.precedes

theorem isFinished_step (i j : Nat)
    (underway : ((load.step system i).stage j).isFinished = false) :
    (system.stage j).isFinished = false := by
  cases stage : system.stage j with
  | finished verdict =>
      have done := load.run_finished system stage [i]
      rw [run_cons, run_nil] at done
      simp [done, Stage.isFinished] at underway
  | submitted | drafted | checked | planned | vetted => rfl

theorem step_coherent (coherent : system.Coherent load) (i : Nat) :
    (load.step system i).Coherent load where
  sound := coherent.sound.step Store.Precedes.refl Store.Precedes.trans
    (step_precedes coherent i)
  unused := by
    intro j underway entity
    have absent := coherent.unused j (isFinished_step i j underway) entity
    rcases step_cases coherent i with ⟨same, -⟩ | ⟨reply, before, done, commits⟩
    · rw [same]
      exact absent
    · refine commits.record?_added (coherent.unused i before) absent ?_
      intro shared
      obtain rfl := load.fresh_injective shared
      simp [done, Stage.isFinished] at underway

theorem run_coherent (coherent : system.Coherent load) (schedule : List Nat) :
    (load.run system schedule).Coherent load :=
  load.run_induction (P := (·.Coherent load)) coherent
    (fun _ i earlier => step_coherent earlier i) schedule

/-- A run of fewer phases than a machine word counts keeps the epoch in such
a word, if it starts at zero. -/
theorem epoch_run_le (coherent : system.Coherent load) (schedule : List Nat) :
    (load.run system schedule).store.epoch ≤
      system.store.epoch + schedule.length := by
  induction schedule generalizing system with
  | nil => exact Nat.le_refl _
  | cons i rest ih =>
      have first : (load.step system i).store.epoch ≤ system.store.epoch + 1 :=
        step_keeps coherent (P := (·.epoch ≤ system.store.epoch + 1))
          (Nat.le_succ _) i fun commits => commits.epoch_le
      have others := ih (step_coherent coherent i)
      rw [run_cons, List.length_cons]
      omega

theorem run_invariant {P : System → Prop} {start : Store}
    (unused : ∀ i entity, start.record? entity (load.fresh i) = none)
    (initially : P (.initial start))
    (kept : ∀ system i, system.Coherent load → P system →
      P (load.step system i)) (schedule : List Nat) :
    P (load.run (.initial start) schedule) := by
  have both :=
    load.run_induction (P := fun system => system.Coherent load ∧ P system)
      ⟨.initial unused, initially⟩ (fun system i before =>
        ⟨step_coherent before.1 i, kept system i before.1 before.2⟩) schedule
  exact both.2

end Workload

end RecordStore
