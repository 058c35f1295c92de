import RecordStore.Database

namespace RecordStore

/-! Writes with other operations between their steps: after the reading, and
after the checks. A write that nothing comes between is the write in one go. -/

inductive Moment where
  | read (draft : Draft)
  | checked (write : CheckedWrite)

abbrev Others (σ : Type) := Moment → σ × Database → σ × Database

namespace Database

variable {σ : Type}

def commitAmid (others : Others σ) (state : σ × Database)
    (checked : CheckedWrite) : (σ × Database) × Except StoreError Record :=
  let (own, db) := others (.checked checked) state
  let (db, result) := db.commitWrite checked
  ((own, db), result)

def runWriteAmid (others : Others σ) (state : σ × Database) (write : Write) :
    (σ × Database) × Except StoreError Record :=
  match write.read state.2.store with
  | .error error => (state, .error error)
  | .ok draft =>
    let state := others (.read draft) state
    match draft.check state.2.settings state.2.store with
    | .error error => (state, .error error)
    | .ok checked => commitAmid others state checked

def idle : Others σ := fun _ state => state

theorem runWriteAmid_idle (own : σ) (db : Database) (write : Write) :
    runWriteAmid idle (own, db) write =
      ((own, (db.runWrite write).1), (db.runWrite write).2) := by
  unfold runWriteAmid runWrite Write.prepare
  cases read : write.read db.store with
  | error error => rfl
  | ok draft =>
    cases checked : draft.check db.settings db.store <;>
      simp [idle, commitAmid, checked, bind, Except.bind]

end Database

end RecordStore
