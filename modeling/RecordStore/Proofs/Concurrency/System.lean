import Mathlib.Logic.Function.Basic
import RecordStore.Database

namespace RecordStore

/-! Any number of operations at work on one store. Each goes through its phases
in order; a phase is one look at the store, in which nothing else happens. A
schedule says whose phase comes next. -/

/-- What an operation is asked to do, with the entity under its full name. A
bulk call is as many requests. -/
inductive Request where
  | write (write : Write)
  | delete (deletion : Deletion)
  | restore (restoration : Restoration)
  | reload (schema : Schema)

inductive Reply where
  | record (record : Record)
  | deleted (deleted : Deleted)
  | version (version : UInt64)

abbrev Verdict := Except StoreError Reply

def Write.draft (write : Write) (store : Store) : Except StoreError Draft := do
  let draft ← write.read store
  let _ ← draft.attributes
  pure draft

inductive Stage where
  | submitted
  | drafted (draft : Draft)
  | checked (checked : CheckedWrite)
  | planned (planned : PlannedDeletion)
  | vetted (restoration : Restoration) (epoch : Nat)
  | finished (verdict : Verdict)

def Stage.isFinished : Stage → Bool
  | .finished _ => true
  | _ => false

/-- Operations without end, each with the id that it draws if it creates a
record and the time at which it commits. No id is drawn twice. -/
structure Workload where
  settings : Settings
  request : Nat → Request
  fresh : Nat → String
  time : Nat → Instant
  fresh_injective : Function.Injective fresh

structure System where
  store : Store
  stage : Nat → Stage

def System.initial (store : Store) : System :=
  ⟨store, fun _ => .submitted⟩

namespace Workload

variable (load : Workload)

def database (i : Nat) (store : Store) : Database where
  store := store
  settings := load.settings
  ids := fun _ => load.fresh i
  clock := fun _ => load.time i

def answer {α : Type} (reply : α → Reply) (answer : Answer α) :
    Store × Verdict :=
  (answer.1.store, answer.2.map reply)

def atomically (i : Nat) (store : Store) : Store × Verdict :=
  match load.request i with
  | .write write => answer .record ((load.database i store).runWrite write)
  | .delete deletion =>
    answer .deleted ((load.database i store).runDeletion deletion)
  | .restore restoration =>
    answer .record ((load.database i store).runRestoration restoration)
  | .reload schema => answer .version ((load.database i store).reload schema)

def proceed {α : Type} (next : α → Stage) : Except StoreError α → Stage
  | .ok a => next a
  | .error error => .finished (.error error)

/-- The first look at the store. Restoring a live record ends there, and so does
a change of schema. -/
def start (i : Nat) (store : Store) : Store × Stage :=
  match load.request i with
  | .write write => (store, proceed .drafted (write.draft store))
  | .delete deletion => (store, proceed .planned (deletion.read store))
  | .restore restoration =>
    (store, proceed
      (fun
        | .alreadyLive record => .finished (.ok (.record record))
        | .checked restoration epoch => .vetted restoration epoch)
      (restoration.read store))
  | .reload schema =>
    let (store, verdict) :=
      answer .version ((load.database i store).reload schema)
    (store, .finished verdict)

def advance (i : Nat) (store : Store) : Stage → Store × Stage
  | .submitted => load.start i store
  | .drafted draft =>
    (store, proceed .checked (draft.check load.settings store))
  | .checked checked =>
    let (store, result) :=
      checked.commit load.settings store (load.fresh i) (load.time i)
    (store, .finished (result.map .record))
  | .planned planned =>
    let (store, result) := planned.commit store (load.time i)
    (store, .finished (result.map .deleted))
  | .vetted restoration epoch =>
    let (store, result) :=
      (PlannedRestoration.checked restoration epoch).commit store (load.time i)
    (store, .finished (result.map .record))
  | .finished verdict => (store, .finished verdict)

def step (system : System) (i : Nat) : System :=
  let (store, stage) := load.advance i system.store (system.stage i)
  ⟨store, Function.update system.stage i stage⟩

def run (system : System) (schedule : List Nat) : System :=
  schedule.foldl load.step system

@[simp] theorem run_nil (system : System) : load.run system [] = system := rfl

@[simp] theorem run_cons (system : System) (i : Nat) (rest : List Nat) :
    load.run system (i :: rest) = load.run (load.step system i) rest := rfl

theorem run_append (system : System) (first second : List Nat) :
    load.run system (first ++ second) =
      load.run (load.run system first) second :=
  List.foldl_append

theorem run_concat (system : System) (schedule : List Nat) (i : Nat) :
    load.run system (schedule ++ [i]) =
      load.step (load.run system schedule) i :=
  List.foldl_append

theorem step_store (system : System) (i : Nat) :
    (load.step system i).store =
      (load.advance i system.store (system.stage i)).1 := rfl

theorem step_stage_self (system : System) (i : Nat) :
    (load.step system i).stage i =
      (load.advance i system.store (system.stage i)).2 :=
  Function.update_self ..

theorem step_stage_of_ne (system : System) {i j : Nat} (other : j ≠ i) :
    (load.step system i).stage j = system.stage j :=
  Function.update_of_ne other ..

theorem step_finished (system : System) {i : Nat} {verdict : Verdict}
    (done : system.stage i = .finished verdict) :
    load.step system i = system := by
  simp only [step, done, advance]
  rw [← done, Function.update_eq_self]

theorem run_induction {P : System → Prop} {system : System}
    (initially : P system)
    (kept : ∀ system i, P system → P (load.step system i))
    (schedule : List Nat) : P (load.run system schedule) := by
  induction schedule generalizing system with
  | nil => exact initially
  | cons i rest ih => exact ih (kept system i initially)

theorem run_finished (system : System) {i : Nat} {verdict : Verdict}
    (done : system.stage i = .finished verdict) (schedule : List Nat) :
    (load.run system schedule).stage i = .finished verdict := by
  refine load.run_induction
    (P := fun system => system.stage i = .finished verdict) done ?_ schedule
  intro system j done
  by_cases own : i = j
  · subst own
    rw [load.step_finished system done, done]
  · rw [load.step_stage_of_ne system own, done]

/-- The requests of a list, then deletions that find no entity. Ids are the
numbers of the operations. -/
def ofList (requests : List Request) : Workload where
  settings := {}
  request i := requests.getD i (.delete ⟨"", "", none⟩)
  fresh i := String.ofList (Decimal.digits i)
  time := fun _ => default
  fresh_injective := by
    intro i j same
    rw [← Decimal.ofDigits_digits i, ← Decimal.ofDigits_digits j,
      String.ofList_injective same]

theorem ofList_request {P : Request → Prop} {requests : List Request}
    (listed : ∀ request ∈ requests, P request)
    (further : P (.delete ⟨"", "", none⟩)) (i : Nat) :
    P ((ofList requests).request i) := by
  change P (requests.getD i _)
  rw [List.getD_eq_getElem?_getD]
  cases found : requests[i]? with
  | none => exact further
  | some request => exact listed request (List.mem_of_getElem? found)

theorem ofList_sameSchema {requests : List Request}
    (listed : ∀ request ∈ requests, ∀ other, request ≠ .reload other) (i : Nat)
    (other : Schema) : (ofList requests).request i ≠ .reload other :=
  ofList_request (P := (· ≠ .reload other))
    (fun request member => listed request member other) (by simp) i

end Workload

def Field.tags : Field where
  name := "tags"
  type := ⟨.reference "Tag", true⟩
  declaredPolicy := some .setNull
  unique := true

def Entity.post : Entity :=
  ⟨"d", "Post", [.tags], []⟩

def Entity.tag : Entity :=
  ⟨"d", "Tag", [{ name := "name", type := ⟨.scalar .string, false⟩ }], []⟩

def Schema.tagging : Schema where
  entities := .ofList [.post, .tag]

def Record.tagged (id : String) (version : UInt64) : Record :=
  ⟨"d.Post", id, version, default, default, false,
    .ofList [("tags", .array [.atom (.ref "0")])]⟩

end RecordStore
