import Mathlib.Data.List.Chain
import RecordStore.Database

namespace RecordStore

namespace Database

def greatestVersion : UInt64 :=
  18446744073709551615

variable {current proposed : UInt64}

theorem nextVersion_greatest (proposed : UInt64) :
    nextVersion greatestVersion proposed = 0 := by
  have le : proposed ≤ greatestVersion := by
    rw [UInt64.le_iff_toNat_le]
    exact Nat.le_of_lt_succ proposed.toNat_lt
  rw [nextVersion, if_pos le]
  rfl

theorem toNat_nextVersion (below : current ≠ greatestVersion)
    (proposed : UInt64) :
    (nextVersion current proposed).toNat =
      max proposed.toNat (current.toNat + 1) := by
  have small : current.toNat + 1 < 2 ^ 64 := by
    have bound := current.toNat_lt
    have other : current.toNat ≠ 2 ^ 64 - 1 :=
      fun same => below (UInt64.toNat_inj.mp same)
    omega
  rw [nextVersion]
  split
  next le =>
    rw [UInt64.le_iff_toNat_le] at le
    rw [UInt64.toNat_add, UInt64.toNat_one, Nat.mod_eq_of_lt small]
    omega
  next gt =>
    rw [UInt64.le_iff_toNat_le] at gt
    omega

theorem lt_nextVersion_iff :
    current < nextVersion current proposed ↔ current ≠ greatestVersion := by
  constructor
  · rintro less rfl
    rw [nextVersion_greatest] at less
    exact absurd less (by decide)
  · intro below
    rw [UInt64.lt_iff_toNat_lt, toNat_nextVersion below]
    omega

def version (db : Database) : UInt64 :=
  db.store.schema.version

def superseded (db : Database) (schema : Schema) : Database :=
  { db with store := db.store.replaceSchema
              { schema with version := nextVersion db.version schema.version } }

/-- A schema has been put in force in the place of another, under a version that
is greater, and not greater than its own version or the one before makes
necessary. -/
structure Supersedes (db : Database) (schema : Schema) (after : Database)
    (version : UInt64) : Prop where
  greater : db.version < version
  least : version.toNat = max schema.version.toNat (db.version.toNat + 1)
  stored : after.store.schema = { schema with version }
  records : after.store.records = db.store.records

/-- A schema with flaws is refused and nothing has changed; one without
supersedes the schema in force. -/
structure Raises (db : Database) (schema : Schema) : Prop where
  refused : schema.lint ≠ [] →
    db.reload schema = (db, .error (.schemaRejected schema.lint))
  accepted :
    schema.lint = [] →
      ∃ after version, db.reload schema = (after, .ok version) ∧
        db.Supersedes schema after version

variable {db : Database} {schema : Schema}

theorem reload_of_flaws (flaws : schema.lint ≠ []) :
    db.reload schema = (db, .error (.schemaRejected schema.lint)) := by
  rw [reload, checkSchema]
  split
  next error refused =>
    split at refused
    · cases refused
    · cases refused
      rfl
  next accepted =>
    split at accepted
    next clean => exact absurd clean flaws
    next => cases accepted

theorem reload_of_clean (clean : schema.lint = []) :
    db.reload schema =
      (db.superseded schema, .ok (nextVersion db.version schema.version)) := by
  rw [reload, checkSchema, clean]
  rfl

theorem raises_iff :
    db.Raises schema ↔ (schema.lint = [] → db.version ≠ greatestVersion) := by
  constructor
  · intro raises clean
    obtain ⟨after, version, reloaded, supersedes⟩ := raises.accepted clean
    rw [reload_of_clean clean] at reloaded
    cases reloaded
    exact lt_nextVersion_iff.mp supersedes.greater
  · intro below
    exact ⟨reload_of_flaws,
      fun clean =>
        ⟨_, _, reload_of_clean clean, lt_nextVersion_iff.mpr (below clean),
          toNat_nextVersion (below clean) _, rfl, rfl⟩⟩

def reloadAll (db : Database) (schemas : List Schema) :
    Database × List (Except StoreError UInt64) :=
  each reload db schemas

def versions (db : Database) (schemas : List Schema) : List UInt64 :=
  db.version :: (db.reloadAll schemas).2.filterMap Except.toOption

/-- No schema without flaws comes when the greatest version is in force. -/
def HasRoom (db : Database) (schemas : List Schema) : Prop :=
  ∀ before schema after, schemas = before ++ schema :: after →
    schema.lint = [] → (db.reloadAll before).1.version ≠ greatestVersion

theorem reloadAll_cons (db : Database) (schema : Schema) (rest : List Schema) :
    db.reloadAll (schema :: rest) =
      (((db.reload schema).1.reloadAll rest).1,
        (db.reload schema).2 :: ((db.reload schema).1.reloadAll rest).2) := rfl

theorem hasRoom_cons {rest : List Schema} :
    db.HasRoom (schema :: rest) ↔
      (schema.lint = [] → db.version ≠ greatestVersion) ∧
        (db.reload schema).1.HasRoom rest := by
  constructor
  · intro room
    refine ⟨fun clean => room [] schema rest rfl clean,
      fun before other after split => ?_⟩
    exact room (schema :: before) other after (by rw [split, List.cons_append])
  · rintro ⟨first, later⟩ before other after split
    cases before with
    | nil =>
        obtain ⟨rfl, rfl⟩ := List.cons.inj split
        exact first
    | cons _ before =>
        obtain ⟨rfl, rfl⟩ := List.cons.inj split
        exact later before other after rfl

theorem versions_ascend (db : Database) (schemas : List Schema) :
    (db.versions schemas).IsChain (· < ·) ↔ db.HasRoom schemas := by
  induction schemas generalizing db with
  | nil => simp [versions, reloadAll, each, HasRoom]
  | cons schema rest ih =>
      rw [hasRoom_cons, ← ih]
      by_cases clean : schema.lint = []
      · have next : db.versions (schema :: rest) =
            db.version :: (db.reload schema).1.versions rest := by
          rw [versions, reloadAll_cons, reload_of_clean clean]
          rfl
        rw [next, versions, List.isChain_cons_cons, reload_of_clean clean]
        change db.version < nextVersion db.version schema.version ∧ _ ↔ _
        rw [lt_nextVersion_iff]
        simp only [clean, true_implies]
      · have same : db.versions (schema :: rest) = db.versions rest := by
          rw [versions, reloadAll_cons, reload_of_flaws clean]
          rfl
        rw [same, reload_of_flaws clean]
        simp only [clean, false_implies, true_and]

theorem records_reloadAll (db : Database) (schemas : List Schema) :
    (db.reloadAll schemas).1.store.records = db.store.records := by
  induction schemas generalizing db with
  | nil => rfl
  | cons schema rest ih =>
      rw [reloadAll_cons, ih]
      by_cases clean : schema.lint = []
      · rw [reload_of_clean clean]
        rfl
      · rw [reload_of_flaws clean]

/-- Of schemas that are put in force one after another, each is put in force as
it should, and their versions ascend, exactly if none comes when the greatest
version is in force; the version after this one is zero. Records stay as they
are in any case. -/
theorem reloads_raise_iff (db : Database) (schemas : List Schema) :
    ((∀ before schema after, schemas = before ++ schema :: after →
      (db.reloadAll before).1.Raises schema) ↔
      db.HasRoom schemas) ∧
      ((db.versions schemas).Pairwise (· < ·) ↔ db.HasRoom schemas) ∧
      (∀ schema : Schema, schema.lint = [] → db.version = greatestVersion →
        (db.reload schema).2 = .ok 0) ∧
      (db.reloadAll schemas).1.store.records = db.store.records := by
  refine ⟨?_, ?_, fun schema clean last => ?_, db.records_reloadAll schemas⟩
  · simp only [raises_iff]
    rfl
  · rw [← versions_ascend]
    exact List.isChain_iff_pairwise.symm
  · rw [reload_of_clean clean, last, nextVersion_greatest]

def brink : Database where
  store := { schema := { version := 18446744073709551614 } }
  ids := fun _ => ""
  clock := fun _ => default

theorem brink_reloads :
    (brink.versions [{}]).Pairwise (· < ·) ∧
      ¬(brink.versions [{}, {}]).Pairwise (· < ·) ∧
      ((brink.reload {}).1.reload {}).2 = .ok 0 := by
  have below : brink.version ≠ greatestVersion := by decide
  have last : (brink.reload {}).1.version = greatestVersion := by decide +kernel
  obtain ⟨-, one, -⟩ := reloads_raise_iff brink [{}]
  obtain ⟨-, two, -⟩ := reloads_raise_iff brink [{}, {}]
  obtain ⟨-, -, zero, -⟩ := reloads_raise_iff (brink.reload {}).1 []
  refine ⟨one.mpr ?_, fun ascending => ?_, zero {} rfl last⟩
  · exact hasRoom_cons.mpr ⟨fun _ => below, by simp [HasRoom]⟩
  · exact (hasRoom_cons.mp (hasRoom_cons.mp (two.mp ascending)).2).1 rfl last

theorem not_always_raised :
    ¬∀ (schema : Schema) (settings : Settings) (ids : Nat → String)
      (clock : Nat → Instant) (db : Database),
      start schema settings ids clock = .ok db →
        ∀ schemas before next after, schemas = before ++ next :: after →
          (db.reloadAll before).1.Raises next := by
  intro always
  have raises := always { version := greatestVersion } {} (fun _ => "")
    (fun _ => default) _ rfl [{}] [] {} [] rfl
  exact raises_iff.mp raises rfl rfl

end Database

end RecordStore
