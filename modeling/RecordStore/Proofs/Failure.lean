import RecordStore.Proofs.Concurrency.Calls
import RecordStore.Proofs.Timeless
import RecordStore.Time.Clock

namespace RecordStore

/-- Whatever calls are at work on a store, no look of one that is answered with
an error has changed the store. And if an operation of a script has failed, the
script without it has the same outcomes but that one: under any clock that shows
the other operations the times that they saw, as a clock that stands still does;
and under every clock, but for the times in the outcomes, if none of the others
asks for times. -/
theorem failures_leave_no_trace :
    (∀ (session : Session) (start : Store) (schedule before : List Nat)
      (i : Nat) (error : StoreError),
      (session.run (.initial start) schedule).progress i =
        .answered (.error error) → before ++ [i] <+: schedule →
        (session.run (.initial start) (before ++ [i])).store =
          (session.run (.initial start) before).store) ∧
      ∀ (db : Database) (operations : List Operation) (k : Nat)
        (outcome : Outcome),
        (runScript db operations).2[k]? = some outcome → outcome.ok = false →
          (∀ clock : Nat → Instant, (∀ n <
            (runScript db (operations.take k)).1.ticks, clock n = db.clock n) →
            (∀ n, clock ((runScript db (operations.take k)).1.ticks + n) =
              db.clock ((runScript db (operations.take (k + 1))).1.ticks + n)) →
            (runScript (db.withClock clock db.ticks) (operations.eraseIdx
              k)).2 = (runScript db operations).2.eraseIdx k) ∧
            ∀ (clock : Nat → Instant) (ticks : Nat), (∀ other ∈
              operations.eraseIdx k, other.IsTimeless db.store.schema) →
              (runScript (db.withClock clock ticks)
                (operations.eraseIdx k)).2.map Outcome.timeless =
                ((runScript db operations).2.eraseIdx k).map
                  Outcome.timeless := by
  refine ⟨?_, ?_⟩
  · intro session start schedule before i error failed part
    exact session.store_of_failed start failed part
  · intro db operations k outcome found failed
    obtain ⟨before, operation, after, error, rfl, rfl, fails⟩ :=
      split_of_failed found failed
    have next : (before ++ operation :: after).take (before.length + 1) =
        before ++ [operation] := by
      rw [List.take_length_add_append, List.take_succ_cons, List.take_zero]
    have ticks : (runScript db (before ++ [operation])).1.ticks =
        (operation.run (runScript db before).1).1.ticks := by
      rw [runScript_append]
      rfl
    have others : (before ++ operation :: after).eraseIdx before.length =
        before ++ after := by
      rw [List.eraseIdx_append_of_length_le (Nat.le_refl _), Nat.sub_self,
        List.eraseIdx_cons_zero]
    rw [others, List.take_left, next, ticks]
    exact ⟨runScript_without_failed db before after operation fails,
      runScript_timeless_without_failed db before after operation fails⟩

def Payload.named (name : String) : Payload :=
  .ofList [("name", .string name)]

/-- A tag is created and patched twice at its first version. -/
def Session.overtaking : Session where
  settings := {}
  call i := [ .mutate "Tag" (.create (.named "a")),
    .mutate "Tag" (.patch "0" (some 1) (.named "b")),
    .mutate "Tag" (.patch "0" (some 1) (.named "c"))].getD
    i (.inspect "Tag" (.get "0"))
  fresh i := String.ofList (Decimal.digits i)
  time := fun _ => default

def Session.overtakingSchedule : List Nat :=
  [0, 0, 0, 0, 1, 1, 1, 2, 2, 2, 2]

def Database.tagging : Database where
  store := { schema := .tagging }
  ids n := String.ofList (Decimal.digits n)
  clock := fun _ => default

def Operation.createTag (name : String) : Operation :=
  { kind := .create, entity := "Tag", data := some (.named name) }

def Operation.vain : List Operation :=
  [.createTag "a", { kind := .delete, entity := "Tag", id := some "9" },
    .createTag "b",
    { kind := .list, entity := "Tag" }]

open Operation Session in
theorem overtaking_leaves_no_trace :
    (overtaking.run (.initial { schema := .tagging })
      (overtakingSchedule ++ [1])).store =
      (overtaking.run (.initial { schema := .tagging })
        overtakingSchedule).store ∧
      (runScript .tagging (vain.eraseIdx 1)).2 =
        (runScript .tagging vain).2.eraseIdx 1 ∧
      (runScript (.withClock .tagging Instant.ofNanoseconds 0)
        (vain.eraseIdx 1)).2.map Outcome.timeless =
        ((runScript .tagging vain).2.eraseIdx 1).map Outcome.timeless := by
  obtain ⟨calls, scripts⟩ := failures_leave_no_trace
  have found : (runScript .tagging vain).2[1]? =
      some ⟨.delete, .error (.notFound "d.Tag" "9")⟩ := rfl
  obtain ⟨stopped, masked⟩ := scripts .tagging vain 1 _ found rfl
  refine ⟨?_, ?_, ?_⟩
  · exact calls overtaking { schema := .tagging } (overtakingSchedule ++ [1])
      overtakingSchedule 1
      (.versionConflict "d.Tag" "0" 2) rfl (List.prefix_refl _)
  · exact stopped (fun _ => default) (fun _ _ => rfl) fun _ => rfl
  · refine masked .ofNanoseconds 0 ?_
    have listing : ({ kind := .list, entity := "Tag" } : Operation).IsTimeless
        .tagging := by
      intro query read
      obtain rfl : ({} : Query) = query := Except.ok.inj read
      exact ⟨List.forall_mem_nil _, List.forall_mem_nil _⟩
    change ∀ other ∈ [createTag "a", createTag "b",
      { kind := .list, entity := "Tag" }], _
    exact List.forall_mem_cons.mpr ⟨trivial, List.forall_mem_cons.mpr ⟨trivial,
      List.forall_mem_singleton.mpr listing⟩⟩

end RecordStore
