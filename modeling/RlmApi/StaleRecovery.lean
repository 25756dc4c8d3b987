import RlmApi.OrderedBatches
import RlmApi.QueueOperations

/-!
# Recovery over the rows the schema admits

`recover_stale` moves a whole batch in one transaction, and the arithmetic it
calls raises on an attempt counter of zero. The schema admits such a row, and
migration 004 keeps running rows of the old schema with that counter. The results
below say for every admitted table exactly when a batch commits.

The rows need not have been written by this store, so nothing here rests on the
journal. The sequence number of an event does not reach the end of its column.
-/

namespace RlmApi

open RunStore

/-- What `rlm_runs_attempts_check` admits; the status is one of four by its type. -/
def RunRow.Admitted (row : RunRow) : Prop :=
  0 ≤ row.attempts ∧ 0 < row.maxAttempts ∧ row.attempts ≤ row.maxAttempts

instance (row : RunRow) : Decidable row.Admitted :=
  inferInstanceAs (Decidable (_ ∧ _ ∧ _))

/-- The batch: the stalest running rows that nobody holds, oldest first. -/
def staleBatch (now : Timestamp) (locked : Str → Bool) (staleSeconds batchSize : Int)
    (db : Database) : List RunRow :=
  db.table.select (fun row => isStale now staleSeconds row && !locked row.id) staleOrder
    batchSize.toNat

/-- Every row of the batch is stored, and stored once. -/
theorem staleBatch_stored (now : Timestamp) (locked : Str → Bool) (staleSeconds batchSize : Int)
    (db : Database) :
    ((staleBatch now locked staleSeconds batchSize db).map RunRow.id).Nodup ∧
      ∀ row ∈ staleBatch now locked staleSeconds batchSize db,
        db.table.find? row.id = some row :=
  ⟨Table.select_distinct _ _ _ _, fun _ member => Table.find?_of_mem (Table.mem_select member).1⟩

section Loop

variable {now : Timestamp} {locked : Str → Bool}

/-- What recovery makes of a row: requeued after a delay while attempts are left,
failed now on the last one. -/
def recoveredVersion (now : Timestamp) (row : RunRow) : RunRow :=
  if row.attempts < row.maxAttempts then
    { row with
      status := .queued
      error := some heartbeatExpired
      availableAt := now + seconds (min 300 (2 ^ (row.attempts - 1).toNat))
      completedAt := none
      updatedAt := now
      workerId := none
      workerHeartbeatAt := none }
  else
    { row with
      status := .failed
      error := some heartbeatExpired
      completedAt := some now
      updatedAt := now
      workerId := none
      workerHeartbeatAt := none }

/-- A recovered row with its event. -/
def recoveryRevision (now : Timestamp) (row : RunRow) : RunRow × EventBody :=
  (recoveredVersion now row,
    if row.attempts < row.maxAttempts then
      ⟨.staleRecovered, .obj (recoveredPayload row.attempts true)⟩
    else ⟨.failed, .obj (recoveredPayload row.attempts false)⟩)

@[simp] theorem recoveryRevision_id (row : RunRow) : (recoveryRevision now row).1.id = row.id := by
  simp only [recoveryRevision, recoveredVersion]
  split <;> rfl

/-- Recovering distinct rows revises each of them and nothing else. -/
theorem revises_recoveries (now : Timestamp) (store : Database) {rows : List RunRow}
    (distinct : (rows.map RunRow.id).Nodup) :
    store.Revises (store.reviseAll (rows.map (recoveryRevision now)))
      (rows.map (recoveryRevision now)) := by
  apply Store.revises_reviseAll
  rw [List.map_map]
  simpa only [Function.comp_def, recoveryRevision_id] using distinct

/-- A recovered row no longer runs. -/
theorem recoveredVersion_status (row : RunRow) : (recoveredVersion now row).status ≠ .running := by
  rw [recoveredVersion]
  split <;> exact RunStatus.noConfusion

/-- A row that was claimed and whose counter fits its bound. -/
def RunRow.Claimed (row : RunRow) : Prop := 1 ≤ row.attempts ∧ row.attempts ≤ row.maxAttempts

/-- What is left in the batch is requeued or fails, and the loop counts both. -/
def recoveredCount (rows : List RunRow) (retry : Bool) : Int :=
  (rows.countP (fun row => decide (row.attempts < row.maxAttempts) == retry) : Nat)

/-- One iteration on a claimed row: the row is recovered, its event is appended, and
the loop goes on with the other rows as they were. -/
theorem recoverRows_cons {row : RunRow} (rest : List RunRow) (retried failed : Int)
    {store : Database} (claimed : row.Claimed) (stored : store.table.find? row.id = some row) :
    (recoverRows now (row :: rest) retried failed).execute locked store =
      (if row.attempts < row.maxAttempts then recoverRows now rest (retried + 1) failed
        else recoverRows now rest retried (failed + 1)).execute locked
          (store.revise (recoveryRevision now row)) := by
  have status := failureStatus_retryable claimed
  have delayed : retryDelaySeconds row.attempts runRetryCapSeconds =
      .ok (min 300 (2 ^ (row.attempts - 1).toNat)) :=
    retryDelaySeconds_eq claimed.1 (by decide)
  have written : ∀ next delay,
      (store.table.put (failedVersion now next heartbeatExpired delay row)).find? row.id =
        some (failedVersion now next heartbeatExpired delay row) :=
    fun _ _ => Table.find?_put_self _ _
  simp only [recoverRows, status, delayed, Transaction.execute, stored, Option.filter_some,
    ↓reduceIte, appendEvent, written, Option.isSome_some]
  by_cases left : row.attempts < row.maxAttempts
  · simp only [left, ↓reduceIte, Store.revise, recoveryRevision, recoveredVersion]
    rfl
  · simp only [left, ↓reduceIte, Store.revise, recoveryRevision, recoveredVersion]
    rfl

/-- Recovering one row leaves the other rows of the batch as they were. -/
theorem stored_after_recovery (now : Timestamp) {row : RunRow} {rest : List RunRow}
    {store : Database} (distinct : ((row :: rest).map RunRow.id).Nodup)
    (stored : ∀ other ∈ row :: rest, store.table.find? other.id = some other) :
    ∀ other ∈ rest,
      (store.revise (recoveryRevision now row)).table.find? other.id = some other := by
  intro other member
  have apart : (recoveryRevision now row).1.id ≠ other.id := by
    rw [recoveryRevision_id]
    intro same
    exact (List.nodup_cons.mp distinct).1 (same ▸ List.mem_map_of_mem member)
  exact (Table.find?_put_ne _ apart).trans (stored other (List.mem_cons_of_mem row member))

/-- The loop over claimed rows commits: it recovers every one of them and counts
the requeued and the failed. Induction on the rows. -/
theorem execute_recoverRows {rows : List RunRow} {retried failed : Int} {store : Database}
    (claimed : ∀ row ∈ rows, row.Claimed) (distinct : (rows.map RunRow.id).Nodup)
    (stored : ∀ row ∈ rows, store.table.find? row.id = some row) :
    (recoverRows now rows retried failed).execute locked store =
      .ok ((retried + recoveredCount rows true, failed + recoveredCount rows false),
        store.reviseAll (rows.map (recoveryRevision now))) := by
  induction rows generalizing retried failed store with
  | nil => simp [recoverRows, Transaction.execute, recoveredCount]
  | cons row rest ih =>
    have later := stored_after_recovery now distinct stored
    have continued : ∀ retried failed, (recoverRows now rest retried failed).execute locked
        (store.revise (recoveryRevision now row)) = _ := fun retried failed =>
      ih (fun other member => claimed other (List.mem_cons_of_mem row member))
        (List.nodup_cons.mp distinct).2 later
    rw [recoverRows_cons rest retried failed (claimed row List.mem_cons_self)
      (stored row List.mem_cons_self), List.map_cons, Store.reviseAll_cons]
    by_cases left : row.attempts < row.maxAttempts
    · simp only [left, ↓reduceIte, continued, recoveredCount, List.countP_cons]
      simp
      omega
    · simp only [left, ↓reduceIte, continued, recoveredCount, List.countP_cons]
      simp
      omega

/-- One row that was never claimed makes the loop raise, wherever it stands in the
batch: the rows before it are recovered first, and the rollback undoes that. -/
theorem recoverRows_raises {rows : List RunRow} {retried failed : Int} {store : Database}
    (admitted : ∀ row ∈ rows, row.Admitted) (unclaimed : ∃ row ∈ rows, row.attempts < 1)
    (distinct : (rows.map RunRow.id).Nodup)
    (stored : ∀ row ∈ rows, store.table.find? row.id = some row) :
    (recoverRows now rows retried failed).execute locked store =
      .error (.raised (.valueError "attempt counters are invalid")) := by
  induction rows generalizing retried failed store with
  | nil =>
    obtain ⟨row, absurd, -⟩ := unclaimed
    cases absurd
  | cons row rest ih =>
    by_cases claimed : 1 ≤ row.attempts
    · have later : ∃ other ∈ rest, other.attempts < 1 := by
        obtain ⟨other, member, below⟩ := unclaimed
        rcases List.mem_cons.mp member with rfl | inRest
        · omega
        · exact ⟨other, inRest, below⟩
      have raised : ∀ retried failed, (recoverRows now rest retried failed).execute locked
          (store.revise (recoveryRevision now row)) = _ := fun retried failed =>
        ih (fun other member => admitted other (List.mem_cons_of_mem row member)) later
          (List.nodup_cons.mp distinct).2 (stored_after_recovery now distinct stored)
      rw [recoverRows_cons rest retried failed
        ⟨claimed, (admitted row List.mem_cons_self).2.2⟩ (stored row List.mem_cons_self)]
      split
      · exact raised _ _
      · exact raised _ _
    · have below : row.attempts < 1 := Int.not_le.mp claimed
      simp only [recoverRows, failureStatus, below, true_or, ↓reduceIte, Transaction.execute]

end Loop

/-- The batch commits, and every row of it leaves `running`. -/
def Recovers (now : Timestamp) (locked : Str → Bool) (staleSeconds batchSize : Int)
    (db : Database) : Prop :=
  ∃ answer db', perform now locked (.recoverStale staleSeconds batchSize) db = .ok (answer, db') ∧
    ∀ row ∈ staleBatch now locked staleSeconds batchSize db,
      ∃ version, db'.run? row.id = some version ∧ version.status ≠ .running

/-- A call with valid parameters runs the loop over the batch. -/
theorem perform_recoverStale {now : Timestamp} {locked : Str → Bool} {staleSeconds batchSize : Int}
    {db : Database} (stale : 1 ≤ staleSeconds) (batch : 1 ≤ batchSize) :
    perform now locked (.recoverStale staleSeconds batchSize) db =
      ((recoverRows now (staleBatch now locked staleSeconds batchSize db) 0 0).execute locked
        db).map (fun outcome => (.recovered outcome.1.1 outcome.1.2, outcome.2)) := by
  simp only [perform, Operation.transaction, Transaction.execute_map, recoverStale,
    Int.not_lt.mpr stale, Int.not_lt.mpr batch, ↓reduceIte, Transaction.execute, staleBatch]

/-- Over every table the schema admits, a batch is recovered if and only if each of
its rows was claimed at least once. -/
theorem recovers_iff {now : Timestamp} {locked : Str → Bool} {staleSeconds batchSize : Int}
    {db : Database} (admitted : ∀ row ∈ db.table.rows, row.Admitted) (stale : 1 ≤ staleSeconds)
    (batch : 1 ≤ batchSize) :
    Recovers now locked staleSeconds batchSize db ↔
      ∀ row ∈ staleBatch now locked staleSeconds batchSize db, 1 ≤ row.attempts := by
  obtain ⟨distinct, stored⟩ := staleBatch_stored now locked staleSeconds batchSize db
  have within : ∀ row ∈ staleBatch now locked staleSeconds batchSize db, row.Admitted :=
    fun row member => admitted row (Table.mem_select member).1
  rw [Recovers, perform_recoverStale stale batch]
  constructor
  · rintro ⟨answer, db', committed, -⟩
    by_contra unclaimed
    simp only [not_forall, Int.not_le] at unclaimed
    obtain ⟨row, member, below⟩ := unclaimed
    rw [recoverRows_raises within ⟨row, member, below⟩ distinct stored] at committed
    cases committed
  · intro claimed
    rw [execute_recoverRows (fun row member => ⟨claimed row member, (within row member).2.2⟩)
      distinct stored]
    refine ⟨_, _, rfl, fun row member => ?_⟩
    have revised := (revises_recoveries now db distinct).revised _ (List.mem_map_of_mem member)
    rw [recoveryRevision_id] at revised
    exact ⟨_, revised.1, recoveredVersion_status row⟩

/-- A running row of the old schema after migration 004: the added columns have
their defaults, and so it was attempted zero times and has no lease. -/
def legacyRow : RunRow where
  id := lit "00000000-0000-4000-8000-00000000000a"
  tenantId := lit "acme"
  subjectId := lit "user"
  namespaceName := lit "default"
  status := .running
  task := lit "sum"
  context := lit "1 2"
  corpusRef := some (.obj (jsonFields [("context", .str (lit "1 2"))]))
  memorySnapshot := .arr []
  modelConfig := .obj []
  limits := .obj []
  result := none
  usage := .obj []
  error := none
  includeTrajectory := false
  trajectory := none
  attempts := 0
  maxAttempts := 3
  availableAt := 0
  createdAt := 0
  updatedAt := 0
  startedAt := some 0
  completedAt := none
  workerId := none
  workerHeartbeatAt := none

/-- A row whose worker stopped after claiming it once. -/
def abandonedRow : RunRow :=
  { legacyRow with
    id := lit "00000000-0000-4000-8000-00000000000b"
    attempts := 1
    workerId := some (lit "w")
    workerHeartbeatAt := some (seconds 10) }

/-- A batch of one abandoned row is recovered, because it was claimed once. -/
theorem recovers_iff_abandoned :
    Recovers (seconds 100) (fun _ => false) 30 100 (Database.empty.putRun abandonedRow) ↔
      ∀ row ∈ staleBatch (seconds 100) (fun _ => false) 30 100
        (Database.empty.putRun abandonedRow), 1 ≤ row.attempts := by
  have admitted : ∀ row ∈ (Database.empty.putRun abandonedRow).table.rows, row.Admitted := by
    intro row member
    obtain rfl : row = abandonedRow := List.mem_singleton.mp member
    decide
  exact recovers_iff admitted (by decide) (by decide)

/-- One legacy row wedges recovery: the abandoned row beside it is selected in the
same batch and stays in `running`. -/
theorem recovery_wedged :
    ¬ ∀ (now : Timestamp) (locked : Str → Bool) (staleSeconds batchSize : Int) (db : Database),
      (∀ row ∈ db.table.rows, row.Admitted) → 1 ≤ staleSeconds → 1 ≤ batchSize →
        Recovers now locked staleSeconds batchSize db := by
  intro always
  have raised : perform (seconds 100) (fun _ => false) (.recoverStale 30 100)
      ((Database.empty.putRun abandonedRow).putRun legacyRow) =
        .error (.raised (.valueError "attempt counters are invalid")) := by rfl
  have admitted : ∀ row ∈ ((Database.empty.putRun abandonedRow).putRun legacyRow).table.rows,
      row.Admitted := by
    intro row member
    have rows : ((Database.empty.putRun abandonedRow).putRun legacyRow).table.rows =
      [abandonedRow, legacyRow] := by rfl
    rw [rows] at member
    rcases List.mem_cons.mp member with rfl | last
    · decide
    · obtain rfl : row = legacyRow := List.mem_singleton.mp last
      decide
  obtain ⟨answer, db', committed, -⟩ :=
    always (seconds 100) (fun _ => false) 30 100 _ admitted (by decide) (by decide)
  rw [raised] at committed
  cases committed

end RlmApi
