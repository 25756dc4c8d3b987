import Mathlib.Data.List.Lex
import RlmApi.StaleRecovery

/-!
# Recovery drains the stale leases

With no other transaction at work, the stale running rows form a queue, the
longest silent first. A call of `recover_stale` recovers exactly its first
`batch_size` rows and leaves the rest of the queue as it stood, so repeated calls
at one database time drain it in as many rounds as the batches it fills.

The counters of running rows are those a claim leaves behind; what happens on
other counters is in `RlmApi.StaleRecovery`.
-/

namespace RlmApi

open RunStore
open Table (unlocked select_unlocked)

variable {now : Timestamp} {staleSeconds batchSize : Int} {db : Database}

/-- The comparison of `ORDER BY stale_at, id`. -/
theorem staleOrder_iff (a b : RunRow) : staleOrder a b = true ↔
    staleAt a < staleAt b ∨ staleAt a = staleAt b ∧ a.id ≤ b.id := by
  simp [staleOrder]

theorem staleOrder_ranks : Ranks staleOrder := Ranks.lexicographic staleOrder_iff

/-- Rows that tie have one id, and so are one row. -/
theorem staleOrder_resolved (now : Timestamp) (staleSeconds : Int) (db : Database) :
    db.table.Resolved (isStale now staleSeconds) staleOrder :=
  db.table.resolved_of_key (fun _ _ early late =>
    (tie_of_lexicographic staleOrder_iff early late).2)

/-- The running rows whose last sign of life is too old, the oldest first. -/
def staleQueue (now : Timestamp) (staleSeconds : Int) (db : Database) : List RunRow :=
  db.table.ordered (isStale now staleSeconds) staleOrder

/-- Every running row was claimed. -/
def RunningClaimed (db : Database) : Prop :=
  ∀ row ∈ db.table.rows, row.status = .running → row.Claimed

theorem claimed_of_stale (counters : RunningClaimed db) {row : RunRow}
    (member : row ∈ staleQueue now staleSeconds db) : row.Claimed := by
  obtain ⟨stored, stale⟩ := Table.mem_ordered.mp member
  exact counters row stored ((isStale_iff _ _ _).mp stale).1

/-- The batch of a call is a prefix of the queue. -/
theorem staleBatch_unlocked (now : Timestamp) (staleSeconds batchSize : Int) (db : Database) :
    staleBatch now unlocked staleSeconds batchSize db =
      (staleQueue now staleSeconds db).take batchSize.toNat :=
  select_unlocked _ _ _ _

/-- One call recovers the batch and returns how many rows it requeued and failed. -/
theorem perform_recoverStale_claimed (counters : RunningClaimed db) (stale : 1 ≤ staleSeconds)
    (batch : 1 ≤ batchSize) :
    perform now unlocked (.recoverStale staleSeconds batchSize) db =
      .ok (.recovered
          (recoveredCount ((staleQueue now staleSeconds db).take batchSize.toNat) true)
          (recoveredCount ((staleQueue now staleSeconds db).take batchSize.toNat) false),
        db.reviseAll (((staleQueue now staleSeconds db).take batchSize.toNat).map
          (recoveryRevision now))) := by
  obtain ⟨distinct, stored⟩ := staleBatch_stored now unlocked staleSeconds batchSize db
  rw [staleBatch_unlocked] at distinct stored
  have claimed : ∀ row ∈ (staleQueue now staleSeconds db).take batchSize.toNat, row.Claimed :=
    fun row member => claimed_of_stale counters (List.mem_of_mem_take member)
  rw [perform_recoverStale stale batch, staleBatch_unlocked,
    execute_recoverRows claimed distinct stored]
  simp [Except.map]

/-- The two counts of a batch add up to its size. -/
theorem recoveredCount_add (rows : List RunRow) :
    recoveredCount rows true + recoveredCount rows false = rows.length := by
  induction rows with
  | nil => rfl
  | cons row rest ih =>
    simp only [recoveredCount, List.countP_cons, List.length_cons] at ih ⊢
    cases decide (row.attempts < row.maxAttempts) with
    | false =>
      simp only [show (false == true) = false from rfl, show (false == false) = true from rfl,
        Bool.false_eq_true, ↓reduceIte]
      omega
    | true =>
      simp only [show (true == true) = true from rfl, show (true == false) = false from rfl,
        Bool.false_eq_true, ↓reduceIte]
      omega

/-- A call leaves the rest of the queue. -/
theorem staleQueue_after (now : Timestamp) (staleSeconds : Int) (db : Database) (batch : Nat) :
    staleQueue now staleSeconds (db.reviseAll
        (((staleQueue now staleSeconds db).take batch).map (recoveryRevision now))) =
      (staleQueue now staleSeconds db).drop batch := by
  have order : db.table.ordered (isStale now staleSeconds) staleOrder =
      (staleQueue now staleSeconds db).take batch ++ (staleQueue now staleSeconds db).drop batch :=
    (List.take_append_drop batch _).symm
  refine (Store.ordered_reviseAll staleOrder_ranks (staleOrder_resolved now staleSeconds db) order
    ?_ ?_).1
  · rw [List.map_map]
    exact List.map_congr_left (fun row _ => recoveryRevision_id row)
  · intro revision member
    obtain ⟨row, -, rfl⟩ := List.mem_map.mp member
    simp [isStale, recoveryRevision, recoveredVersion_status row]

/-- The batch recovers each of its rows and nothing else. -/
theorem revises_batch (now : Timestamp) (staleSeconds : Int) (db : Database) (batch : Nat) :
    db.Revises (db.reviseAll
        (((staleQueue now staleSeconds db).take batch).map (recoveryRevision now)))
      (((staleQueue now staleSeconds db).take batch).map (recoveryRevision now)) := by
  apply revises_recoveries
  have distinct : ((staleQueue now staleSeconds db).map RunRow.id).Nodup :=
    Table.ordered_distinct _
  exact distinct.sublist ((List.take_sublist _ _).map _)

/-- A call leaves every running row claimed. -/
theorem runningClaimed_after (now : Timestamp) (staleSeconds : Int)
    (counters : RunningClaimed db) (batch : Nat) :
    RunningClaimed (db.reviseAll
      (((staleQueue now staleSeconds db).take batch).map (recoveryRevision now))) := by
  intro row member running
  have revises := revises_batch now staleSeconds db batch
  have found := Table.find?_of_mem member
  by_cases chosen : ∃ revision ∈ ((staleQueue now staleSeconds db).take batch).map
      (recoveryRevision now), revision.1.id = row.id
  · obtain ⟨revision, revised, keyed⟩ := chosen
    have written := (revises.revised revision revised).1
    rw [keyed, found, Option.some.injEq] at written
    obtain ⟨stale, -, rfl⟩ := List.mem_map.mp revised
    exact absurd (written ▸ running) (recoveredVersion_status stale)
  · rw [(revises.kept row.id (fun revision revised keyed =>
      chosen ⟨revision, revised, keyed⟩)).1] at found
    exact counters row (Table.find?_mem found) running

/-- So many calls in a row at one database time, nothing else in between. -/
def recoverRounds (now : Timestamp) (staleSeconds batchSize : Int) :
    Nat → Database → Except (Fault PyError) Database
  | 0, db => .ok db
  | rounds + 1, db => do
    let outcome ← perform now unlocked (.recoverStale staleSeconds batchSize) db
    recoverRounds now staleSeconds batchSize rounds outcome.2

/-- After so many rounds the queue has lost so many batches. Induction on the
rounds. -/
theorem recoverRounds_drop (counters : RunningClaimed db) (stale : 1 ≤ staleSeconds)
    (batch : 1 ≤ batchSize) (rounds : Nat) :
    ∃ drained, recoverRounds now staleSeconds batchSize rounds db = .ok drained ∧
      staleQueue now staleSeconds drained =
        (staleQueue now staleSeconds db).drop (rounds * batchSize.toNat) := by
  induction rounds generalizing db with
  | zero => exact ⟨db, rfl, by simp⟩
  | succ rounds ih =>
    obtain ⟨drained, reached, rest⟩ :=
      ih (runningClaimed_after now staleSeconds counters batchSize.toNat)
    refine ⟨drained, ?_, ?_⟩
    · rw [recoverRounds, perform_recoverStale_claimed counters stale batch]
      exact reached
    · rw [rest, staleQueue_after, List.drop_drop, Nat.succ_mul, Nat.add_comm]

/-- What one call answers and does. -/
structure RecoversOldest (now : Timestamp) (staleSeconds batchSize : Int) (db : Database)
    (retried failed : Int) (db' : Database) : Prop where
  /-- The first rows of the queue leave `running`, each with one event; every other
  row and event stays. -/
  revises : db.Revises db' (((staleQueue now staleSeconds db).take batchSize.toNat).map
    (recoveryRevision now))
  /-- A lease with a sign of life is never revoked. -/
  fresh : ∀ row ∈ db.table.rows, isStale now staleSeconds row = false →
    db'.run? row.id = some row
  requeues : retried = ((staleQueue now staleSeconds db).take batchSize.toNat).countP
    (fun row => row.attempts < row.maxAttempts)
  ends : failed = ((staleQueue now staleSeconds db).take batchSize.toNat).countP
    (fun row => !decide (row.attempts < row.maxAttempts))
  total : retried + failed = min batchSize (staleQueue now staleSeconds db).length

/-- A call recovers exactly the first `batch_size` rows of the queue, and repeated
calls drain it in as many rounds as its length divided by `batch_size`, rounded
up. -/
theorem recoverStale_drains (now : Timestamp) (counters : RunningClaimed db)
    (stale : 1 ≤ staleSeconds) (batch : 1 ≤ batchSize) :
    (∃ retried failed db', perform now unlocked (.recoverStale staleSeconds batchSize) db =
        .ok (.recovered retried failed, db') ∧
      RecoversOldest now staleSeconds batchSize db retried failed db') ∧
    ∀ rounds, ∃ drained, recoverRounds now staleSeconds batchSize rounds db = .ok drained ∧
      (staleQueue now staleSeconds drained = [] ↔
        ((staleQueue now staleSeconds db).length + batchSize.toNat - 1) / batchSize.toNat ≤
          rounds) := by
  constructor
  · refine ⟨_, _, _, perform_recoverStale_claimed counters stale batch, ?_⟩
    have revises := revises_batch now staleSeconds db batchSize.toNat
    refine ⟨revises, fun row member silent => ?_, ?_, ?_, ?_⟩
    · rw [Database.run?, (revises.kept row.id (fun revision revised same => ?_)).1]
      · exact Table.find?_of_mem member
      · obtain ⟨other, chosen, rfl⟩ := List.mem_map.mp revised
        obtain ⟨stored, wanted⟩ := Table.mem_ordered.mp (List.mem_of_mem_take chosen)
        rw [recoveryRevision_id] at same
        have one : other = row := List.inj_on_of_nodup_map db.table.distinct stored member same
        rw [one, silent] at wanted
        cases wanted
    · simp [recoveredCount]
    · simp [recoveredCount]
    · rw [recoveredCount_add, List.length_take]
      omega
  · intro rounds
    obtain ⟨drained, reached, rest⟩ := recoverRounds_drop counters stale batch rounds
    refine ⟨drained, reached, ?_⟩
    rw [rest]
    exact drop_rounds_eq_nil_iff _ (by omega) rounds

/-- A row whose worker stopped on its last attempt, before the other one did. -/
def exhaustedRow : RunRow :=
  { abandonedRow with
    id := lit "00000000-0000-4000-8000-00000000000c"
    attempts := 3
    workerHeartbeatAt := some (seconds 5) }

/-- Two stale leases. -/
def twoAbandoned : Database := (Database.empty.putRun abandonedRow).putRun exhaustedRow

/-- One call of a single-row batch, and two rounds, on two stale leases. -/
theorem recoverStale_drains_two :
    (∃ retried failed db', perform (seconds 100) unlocked (.recoverStale 30 1) twoAbandoned =
        .ok (.recovered retried failed, db') ∧
      RecoversOldest (seconds 100) 30 1 twoAbandoned retried failed db') ∧
    ∀ rounds, ∃ drained, recoverRounds (seconds 100) 30 1 rounds twoAbandoned = .ok drained ∧
      (staleQueue (seconds 100) 30 drained = [] ↔
        ((staleQueue (seconds 100) 30 twoAbandoned).length + (1 : Int).toNat - 1) /
          (1 : Int).toNat ≤ rounds) := by
  have counters : RunningClaimed twoAbandoned := by
    intro row member _
    have rows : twoAbandoned.table.rows = [abandonedRow, exhaustedRow] := by rfl
    rw [rows] at member
    rcases List.mem_cons.mp member with rfl | last
    · exact ⟨by decide, by decide⟩
    · obtain rfl : row = exhaustedRow := List.mem_singleton.mp last
      exact ⟨by decide, by decide⟩
  exact recoverStale_drains (seconds 100) counters (by decide) (by decide)

example : (staleQueue (seconds 100) 30 twoAbandoned).map RunRow.attempts = [3, 1] := by rfl

end RlmApi
