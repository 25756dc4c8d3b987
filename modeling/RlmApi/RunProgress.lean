import RlmApi.ClaimQueue
import RlmApi.LeadsTo
import RlmApi.RecoveryDrain
import RlmApi.RunShapes

/-!
# Every run ends

Nothing in the queue is driven by the run that waits in it: workers poll, recovery
sweeps, and both skip rows that others hold. The histories here have no end, and
`Fair` says what their environment owes: the clock goes on, for every run a claim
and a recovery come again that do not skip its row, and no lease is kept alive
forever. Then every run ends.

A queued run waits behind the rows that a claim would select before it, and a
running run behind those that recovery would. Once the clock has passed the run's
own place in the order, no row enters before it, and a claim or a recovery takes
the first of them away. The rank of both stages is that set of rows.
-/

namespace RlmApi

open RunStore

/-- A call at one moment, with the rows that other transactions hold then. -/
structure QueueCall where
  now : Timestamp
  locked : Str → Bool
  operation : Operation

/-- The row waits for a claim. -/
def isQueued (row : RunRow) : Bool := row.status = .queued

/-- The row is in a lease. -/
def isRunning (row : RunRow) : Bool := row.status = .running

/-! ## What an action does to the place of a run -/

namespace RunChange

variable {now : Timestamp} {action : RunAction} {before after : RunDossier}

/-- A queued run keeps its row until a claim starts or refuses it. -/
theorem dequeued (change : RunChange now action (some before) after)
    (queued : before.row.status = .queued) :
    after.row = before.row ∨ after.row.status = .failed ∨
      after.row.status = .running ∧ after.row.attempts = before.row.attempts + 1 := by
  cases change with
  | quarantine => exact Or.inr (Or.inl rfl)
  | start => exact Or.inr (Or.inr ⟨rfl, rfl⟩)
  | beat leased => cases queued.symm.trans ((leasedBy_iff _ _).mp leased).1
  | succeed leased => cases queued.symm.trans ((leasedBy_iff _ _).mp leased).1
  | fail status delayed leased => cases queued.symm.trans ((leasedBy_iff _ _).mp leased).1
  | recover stale => cases queued.symm.trans ((isStale_iff _ _ _).mp stale).1
  | report => exact Or.inl rfl

/-- A running run keeps its row until it leaves the lease, heartbeats apart. -/
theorem released (change : RunChange now action (some before) after)
    (running : before.row.status = .running) :
    after.row = before.row ∨
      (after.row.status ≠ .running ∧ after.row.attempts = before.row.attempts) ∨
      ∃ run, action = .beat run ∧ leasedBy run.workerId before.row = true ∧
        after.row.status = .running ∧ after.row.attempts = before.row.attempts := by
  cases change with
  | quarantine wanted => cases running.symm.trans ((claimable_iff _ _).mp wanted).1
  | start wanted => cases running.symm.trans ((claimable_iff _ _).mp wanted).1
  | beat leased => exact Or.inr (Or.inr ⟨_, rfl, leased, running, rfl⟩)
  | succeed => exact Or.inr (Or.inl ⟨RunStatus.noConfusion, rfl⟩)
  | fail status =>
    refine Or.inr (Or.inl ⟨?_, rfl⟩)
    rcases failureStatus_cases status with ⟨rfl, -⟩ | rfl <;> exact RunStatus.noConfusion
  | recover stale status =>
    refine Or.inr (Or.inl ⟨?_, rfl⟩)
    rcases failureStatus_cases status with ⟨rfl, -⟩ | rfl <;> exact RunStatus.noConfusion
  | report => exact Or.inl rfl

/-- A run that is queued after an action was queued so before, or becomes available
at the time of the action or later. -/
theorem queuedLater {before : Option RunDossier} (change : RunChange now action before after)
    (queued : after.row.status = .queued) :
    (∃ dossier, before = some dossier ∧ after.row = dossier.row) ∨
      now ≤ after.row.availableAt := by
  cases change with
  | enqueue => exact Or.inr (le_refl now)
  | quarantine | start | succeed => cases queued
  | beat leased => cases queued.symm.trans ((leasedBy_iff _ _).mp leased).1
  | @fail _ run arguments next delay status delayed leased =>
    obtain rfl : next = .queued := queued
    have positive : 0 ≤ seconds delay := by
      have lower := (retryDelaySeconds_bounds (by decide) delayed).1
      simp only [seconds]
      omega
    exact Or.inr (Int.le_add_of_nonneg_right positive)
  | @recover _ staleSeconds next delay stale status delayed =>
    obtain rfl : next = .queued := queued
    have positive : 0 ≤ seconds delay := by
      have lower := (retryDelaySeconds_bounds (by decide) delayed).1
      simp only [seconds]
      omega
    exact Or.inr (Int.le_add_of_nonneg_right positive)
  | report => exact Or.inl ⟨_, rfl, rfl⟩

/-- A run that is running after an action was running so before, or has given a sign
of life at the time of the action. -/
theorem runningLater {before : Option RunDossier} (change : RunChange now action before after)
    (running : after.row.status = .running) :
    (∃ dossier, before = some dossier ∧ after.row = dossier.row) ∨ staleAt after.row = now := by
  cases change with
  | enqueue | quarantine | succeed => cases running
  | start | beat => exact Or.inr rfl
  | fail status =>
    rcases failureStatus_cases status with ⟨rfl, -⟩ | rfl <;> cases running
  | recover stale status =>
    rcases failureStatus_cases status with ⟨rfl, -⟩ | rfl <;> cases running
  | report => exact Or.inl ⟨_, rfl, rfl⟩

end RunChange

/-- No row enters a place in the order that new rows come after. -/
theorem Performed.upTo_subset {now : Timestamp} {operation : Operation} {answer : Answer}
    {db db' : Database} (effect : Performed now operation answer db db') {row : RunRow}
    {wanted : RunRow → Bool} {order : RunRow → RunRow → Bool}
    (later : ∀ {action before after}, RunChange now action before after →
      wanted after.row = true → order after.row row = true →
        ∃ dossier, before = some dossier ∧ after.row = dossier.row) :
    db'.table.upTo wanted order row ⊆ db.table.upTo wanted order row := by
  intro id member
  obtain ⟨other, found, waits, early⟩ := Table.mem_upTo.mp member
  obtain ⟨dossier, kept, rfl⟩ := run?_eq_some_iff.mp found
  refine Table.mem_upTo.mpr ⟨dossier.row, ?_, waits, early⟩
  obtain ⟨action, -, acted⟩ := effect.acted id
  cases action with
  | none => exact run?_eq_some_iff.mpr ⟨dossier, acted ▸ kept, rfl⟩
  | some action =>
    obtain ⟨after, written, change⟩ := acted
    obtain rfl : dossier = after := Option.some.inj (kept.symm.trans written)
    obtain ⟨before, stored, same⟩ := later change waits early
    rw [same]
    exact run?_eq_some_iff.mpr ⟨before, stored, rfl⟩

/-! ## A claim takes the first of the queue -/

section Claiming

variable {now : Timestamp} {locked : Str → Bool} {workerId : Str} {db : Database}

/-- One round selects one row, or none. -/
theorem nextCandidates_cases (now : Timestamp) (locked : Str → Bool) (db : Database) :
    nextCandidates now locked db = [] ∨ ∃ row, nextCandidates now locked db = [row] ∧
      claimable now row = true := by
  have bounded : (nextCandidates now locked db).length ≤ 1 := Table.select_length_le _ _ _ _
  cases chosen : nextCandidates now locked db with
  | nil => exact Or.inl rfl
  | cons row rest =>
    rw [chosen, List.length_cons] at bounded
    obtain rfl : rest = [] := List.length_eq_zero_iff.mp (by omega)
    have member : row ∈ nextCandidates now locked db := chosen ▸ List.mem_singleton_self row
    have wanted := (Table.mem_select member).2
    exact Or.inr ⟨row, rfl, (Bool.and_eq_true_iff.mp wanted).1⟩

/-- A claim commits whatever others hold, and it writes queued rows only. Induction
on the rounds left. -/
theorem claimLoop_commits (now : Timestamp) (locked : Str → Bool) (workerId : Str)
    (remaining : Nat) (db : Database) :
    ∃ answer, ∃ db' : Database,
      (claimLoop now workerId remaining).execute locked db = .ok (answer, db') ∧
      ∀ id row, db.run? id = some row → row.status ≠ .queued → db'.run? id = some row := by
  induction remaining generalizing db with
  | zero => exact ⟨none, db, rfl, fun _ _ found _ => found⟩
  | succ remaining inductionHypothesis =>
    rcases nextCandidates_cases now locked db with none | ⟨first, chosen, wanted⟩
    · exact ⟨_, db, claimLoop_empty remaining none, fun _ _ found _ => found⟩
    · have stored := find?_of_nextCandidates chosen
      have other : ∀ {version : RunRow} {id row}, version.id = first.id →
          db.run? id = some row → row.status ≠ .queued → (db.table.put version).find? id =
            some row := by
        intro version id row keyed found settled
        rw [Table.find?_put_ne, show db.table.find? id = some row from found]
        rintro rfl
        rw [keyed] at found
        obtain rfl : first = row := Option.some.inj (stored.symm.trans found)
        exact settled ((claimable_iff _ _).mp wanted).1
      cases decoded : decodeCandidate now workerId first with
      | ok run =>
        exact ⟨_, _, claimLoop_take remaining chosen decoded, fun id row => other rfl⟩
      | error error =>
        obtain ⟨answer, db', committed, kept⟩ :=
          inductionHypothesis (db.revise (quarantineRevision now workerId first))
        exact ⟨answer, db', (claimLoop_refuse remaining chosen decoded).trans committed,
          fun id row found settled => kept id row (other rfl found settled) settled⟩

/-- The row that the first round selects has left the queue when the claim commits. -/
theorem claimLoop_dequeues {first : RunRow} (chosen : nextCandidates now locked db = [first])
    (workerId : Str) (remaining : Nat) :
    ∃ answer, ∃ db' : Database, ∃ version,
      (claimLoop now workerId (remaining + 1)).execute locked db = .ok (answer, db') ∧
      db'.run? first.id = some version ∧ version.status ≠ .queued := by
  cases decoded : decodeCandidate now workerId first with
  | ok run =>
    exact ⟨_, _, _, claimLoop_take remaining chosen decoded, Table.find?_put_self _ _,
      RunStatus.noConfusion⟩
  | error error =>
    obtain ⟨answer, db', committed, kept⟩ := claimLoop_commits now locked workerId remaining
      (db.revise (quarantineRevision now workerId first))
    have settled : (quarantineRevision now workerId first).1.status ≠ .queued :=
      RunStatus.noConfusion
    exact ⟨answer, db', _, (claimLoop_refuse remaining chosen decoded).trans committed,
      kept _ _ (Table.find?_put_self _ _) settled, settled⟩

/-- A claim that does not skip a claimable row takes some row at its place or before
it out of the queue. -/
theorem claim_dequeues_first {row : RunRow} {maxQuarantined : Int} (positive : 1 ≤ maxQuarantined)
    (found : db.run? row.id = some row) (wanted : claimable now row = true)
    (free : locked row.id = false) (workerId : Str) :
    ∃ answer, ∃ db' : Database, ∃ first version : RunRow,
      perform now locked (.claim workerId maxQuarantined) db = .ok (.claimed answer, db') ∧
      first.id ∈ db.table.upTo isQueued claimOrder row ∧
      db'.run? first.id = some version ∧ version.status ≠ .queued := by
  let wantedRow (other : RunRow) : Bool := claimable now other && !locked other.id
  have passes : wantedRow row = true := by simp [wantedRow, wanted, free]
  obtain ⟨first, chosen, early⟩ := Table.select_one claimOrder_ranks.total
    claimOrder_ranks.trans (Table.find?_mem found) passes
  have selected : nextCandidates now locked db = [first] := chosen
  obtain ⟨stored, claimableFirst⟩ :=
    Table.mem_select (show first ∈ db.table.select _ _ 1 from chosen ▸ List.mem_singleton_self _)
  have queued : isQueued first = true := by
    have status := ((claimable_iff _ _).mp (Bool.and_eq_true_iff.mp claimableFirst).1).1
    simp [isQueued, status]
  obtain ⟨answer, db', version, committed, settled⟩ :=
    claimLoop_dequeues selected workerId (maxQuarantined.toNat - 1)
  have rounds : maxQuarantined.toNat - 1 + 1 = maxQuarantined.toNat := by omega
  rw [rounds] at committed
  refine ⟨answer, db', first, version, ?_,
    Table.mem_upTo.mpr ⟨first, Table.find?_of_mem stored, queued, early⟩, settled⟩
  simp only [perform, Operation.transaction, Transaction.execute_map, claim,
    Int.not_lt.mpr positive, ↓reduceIte, committed]
  rfl

end Claiming

/-! ## A recovery takes the first of the stale leases -/

/-- A recovery that does not skip a stale row takes some row at its place or before
it out of its lease. -/
theorem recovery_releases_first {now : Timestamp} {locked : Str → Bool} {db : Database}
    {row : RunRow} {staleSeconds batchSize : Int} (counters : RunningClaimed db)
    (positive : 1 ≤ staleSeconds) (batch : 1 ≤ batchSize) (found : db.run? row.id = some row)
    (stale : isStale now staleSeconds row = true) (free : locked row.id = false) :
    ∃ retried failed, ∃ db' : Database, ∃ first version : RunRow,
      perform now locked (.recoverStale staleSeconds batchSize) db =
        .ok (.recovered retried failed, db') ∧
      first.id ∈ db.table.upTo isRunning staleOrder row ∧
      db'.run? first.id = some version ∧ version.status ≠ .running := by
  let wantedRow (other : RunRow) : Bool := isStale now staleSeconds other && !locked other.id
  have passes : wantedRow row = true := by simp [wantedRow, stale, free]
  obtain ⟨first, chosen, early⟩ := Table.select_one
    staleOrder_ranks.total staleOrder_ranks.trans (Table.find?_mem found) passes
  obtain ⟨distinct, stored⟩ := staleBatch_stored now locked staleSeconds batchSize db
  have member : first ∈ staleBatch now locked staleSeconds batchSize db :=
    Table.select_mono (by omega) (chosen ▸ List.mem_singleton_self first)
  have running : ∀ other ∈ staleBatch now locked staleSeconds batchSize db,
      other ∈ db.table.rows ∧ other.status = .running := by
    intro other selected
    obtain ⟨inTable, fits⟩ := Table.mem_select selected
    exact ⟨inTable, ((isStale_iff _ _ _).mp (Bool.and_eq_true_iff.mp fits).1).1⟩
  have claimed : ∀ other ∈ staleBatch now locked staleSeconds batchSize db, other.Claimed :=
    fun other selected => counters other (running other selected).1 (running other selected).2
  have revised := (revises_recoveries now db distinct).revised _ (List.mem_map_of_mem member)
  rw [recoveryRevision_id] at revised
  have runs : isRunning first = true := by simp [isRunning, (running first member).2]
  obtain ⟨retried, failed, performed⟩ : ∃ retried failed,
      perform now locked (.recoverStale staleSeconds batchSize) db =
        .ok (.recovered retried failed, db.reviseAll
          ((staleBatch now locked staleSeconds batchSize db).map (recoveryRevision now))) := by
    rw [perform_recoverStale positive batch, execute_recoverRows claimed distinct stored]
    exact ⟨_, _, rfl⟩
  exact ⟨retried, failed, _, first, recoveredVersion now first, performed,
    Table.mem_upTo.mpr ⟨first, stored first member, runs, early⟩, revised.1,
    recoveredVersion_status first⟩

namespace QueueState

/-! ## Unending histories -/

/-- The state after a call. A call that raises leaves it as it was. -/
def made (state : QueueState) (call : QueueCall) : QueueState :=
  match perform call.now call.locked call.operation state.db with
  | .ok (answer, db) => state.after call.now call.operation answer db
  | .error _ => state

/-- The states of an unending history of calls. -/
def stateAt (calls : Nat → QueueCall) : Nat → QueueState
  | 0 => initial
  | n + 1 => (stateAt calls n).made (calls n)

/-- A worker polls at this moment, and does not skip the run. -/
def ClaimsPast (id : Str) (call : QueueCall) : Prop :=
  ∃ workerId maxQuarantined, call.operation = .claim workerId maxQuarantined ∧
    1 ≤ maxQuarantined ∧ call.locked id = false

/-- A recovery sweeps at this moment, with at most this patience, and does not skip
the run. -/
def RecoversPast (patience : Int) (id : Str) (call : QueueCall) : Prop :=
  ∃ staleSeconds batchSize, call.operation = .recoverStale staleSeconds batchSize ∧
    1 ≤ staleSeconds ∧ staleSeconds ≤ patience ∧ 1 ≤ batchSize ∧ call.locked id = false

/-- The call is a heartbeat for one lease. -/
def BeatsLease (id : Str) (attempts : Int) (call : QueueCall) : Prop :=
  ∃ run, call.operation = .heartbeat run ∧ run.id = id ∧ run.attempts = attempts

/-- What the environment of the queue owes its runs. -/
structure Fair (patience : Int) (calls : Nat → QueueCall) : Prop where
  clock : ∀ time, ∃ start, ∀ n ≥ start, time < (calls n).now
  claims : ∀ id, Recurs (fun n => ClaimsPast id (calls n))
  recoveries : ∀ id, Recurs (fun n => RecoversPast patience id (calls n))
  heartbeats : ∀ id attempts, ∃ start, ∀ n ≥ start, ¬ BeatsLease id attempts (calls n)

/-- Every call of the history keeps the workers' discipline. -/
def DisciplinedCalls (calls : Nat → QueueCall) : Prop :=
  ∀ n, Disciplined (stateAt calls n) (calls n).operation

/-- A call that commits is a step, and one that raises is none. -/
theorem made_cases (state : QueueState) (call : QueueCall) :
    state.made call = state ∨ ∃ answer db,
      perform call.now call.locked call.operation state.db = .ok (answer, db) ∧
      state.made call = state.after call.now call.operation answer db := by
  cases performed : perform call.now call.locked call.operation state.db with
  | error fault => exact Or.inl (by simp [made, performed])
  | ok outcome => exact Or.inr ⟨outcome.1, outcome.2, rfl, by simp [made, performed]⟩

theorem failsLatest_of_disciplined {state : QueueState} {operation : Operation}
    (permitted : Disciplined state operation) : failsLatest state operation := by
  cases operation with
  | fail run arguments => exact permitted
  | enqueue | claim | heartbeat | succeed | recoverStale | report => trivial

section Histories

variable {calls : Nat → QueueCall}

/-- The states of a disciplined history are sound and in shape. -/
theorem sound_stateAt (disciplined : DisciplinedCalls calls) (n : Nat) :
    Sound (stateAt calls n) ∧ Shaped (stateAt calls n) := by
  induction n with
  | zero => exact ⟨sound_initial, fun id row absent => by simp [stateAt, initial] at absent⟩
  | succ n inductionHypothesis =>
    obtain ⟨sound, shaped⟩ := inductionHypothesis
    rw [stateAt]
    rcases made_cases (stateAt calls n) (calls n) with same | ⟨answer, db, performed, after⟩
    · rw [same]
      exact ⟨sound, shaped⟩
    · have step : Step failsLatest (stateAt calls n) _ :=
        .call (failsLatest_of_disciplined (disciplined n)) performed
      rw [after]
      exact ⟨sound_step sound step, shaped_step sound shaped step⟩

/-- Later moments make progress on earlier ones. -/
theorem progressed_stateAt (disciplined : DisciplinedCalls calls) {n later : Nat}
    (after : n ≤ later) : Progressed (stateAt calls n) (stateAt calls later) := by
  induction later, after using Nat.le_induction with
  | base => exact Progressed.refl _
  | succ later _ inductionHypothesis =>
    have sound := (sound_stateAt disciplined later).1
    rcases made_cases (stateAt calls later) (calls later) with same | ⟨answer, db, performed, next⟩
    · rw [stateAt, same]
      exact inductionHypothesis
    · have step : Step anyCall (stateAt calls later) _ := .call trivial performed
      rw [stateAt, next]
      exact inductionHypothesis.trans (progressed_step sound step)

/-- What one moment does to a run. -/
theorem moment (disciplined : DisciplinedCalls calls) {n : Nat} {id : Str} {row : RunRow}
    (found : (stateAt calls n).db.run? id = some row) :
    (stateAt calls (n + 1)).db.run? id = some row ∨
      ∃ answer action before after, (calls n).operation.Acts answer id (some action) ∧
        RunChange (calls n).now action (some before) after ∧ before.row = row ∧
        (stateAt calls (n + 1)).db.run? id = some after.row := by
  have sound := (sound_stateAt disciplined n).1
  rcases made_cases (stateAt calls n) (calls n) with same | ⟨answer, db, performed, next⟩
  · exact Or.inl (by rw [stateAt, same, found])
  · rw [stateAt, next]
    rcases (perform_effect sound.linked performed).kept_or_changed found with
      kept | ⟨action, before, after, acts, change, own, stored⟩
    · exact Or.inl kept
    · exact Or.inr ⟨answer, action, before, after, acts, change, own, stored⟩

/-- No row enters a place in the order that new rows come after. -/
theorem upTo_moment (disciplined : DisciplinedCalls calls) {n : Nat} {row : RunRow}
    {wanted : RunRow → Bool} {order : RunRow → RunRow → Bool}
    (later : ∀ {action before after}, RunChange (calls n).now action before after →
      wanted after.row = true → order after.row row = true →
        ∃ dossier, before = some dossier ∧ after.row = dossier.row) :
    (stateAt calls (n + 1)).db.table.upTo wanted order row ⊆
      (stateAt calls n).db.table.upTo wanted order row := by
  have sound := (sound_stateAt disciplined n).1
  rcases made_cases (stateAt calls n) (calls n) with same | ⟨answer, db, performed, next⟩
  · rw [stateAt, same]
  · rw [stateAt, next]
    exact (perform_effect sound.linked performed).upTo_subset later

/-- A call that takes a row out of its place in the order shortens it. -/
theorem upTo_shrinks {n : Nat} {row first version : RunRow} {wanted : RunRow → Bool}
    {order : RunRow → RunRow → Bool} {answer : Answer} {db : Database}
    (kept : (stateAt calls (n + 1)).db.table.upTo wanted order row ⊆
      (stateAt calls n).db.table.upTo wanted order row)
    (performed : perform (calls n).now (calls n).locked (calls n).operation (stateAt calls n).db =
      .ok (answer, db))
    (member : first.id ∈ (stateAt calls n).db.table.upTo wanted order row)
    (written : db.run? first.id = some version) (gone : wanted version = false) :
    ((stateAt calls (n + 1)).db.table.upTo wanted order row).card <
      ((stateAt calls n).db.table.upTo wanted order row).card := by
  refine Finset.card_lt_card ⟨kept, fun same => ?_⟩
  obtain ⟨other, found, waits, -⟩ := Table.mem_upTo.mp (same member)
  have after : (stateAt calls (n + 1)).db = db := by simp [stateAt, made, performed,
    QueueState.after]
  rw [after] at found
  obtain rfl : other = version := Option.some.inj (found.symm.trans written)
  rw [gone] at waits
  cases waits

/-! ## A queued run is started or refused -/

/-- A run was started from a row, or refused. -/
def LeftQueue (calls : Nat → QueueCall) (row : RunRow) (n : Nat) : Prop :=
  ∃ version, (stateAt calls n).db.run? row.id = some version ∧
    version.maxAttempts = row.maxAttempts ∧
    (version.status = .failed ∨
      version.status = .running ∧ version.attempts = row.attempts + 1)

/-- A queued run keeps its row until it is started or refused. -/
theorem queued_moment (disciplined : DisciplinedCalls calls) {row : RunRow}
    (queued : row.status = .queued) {n : Nat}
    (found : (stateAt calls n).db.run? row.id = some row) :
    LeftQueue calls row (n + 1) ∨ (stateAt calls (n + 1)).db.run? row.id = some row := by
  rcases moment disciplined found with kept | ⟨_, _, before, after, -, change, rfl, stored⟩
  · exact Or.inr kept
  · rcases change.dequeued queued with same | left
    · exact Or.inr (same ▸ stored)
    · exact Or.inl ⟨after.row, stored, change.sameRequest.maxAttempts, left⟩

/-- No run starves: a queued run is started or refused. -/
theorem queued_leadsTo {patience : Int} (disciplined : DisciplinedCalls calls)
    (fair : Fair patience calls) {row : RunRow} (queued : row.status = .queued) :
    LeadsTo (fun n => (stateAt calls n).db.run? row.id = some row) (LeftQueue calls row) := by
  obtain ⟨start, passed⟩ := fair.clock row.availableAt
  refine LeadsTo.of_settled start (fun n found => queued_moment disciplined queued found) ?_
  -- From here on every new row comes after this one.
  have subset : ∀ n ≥ start, (stateAt calls (n + 1)).db.table.upTo isQueued claimOrder row ⊆
      (stateAt calls n).db.table.upTo isQueued claimOrder row := by
    intro n from_
    refine upTo_moment disciplined (fun change waits early => ?_)
    rcases change.queuedLater (of_decide_eq_true waits) with same | late
    · exact same
    · have reached := lt_of_lt_of_le (passed n from_) late
      rcases (claimOrder_iff _ _).mp early with before | ⟨tied, -⟩
      · exact absurd reached (lt_asymm before)
      · exact absurd tied (ne_of_gt reached)
  refine LeadsTo.of_rank
    (fun n => ((stateAt calls n).db.table.upTo isQueued claimOrder row).card)
    (fair.claims row.id) (fun n holds => ?_) (fun n holds happens => ?_)
  · obtain ⟨from_, found⟩ := holds
    exact (queued_moment disciplined queued found).imp_right (fun next =>
      ⟨⟨Nat.le_succ_of_le from_, next⟩, Finset.card_le_card (subset n from_)⟩)
  · obtain ⟨from_, found⟩ := holds
    obtain ⟨workerId, maxQuarantined, called, positive, free⟩ := happens
    have shape := (sound_stateAt disciplined n).2 row.id row found
    rw [queued] at shape
    have due : claimable (calls n).now row = true :=
      shape.claimable _ (le_of_lt (passed n from_))
    obtain ⟨answer, db', first, version, performed, member, written, gone⟩ :=
      claim_dequeues_first positive found due free workerId
    rw [← called] at performed
    have shrinks := upTo_shrinks (subset n from_) performed member written
      (by simp [isQueued, gone])
    exact (queued_moment disciplined queued found).imp_right (fun next =>
      ⟨⟨Nat.le_succ_of_le from_, next⟩, shrinks⟩)

/-! ## A running run leaves its lease -/

/-- A run is in the lease of this attempt. -/
def Leased (calls : Nat → QueueCall) (id : Str) (attempts maxAttempts : Int) (n : Nat) : Prop :=
  ∃ row, (stateAt calls n).db.run? id = some row ∧ row.status = .running ∧
    row.attempts = attempts ∧ row.maxAttempts = maxAttempts

/-- A run has left the lease of this attempt. -/
def Released (calls : Nat → QueueCall) (id : Str) (attempts maxAttempts : Int) (n : Nat) : Prop :=
  ∃ row, (stateAt calls n).db.run? id = some row ∧ row.status ≠ .running ∧
    row.attempts = attempts ∧ row.maxAttempts = maxAttempts

/-- A heartbeat that has an effect is for the lease the row is in. -/
theorem beatsLease (disciplined : DisciplinedCalls calls) {n : Nat} {id : Str} {row : RunRow}
    {answer : Answer} {run : ClaimedRun} (found : (stateAt calls n).db.run? id = some row)
    (acts : (calls n).operation.Acts answer id (some (.beat run)))
    (leased : leasedBy run.workerId row = true) : BeatsLease id row.attempts (calls n) := by
  have called : (calls n).operation = .heartbeat run := Operation.calledBy_of_acts acts
  rw [called] at acts
  obtain rfl : id = run.id := by
    cases answer <;> simp only [Operation.Acts, Option.some_eq_ite_none_right] at acts
    exact acts.1.2
  have sound := (sound_stateAt disciplined n).1
  have latest := disciplined n
  rw [called] at latest
  obtain ⟨handed, current⟩ := sound.latest_current latest
  obtain ⟨stored, found', -, -, attempts, -⟩ :=
    sound.inLease_of_leased handed current found leased
  obtain rfl : row = stored := Option.some.inj (found.symm.trans found')
  exact ⟨run, called, rfl, attempts.symm⟩

/-- A running run stays in its lease or leaves it, and without a heartbeat it keeps
its row meanwhile. -/
theorem running_moment (disciplined : DisciplinedCalls calls) {n : Nat} {id : Str} {row : RunRow}
    (found : (stateAt calls n).db.run? id = some row) (running : row.status = .running) :
    Released calls id row.attempts row.maxAttempts (n + 1) ∨
      Leased calls id row.attempts row.maxAttempts (n + 1) ∧
        (¬ BeatsLease id row.attempts (calls n) →
          (stateAt calls (n + 1)).db.run? id = some row) := by
  rcases moment disciplined found with kept | ⟨_, _, before, after, acts, change, rfl, stored⟩
  · exact Or.inr ⟨⟨row, kept, running, rfl, rfl⟩, fun _ => kept⟩
  · have limit := change.sameRequest.maxAttempts
    rcases change.released running with
      same | ⟨stopped, counted⟩ | ⟨run, rfl, leased, runs, counted⟩
    · rw [same] at stored
      exact Or.inr ⟨⟨before.row, stored, running, rfl, rfl⟩, fun _ => stored⟩
    · exact Or.inl ⟨after.row, stored, stopped, counted, limit⟩
    · exact Or.inr ⟨⟨after.row, stored, runs, counted, limit⟩,
        fun silent => absurd (beatsLease disciplined found acts leased) silent⟩

/-- A run whose lease nobody keeps alive leaves it. -/
theorem silent_leadsTo {patience : Int} (disciplined : DisciplinedCalls calls)
    (fair : Fair patience calls) {row : RunRow} (running : row.status = .running) {quiet : Nat}
    (silent : ∀ n ≥ quiet, ¬ BeatsLease row.id row.attempts (calls n)) :
    LeadsTo (fun n => quiet ≤ n ∧ (stateAt calls n).db.run? row.id = some row)
      (Released calls row.id row.attempts row.maxAttempts) := by
  have kept : ∀ n, quiet ≤ n ∧ (stateAt calls n).db.run? row.id = some row →
      Released calls row.id row.attempts row.maxAttempts (n + 1) ∨
        quiet ≤ n + 1 ∧ (stateAt calls (n + 1)).db.run? row.id = some row := by
    rintro n ⟨after, found⟩
    exact (running_moment disciplined found running).imp_right (fun next =>
      ⟨Nat.le_succ_of_le after, next.2 (silent n after)⟩)
  obtain ⟨start, passed⟩ := fair.clock (staleAt row + seconds patience)
  refine LeadsTo.of_settled start kept ?_
  -- From here on every sign of life comes after this row's last one.
  have aged : ∀ n ≥ start, ∀ staleSeconds ≤ patience,
      staleAt row < (calls n).now - seconds staleSeconds := fun n from_ staleSeconds bounded =>
    Int.lt_sub_right_of_add_lt (lt_of_le_of_lt (Int.add_le_add_left (seconds_le bounded) _)
      (passed n from_))
  have latest : ∀ n ≥ start, staleAt row < (calls n).now := by
    obtain ⟨_, -, _, _, -, positive, bounded, -⟩ := fair.recoveries row.id 0
    intro n from_
    have lapsed := aged n from_ 0 (by omega)
    simpa only [seconds, Int.zero_mul, Int.sub_zero] using lapsed
  have subset : ∀ n ≥ start, (stateAt calls (n + 1)).db.table.upTo isRunning staleOrder row ⊆
      (stateAt calls n).db.table.upTo isRunning staleOrder row := by
    intro n from_
    refine upTo_moment disciplined (fun change runs early => ?_)
    rcases change.runningLater (of_decide_eq_true runs) with same | lively
    · exact same
    · have beyond := latest n from_
      rw [← lively] at beyond
      rcases (staleOrder_iff _ _).mp early with before | ⟨tied, -⟩
      · exact absurd beyond (lt_asymm before)
      · exact absurd tied (ne_of_gt beyond)
  refine LeadsTo.of_rank
    (fun n => ((stateAt calls n).db.table.upTo isRunning staleOrder row).card)
    (fair.recoveries row.id) (fun n holds => ?_) (fun n holds happens => ?_)
  · obtain ⟨from_, found⟩ := holds
    exact (kept n found).imp_right (fun next =>
      ⟨⟨Nat.le_succ_of_le from_, next⟩, Finset.card_le_card (subset n from_)⟩)
  · obtain ⟨from_, found⟩ := holds
    obtain ⟨staleSeconds, batchSize, called, positive, bounded, batch, free⟩ := happens
    have stale : isStale (calls n).now staleSeconds row = true :=
      (isStale_iff _ _ _).mpr ⟨running, aged n from_ staleSeconds bounded⟩
    have counters : RunningClaimed (stateAt calls n).db := by
      intro other member runs
      have shape := (sound_stateAt disciplined n).2 other.id other (Table.find?_of_mem member)
      rw [runs] at shape
      exact shape.counters
    obtain ⟨retried, failed, db', first, version, performed, member, written, gone⟩ :=
      recovery_releases_first counters positive batch found.2 stale free
    rw [← called] at performed
    have shrinks := upTo_shrinks (subset n from_) performed member written
      (by simp [isRunning, gone])
    exact (kept n found).imp_right (fun next => ⟨⟨Nat.le_succ_of_le from_, next⟩, shrinks⟩)

/-- A run in a lease leaves it: the owner settles the run, or recovery ends the lease
after the heartbeats have. -/
theorem running_leadsTo {patience : Int} (disciplined : DisciplinedCalls calls)
    (fair : Fair patience calls) (id : Str) (attempts maxAttempts : Int) :
    LeadsTo (Leased calls id attempts maxAttempts) (Released calls id attempts maxAttempts) := by
  obtain ⟨quiet, silent⟩ := fair.heartbeats id attempts
  refine LeadsTo.of_settled quiet ?_ ?_
  · rintro n ⟨row, found, running, rfl, rfl⟩
    exact (running_moment disciplined found running).imp_right And.left
  · rintro n ⟨after, row, found, running, rfl, rfl⟩
    obtain rfl : row.id = id := Table.find?_key found
    exact silent_leadsTo disciplined fair running silent n ⟨after, found⟩

/-! ## Rounds of queueing and running come to an end -/

/-- The run has ended, with a result or an error. -/
def Ended (calls : Nat → QueueCall) (id : Str) (n : Nat) : Prop :=
  ∃ row, (stateAt calls n).db.run? id = some row ∧
    (row.status = .succeeded ∨ row.status = .failed)

/-- What is left of a run's attempts: queueing and running alternate, and every
claim uses an attempt up. -/
def remainingRounds (row : RunRow) : Nat :=
  2 * (row.maxAttempts - row.attempts).toNat + if row.status = .running then 1 else 0

/-- A run that has not ended ends, or has fewer rounds left at some later moment. -/
theorem round_leadsTo {patience : Int} (disciplined : DisciplinedCalls calls)
    (fair : Fair patience calls) {n : Nat} {id : Str} {row : RunRow}
    (found : (stateAt calls n).db.run? id = some row) :
    ∃ later ≥ n, Ended calls id later ∨ ∃ version,
      (stateAt calls later).db.run? id = some version ∧
        remainingRounds version < remainingRounds row := by
  obtain rfl : row.id = id := Table.find?_key found
  have shape := (sound_stateAt disciplined n).2 row.id row found
  cases status : row.status with
  | queued =>
    rw [status] at shape
    have left := shape.attempts
    obtain ⟨later, after, version, stored, limit, failed | ⟨running, counted⟩⟩ :=
      queued_leadsTo disciplined fair status n found
    · exact ⟨later, after, Or.inl ⟨version, stored, Or.inr failed⟩⟩
    · refine ⟨later, after, Or.inr ⟨version, stored, ?_⟩⟩
      simp only [remainingRounds, running, status, ↓reduceIte, limit, counted, reduceCtorEq]
      omega
  | running =>
    rw [status] at shape
    have counters := shape.counters
    obtain ⟨later, after, version, stored, stopped, counted, limit⟩ :=
      running_leadsTo disciplined fair row.id _ _ n ⟨row, found, status, rfl, rfl⟩
    refine ⟨later, after, ?_⟩
    cases ended : version.status with
    | queued =>
      refine Or.inr ⟨version, stored, ?_⟩
      simp only [remainingRounds, ended, status, ↓reduceIte, limit, counted, reduceCtorEq]
      omega
    | running => exact absurd ended stopped
    | succeeded => exact Or.inl ⟨version, stored, Or.inl ended⟩
    | failed => exact Or.inl ⟨version, stored, Or.inr ended⟩
  | succeeded => exact ⟨n, le_refl n, Or.inl ⟨row, found, Or.inl status⟩⟩
  | failed => exact ⟨n, le_refl n, Or.inl ⟨row, found, Or.inr status⟩⟩

/-- In every unending history of disciplined workers in a fair environment every
stored run ends, with a result or an error, and keeps what it ended with. -/
theorem every_run_ends {patience : Int} (disciplined : DisciplinedCalls calls)
    (fair : Fair patience calls) {n : Nat} {id : Str} {row : RunRow}
    (found : (stateAt calls n).db.run? id = some row) :
    ∃ last start, n ≤ start ∧ (last.status = .succeeded ∨ last.status = .failed) ∧
      ∀ later ≥ start, (stateAt calls later).db.run? id = some last := by
  have ends : LeadsTo (fun n => ((stateAt calls n).db.run? id).isSome) (Ended calls id) := by
    refine LeadsTo.of_measure
      (fun n => ((stateAt calls n).db.run? id).elim 0 remainingRounds) (fun n stored => ?_)
    obtain ⟨row, found⟩ := Option.isSome_iff_exists.mp stored
    obtain ⟨later, after, ended | ⟨version, stored, fewer⟩⟩ := round_leadsTo disciplined fair found
    · exact ⟨later, after, Or.inl ended⟩
    · exact ⟨later, after, Or.inr ⟨by simp [stored], by simpa [found, stored] using fewer⟩⟩
  obtain ⟨start, after, last, stored, ended⟩ := ends n (by simp [found])
  exact ⟨last, start, after, ended, fun later beyond =>
    ((progressed_stateAt disciplined beyond).final id last stored ended).1⟩

end Histories

/-- One request, and then a claim and a recovery in turns, a second apart. -/
def patientCalls (n : Nat) : QueueCall where
  now := seconds n
  locked := fun _ => false
  operation :=
    if n = 0 then .enqueue smallId (smallRequest 2)
    else if n % 2 = 0 then .recoverStale 30 100
    else .claim (lit "w") 10

/-- The history is fair: no worker ever sends a heartbeat. -/
theorem fair_patientCalls : Fair 30 patientCalls where
  clock := by
    intro (time : Int)
    refine ⟨time.toNat + 1, fun n after => ?_⟩
    have passed : time < (n : Int) * 1000000 := by omega
    exact passed
  claims := by
    intro id n
    refine ⟨2 * n + 1, by omega, lit "w", 10, ?_, by decide, rfl⟩
    have first : ¬ 2 * n + 1 = 0 := by omega
    have odd : ¬ (2 * n + 1) % 2 = 0 := by omega
    simp only [patientCalls, first, odd, ↓reduceIte]
  recoveries := by
    intro id n
    refine ⟨2 * n + 2, by omega, 30, 100, ?_, by decide, by decide, by decide, rfl⟩
    have first : ¬ 2 * n + 2 = 0 := by omega
    have even : (2 * n + 2) % 2 = 0 := by omega
    simp only [patientCalls, first, even, ↓reduceIte]
  heartbeats := by
    refine fun id attempts => ⟨0, fun n _ beaten => ?_⟩
    obtain ⟨run, called, -⟩ := beaten
    simp only [patientCalls] at called
    split at called
    · cases called
    · split at called <;> cases called

/-- The request of that history ends. -/
theorem every_run_ends_patient : ∃ last start, 1 ≤ start ∧
    (last.status = .succeeded ∨ last.status = .failed) ∧
      ∀ later ≥ start, (stateAt patientCalls later).db.run? smallId.text = some last := by
  have disciplined : DisciplinedCalls patientCalls := by
    intro n
    simp only [patientCalls]
    split
    · trivial
    · split <;> trivial
  have ran : ((stateAt patientCalls 1).db.run? smallId.text).isSome = true := by rfl
  obtain ⟨row, found⟩ := Option.isSome_iff_exists.mp ran
  exact every_run_ends disciplined fair_patientCalls found

end QueueState

end RlmApi
