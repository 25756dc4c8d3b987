import RlmApi.LeaseFencing

/-!
# No run is stuck

Each status has a shape: which of the lease, the timestamps, the result and the
error a row of that status carries, and why somebody can still act on it. A queued
row will be selected by a claim, a running row by recovery, and the other two have
ended. The shapes exclude each other, so a row has exactly one.

The shape of a requeued row rests on its attempt counter being the one the caller
of `fail` was handed; a caller that speaks of an older claim can requeue a row
that has no attempts left.
-/

namespace RlmApi

open RunStore

/-- Selectable by a claim as soon as it is available, which is at most five minutes
after it was queued. -/
structure RunRow.QueuedShape (since : Option Timestamp) (row : RunRow) : Prop where
  status : row.status = .queued
  workerId : row.workerId = none
  workerHeartbeatAt : row.workerHeartbeatAt = none
  completedAt : row.completedAt = none
  result : row.result = none
  attempts : row.attempts < row.maxAttempts
  available : ∃ queued, since = some queued ∧ row.availableAt ≤ queued + seconds 300
  claimable : ∀ now, row.availableAt ≤ now → claimable now row = true

/-- Held by a worker, and recoverable once its heartbeat ages. -/
structure RunRow.RunningShape (row : RunRow) : Prop where
  status : row.status = .running
  workerId : row.workerId.isSome
  workerHeartbeatAt : row.workerHeartbeatAt.isSome
  startedAt : row.startedAt.isSome
  completedAt : row.completedAt = none
  result : row.result = none
  counters : 1 ≤ row.attempts ∧ row.attempts ≤ row.maxAttempts
  recoverable : ∀ now staleSeconds, staleAt row < now - seconds staleSeconds →
    isStale now staleSeconds row = true
  next : ∃ next delay, failureStatus row.attempts row.maxAttempts true = .ok next ∧
    retryDelaySeconds row.attempts runRetryCapSeconds = .ok delay

/-- Ended with a result. -/
structure RunRow.SucceededShape (row : RunRow) : Prop where
  status : row.status = .succeeded
  result : row.result.isSome
  completedAt : row.completedAt.isSome
  error : row.error = none
  workerId : row.workerId = none
  workerHeartbeatAt : row.workerHeartbeatAt = none

/-- Ended with an error. -/
structure RunRow.FailedShape (row : RunRow) : Prop where
  status : row.status = .failed
  error : row.error.isSome
  completedAt : row.completedAt.isSome
  result : row.result = none
  workerId : row.workerId = none
  workerHeartbeatAt : row.workerHeartbeatAt = none

/-- The shape of one status, for a row last queued at `since`. -/
def RunRow.Shape (since : Option Timestamp) (row : RunRow) : RunStatus → Prop
  | .queued => row.QueuedShape since
  | .running => row.RunningShape
  | .succeeded => row.SucceededShape
  | .failed => row.FailedShape

/-- A row has the shape of its own status and no other. -/
theorem RunRow.Shape.unique {since : Option Timestamp} {row : RunRow}
    (shape : row.Shape since row.status) : ∃! status, row.Shape since status := by
  refine ⟨row.status, shape, fun status other => ?_⟩
  cases status with
  | queued => exact other.status.symm
  | running => exact other.status.symm
  | succeeded => exact other.status.symm
  | failed => exact other.status.symm

theorem runningShape_of {row : RunRow} (status : row.status = .running)
    (workerId : row.workerId.isSome) (workerHeartbeatAt : row.workerHeartbeatAt.isSome)
    (startedAt : row.startedAt.isSome) (completedAt : row.completedAt = none)
    (result : row.result = none) (counters : 1 ≤ row.attempts ∧ row.attempts ≤ row.maxAttempts) :
    row.RunningShape := by
  obtain ⟨next, moved⟩ := (failureStatus_ok_iff _ _ true).mpr counters
  obtain ⟨delay, delayed⟩ := (retryDelaySeconds_ok_iff _ runRetryCapSeconds).mpr counters.1
  exact ⟨status, workerId, workerHeartbeatAt, startedAt, completedAt, result, counters,
    fun now staleSeconds aged => (isStale_iff _ _ _).mpr ⟨status, aged⟩,
    next, delay, moved, delayed⟩

/-- A running row whose attempt failed is requeued with attempts left and a delay
of at most five minutes, or has ended. -/
theorem failedVersion_shape {now : Timestamp} {row : RunRow} {next : RunStatus} {error : Str}
    {delay : Int} (unanswered : row.result = none) (next_cases : next = .queued ∨ next = .failed)
    (left : next = .queued → row.attempts < row.maxAttempts) (short : delay ≤ 300)
    {since : Option Timestamp} (queued : next = .queued → since = some now) :
    (failedVersion now next error delay row).Shape since next := by
  rcases next_cases with rfl | rfl
  · have available : now + seconds delay ≤ now + seconds 300 :=
      Int.add_le_add_left (seconds_le short) now
    exact ⟨rfl, rfl, rfl, rfl, unanswered, left rfl, ⟨now, queued rfl, available⟩,
      fun later reached => (claimable_iff _ _).mpr ⟨rfl, reached, left rfl⟩⟩
  · exact ⟨rfl, rfl, rfl, unanswered, rfl, rfl⟩

/-- The time a run was last queued, after an action at `now`. -/
def queuedSince (now : Timestamp) (since : Option Timestamp) (before : Option RunStatus)
    (after : RunStatus) : Option Timestamp :=
  if after = .queued ∧ before ≠ some .queued then some now else since

/-- An enqueued run is queued now. -/
theorem shape_of_enqueue {now : Timestamp} {arguments : EnqueueArguments} {after : RunDossier}
    {since : Option Timestamp} (change : RunChange now (.enqueue arguments) none after) :
    after.row.Shape (queuedSince now since none after.row.status) after.row.status := by
  cases change with
  | enqueue storable positive =>
    have available : now ≤ now + seconds 300 :=
      Int.le_add_of_nonneg_right (by decide)
    exact ⟨rfl, rfl, rfl, rfl, rfl, positive, ⟨now, rfl, available⟩,
      fun later reached => (claimable_iff _ _).mpr ⟨rfl, reached, positive⟩⟩

@[simp] theorem queuedSince_same (now : Timestamp) (since : Option Timestamp)
    (status : RunStatus) : queuedSince now since (some status) status = since := by
  simp [queuedSince]

/-- A running row that is requeued now was last queued now. -/
theorem queuedSince_requeued (now : Timestamp) (since : Option Timestamp) {next : RunStatus}
    (queued : next = .queued) : queuedSince now since (some .running) next = some now := by
  simp [queuedSince, queued]

/-- Every action keeps the shape of a row, provided that a retry leaves attempts
over: the delay of `fail` is bounded whatever claim it speaks of, the attempts left
are not. -/
theorem shape_of_change {now : Timestamp} {action : RunAction} {before after : RunDossier}
    {since : Option Timestamp} (shape : before.row.Shape since before.row.status)
    (change : RunChange now action (some before) after)
    (left : ∀ run arguments, action = .fail run arguments .queued →
      before.row.attempts < before.row.maxAttempts) :
    after.row.Shape (queuedSince now since (some before.row.status) after.row.status)
      after.row.status := by
  cases change with
  | quarantine wanted undecodable =>
    rw [((claimable_iff _ _).mp wanted).1] at shape
    exact ⟨rfl, rfl, rfl, shape.result, rfl, rfl⟩
  | start wanted decoded =>
    rw [((claimable_iff _ _).mp wanted).1] at shape
    have claimed := claimedFrom_of_decoded decoded
    have counters := claimed.counters
    rw [claimed.attempts, claimed.maxAttempts] at counters
    exact runningShape_of rfl rfl rfl rfl shape.completedAt shape.result counters
  | beat leased =>
    have running := ((leasedBy_iff _ _).mp leased).1
    rw [running] at shape
    have kept : RunRow.RunningShape (beatVersion now before.row) :=
      runningShape_of running shape.workerId rfl shape.startedAt shape.completedAt shape.result
        shape.counters
    have runs : (before.rewrite (beatVersion now before.row)).row.status = .running := running
    rw [runs]
    exact kept
  | succeed leased embedded =>
    exact ⟨rfl, rfl, rfl, rfl, rfl, rfl⟩
  | @fail _ run arguments next delay status delayed leased =>
    rw [((leasedBy_iff _ _).mp leased).1] at shape ⊢
    exact failedVersion_shape shape.result ((failureStatus_cases status).imp_left And.left)
      (fun queued => left run arguments (queued ▸ rfl))
      (retryDelaySeconds_bounds (by decide) delayed).2 (queuedSince_requeued now since)
  | @recover _ staleSeconds next delay stale status delayed =>
    rw [((isStale_iff _ _ _).mp stale).1] at shape ⊢
    have cases_ := failureStatus_cases status
    refine failedVersion_shape shape.result (cases_.imp_left And.left) (fun queued => ?_)
      (retryDelaySeconds_bounds (by decide) delayed).2 (queuedSince_requeued now since)
    rcases cases_ with ⟨-, below⟩ | ended
    · exact below
    · exact absurd (queued.symm.trans ended) RunStatus.noConfusion
  | report => simpa only [Dossier.record_row, queuedSince_same] using shape

namespace QueueState

/-- A caller of `fail` speaks of the claim its worker received last. -/
def failsLatest (state : QueueState) : Operation → Prop
  | .fail run _ => state.latest run.workerId = some run
  | .enqueue _ _ | .claim _ _ | .heartbeat _ | .succeed _ _ | .recoverStale _ _ | .report _ _ =>
      True

instance (state : QueueState) (operation : Operation) :
    Decidable (failsLatest state operation) :=
  match operation with
  | .fail run _ => decEq (state.latest run.workerId) (some run)
  | .enqueue _ _ | .claim _ _ | .heartbeat _ | .succeed _ _ | .recoverStale _ _ | .report _ _ =>
      .isTrue trivial

/-- Every row has the shape of its status. -/
def Shaped (state : QueueState) : Prop :=
  ∀ id row, state.db.run? id = some row → row.Shape (state.queuedAt id) row.status

/-- The record of when a run was queued follows the status of its row. -/
theorem queuedAt_after {state : QueueState} {now : Timestamp} {operation : Operation}
    {answer : Answer} {db : Database} {id : Str} {row : RunRow} (found : db.run? id = some row) :
    (state.after now operation answer db).queuedAt id =
      queuedSince now (state.queuedAt id) ((state.db.run? id).map RunRow.status) row.status := by
  cases before : state.db.run? id with
  | none => simp [QueueState.after, Database.hasStatus, queuedSince, found, before]
  | some earlier => simp [QueueState.after, Database.hasStatus, queuedSince, found, before]

/-- Only a call of `fail` fails a run, and it fails the run of its own claim. -/
theorem of_acts_fail {operation : Operation} {answer : Answer} {id : Str} {run : ClaimedRun}
    {arguments : FailArguments} {next : RunStatus}
    (acts : operation.Acts answer id (some (.fail run arguments next))) :
    operation = .fail run arguments ∧ id = run.id := by
  cases operation with
  | fail other given =>
    cases answer with
    | failed answered =>
      cases answered with
      | none => cases acts
      | some answered =>
        simp only [Operation.Acts] at acts
        split at acts
        · next same =>
          cases acts
          exact ⟨rfl, same⟩
        · cases acts
    | enqueued | claimed | beaten | succeeded | recovered | reported => exact False.elim acts
  | claim workerId maxQuarantined =>
    cases answer with
    | claimed claim =>
      cases claim with
      | none => rcases acts with impossible | impossible <;> cases impossible
      | some started =>
        obtain ⟨-, acts⟩ := acts
        split at acts
        · cases acts
        · rcases acts with impossible | impossible <;> cases impossible
    | enqueued | beaten | succeeded | failed | recovered | reported => exact False.elim acts
  | recoverStale staleSeconds batchSize =>
    cases answer with
    | recovered retried failed => rcases acts with impossible | ⟨_, impossible⟩ <;> cases impossible
    | enqueued | claimed | beaten | succeeded | failed | reported => exact False.elim acts
  | enqueue | heartbeat | succeed | report =>
    cases answer <;> simp only [Operation.Acts] at acts
    split at acts <;> cases acts

/-- A failing call that requeues leaves attempts over, because its claim's counters
are the row's. -/
theorem attempts_left {state : QueueState} {now : Timestamp} {operation : Operation}
    {answer : Answer} {id : Str} {before after : RunDossier} {run : ClaimedRun}
    {arguments : FailArguments} (sound : Sound state) (permitted : failsLatest state operation)
    (kept : state.db.dossier? id = some before)
    (acts : operation.Acts answer id (some (.fail run arguments .queued)))
    (change : RunChange now (.fail run arguments .queued) (some before) after) :
    before.row.attempts < before.row.maxAttempts := by
  obtain ⟨rfl, rfl⟩ := of_acts_fail acts
  obtain ⟨handed, current⟩ := sound.latest_current permitted
  have found := run?_eq_some_iff.mpr ⟨before, kept, rfl⟩
  cases change with
  | fail status delayed leased =>
    obtain ⟨row, stored, -, -, attempts, -⟩ := sound.inLease_of_leased handed current found leased
    obtain ⟨row', stored', limit, -⟩ := sound.claimed_counters handed
    obtain rfl : before.row = row := Option.some.inj (found.symm.trans stored)
    obtain rfl : before.row = row' := Option.some.inj (found.symm.trans stored')
    rcases failureStatus_cases status with ⟨-, below⟩ | ended
    · rw [attempts, ← limit]
      exact below
    · cases ended

/-- One permitted call keeps every row in shape. -/
theorem shaped_step {state state' : QueueState} (sound : Sound state) (shaped : Shaped state)
    (step : Step failsLatest state state') : Shaped state' := by
  cases step with
  | @call now locked operation answer db permitted performed =>
    intro id row found
    change db.run? id = some row at found
    have effect := perform_effect sound.linked performed
    obtain ⟨dossier, kept, rfl⟩ := run?_eq_some_iff.mp found
    obtain ⟨action, acts, acted⟩ := effect.acted id
    rw [queuedAt_after found]
    cases action with
    | none =>
      have same := run?_eq_some_iff.mpr ⟨dossier, acted.symm.trans kept, rfl⟩
      rw [same, Option.map_some, queuedSince_same]
      exact shaped id _ same
    | some action =>
      obtain ⟨written, after, change⟩ := acted
      obtain rfl : dossier = written := Option.some.inj (kept.symm.trans after)
      cases earlier : state.db.dossier? id with
      | none =>
        rw [earlier] at change
        have absent : state.db.run? id = none := Store.dossier?_eq_none.mp earlier
        rw [absent]
        cases change with
        | enqueue storable positive => exact shape_of_enqueue (.enqueue storable positive)
      | some before =>
        rw [earlier] at change
        have stored := run?_eq_some_iff.mpr ⟨before, earlier, rfl⟩
        rw [stored]
        refine shape_of_change (shaped id _ stored) change ?_
        rintro run arguments rfl
        exact attempts_left sound permitted earlier acts change

/-- No run is ever stuck or half-transitioned, as long as `fail` is called for the
claim its worker received last: every row has exactly one of the four shapes. -/
theorem no_run_stuck {state : QueueState} {id : Str} {row : RunRow}
    (reached : Reachable failsLatest state) (found : state.db.run? id = some row) :
    ∃! status, row.Shape (state.queuedAt id) status := by
  have kept : ∀ before after, Sound before ∧ Shaped before → Step failsLatest before after →
      Sound after ∧ Shaped after := fun before after both step =>
    ⟨sound_step both.1 step, shaped_step both.1 both.2 step⟩
  have initially : Sound initial ∧ Shaped initial :=
    ⟨sound_initial, fun id row absent => by simp [initial] at absent⟩
  exact ((Runs.keeps reached kept initially).2 id row found).unique

/-- The request queued and claimed once more has exactly one shape. -/
theorem no_run_stuck_reclaimed : ∃ state row,
    replay (next failsLatest) reclaimed initial = some state ∧
    state.db.run? smallId.text = some row ∧ row.status = .running ∧
    ∃! status, row.Shape (state.queuedAt smallId.text) status := by
  have ran : (replay (next failsLatest) reclaimed initial).map
      (fun state => (state.db.run? smallId.text).map RunRow.status) = some (some .running) := by rfl
  obtain ⟨state, replayed, observed⟩ := Option.map_eq_some_iff.mp ran
  obtain ⟨row, found, running⟩ := Option.map_eq_some_iff.mp observed
  exact ⟨state, row, replayed, found, running, no_run_stuck (reachable_of_replay replayed) found⟩

/-- A caller of the owner's methods speaks of a claim its worker received, at any
earlier time. -/
def receivedOnly (state : QueueState) : Operation → Prop
  | .heartbeat run | .succeed run _ | .fail run _ => run ∈ state.handed
  | .enqueue _ _ | .claim _ _ | .recoverStale _ _ | .report _ _ => True

instance (state : QueueState) (operation : Operation) :
    Decidable (receivedOnly state operation) :=
  match operation with
  | .heartbeat run => inferInstanceAs (Decidable (run ∈ state.handed))
  | .succeed run _ => inferInstanceAs (Decidable (run ∈ state.handed))
  | .fail run _ => inferInstanceAs (Decidable (run ∈ state.handed))
  | .enqueue _ _ | .claim _ _ | .recoverStale _ _ | .report _ _ => .isTrue trivial

/-- A retryable failure. -/
def smallFailure : FailArguments where
  publicError := lit "model_error"
  eventMetadata := []
  retryable := true
  storable := by decide

/-- The first claim fails after the same worker has claimed the last attempt. -/
def failedTooLate : List (Timestamp × Operation) :=
  reclaimed ++ [(seconds 130, .fail (smallClaim (lit "w") 1 2) smallFailure)]

/-- Without that discipline a run can be queued with no attempts left, and then no
claim ever selects it. -/
theorem stuck_when_failed_too_late :
    ¬ ∀ (state : QueueState) (id : Str) (row : RunRow), Reachable receivedOnly state →
      state.db.run? id = some row → ∃! status, row.Shape (state.queuedAt id) status := by
  intro never
  have ran : (replay (next receivedOnly) failedTooLate initial).map
      (fun state => (state.db.run? smallId.text).map
        (fun row => (row.status, row.attempts, row.maxAttempts))) =
      some (some (.queued, 2, 2)) := by rfl
  obtain ⟨state, replayed, observed⟩ := Option.map_eq_some_iff.mp ran
  obtain ⟨row, found, columns⟩ := Option.map_eq_some_iff.mp observed
  obtain ⟨queued, attempts, limit⟩ :
      row.status = .queued ∧ row.attempts = 2 ∧ row.maxAttempts = 2 := by
    simpa using columns
  obtain ⟨status, shape, -⟩ := never state smallId.text row (reachable_of_replay replayed) found
  cases status with
  | queued =>
    have left := shape.attempts
    omega
  | running => exact RunStatus.noConfusion (queued.symm.trans shape.status)
  | succeeded => exact RunStatus.noConfusion (queued.symm.trans shape.status)
  | failed => exact RunStatus.noConfusion (queued.symm.trans shape.status)

end QueueState

end RlmApi
