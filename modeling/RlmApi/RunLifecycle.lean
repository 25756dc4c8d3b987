import RlmApi.Footprints
import RlmApi.RunStore

/-!
# The lifecycle of one run

Everything the store can do to one run is one of eight actions, and `RunChange`
says for each of them which dossier of the run, its row and its events, becomes
which. It names the guard the statement applied and the version it wrote, so no
later proof unfolds a transaction.

`Journal` is the invariant of a dossier: the events are numbered `1, …, n`, their
types spell a lifecycle, and the row's status, counters and lease agree with the
word they spell. Every action keeps it, from any dossier and for arguments of any
origin.
-/

namespace RlmApi

open RunStore

abbrev RunDossier := Dossier Str RunRow EventBody

/-- A found row is the row of its dossier. -/
theorem run?_eq_some_iff {db : Database} {id : Str} {row : RunRow} :
    db.run? id = some row ↔ ∃ dossier, db.dossier? id = some dossier ∧ dossier.row = row := by
  cases found : db.run? id with
  | none => simp [Store.dossier?, show db.table.find? id = none from found]
  | some stored => simp [Store.dossier?, show db.table.find? id = some stored from found]

/-- What the store can do to one run. -/
inductive RunAction where
  | enqueue (arguments : EnqueueArguments)
  | quarantine (workerId : Str)
  | start (run : ClaimedRun)
  | beat (run : ClaimedRun)
  | succeed (run : ClaimedRun) (arguments : SucceedArguments)
  | fail (run : ClaimedRun) (arguments : FailArguments) (next : RunStatus)
  | recover (staleSeconds : Int) (next : RunStatus)
  | report (payload : List (Str × Json))

/-- The event `fail` appends. -/
def failedEvent (run : ClaimedRun) (arguments : FailArguments) (next : RunStatus) (delay : Int) :
    EventBody :=
  ⟨if next = .queued then .retryScheduled else .failed,
    .obj (failedPayload run arguments (next = .queued) delay)⟩

/-- The event `recover_stale` appends for one row. -/
def recoveredEvent (attempts : Int) (next : RunStatus) : EventBody :=
  ⟨if next = .queued then .staleRecovered else .failed,
    .obj (recoveredPayload attempts (next = .queued))⟩

/-- One action on one run, at the time `now` of its transaction. -/
inductive RunChange (now : Timestamp) : RunAction → Option RunDossier → RunDossier → Prop
  | enqueue {id : Uuid} {arguments : EnqueueArguments} (storable : arguments.storable = true)
      (positive : 0 < arguments.maxAttempts) :
      RunChange now (.enqueue arguments) none
        (Dossier.record ⟨queuedRow now id.text arguments, []⟩ id.text
          ⟨.queued, .obj queuedPayload⟩)
  | quarantine {dossier : RunDossier} {workerId : Str} {error : PyError}
      (wanted : claimable now dossier.row = true)
      (undecodable :
        decodeClaimedRun (claimedVersion now workerId dossier.row).returning workerId =
          .error error) :
      RunChange now (.quarantine workerId) (some dossier)
        ((dossier.rewrite (quarantinedVersion now (claimedVersion now workerId dossier.row))).record
          dossier.row.id ⟨.failed, .obj quarantinePayload⟩)
  | start {dossier : RunDossier} {workerId : Str} {run : ClaimedRun}
      (wanted : claimable now dossier.row = true)
      (decoded :
        decodeClaimedRun (claimedVersion now workerId dossier.row).returning workerId = .ok run) :
      RunChange now (.start run) (some dossier)
        ((dossier.rewrite (claimedVersion now workerId dossier.row)).record dossier.row.id
          ⟨.started, .obj (startedPayload run.attempts workerId)⟩)
  | beat {dossier : RunDossier} {run : ClaimedRun}
      (leased : leasedBy run.workerId dossier.row = true) :
      RunChange now (.beat run) (some dossier) (dossier.rewrite (beatVersion now dossier.row))
  | succeed {dossier : RunDossier} {run : ClaimedRun} {arguments : SucceedArguments}
      {embedding : Str × Int} (leased : leasedBy run.workerId dossier.row = true)
      (embedded : embeddingParameters run = .ok embedding) :
      RunChange now (.succeed run arguments) (some dossier)
        ((dossier.rewrite (succeededVersion now arguments dossier.row)).record dossier.row.id
          ⟨.succeeded, .obj (succeededPayload run arguments)⟩)
  | fail {dossier : RunDossier} {run : ClaimedRun} {arguments : FailArguments}
      {next : RunStatus} {delay : Int}
      (status : failureStatus run.attempts run.maxAttempts arguments.retryable = .ok next)
      (delayed : retryDelaySeconds run.attempts runRetryCapSeconds = .ok delay)
      (leased : leasedBy run.workerId dossier.row = true) :
      RunChange now (.fail run arguments next) (some dossier)
        ((dossier.rewrite
            (failedVersion now next arguments.publicError delay dossier.row)).record
          dossier.row.id (failedEvent run arguments next delay))
  | recover {dossier : RunDossier} {staleSeconds : Int} {next : RunStatus} {delay : Int}
      (stale : isStale now staleSeconds dossier.row = true)
      (status : failureStatus dossier.row.attempts dossier.row.maxAttempts true = .ok next)
      (delayed : retryDelaySeconds dossier.row.attempts runRetryCapSeconds = .ok delay) :
      RunChange now (.recover staleSeconds next) (some dossier)
        ((dossier.rewrite (failedVersion now next heartbeatExpired delay dossier.row)).record
          dossier.row.id (recoveredEvent dossier.row.attempts next))
  | report {dossier : RunDossier} {payload : List (Str × Json)} :
      RunChange now (.report payload) (some dossier)
        (dossier.record dossier.row.id ⟨.workerLeaseLost, .obj payload⟩)

/-! ## What every action keeps -/

/-- The columns that `enqueue` writes and nothing changes afterwards. -/
structure SameRequest (before after : RunRow) : Prop where
  id : after.id = before.id
  tenantId : after.tenantId = before.tenantId
  subjectId : after.subjectId = before.subjectId
  namespaceName : after.namespaceName = before.namespaceName
  task : after.task = before.task
  context : after.context = before.context
  corpusRef : after.corpusRef = before.corpusRef
  modelConfig : after.modelConfig = before.modelConfig
  limits : after.limits = before.limits
  includeTrajectory : after.includeTrajectory = before.includeTrajectory
  maxAttempts : after.maxAttempts = before.maxAttempts
  createdAt : after.createdAt = before.createdAt

theorem SameRequest.refl (row : RunRow) : SameRequest row row :=
  ⟨rfl, rfl, rfl, rfl, rfl, rfl, rfl, rfl, rfl, rfl, rfl, rfl⟩

theorem SameRequest.trans {first second third : RunRow} (early : SameRequest first second)
    (late : SameRequest second third) : SameRequest first third :=
  ⟨late.id.trans early.id, late.tenantId.trans early.tenantId,
    late.subjectId.trans early.subjectId, late.namespaceName.trans early.namespaceName,
    late.task.trans early.task, late.context.trans early.context,
    late.corpusRef.trans early.corpusRef, late.modelConfig.trans early.modelConfig,
    late.limits.trans early.limits, late.includeTrajectory.trans early.includeTrajectory,
    late.maxAttempts.trans early.maxAttempts, late.createdAt.trans early.createdAt⟩

/-- The guard of the owner's statements, spelled out. -/
theorem leasedBy_iff (workerId : Str) (row : RunRow) :
    leasedBy workerId row = true ↔ row.status = .running ∧ row.workerId = some workerId := by
  simp [leasedBy]

theorem claimable_iff (now : Timestamp) (row : RunRow) :
    claimable now row = true ↔
      row.status = .queued ∧ row.availableAt ≤ now ∧ row.attempts < row.maxAttempts := by
  simp [claimable, and_assoc]

theorem isStale_iff (now : Timestamp) (staleSeconds : Int) (row : RunRow) :
    isStale now staleSeconds row = true ↔
      row.status = .running ∧ staleAt row < now - seconds staleSeconds := by
  simp [isStale]

/-- The claim a decoded row describes, field by field. -/
structure ClaimedFrom (row : RunRow) (workerId : Str) (run : ClaimedRun) : Prop where
  id : run.id = row.id
  attempts : run.attempts = row.attempts
  maxAttempts : run.maxAttempts = row.maxAttempts
  workerId : run.workerId = workerId
  tenantId : run.tenantId = row.tenantId
  subjectId : run.subjectId = row.subjectId
  namespaceName : run.namespaceName = row.namespaceName
  counters : 1 ≤ run.attempts ∧ run.attempts ≤ run.maxAttempts

/-- Decoding a database row copies its identity, scope and counters. -/
theorem claimedFrom_of_decoded {row : RunRow} {workerId : Str} {run : ClaimedRun}
    (decoded : decodeClaimedRun row.returning workerId = .ok run) :
    ClaimedFrom row workerId run := by
  obtain ⟨held, formed⟩ := (decodeClaimedRun_ok_iff _ _ _).mp decoded
  exact ⟨held.id.symm, (Column.int.inj held.attempts).symm, (Column.int.inj held.maxAttempts).symm,
    held.workerId.symm, (Column.text.inj held.tenantId).symm, (Column.text.inj held.subjectId).symm,
    (Column.text.inj held.namespaceName).symm, formed.counters⟩

namespace RunChange

variable {now : Timestamp} {action : RunAction} {before after : RunDossier}

/-- Every action on an existing run keeps the request it was enqueued with. -/
theorem sameRequest (change : RunChange now action (some before) after) :
    SameRequest before.row after.row := by
  cases change <;> exact ⟨rfl, rfl, rfl, rfl, rfl, rfl, rfl, rfl, rfl, rfl, rfl, rfl⟩

/-- No action lowers the attempt counter. -/
theorem attempts_le (change : RunChange now action (some before) after) :
    before.row.attempts ≤ after.row.attempts := by
  cases change with
  | start | quarantine =>
    simp only [Dossier.record_row, Dossier.rewrite_row, quarantinedVersion, claimedVersion]
    omega
  | beat | succeed | fail | recover | report => exact le_refl _

/-- A claim is handed out for the running version of a queued row. -/
theorem started {run : ClaimedRun} (change : RunChange now (.start run) (some before) after) :
    ClaimedFrom (claimedVersion now run.workerId before.row) run.workerId run ∧
      before.row.status = .queued ∧ after.row = claimedVersion now run.workerId before.row := by
  cases change with
  | @start _ workerId run wanted decoded =>
    have claimed := claimedFrom_of_decoded decoded
    rw [claimed.workerId]
    exact ⟨claimed, ((claimable_iff _ _).mp wanted).1, rfl⟩

/-- A claim is what the row it leaves decodes to. -/
theorem decoded {run : ClaimedRun} (change : RunChange now (.start run) (some before) after) :
    decodeClaimedRun after.row.returning run.workerId = .ok run := by
  cases change with
  | start wanted decoded =>
    rw [(claimedFrom_of_decoded decoded).workerId]
    exact decoded

/-- A row that runs after an action ran before it under the same lease, or was
claimed by the action. -/
theorem running (change : RunChange now action (some before) after)
    (runs : after.row.status = .running) :
    (before.row.status = .running ∧ after.row.attempts = before.row.attempts ∧
      after.row.workerId = before.row.workerId) ∨
      before.row.status = .queued ∧ after.row.attempts = before.row.attempts + 1 := by
  cases change with
  | quarantine => exact RunStatus.noConfusion runs
  | start wanted decoded => exact Or.inr ⟨((claimable_iff _ _).mp wanted).1, rfl⟩
  | beat leased => exact Or.inl ⟨((leasedBy_iff _ _).mp leased).1, rfl, rfl⟩
  | succeed => exact RunStatus.noConfusion runs
  | fail status =>
    rcases failureStatus_cases status with ⟨rfl, -⟩ | rfl <;> exact RunStatus.noConfusion runs
  | recover stale status =>
    rcases failureStatus_cases status with ⟨rfl, -⟩ | rfl <;> exact RunStatus.noConfusion runs
  | report => exact Or.inl ⟨runs, rfl, rfl⟩

/-- The only action on a run that has ended is the report of a lost lease, which
changes no column. -/
theorem ended (change : RunChange now action (some before) after)
    (finished : before.row.status = .succeeded ∨ before.row.status = .failed) :
    after.row = before.row ∧ ∃ payload, action = .report payload := by
  have notQueued : before.row.status ≠ .queued := by rcases finished with h | h <;> simp [h]
  have notRunning : before.row.status ≠ .running := by rcases finished with h | h <;> simp [h]
  cases change with
  | quarantine wanted => exact absurd ((claimable_iff _ _).mp wanted).1 notQueued
  | start wanted => exact absurd ((claimable_iff _ _).mp wanted).1 notQueued
  | beat leased => exact absurd ((leasedBy_iff _ _).mp leased).1 notRunning
  | succeed leased => exact absurd ((leasedBy_iff _ _).mp leased).1 notRunning
  | fail status delayed leased => exact absurd ((leasedBy_iff _ _).mp leased).1 notRunning
  | recover stale => exact absurd ((isStale_iff _ _ _).mp stale).1 notRunning
  | report => exact ⟨rfl, _, rfl⟩

/-- A succeeded run had succeeded before, or the action is its success. -/
theorem succeeded {before : Option RunDossier} (change : RunChange now action before after)
    (finished : after.row.status = .succeeded) :
    (∃ dossier, before = some dossier ∧ dossier.row = after.row) ∨
      ∃ run arguments, action = .succeed run arguments := by
  cases change with
  | enqueue | quarantine | start => exact RunStatus.noConfusion finished
  | beat leased =>
    exact RunStatus.noConfusion (((leasedBy_iff _ _).mp leased).1.symm.trans finished)
  | succeed => exact Or.inr ⟨_, _, rfl⟩
  | fail status =>
    rcases failureStatus_cases status with ⟨rfl, -⟩ | rfl <;> exact RunStatus.noConfusion finished
  | recover stale status =>
    rcases failureStatus_cases status with ⟨rfl, -⟩ | rfl <;> exact RunStatus.noConfusion finished
  | report => exact Or.inl ⟨_, rfl, rfl⟩

end RunChange

/-! ## The journal -/

/-- Every event but the report of a lost lease stands for a change of status. -/
def EventType.isLifecycle : EventType → Bool
  | .workerLeaseLost => false
  | .queued | .started | .retryScheduled | .staleRecovered | .succeeded | .failed => true

/-- The event types in order, with the reports of lost leases removed. -/
def lifecycle (events : List EventRow) : List EventType :=
  (events.map (fun event => event.body.eventType)).filter EventType.isLifecycle

/-- The payloads of the started events in order. -/
def startedPayloads (events : List EventRow) : List Json :=
  (events.filter (fun event => event.body.eventType = .started)).map
    (fun event => event.body.payload)

/-- Completed rounds: queued once, then started and requeued so many times. -/
inductive Rounds : Nat → List EventType → Prop
  | queued : Rounds 0 [.queued]
  | retried {n : Nat} {word : List EventType} (earlier : Rounds n word) :
      Rounds (n + 1) (word ++ [.started, .retryScheduled])
  | recovered {n : Nat} {word : List EventType} (earlier : Rounds n word) :
      Rounds (n + 1) (word ++ [.started, .staleRecovered])

/-- The lifecycle of a row with this status, this many started events and this
attempt counter. A quarantine counts an attempt that never started. -/
inductive Lifecycle : RunStatus → Nat → Int → List EventType → Prop
  | waiting {n : Nat} {word : List EventType} (rounds : Rounds n word) :
      Lifecycle .queued n n word
  | executing {n : Nat} {word : List EventType} (rounds : Rounds n word) :
      Lifecycle .running (n + 1) (n + 1) (word ++ [.started])
  | succeeded {n : Nat} {word : List EventType} (rounds : Rounds n word) :
      Lifecycle .succeeded (n + 1) (n + 1) (word ++ [.started, .succeeded])
  | failed {n : Nat} {word : List EventType} (rounds : Rounds n word) :
      Lifecycle .failed (n + 1) (n + 1) (word ++ [.started, .failed])
  | quarantined {n : Nat} {word : List EventType} (rounds : Rounds n word) :
      Lifecycle .failed n (n + 1) (word ++ [.failed])

/-- A run's events and its row agree, given the workers that started it in order. -/
structure Journal (workers : List Str) (dossier : RunDossier) : Prop where
  consecutive : LogEntry.Consecutive dossier.entries
  word : Lifecycle dossier.row.status workers.length dossier.row.attempts
    (lifecycle dossier.entries)
  started : startedPayloads dossier.entries =
    (workers.zipIdx 1).map (fun start => .obj (startedPayload start.2 start.1))
  holder : dossier.row.status = .running → dossier.row.workerId = workers.getLast?
  bounded : dossier.row.attempts ≤ dossier.row.maxAttempts

/-- The claims an action hands out. -/
def RunAction.claims : RunAction → List ClaimedRun
  | .start run => [run]
  | .enqueue _ | .quarantine _ | .beat _ | .succeed _ _ | .fail _ _ _ | .recover _ _
  | .report _ => []

/-- The workers an action adds to those that started the run. -/
def RunAction.startedBy (action : RunAction) : List Str :=
  action.claims.map ClaimedRun.workerId

namespace Lifecycle

variable {n : Nat} {attempts : Int} {word : List EventType}

/-- A queued row has as many attempts as it was started. -/
theorem of_queued (journal : Lifecycle .queued n attempts word) :
    attempts = n ∧ Rounds n word := by
  cases journal with
  | waiting rounds => exact ⟨rfl, rounds⟩

/-- A running row was started once more than it completed rounds. -/
theorem of_running (journal : Lifecycle .running n attempts word) :
    ∃ m earlier, n = m + 1 ∧ attempts = m + 1 ∧ Rounds m earlier ∧
      word = earlier ++ [.started] := by
  cases journal with
  | executing rounds => exact ⟨_, _, rfl, rfl, rounds, rfl⟩

/-- Requeueing a running row completes a round. -/
theorem requeue (journal : Lifecycle .running n attempts word) {event : EventType}
    (closing : event = .retryScheduled ∨ event = .staleRecovered) :
    Lifecycle .queued n attempts (word ++ [event]) := by
  obtain ⟨m, earlier, rfl, rfl, rounds, rfl⟩ := journal.of_running
  have completed : Rounds (m + 1) (earlier ++ [.started] ++ [event]) := by
    rw [List.append_assoc]
    rcases closing with rfl | rfl
    · exact rounds.retried
    · exact rounds.recovered
  exact_mod_cast Lifecycle.waiting completed

/-- Ending a running row ends its last round. -/
theorem finish (journal : Lifecycle .running n attempts word) :
    Lifecycle .succeeded n attempts (word ++ [.succeeded]) ∧
      Lifecycle .failed n attempts (word ++ [.failed]) := by
  obtain ⟨m, earlier, rfl, rfl, rounds, rfl⟩ := journal.of_running
  rw [List.append_assoc, List.append_assoc]
  exact ⟨.succeeded rounds, .failed rounds⟩

/-- Attempts exceed the number of starts by at most one, and only in the end. -/
theorem attempts_bounds {status : RunStatus} (journal : Lifecycle status n attempts word) :
    (n : Int) ≤ attempts ∧ (status ≠ .failed → attempts = n) := by
  cases journal <;> simp

end Lifecycle

/-- The type of a new event, unless it only reports a lost lease. -/
def EventBody.word (event : EventBody) : List EventType :=
  [event.eventType].filter EventType.isLifecycle

/-- The payload of a new event, if it starts the run. -/
def EventBody.startedPayload (event : EventBody) : List Json :=
  if event.eventType = .started then [event.payload] else []

theorem lifecycle_record (dossier : RunDossier) (k : Str) (event : EventBody) :
    lifecycle (dossier.record k event).entries = lifecycle dossier.entries ++ event.word := by
  simp [lifecycle, EventBody.word]

theorem startedPayloads_record (dossier : RunDossier) (k : Str) (event : EventBody) :
    startedPayloads (dossier.record k event).entries =
      startedPayloads dossier.entries ++ event.startedPayload := by
  by_cases starts : event.eventType = .started <;>
    simp [startedPayloads, EventBody.startedPayload, starts]

namespace Journal

variable {workers added : List Str} {now : Timestamp} {action : RunAction}
  {dossier before after : RunDossier} {row : RunRow}

/-- Writing a version together with its event. What remains to be shown is that
the new word, payload and lease fit the new row. -/
theorem extend (journal : Journal workers dossier) (k : Str) (event : EventBody)
    (word : Lifecycle row.status (workers ++ added).length row.attempts
      (lifecycle dossier.entries ++ event.word))
    (started : event.startedPayload = (added.zipIdx (workers.length + 1)).map
      (fun start => .obj (startedPayload start.2 start.1)))
    (holder : row.status = .running → row.workerId = (workers ++ added).getLast?)
    (bounded : row.attempts ≤ row.maxAttempts) :
    Journal (workers ++ added) ((dossier.rewrite row).record k event) where
  consecutive := journal.consecutive.append k event
  word := by
    rw [lifecycle_record]
    exact word
  started := by
    rw [startedPayloads_record, started, List.zipIdx_append, List.map_append, ← journal.started,
      Nat.add_comm]
    rfl
  holder := holder
  bounded := bounded

/-- An enqueued run has the journal of a run that nobody started. -/
theorem of_enqueue {arguments : EnqueueArguments}
    (change : RunChange now (.enqueue arguments) none after) : Journal [] after := by
  cases change with
  | enqueue storable positive =>
    exact ⟨rfl, Lifecycle.waiting .queued, rfl, fun running => RunStatus.noConfusion running,
      Int.le_of_lt positive⟩

/-- Ending or requeueing a running row. -/
theorem close (journal : Journal workers dossier) (k : Str) (event : EventBody)
    (plain : event.startedPayload = [])
    (word : Lifecycle row.status workers.length row.attempts
      (lifecycle dossier.entries ++ event.word))
    (released : row.status ≠ .running)
    (bounded : row.attempts ≤ row.maxAttempts) :
    Journal workers ((dossier.rewrite row).record k event) := by
  have extended : Journal (workers ++ []) ((dossier.rewrite row).record k event) :=
    journal.extend k event (by simpa using word) (by simpa using plain)
      (fun running => absurd running released) bounded
  simpa using extended

/-- A failed attempt of a running row, by its owner or by recovery: the requeueing
event and the requeued status come together. -/
theorem close_failed (journal : Journal workers dossier)
    (running : dossier.row.status = .running) (k : Str) {next : RunStatus}
    (next_cases : next = .queued ∨ next = .failed) (error : Str) (delay : Int)
    {requeueing : EventType} {payload : Json}
    (closing : requeueing = .retryScheduled ∨ requeueing = .staleRecovered) :
    Journal workers ((dossier.rewrite (failedVersion now next error delay dossier.row)).record k
      ⟨if next = .queued then requeueing else .failed, payload⟩) := by
  have word := journal.word
  rw [running] at word
  rcases next_cases with rfl | rfl
  · refine journal.close k _ ?_ ?_ RunStatus.noConfusion journal.bounded
    · rcases closing with rfl | rfl <;> rfl
    · have requeued := word.requeue closing
      rcases closing with rfl | rfl <;> exact requeued
  · exact journal.close k _ rfl word.finish.2 RunStatus.noConfusion journal.bounded

/-- Every action on an existing run keeps its journal. -/
theorem change (journal : Journal workers before)
    (change : RunChange now action (some before) after) :
    Journal (workers ++ action.startedBy) after := by
  have word := journal.word
  cases change with
  | @quarantine _ workerId error wanted undecodable =>
    obtain ⟨queued, -, below⟩ := (claimable_iff _ _).mp wanted
    rw [queued] at word
    obtain ⟨counted, rounds⟩ := word.of_queued
    have refused := Lifecycle.quarantined rounds
    rw [← counted] at refused
    simp only [RunAction.startedBy, RunAction.claims, List.map_nil, List.append_nil]
    exact journal.close _ _ rfl refused RunStatus.noConfusion below
  | @start _ workerId run wanted decoded =>
    obtain ⟨queued, -, below⟩ := (claimable_iff _ _).mp wanted
    have claimed := claimedFrom_of_decoded decoded
    rw [queued] at word
    obtain ⟨counted, rounds⟩ := word.of_queued
    have executing := Lifecycle.executing rounds
    rw [← counted] at executing
    simp only [RunAction.startedBy, RunAction.claims, List.map_cons, List.map_nil, claimed.workerId]
    refine journal.extend _ _ ?_ ?_ ?_ below
    · rw [List.length_append]
      exact executing
    · simp [EventBody.startedPayload, claimed.attempts, claimedVersion, counted]
    · simp [claimedVersion]
  | @beat _ run leased =>
    simp only [RunAction.startedBy, RunAction.claims, List.map_nil, List.append_nil]
    exact ⟨journal.consecutive, journal.word, journal.started, journal.holder, journal.bounded⟩
  | @succeed _ run arguments embedding leased embedded =>
    obtain ⟨running, -⟩ := (leasedBy_iff _ _).mp leased
    rw [running] at word
    simp only [RunAction.startedBy, RunAction.claims, List.map_nil, List.append_nil]
    exact journal.close _ _ rfl word.finish.1 RunStatus.noConfusion journal.bounded
  | @fail _ run arguments next delay status delayed leased =>
    obtain ⟨running, -⟩ := (leasedBy_iff _ _).mp leased
    simp only [RunAction.startedBy, RunAction.claims, List.map_nil, List.append_nil]
    exact journal.close_failed running _ ((failureStatus_cases status).imp_left And.left) _ _
      (Or.inl rfl)
  | @recover _ staleSeconds next delay stale status delayed =>
    obtain ⟨running, -⟩ := (isStale_iff _ _ _).mp stale
    simp only [RunAction.startedBy, RunAction.claims, List.map_nil, List.append_nil]
    exact journal.close_failed running _ ((failureStatus_cases status).imp_left And.left) _ _
      (Or.inr rfl)
  | @report _ payload =>
    have extended : Journal (workers ++ []) ((before.rewrite before.row).record before.row.id
        ⟨.workerLeaseLost, .obj payload⟩) :=
      journal.extend _ _ (by simpa [EventBody.word, EventType.isLifecycle] using word) rfl
        (by simpa using journal.holder) journal.bounded
    exact extended

end Journal

end RlmApi
