import RlmApi.ClaimSettlement
import RlmApi.SummaryDelivery

/-!
# The fleet of workers

Any number of worker processes over one database, each in its own poll cycle, with the
tasks of the claim it processes and one call of a store under way at most. The database
executes the statements of these calls one at a time and in any order, `claim_summary`
in several steps. A call returns what the database answered, or raises, whether or not
it was executed; a process may be cancelled wherever it is suspended, and one that
crashes takes no more steps.

Nothing is executed for a call that is over. The calls of the API are `enqueue` and the
writing of memories.
-/

namespace RlmApi

open Coroutine Worker RunStore

/-- What the database answers. -/
inductive StoreReply where
  | queue (answer : Answer)
  | summary (item : Option SummaryOutboxItem)
  | memory (id : Str)
  | owned (owned : Bool)

/-- How far the database has come with the call under way. -/
inductive CallProgress where
  /-- Nothing is executed. `claim_summary` has this many of its rounds left. -/
  | asked (rounds : Nat)
  /-- `claim_summary` has claimed a row that it could not decode. -/
  | poisoned (runId : Str) (rounds : Nat)
  | answered (reply : StoreReply)

namespace CallProgress

/-- `max_quarantined`, as `_poll_cycle` leaves it. -/
def initial : CallProgress := .asked 10

/-- What a call returns, once the database has answered. -/
def reply? : CallProgress → (call : WorkerCall) → Option call.Answer
  | .answered (.queue (.recovered retried failed)), .recoverStale _ _ => some (retried, failed)
  | .answered (.queue (.claimed run)), .claim _ => some run
  | .answered (.queue (.succeeded owned)), .succeed _ _ => some owned
  | .answered (.queue (.failed status)), .fail _ _ _ _ => some status
  | .answered (.summary item), .claimSummary _ _ => some item
  | .answered (.memory id), .writeMemory _ => some id
  | .answered (.owned owned), .completeSummary _ => some owned
  | .answered (.owned owned), .retrySummary _ _ => some owned
  | _, _ => none

/-- How calls end: the clock answers, and a store returns what the database answered
if that arrives, and raises otherwise. -/
def answers (progress : CallProgress) (clock : ℚ) (arrives : Bool) (error : Raised) :
    (call : WorkerCall) → Except Raised call.Answer
  | .monotonic => .ok clock
  | request =>
    match arrives, progress.reply? request with
    | true, some answer => .ok answer
    | _, _ => .error error

end CallProgress

/-- One worker process in its poll cycle. -/
structure WorkerProcess where
  worker : WorkerState (ℚ × Nat)
  progress : CallProgress

/-- The steps of a process that do not involve the database. -/
inductive ProcessAct where
  /-- `run_worker_loop` begins the next cycle. -/
  | begin (lastRecovery : ℚ)
  /-- The cycle is resumed. -/
  | resume (clock : ℚ) (arrives : Bool) (error : Raised)
  /-- The cycle is resumed with what the execution ended with, although it was cancelled
  while it awaited it. -/
  | receive
  | execution (outcome : Except Raised (ExecutedPrediction × List Memory))
  | lateExecution (outcome : Except Raised (ExecutedPrediction × List Memory))
  | heartbeat (beat : Heartbeat) (recent : Bool)
  | cancel

namespace WorkerProcess

/-- A process in the first call of a cycle. -/
def initial (lower : Str → Str) (settings : Settings) (workerId : Str) (lastRecovery : ℚ) :
    WorkerProcess :=
  ⟨.initial (pollCycle lower settings workerId lastRecovery), .initial⟩

/-- The cycle goes on after a call. -/
def proceed (process : WorkerProcess) (program : WorkerCoroutine (ℚ × Nat)) : WorkerProcess :=
  ⟨{ process.worker with cancelling := false }.advanced program, .initial⟩

/-- The tasks of the claim take a step. -/
def move (process : WorkerProcess) (change : ClaimTasks → Option ClaimTasks) :
    Option WorkerProcess :=
  if process.worker.suspended then
    (process.worker.tasks.bind change).map (fun tasks =>
      { process with worker := { process.worker with tasks := some tasks } })
  else none

/-- The step function. -/
def next (lower : Str → Str) (settings : Settings) (workerId : Str) (act : ProcessAct)
    (process : WorkerProcess) : Option WorkerProcess :=
  match act with
  | .begin lastRecovery =>
    match process.worker.program with
    | .done _ => some (initial lower settings workerId lastRecovery)
    | .call _ _ => none
  | .resume clock arrives error =>
    match process.worker.program with
    | .done _ => none
    | .call request rest =>
      if process.worker.cancelling && request.suspends then
        if process.worker.ready request then some (process.proceed (rest (.error .cancelled)))
        else none
      else
        (process.worker.outcome? (process.progress.answers clock arrives error) request).map
          (fun outcome => process.proceed (rest outcome))
  | .receive =>
    match process.worker.program, process.worker.tasks with
    | .call .awaitExecution rest, some ⟨.ended outcome, _, _⟩ =>
      some (process.proceed (rest outcome))
    | _, _ => none
  | .execution outcome => process.move (fun tasks => tasks.endExecution outcome)
  | .lateExecution outcome => process.move (fun tasks => tasks.endLate outcome)
  | .heartbeat beat recent => process.move (fun tasks => tasks.beat beat recent)
  | .cancel =>
    if process.worker.suspended then some { process with worker := process.worker.cancel }
    else none

/-- The claim whose tasks were started last. -/
def started? (process : WorkerProcess) : Option ClaimedRun :=
  process.worker.calls.reverse.findSome? (fun call =>
    match call with
    | .start run _ _ _ => some run
    | _ => none)

/-- The call of the heartbeat loop. -/
def heartbeatCall? (process : WorkerProcess) : Option Operation :=
  match process.worker.tasks, process.started? with
  | some ⟨_, .running .beating _, _⟩, some run => some (.heartbeat run)
  | some ⟨_, .running .reporting _, _⟩, some run =>
    some (.report run (jsonFields [("attempt", .int run.attempts),
      ("worker_id", .str run.workerId)]))
  | _, _ => none

end WorkerProcess

/-- The call of the queue that a worker's call stands for. -/
def WorkerCall.queueCall? : WorkerCall → Option Operation
  | .recoverStale staleSeconds batchSize => some (.recoverStale staleSeconds batchSize)
  | .claim workerId => some (.claim workerId 10)
  | request => request.operation?

/-- The stores, and the processes by their worker ids. -/
structure Fleet where
  queue : QueueState
  memory : MemoryItems
  processes : Str → WorkerProcess

/-- What happens next. -/
inductive FleetAct where
  | process (workerId : Str) (act : ProcessAct)
  /-- The database executes a statement or a transaction of the call under way. A memory
  that is inserted gets the drawn id. -/
  | execute (workerId : Str) (now : Timestamp) (locked : Str → Bool) (backend : MemoryBackend)
      (drawnId : Str)
  /-- The database executes the call of a heartbeat loop. -/
  | beat (workerId : Str) (now : Timestamp) (locked : Str → Bool)
  /-- `enqueue`, by the API. -/
  | enqueue (now : Timestamp) (locked : Str → Bool) (runId : Uuid) (arguments : EnqueueArguments)
  /-- A client of the API writes a memory. -/
  | remember (item : MemoryItem)
  /-- Expired memories are removed. -/
  | expire (now : Timestamp)

namespace Fleet

/-- Empty tables, and every process at the start of its first cycle. -/
def initial (lower : Str → Str) (settings : Str → Settings) : Fleet :=
  ⟨.initial, Table.empty, fun workerId => .initial lower (settings workerId) workerId 0⟩

def outbox (fleet : Fleet) : Outbox := fleet.queue.db.side

def withOutbox (fleet : Fleet) (outbox : Outbox) : Fleet :=
  { fleet with queue := { fleet.queue with db := { fleet.queue.db with side := outbox } } }

def withProcess (fleet : Fleet) (workerId : Str) (process : WorkerProcess) : Fleet :=
  { fleet with processes := Function.update fleet.processes workerId process }

/-- A call of the queue commits. -/
def commit (fleet : Fleet) (now : Timestamp) (locked : Str → Bool) (operation : Operation) :
    Option (Fleet × Answer) :=
  match perform now locked operation fleet.queue.db with
  | .ok (answer, db) => some ({ fleet with queue := fleet.queue.after now operation answer db },
      answer)
  | .error _ => none

/-- The database executes a statement or a transaction of a call that has come so far. -/
def executed (fleet : Fleet) (now : Timestamp) (locked : Str → Bool) (backend : MemoryBackend)
    (embeddingDim : Int) (drawnId : Str) :
    WorkerCall → CallProgress → Option (Fleet × CallProgress)
  | .claimSummary workerId staleSeconds, .asked (rounds + 1) =>
    match claimSummaryRow now locked workerId staleSeconds fleet.outbox with
    | none => some (fleet, .answered (.summary none))
    | some (row, outbox) =>
      match decodeSummary row.returning workerId with
      | .ok item => some (fleet.withOutbox outbox, .answered (.summary (some item)))
      | .error _ => some (fleet.withOutbox outbox, .poisoned row.runId rounds)
  | .claimSummary workerId _, .poisoned runId rounds =>
    some (fleet.withOutbox (quarantineSummaryClaim now runId workerId fleet.outbox),
      if rounds = 0 then .answered (.summary none) else .asked rounds)
  | .writeMemory arguments, .asked _ =>
    match MemoryStore.insertion backend embeddingDim drawnId arguments with
    | .ok row =>
      match writeMemory row.toMemoryItem fleet.memory with
      | .ok memory => some ({ fleet with memory := memory }, .answered (.memory
          (((fleet.memory.find? row.toMemoryItem.slot).map MemoryItem.id).getD drawnId)))
      | .error _ => none
    | .error _ => none
  | .completeSummary item, .asked _ =>
    let answer := completeSummary now item fleet.outbox
    some (fleet.withOutbox answer.2, .answered (.owned answer.1))
  | .retrySummary item publicError, .asked _ =>
    match retrySummary now item publicError fleet.outbox with
    | .ok (owned, outbox) => some (fleet.withOutbox outbox, .answered (.owned owned))
    | .error _ => none
  | request, .asked _ =>
    (request.queueCall?.bind (fun operation => fleet.commit now locked operation)).map
      (fun committed => (committed.1, .answered (.queue committed.2)))
  | _, _ => none

/-- The step function. -/
def next (lower : Str → Str) (settings : Str → Settings) (act : FleetAct) (fleet : Fleet) :
    Option Fleet :=
  match act with
  | .process workerId act =>
    ((fleet.processes workerId).next lower (settings workerId) workerId act).map
      (fleet.withProcess workerId)
  | .execute workerId now locked backend drawnId =>
    match (fleet.processes workerId).worker.program with
    | .done _ => none
    | .call request _ =>
      (fleet.executed now locked backend (settings workerId).embeddingDim drawnId request
        (fleet.processes workerId).progress).map (fun executed =>
          executed.1.withProcess workerId
            { fleet.processes workerId with progress := executed.2 })
  | .beat workerId now locked =>
    ((fleet.processes workerId).heartbeatCall?.bind (fun operation =>
      fleet.commit now locked operation)).map Prod.fst
  | .enqueue now locked runId arguments =>
    (fleet.commit now locked (.enqueue runId arguments)).map Prod.fst
  | .remember item =>
    if item.sourceRunId.isSome then none
    else match writeMemory item fleet.memory with
      | .ok memory => some { fleet with memory := memory }
      | .error _ => none
  | .expire now =>
    some { fleet with
      memory := fleet.memory.filter (fun item => item.expiresAt.all (fun time => now ≤ time)) }

/-- One step, of anybody. -/
def Step (lower : Str → Str) (settings : Str → Settings) (fleet fleet' : Fleet) : Prop :=
  ∃ act, next lower settings act fleet = some fleet'

/-- The states that steps lead to from empty tables. -/
def Reachable (lower : Str → Str) (settings : Str → Settings) (fleet : Fleet) : Prop :=
  Runs (Step lower settings) (initial lower settings) fleet

end Fleet

end RlmApi
