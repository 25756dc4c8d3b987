import RlmApi.Configuration
import RlmApi.Coroutines
import RlmApi.FailureClassification
import RlmApi.HeartbeatLoop
import RlmApi.MemorySearch
import RlmApi.RunCompletion
import RlmApi.SummaryDelivery

/-!
# The worker's coroutines

`process_claim`, `_deliver_summary` and `_poll_cycle` as coroutines over the calls they
make. A call of the store or of the memory is one await, and so is waiting for a task.
What reads a clock or a flag and what creates a task does not suspend.

Log messages are left out.
-/

namespace RlmApi

/-- The two tasks of `process_claim`. -/
inductive ClaimTask where
  | execution
  | heartbeat
deriving DecidableEq

/-- A prediction as the execution returns it; its answer and its evidence are checked
once more. -/
structure ExecutedPrediction where
  answer : PyObject
  evidence : PyObject
  trajectory : Json

/-- What the coroutines call. -/
inductive WorkerCall where
  /-- `time.monotonic()`. -/
  | monotonic
  | recoverStale (staleSeconds batchSize : Int)
  | claimSummary (workerId : Str) (staleSeconds : Int)
  | writeMemory (arguments : MemoryStore.WriteArguments)
  | completeSummary (item : SummaryOutboxItem)
  | retrySummary (item : SummaryOutboxItem) (publicError : Str)
  | claim (workerId : Str)
  /-- `asyncio.Event()` for the lost lease, and `create_task` for both tasks. -/
  | start (run : ClaimedRun) (expected : Str × Int) (staleSeconds : Int) (interval : ℚ)
  /-- `await execution_task`. -/
  | awaitExecution
  | succeed (run : ClaimedRun) (report : SuccessReport)
  | fail (run : ClaimedRun) (publicError : Str) (eventMetadata : List (Str × Json))
      (retryable : Bool)
  /-- `_stop_task`. -/
  | stop (task : ClaimTask)
  /-- `lease_lost.is_set()`. -/
  | leaseLost

namespace WorkerCall

/-- What a call answers. -/
@[reducible]
def Answer : WorkerCall → Type
  | .monotonic => ℚ
  | .recoverStale _ _ => Int × Int
  | .claimSummary _ _ => Option SummaryOutboxItem
  | .writeMemory _ => Str
  | .completeSummary _ => Bool
  | .retrySummary _ _ => Bool
  | .claim _ => Option ClaimedRun
  | .start _ _ _ _ => Unit
  | .awaitExecution => ExecutedPrediction × List Memory
  | .succeed _ _ => Bool
  | .fail _ _ _ _ => Option RunStatus
  | .stop _ => Unit
  | .leaseLost => Bool

/-- The call suspends the task that makes it. -/
def suspends : WorkerCall → Bool
  | .monotonic | .start _ _ _ _ | .leaseLost => false
  | _ => true

/-- The call takes a new run or a new summary. -/
def takes : WorkerCall → Bool
  | .claim _ | .claimSummary _ _ => true
  | _ => false

end WorkerCall

/-- A coroutine of the worker. -/
abbrev WorkerCoroutine (α : Type) := Coroutine WorkerCall WorkerCall.Answer Raised α

namespace Worker

open Coroutine RunStore

/-- One call. -/
def ask (request : WorkerCall) : WorkerCoroutine request.Answer := invoke request

/-- A computation that may raise. -/
def computed {α : Type} : Except PyError α → WorkerCoroutine α
  | .ok value => pure value
  | .error error => raise error.raised

/-! ## Claims -/

/-- `round(x)`, to the even integer if there are two nearest. -/
def pyRound (x : ℚ) : Int :=
  if x - ⌊x⌋ < 1 / 2 then ⌊x⌋
  else if 1 / 2 < x - ⌊x⌋ then ⌊x⌋ + 1
  else if ⌊x⌋ % 2 = 0 then ⌊x⌋
  else ⌊x⌋ + 1

/-- The checks of `process_claim` on a prediction. -/
def checkedPrediction (prediction : ExecutedPrediction) : Except PyError RLMSubprocessResult :=
  match prediction.answer with
  | .str answer =>
    match prediction.evidence with
    | .list items =>
      match items.mapM PyObject.text? with
      | some evidence => .ok ⟨answer, evidence, prediction.trajectory⟩
      | none => .error (.valueError "RLM prediction evidence must be a list of strings")
    | _ => .error (.valueError "RLM prediction evidence must be a list of strings")
  | _ => .error (.valueError "RLM prediction answer must be a string")

/-- `_record_failure`. -/
def recordFailure (run : ClaimedRun) (publicError : String) (exceptionType : Str)
    (retryable : Bool) : WorkerCoroutine Unit := do
  let _ ← ask (.fail run (lit publicError)
    (jsonFields [("exception_type", .str exceptionType)]) retryable)
  pure ()

/-- The body of `try` in `process_claim`. -/
def completeClaim (run : ClaimedRun) (started : ℚ) : WorkerCoroutine Unit := do
  let executed ← ask .awaitExecution
  let now ← ask .monotonic
  let prediction ← computed (checkedPrediction executed.1)
  let report ← computed (successReport run (pyRound ((now - started) * 1000)) prediction
    (executed.2.map Memory.id))
  let _ ← ask (.succeed run report)
  ask (.stop .heartbeat)

/-- Its handlers. -/
def claimHandler (lower : Str → Str) (run : ClaimedRun) (error : Raised) : WorkerCoroutine Unit :=
  if error.isInstance .timeoutError then
    recordFailure run "run_timeout" (lit "TimeoutError") true
  else if error.isInstance .cancelledError then do
    let lost ← ask .leaseLost
    if lost then pure () else raise error
  else if error.isInstance .exception then
    recordFailure run "execution_failed" error.typeName (isRetryableFailure lower error)
  else raise error

/-- Its cleanup. -/
def stopTasks : WorkerCoroutine Unit := do
  ask (.stop .heartbeat)
  ask (.stop .execution)

/-- `process_claim`. -/
def processClaim (lower : Str → Str) (run : ClaimedRun) (staleSeconds : Int)
    (expected : Str × Int) : WorkerCoroutine Unit := do
  let started ← ask .monotonic
  ask (.start run expected staleSeconds (heartbeatInterval staleSeconds))
  tryFinally (tryExcept (completeClaim run started) (claimHandler lower run)) stopTasks

/-! ## Summaries -/

/-- The memory that `_deliver_summary` writes. The importance is the float 0.55. -/
def summaryMemory (item : SummaryOutboxItem) : MemoryStore.WriteArguments where
  tenantId := item.tenantId
  subjectId := item.subjectId
  namespaceName := item.namespaceName
  kind := .runSummary
  content := item.content
  metadata := item.metadata.map (fun field => (field.1, field.2.pyObject.workerJsonValue))
  importance := .finite (2476979795053773 / 4503599627370496)
  expiresAt := none
  sourceRunId := some item.runId

/-- The row it proposes is the memory of the item, if the metadata came out of JSON. -/
theorem proposed_summaryMemory {item : SummaryOutboxItem} (normal : NormalFields item.metadata)
    (memoryId : Str) (embedding : List ℚ) (importance : ℚ) :
    (MemoryStore.proposed memoryId (summaryMemory item) embedding importance none).toMemoryItem =
      item.memory memoryId := by
  have same : item.metadata.map (fun field => (field.1, field.2.pyObject.workerJsonValue)) =
      item.metadata := by
    conv_rhs => rw [← List.map_id item.metadata]
    refine List.map_congr_left (fun field member => ?_)
    have own := (normalFields_iff _).mp normal field member
    exact Prod.ext rfl (Json.normalised_pyObject true field.2 own)
  simp only [MemoryStore.proposed, summaryMemory, same, SummaryOutboxItem.memory]

/-- `_deliver_summary`. -/
def deliverSummary (expected : Str × Int) (item : SummaryOutboxItem) : WorkerCoroutine Unit :=
  if item.embeddingModel ≠ expected.1 ∨ item.embeddingDim ≠ expected.2 then do
    let _ ← ask (.retrySummary item (lit "embedding_configuration_mismatch"))
    pure ()
  else
    tryExcept (do
      let _ ← ask (.writeMemory (summaryMemory item))
      let _ ← ask (.completeSummary item)
      pure ()) (fun error =>
      if error.isInstance .cancelledError then raise error
      else if error.isInstance .exception then do
        let _ ← ask (.retrySummary item (lit "summary_delivery_failed"))
        pure ()
      else raise error)

/-! ## The poll cycle -/

/-- `max(10.0, settings.worker_stale_seconds / 2)`. -/
def recoveryPeriod (settings : Settings) : ℚ := max 10 ((settings.workerStaleSeconds : ℚ) / 2)

/-- The recovery at the start of a cycle, if it is time for one. -/
def recoverIfDue (settings : Settings) (now lastRecovery : ℚ) : WorkerCoroutine ℚ :=
  if recoveryPeriod settings ≤ now - lastRecovery then do
    let _ ← ask (.recoverStale settings.workerStaleSeconds settings.workerRecoveryBatchSize)
    pure now
  else pure lastRecovery

/-- The loop over summaries, with the iterations left. -/
def deliverBatch (settings : Settings) (workerId : Str) : Nat → Nat → WorkerCoroutine Nat
  | 0, processed => pure processed
  | iterations + 1, processed => do
    let claimed ← ask (.claimSummary workerId settings.workerStaleSeconds)
    match (claimed : Option SummaryOutboxItem) with
    | none => pure processed
    | some item => do
      deliverSummary (settings.embeddingModel, settings.embeddingDim) item
      deliverBatch settings workerId iterations (processed + 1)

/-- The loop over runs, with the iterations left. -/
def executeBatch (lower : Str → Str) (settings : Settings) (workerId : Str) :
    Nat → Nat → WorkerCoroutine Nat
  | 0, processed => pure processed
  | iterations + 1, processed => do
    let claimed ← ask (.claim workerId)
    match (claimed : Option ClaimedRun) with
    | none => pure processed
    | some run => do
      processClaim lower run settings.workerStaleSeconds
        (settings.embeddingModel, settings.embeddingDim)
      executeBatch lower settings workerId iterations (processed + 1)

/-- `_poll_cycle`. -/
def pollCycle (lower : Str → Str) (settings : Settings) (workerId : Str) (lastRecovery : ℚ) :
    WorkerCoroutine (ℚ × Nat) := do
  let now ← ask .monotonic
  let recovery ← recoverIfDue settings now lastRecovery
  let delivered ← deliverBatch settings workerId settings.workerBatchSize.toNat 0
  let processed ← executeBatch lower settings workerId settings.workerBatchSize.toNat delivered
  pure (recovery, processed)

end Worker

end RlmApi
