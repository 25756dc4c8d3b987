import RlmApi.RetryPolicy
import RlmApi.RowTransactions

/-!
# The tables of the run queue

One row type for each table the queue writes, with the columns that migrations
001 and 004 give it, and the database as a keyed table of runs, the event log and
the summary outbox. A `uuid` column holds the canonical text of its value.

Timestamps are microseconds. The clock never wraps and intervals of any length
can be subtracted from it.
-/

namespace RlmApi

/-- `TIMESTAMPTZ`, in microseconds. -/
abbrev Timestamp := Int

/-- `make_interval(secs => n)`. -/
def seconds (n : Int) : Int := n * 1000000

theorem seconds_le {shorter longer : Int} (le : shorter ≤ longer) :
    seconds shorter ≤ seconds longer := by
  simp only [seconds]
  omega

/-- A row of `rlm_runs`. -/
structure RunRow where
  id : Str
  tenantId : Str
  subjectId : Str
  namespaceName : Str
  status : RunStatus
  task : Str
  context : Str
  corpusRef : Option Json
  memorySnapshot : Json
  modelConfig : Json
  limits : Json
  result : Option Json
  usage : Json
  error : Option Str
  includeTrajectory : Bool
  trajectory : Option Json
  attempts : Int
  maxAttempts : Int
  availableAt : Timestamp
  createdAt : Timestamp
  updatedAt : Timestamp
  startedAt : Option Timestamp
  completedAt : Option Timestamp
  workerId : Option Str
  workerHeartbeatAt : Option Timestamp

/-- The values of `rlm_events.event_type` that the service writes. -/
inductive EventType where
  | queued
  | started
  | retryScheduled
  | staleRecovered
  | succeeded
  | failed
  | workerLeaseLost
deriving DecidableEq, Repr

/-- A row of `rlm_events`, beside the run it belongs to and its sequence. -/
structure EventBody where
  eventType : EventType
  payload : Json

/-- A row of `rlm_events`. -/
abbrev EventRow := LogEntry Str EventBody

/-- A row of `rlm_summary_outbox`. -/
structure OutboxRow where
  runId : Str
  tenantId : Str
  subjectId : Str
  namespaceName : Str
  embeddingModel : Str
  embeddingDim : Int
  content : Str
  metadata : Json
  attempts : Int
  availableAt : Timestamp
  claimedBy : Option Str
  claimedAt : Option Timestamp
  completedAt : Option Timestamp
  lastError : Option Str
  createdAt : Timestamp
  updatedAt : Timestamp

abbrev Outbox := Table OutboxRow.runId

/-- `rlm_runs`, `rlm_events` and `rlm_summary_outbox`. -/
abbrev Database := Store RunRow.id EventBody Outbox

/-- A transaction of the run store. -/
abbrev Tx (α : Type) := Transaction Str RunRow EventBody Outbox PyError α

namespace Database

/-- The state right after the migrations on a fresh database. -/
def empty : Database := ⟨Table.empty, [], Table.empty⟩

/-- The row of `rlm_runs` with an id. -/
def run? (db : Database) (id : Str) : Option RunRow := db.table.find? id

/-- The events of one run, in insertion order. -/
def eventsOf (db : Database) (id : Str) : List EventRow := LogEntry.ofOwner id db.log

/-- Write one version of a run. -/
def putRun (db : Database) (row : RunRow) : Database := { db with table := db.table.put row }

/-- Append one event to a run's log. -/
def addEvent (db : Database) (id : Str) (event : EventBody) : Database :=
  { db with log := LogEntry.extend db.log id event }

@[simp] theorem run?_empty (id : Str) : empty.run? id = none := rfl

end Database

end RlmApi
