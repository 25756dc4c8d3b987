import RlmApi.ClaimDecoding

/-!
# The run store's transactions

Each method of `RunStore` that writes the run queue is a transaction: the tree of
its SQL statements, with the Python code between them. `now` is the transaction's
timestamp, which PostgreSQL keeps fixed from its first statement to its commit.
What an `UPDATE` sets is a function on rows named after the state it writes, and
what it filters on is a predicate on rows.

Arguments that reach a statement are values the driver can encode; a call with a
value it rejects raises before its first statement and is not a transaction.
-/

namespace RlmApi

/-- The characters of a canonical `uuid`: hexadecimal digits in groups of 8, 4, 4,
4 and 12. -/
def isUuidCharacter (position : Nat) (c : CodePoint) : Bool :=
  if position ∈ [8, 13, 18, 23] then c.val == 45
  else (48 ≤ c.val && c.val ≤ 57) || (97 ≤ c.val && c.val ≤ 102)

/-- The canonical text of a `uuid`. -/
structure Uuid where
  text : Str
  canonical : (text.length == 36 &&
    text.zipIdx.all (fun character => isUuidCharacter character.2 character.1)) = true

/-- A `uuid` is never blank. -/
theorem Uuid.not_isBlank (id : Uuid) : isBlank id.text = false := by
  obtain ⟨text, canonical⟩ := id
  cases text with
  | nil => simp at canonical
  | cons first rest =>
    refine (isBlank_eq_false_iff _).mpr ⟨first, List.mem_cons_self, ?_⟩
    have digit : (48 ≤ first.val ∧ first.val ≤ 57) ∨ (97 ≤ first.val ∧ first.val ≤ 102) := by
      simp only [List.zipIdx_cons, List.all_cons, Bool.and_eq_true] at canonical
      simpa [isUuidCharacter] using canonical.2.1
    simp only [isSpace, Bool.or_eq_false_iff, Bool.and_eq_false_iff, decide_eq_false_iff_not,
      beq_eq_false_iff_ne]
    omega

namespace RunStore

/-- A JSON object from literal member names. -/
def jsonFields (fields : List (String × Json)) : List (Str × Json) :=
  fields.map (fun field => (lit field.1, field.2))

/-- The member of such an object under a literal name. -/
theorem lookup_jsonFields (fields : List (String × Json)) (name : String) :
    (jsonFields fields).lookup (lit name) = fields.lookup name :=
  lookup_map_injective lit_injective fields name

/-- `_append_event`: lock the run, then insert under its next sequence number. -/
def appendEvent {α : Type} (runId : Str) (eventType : EventType) (payload : List (Str × Json))
    (next : Tx α) : Tx α :=
  .lock runId (.append runId ⟨eventType, .obj payload⟩ next)

/-- `add_event`. -/
def addEvent (runId : Str) (eventType : EventType) (payload : List (Str × Json)) : Tx Unit :=
  appendEvent runId eventType payload (.done ())

/-! ## Enqueue -/

/-- The arguments of `enqueue`. -/
structure EnqueueArguments where
  tenantId : Str
  subjectId : Str
  namespaceName : Str
  task : Str
  context : Str
  limits : List (Str × Int)
  modelConfig : List (Str × ModelValue)
  includeTrajectory : Bool
  maxAttempts : Int
deriving DecidableEq

/-- `json.dumps(dict(limits))` as the value it denotes. -/
def limitsJson (limits : List (Str × Int)) : Json :=
  .obj (limits.map (fun field => (field.1, .int field.2)))

/-- The JSON value of a `str | int`. -/
def modelValueJson : ModelValue → Json
  | .text value => .str value
  | .number value => .int value

/-- `json.dumps(dict(model_config))` as the value it denotes. -/
def modelConfigJson (modelConfig : List (Str × ModelValue)) : Json :=
  .obj (modelConfig.map (fun field => (field.1, modelValueJson field.2)))

/-- Converting an encoded object gives back its members. -/
theorem convertFields_map {α : Type} {convert : Json → Option α} {encode : α → Json}
    (inverse : ∀ value, convert (encode value) = some value) (fields : List (Str × α)) :
    convertFields convert (fields.map (fun field => (field.1, encode field.2))) = some fields := by
  induction fields with
  | nil => rfl
  | cons field rest ih =>
    simp only [convertFields, List.map_cons, List.mapM_cons] at ih ⊢
    rw [ih, inverse]
    rfl

theorem modelValue?_modelValueJson (value : ModelValue) :
    (modelValueJson value).modelValue? = some value := by
  cases value <;> rfl

/-- Every parameter fits its column type. -/
def EnqueueArguments.storable (arguments : EnqueueArguments) : Bool :=
  storableText arguments.tenantId && storableText arguments.subjectId &&
    storableText arguments.namespaceName && storableText arguments.task &&
    storableText arguments.context && (modelConfigJson arguments.modelConfig).storable &&
    (limitsJson arguments.limits).storable && -2147483648 ≤ arguments.maxAttempts &&
    arguments.maxAttempts ≤ 2147483647

/-- What `enqueue` stores as JSON can be read. -/
theorem EnqueueArguments.loads {arguments : EnqueueArguments}
    (storable : arguments.storable = true) :
    (modelConfigJson arguments.modelConfig).loads = some (modelConfigJson arguments.modelConfig) ∧
      (limitsJson arguments.limits).loads = some (limitsJson arguments.limits) := by
  simp only [EnqueueArguments.storable, Bool.and_eq_true] at storable
  obtain ⟨⟨⟨⟨-, config⟩, limits⟩, -⟩, -⟩ := storable
  exact ⟨Json.loads_of_storable config, Json.loads_of_storable limits⟩

/-- What `enqueue` raises for parameters that do not fit. -/
def EnqueueArguments.refusal (arguments : EnqueueArguments) : PyError :=
  if !((modelConfigJson arguments.modelConfig).convertible &&
      (limitsJson arguments.limits).convertible) then tooManyDigits
  else if -2147483648 ≤ arguments.maxAttempts ∧ arguments.maxAttempts ≤ 2147483647 then
    refusedParameters [arguments.tenantId, arguments.subjectId, arguments.namespaceName,
      arguments.task, arguments.context]
  else .invalidArgument

/-- The row `enqueue` inserts, with the column defaults. -/
def queuedRow (now : Timestamp) (runId : Str) (arguments : EnqueueArguments) : RunRow where
  id := runId
  tenantId := arguments.tenantId
  subjectId := arguments.subjectId
  namespaceName := arguments.namespaceName
  status := .queued
  task := arguments.task
  context := arguments.context
  corpusRef := some (.obj (jsonFields [("storage", .str (lit "inline"))]))
  memorySnapshot := .arr []
  modelConfig := modelConfigJson arguments.modelConfig
  limits := limitsJson arguments.limits
  result := none
  usage := .obj []
  error := none
  includeTrajectory := arguments.includeTrajectory
  trajectory := none
  attempts := 0
  maxAttempts := arguments.maxAttempts
  availableAt := now
  createdAt := now
  updatedAt := now
  startedAt := none
  completedAt := none
  workerId := none
  workerHeartbeatAt := none

def queuedPayload : List (Str × Json) := jsonFields [("attempt", .int 0)]

/-- `enqueue`. The identifier is the `uuid4` the method draws; the check
constraint is `rlm_runs_attempts_check` on a row with no attempts. -/
def enqueue (now : Timestamp) (runId : Uuid) (arguments : EnqueueArguments) : Tx Str :=
  if !arguments.storable then .raised arguments.refusal
  else if arguments.maxAttempts ≤ 0 then .raised (.checkViolation "rlm_runs_attempts_check")
  else .insert (queuedRow now runId.text arguments)
    (appendEvent runId.text .queued queuedPayload (.done runId.text))

/-! ## Claim -/

/-- The filter of `_CLAIM_RUN_SQL`. -/
def claimable (now : Timestamp) (row : RunRow) : Bool :=
  row.status = .queued && row.availableAt ≤ now && row.attempts < row.maxAttempts

/-- `ORDER BY available_at, created_at`. -/
def claimOrder (a b : RunRow) : Bool :=
  a.availableAt < b.availableAt || (a.availableAt = b.availableAt && a.createdAt ≤ b.createdAt)

/-- What `_CLAIM_RUN_SQL` sets. -/
def claimedVersion (now : Timestamp) (workerId : Str) (row : RunRow) : RunRow :=
  { row with
    status := .running
    attempts := row.attempts + 1
    workerId := some workerId
    workerHeartbeatAt := some now
    startedAt := some (row.startedAt.getD now)
    updatedAt := now }

/-- `status = 'running' AND worker_id = $2`. -/
def leasedBy (workerId : Str) (row : RunRow) : Bool :=
  row.status = .running && row.workerId = some workerId

def invalidConfiguration : Str := lit "invalid_persisted_configuration"

/-- What `_quarantine_claim` sets. -/
def quarantinedVersion (now : Timestamp) (row : RunRow) : RunRow :=
  { row with
    status := .failed
    error := some invalidConfiguration
    completedAt := some now
    updatedAt := now
    workerId := none
    workerHeartbeatAt := none }

def quarantinePayload : List (Str × Json) := jsonFields [("error", .str invalidConfiguration)]

/-- `_quarantine_claim`. -/
def quarantineClaim {α : Type} (now : Timestamp) (runId workerId : Str) (next : Tx α) : Tx α :=
  .update runId (leasedBy workerId) (quarantinedVersion now) fun _ =>
    appendEvent runId .failed quarantinePayload next

def startedPayload (attempts : Int) (workerId : Str) : List (Str × Json) :=
  jsonFields [("attempt", .int attempts), ("worker_id", .str workerId)]

/-- The loop of `claim` with so many iterations left. -/
def claimLoop (now : Timestamp) (workerId : Str) : Nat → Tx (Option ClaimedRun)
  | 0 => .done none
  | remaining + 1 =>
    .pick (claimable now) claimOrder 1 fun candidates =>
      match candidates with
      | [] => .done none
      | candidate :: _ =>
        .update candidate.id (fun _ => true) (claimedVersion now workerId) fun updated =>
          match updated with
          | none => .done none
          | some row =>
            match decodeClaimedRun row.returning workerId with
            | .error _ => quarantineClaim now row.id workerId (claimLoop now workerId remaining)
            | .ok claimed =>
              appendEvent claimed.id .started (startedPayload claimed.attempts workerId)
                (.done (some claimed))

/-- `claim`. -/
def claim (now : Timestamp) (workerId : Str) (maxQuarantined : Int) : Tx (Option ClaimedRun) :=
  if maxQuarantined < 1 then .raised (.valueError "max_quarantined must be positive")
  else claimLoop now workerId maxQuarantined.toNat

/-! ## Heartbeat, success and failure of a claim -/

/-- What `heartbeat` sets. -/
def beatVersion (now : Timestamp) (row : RunRow) : RunRow :=
  { row with workerHeartbeatAt := some now, updatedAt := now }

/-- `heartbeat`. -/
def heartbeat (now : Timestamp) (run : ClaimedRun) : Tx Bool :=
  .update run.id (leasedBy run.workerId) (beatVersion now) fun updated => .done updated.isSome

/-- The arguments of `succeed`, as values PostgreSQL accepts. -/
structure SucceedArguments where
  result : List (Str × Json)
  usage : List (Str × Json)
  recalledMemoryIds : List Str
  trajectory : Json
  summaryContent : Str
  summaryMetadata : List (Str × Json)
  storable : (storableFields result && storableFields usage &&
    storableItems (recalledMemoryIds.map .str) && trajectory.storable &&
    storableText summaryContent && storableFields summaryMetadata) = true

/-- What `succeed` stores as JSON can be read. -/
theorem SucceedArguments.loads (arguments : SucceedArguments) :
    (Json.obj arguments.result).loads = some (.obj arguments.result) ∧
      (Json.obj arguments.usage).loads = some (.obj arguments.usage) ∧
      (Json.arr (arguments.recalledMemoryIds.map .str)).loads =
        some (.arr (arguments.recalledMemoryIds.map .str)) ∧
      arguments.trajectory.loads = some arguments.trajectory ∧
      (Json.obj arguments.summaryMetadata).loads = some (.obj arguments.summaryMetadata) := by
  have storable := arguments.storable
  simp only [Bool.and_eq_true] at storable
  obtain ⟨⟨⟨⟨⟨result, usage⟩, recalled⟩, trajectory⟩, -⟩, metadata⟩ := storable
  exact ⟨Json.loads_of_storable result, Json.loads_of_storable usage,
    Json.loads_of_storable recalled, Json.loads_of_storable trajectory,
    Json.loads_of_storable metadata⟩

/-- What `succeed` sets. -/
def succeededVersion (now : Timestamp) (arguments : SucceedArguments) (row : RunRow) : RunRow :=
  { row with
    status := .succeeded
    result := some (.obj arguments.result)
    usage := .obj arguments.usage
    memorySnapshot := .arr (arguments.recalledMemoryIds.map .str)
    trajectory := if row.includeTrajectory then some arguments.trajectory else none
    error := none
    completedAt := some now
    updatedAt := now
    workerId := none
    workerHeartbeatAt := none }

/-- `run.model_config["embedding_model"]` and `["embedding_dim"]` as parameters of
a `TEXT` and a positive `INTEGER` column. -/
def embeddingParameters (run : ClaimedRun) : Except PyError (Str × Int) := do
  let model ← getItem run.modelConfig "embedding_model"
  let dim ← getItem run.modelConfig "embedding_dim"
  match model, dim with
  | .text model, .number dim =>
    if dim < -2147483648 ∨ 2147483647 < dim then throw .invalidArgument
    else if dim ≤ 0 then throw (.checkViolation "rlm_summary_outbox_embedding_dim_check")
    else pure (model, dim)
  | _, _ => throw .invalidArgument

/-- The outbox row `succeed` proposes, with the column defaults. -/
def summaryRow (now : Timestamp) (run : ClaimedRun) (arguments : SucceedArguments)
    (embedding : Str × Int) : OutboxRow where
  runId := run.id
  tenantId := run.tenantId
  subjectId := run.subjectId
  namespaceName := run.namespaceName
  embeddingModel := embedding.1
  embeddingDim := embedding.2
  content := arguments.summaryContent
  metadata := .obj arguments.summaryMetadata
  attempts := 0
  availableAt := now
  claimedBy := none
  claimedAt := none
  completedAt := none
  lastError := none
  createdAt := now
  updatedAt := now

/-- `INSERT … ON CONFLICT (run_id) DO UPDATE … WHERE completed_at IS NULL`. -/
def upsertSummary (now : Timestamp) (row : OutboxRow) (outbox : Outbox) : Outbox :=
  match outbox.find? row.runId with
  | none => outbox.put row
  | some stored =>
    if stored.completedAt.isNone then
      outbox.put { stored with
        content := row.content
        metadata := row.metadata
        embeddingModel := row.embeddingModel
        embeddingDim := row.embeddingDim
        updatedAt := now }
    else outbox

def succeededPayload (run : ClaimedRun) (arguments : SucceedArguments) : List (Str × Json) :=
  jsonFields [("attempt", .int run.attempts), ("usage", .obj arguments.usage)]

/-- `succeed`. -/
def succeed (now : Timestamp) (run : ClaimedRun) (arguments : SucceedArguments) : Tx Bool :=
  .update run.id (leasedBy run.workerId) (succeededVersion now arguments) fun updated =>
    match updated with
    | none => .done false
    | some _ =>
      match embeddingParameters run with
      | .error error => .raised error
      | .ok embedding =>
        .adjust (upsertSummary now (summaryRow now run arguments embedding))
          (appendEvent run.id .succeeded (succeededPayload run arguments) (.done true))

/-- The arguments of `fail`, as values PostgreSQL accepts. -/
structure FailArguments where
  publicError : Str
  eventMetadata : List (Str × Json)
  retryable : Bool
  storable : (storableText publicError && storableFields eventMetadata) = true

/-- What `fail` and `recover_stale` set: requeue after a delay, or end the run. -/
def failedVersion (now : Timestamp) (next : RunStatus) (error : Str) (delay : Int) (row : RunRow) :
    RunRow :=
  { row with
    status := next
    error := some error
    availableAt := if next = .queued then now + seconds delay else row.availableAt
    completedAt := if next = .failed then some now else none
    updatedAt := now
    workerId := none
    workerHeartbeatAt := none }

def failedPayload (run : ClaimedRun) (arguments : FailArguments) (retry : Bool) (delay : Int) :
    List (Str × Json) :=
  mergeFields
    (jsonFields [("attempt", .int run.attempts), ("retrying", .bool retry),
      ("retry_delay_seconds", if retry then .int delay else .null)])
    arguments.eventMetadata

/-- `fail`. -/
def fail (now : Timestamp) (run : ClaimedRun) (arguments : FailArguments) :
    Tx (Option RunStatus) :=
  match failureStatus run.attempts run.maxAttempts arguments.retryable with
  | .error error => .raised error
  | .ok next =>
    match retryDelaySeconds run.attempts runRetryCapSeconds with
    | .error error => .raised error
    | .ok delay =>
      .update run.id (leasedBy run.workerId) (failedVersion now next arguments.publicError delay)
        fun updated =>
          match updated with
          | none => .done none
          | some _ =>
            appendEvent run.id (if next = .queued then .retryScheduled else .failed)
              (failedPayload run arguments (next = .queued) delay) (.done (some next))

/-! ## Recovery of stale leases -/

/-- `COALESCE(worker_heartbeat_at, updated_at, started_at, created_at)`. -/
def staleAt (row : RunRow) : Timestamp :=
  (row.workerHeartbeatAt <|> some row.updatedAt <|> row.startedAt).getD row.createdAt

/-- The filter of `recover_stale`. -/
def isStale (now : Timestamp) (staleSeconds : Int) (row : RunRow) : Bool :=
  row.status = .running && staleAt row < now - seconds staleSeconds

/-- `ORDER BY stale_at, id`. -/
def staleOrder (a b : RunRow) : Bool :=
  staleAt a < staleAt b || (staleAt a = staleAt b && a.id ≤ b.id)

def heartbeatExpired : Str := lit "worker_heartbeat_expired"

def recoveredPayload (attempts : Int) (retry : Bool) : List (Str × Json) :=
  jsonFields [("attempt", .int attempts), ("retrying", .bool retry)]

/-- The loop of `recover_stale` over the selected rows, with the counts so far. -/
def recoverRows (now : Timestamp) : List RunRow → Int → Int → Tx (Int × Int)
  | [], retried, failed => .done (retried, failed)
  | row :: rest, retried, failed =>
    match failureStatus row.attempts row.maxAttempts true with
    | .error error => .raised error
    | .ok next =>
      match retryDelaySeconds row.attempts runRetryCapSeconds with
      | .error error => .raised error
      | .ok delay =>
        .update row.id (fun _ => true) (failedVersion now next heartbeatExpired delay) fun _ =>
          appendEvent row.id (if next = .queued then .staleRecovered else .failed)
            (recoveredPayload row.attempts (next = .queued))
            (if next = .queued then recoverRows now rest (retried + 1) failed
              else recoverRows now rest retried (failed + 1))

/-- `recover_stale`. -/
def recoverStale (now : Timestamp) (staleSeconds batchSize : Int) : Tx (Int × Int) :=
  if staleSeconds < 1 then .raised (.valueError "stale_seconds must be positive")
  else if batchSize < 1 then .raised (.valueError "batch_size must be positive")
  else .pick (isStale now staleSeconds) staleOrder batchSize.toNat fun rows =>
    recoverRows now rows 0 0

end RunStore

end RlmApi
