import RlmApi.MemorySearch
import RlmApi.RunCompletion

/-!
# Executing a claim

`executeClaim` is `_execute_claim` up to the subprocess: the embedding configuration of
the run is compared with the worker's, memories are recalled in the scope of the run,
and the query for the child is built from the task and what was recalled. The timeout
around it is not modelled; it can only cut the execution short.

How a score is rendered with three decimals is a parameter.
-/

namespace RlmApi

/-- `validate_embedding_compatibility`. -/
def validateEmbeddingCompatibility (modelConfig : List (Str × ModelValue)) (expected : Str × Int) :
    Except PyError Unit :=
  if modelConfig.lookup (lit "embedding_model") ≠ some (.text expected.1) ∨
      modelConfig.lookup (lit "embedding_dim") ≠ some (.number expected.2) then
    .error (.valueError "persisted embedding configuration does not match worker")
  else .ok ()

/-- The entry of one memory in `format_memory_pack`. -/
def memoryEntry (renderScore : ℚ → Str) (memory : Memory) : Str :=
  lit "[" ++ memory.kind ++ lit " | score=" ++ renderScore memory.score ++ lit " | id=" ++
    memory.id ++ lit "]\n" ++ memory.content

/-- `format_memory_pack`. -/
def formatMemoryPack (renderScore : ℚ → Str) (memories : List Memory) : Str :=
  if memories.isEmpty then lit "No relevant durable memory was retrieved."
  else
    lit "Relevant durable memory (potentially stale — prioritise corpus evidence):\n" ++
      (lit "\n\n").intercalate (memories.map (memoryEntry renderScore)) ++
      lit "\n\nDo not expose internal memory IDs unless explicitly requested.\n"

/-- `build_rlm_query`. -/
def buildRlmQuery (renderScore : ℚ → Str) (task : Str) (memories : List Memory) : Str :=
  task ++ lit "\n\n" ++ formatMemoryPack renderScore memories ++
    lit "\n\nReturn a concise answer and evidence grounded in the corpus.\n"

/-- The arguments with which `recall_memories` searches for a run. -/
def recallArguments (run : ClaimedRun) : SearchArguments where
  tenantId := run.tenantId
  subjectId := run.subjectId
  namespaceName := run.namespaceName
  query := run.task
  limit := 8

structure RLMSubprocessInput where
  rootModelId : Str
  subModelId : Str
  context : Str
  query : Str
  maxIters : Int
  maxLlmCalls : Int
  maxOutputChars : Int

/-- What `_execute_claim` reads before it recalls anything: the two models and the
timeout. -/
def beginExecution (expected : Str × Int) (run : ClaimedRun) :
    Except PyError (Str × Str × Int) := do
  validateEmbeddingCompatibility run.modelConfig expected
  let rootModel ← modelId run.modelConfig "root_model"
  let subModel ← modelId run.modelConfig "sub_model"
  let timeout ← getItem run.limits "timeout_s"
  pure (rootModel, subModel, timeout)

/-- The input of the subprocess. -/
def subprocessInput (renderScore : ℚ → Str) (run : ClaimedRun) (rootModel subModel : Str)
    (recalled : List Memory) : Except PyError RLMSubprocessInput := do
  let maxIters ← getItem run.limits "max_iters"
  let maxLlmCalls ← getItem run.limits "max_llm_calls"
  let maxOutputChars ← getItem run.limits "max_output_chars"
  pure ⟨rootModel, subModel, run.context, buildRlmQuery renderScore run.task recalled, maxIters,
    maxLlmCalls, maxOutputChars⟩

/-- `_execute_claim` by a worker with an embedding configuration: the recalled memories
with the input of the subprocess, and the memory store afterwards. -/
def executeClaim (backend : MemoryBackend) (renderScore : ℚ → Str) (expected : Str × Int)
    (now : Timestamp) (run : ClaimedRun) (table : MemoryTable) :
    Except PyError (List Memory × RLMSubprocessInput) × MemoryTable :=
  match beginExecution expected run with
  | .error error => (.error error, table)
  | .ok (rootModel, subModel, _) =>
    let search := MemoryStore.search backend expected.2 now (recallArguments run) table
    (search.1.bind (fun recalled =>
      (subprocessInput renderScore run rootModel subModel recalled).map (fun input =>
        (recalled, input))), search.2)

/-! ## When a claim is executed -/

theorem validateEmbeddingCompatibility_ok_iff (modelConfig : List (Str × ModelValue))
    (expected : Str × Int) :
    validateEmbeddingCompatibility modelConfig expected = .ok () ↔
      modelConfig.lookup (lit "embedding_model") = some (.text expected.1) ∧
        modelConfig.lookup (lit "embedding_dim") = some (.number expected.2) := by
  unfold validateEmbeddingCompatibility
  constructor
  · intro compatible
    split at compatible
    · cases compatible
    · next matching =>
      simp only [ne_eq, not_or, not_not] at matching
      exact matching
  · rintro ⟨model, dim⟩
    simp [model, dim]

/-- A worker that begins an execution has the run's embedding configuration. -/
theorem compatible_of_beginExecution {expected : Str × Int} {run : ClaimedRun}
    {begun : Str × Str × Int} (begins : beginExecution expected run = .ok begun) :
    run.modelConfig.lookup (lit "embedding_model") = some (.text expected.1) ∧
      run.modelConfig.lookup (lit "embedding_dim") = some (.number expected.2) := by
  simp only [beginExecution, except_bind_ok_iff] at begins
  obtain ⟨passed, compatible, -⟩ := begins
  exact (validateEmbeddingCompatibility_ok_iff _ _).mp compatible

/-- A worker with another configuration recalls and executes nothing. -/
theorem executeClaim_foreign {expected : Str × Int} {run : ClaimedRun}
    (differs : ¬ (run.modelConfig.lookup (lit "embedding_model") = some (.text expected.1) ∧
      run.modelConfig.lookup (lit "embedding_dim") = some (.number expected.2)))
    (backend : MemoryBackend) (renderScore : ℚ → Str) (now : Timestamp) (table : MemoryTable) :
    ∃ error, executeClaim backend renderScore expected now run table = (.error error, table) := by
  unfold executeClaim
  cases begins : beginExecution expected run with
  | error error => exact ⟨error, rfl⟩
  | ok begun => exact absurd (compatible_of_beginExecution begins) differs

/-- What is recalled depends on the memories of the run's tenant only. -/
theorem executeClaim_congr {backend : MemoryBackend} {renderScore : ℚ → Str} {expected : Str × Int}
    {now : Timestamp} {run : ClaimedRun} {first second : MemoryTable}
    (same : ∀ row, row.tenantId = run.tenantId → (row ∈ first.rows ↔ row ∈ second.rows)) :
    (executeClaim backend renderScore expected now run first).1 =
      (executeClaim backend renderScore expected now run second).1 := by
  unfold executeClaim
  cases beginExecution expected run with
  | error error => rfl
  | ok begun =>
    have recalls : (MemoryStore.search backend expected.2 now (recallArguments run) first).1 =
        (MemoryStore.search backend expected.2 now (recallArguments run) second).1 :=
      MemoryStore.search_congr same
    simp only [recalls]

/-- A recall changes no memory of another tenant. -/
theorem executeClaim_others {backend : MemoryBackend} {renderScore : ℚ → Str}
    {expected : Str × Int} {now : Timestamp} {run : ClaimedRun} {table : MemoryTable}
    {row : MemoryRow} (foreign : row.tenantId ≠ run.tenantId) :
    row ∈ (executeClaim backend renderScore expected now run table).2.rows ↔ row ∈ table.rows := by
  unfold executeClaim
  cases beginExecution expected run with
  | error error => rfl
  | ok begun =>
    have apart : row.tenantId ≠ (recallArguments run).tenantId := foreign
    exact MemoryStore.search_others apart

/-! ## What a decoded claim is safe for -/

/-- No later use of the claim raises: the limits of `_execute_claim` are there and in
range, both models have an id, the outbox gets an embedding model and a dimension, and
`fail` finds a status and a delay. -/
structure ClaimedRun.Safe (run : ClaimedRun) : Prop where
  maxIters : ∃ n, getItem run.limits "max_iters" = .ok n ∧ 0 < n
  maxLlmCalls : ∃ n, getItem run.limits "max_llm_calls" = .ok n ∧ 0 ≤ n
  maxOutputChars : ∃ n, getItem run.limits "max_output_chars" = .ok n ∧ 0 < n
  timeoutS : ∃ n, getItem run.limits "timeout_s" = .ok n ∧ 0 < n
  rootModel : ∃ text, modelId run.modelConfig "root_model" = .ok text
  subModel : ∃ text, modelId run.modelConfig "sub_model" = .ok text
  embeddingModel : ∃ text, getItem run.modelConfig "embedding_model" = .ok (.text text) ∧
    isBlank text = false
  embeddingDim : ∃ dim, getItem run.modelConfig "embedding_dim" = .ok (.number dim) ∧ 0 < dim
  status : ∀ retryable, ∃ status, failureStatus run.attempts run.maxAttempts retryable = .ok status
  delay : ∃ delay, retryDelaySeconds run.attempts runRetryCapSeconds = .ok delay

/-- The texts of the claim beside its configuration are not blank. -/
structure ClaimedRun.Visible (run : ClaimedRun) : Prop where
  id : isBlank run.id = false
  tenantId : isBlank run.tenantId = false
  subjectId : isBlank run.subjectId = false
  namespaceName : isBlank run.namespaceName = false
  task : isBlank run.task = false
  context : isBlank run.context = false
  workerId : isBlank run.workerId = false

/-- A configured model that is not blank. -/
def ModelVisible (run : ClaimedRun) (name : String) : Prop :=
  ∃ text, modelId run.modelConfig name = .ok text ∧ isBlank text = false

theorem ClaimedRun.WellFormed.safe {run : ClaimedRun} (formed : run.WellFormed) : run.Safe := by
  obtain ⟨root, rootStored, rootVisible⟩ := formed.rootModel
  obtain ⟨sub, subStored, subVisible⟩ := formed.subModel
  exact {
    maxIters := formed.maxIters.imp fun _ found => found.imp_left (getItem_ok_iff _ _ _).mpr
    maxLlmCalls := formed.maxLlmCalls.imp fun _ found => found.imp_left (getItem_ok_iff _ _ _).mpr
    maxOutputChars :=
      formed.maxOutputChars.imp fun _ found => found.imp_left (getItem_ok_iff _ _ _).mpr
    timeoutS := formed.timeoutS.imp fun _ found => found.imp_left (getItem_ok_iff _ _ _).mpr
    rootModel := ⟨root, modelId_ok rootStored rootVisible⟩
    subModel := ⟨sub, modelId_ok subStored subVisible⟩
    embeddingModel :=
      formed.embeddingModel.imp fun _ found => found.imp_left (getItem_ok_iff _ _ _).mpr
    embeddingDim :=
      formed.embeddingDim.imp fun _ found => found.imp_left (getItem_ok_iff _ _ _).mpr
    status := fun retryable => (failureStatus_ok_iff _ _ retryable).mpr formed.counters
    delay := (retryDelaySeconds_ok_iff _ _).mpr formed.counters.1 }

/-- `_model_id` reads a configured text. -/
theorem lookup_of_modelId {modelConfig : List (Str × ModelValue)} {name : String} {text : Str}
    (read : modelId modelConfig name = .ok text) :
    modelConfig.lookup (lit name) = some (.text text) := by
  unfold modelId at read
  split at read
  · next stored =>
    split at read
    · cases read
    · cases read
      exact stored
  · cases read

/-- The decoder asks for the safe claims with visible texts, the names of the two models
included. -/
theorem ClaimedRun.Safe.wellFormed {run : ClaimedRun} (safe : run.Safe) (visible : run.Visible)
    (root : ModelVisible run "root_model") (sub : ModelVisible run "sub_model") :
    run.WellFormed := by
  obtain ⟨rootText, rootRead, rootVisible⟩ := root
  obtain ⟨subText, subRead, subVisible⟩ := sub
  exact {
    maxIters := safe.maxIters.imp fun _ found => found.imp_left (getItem_ok_iff _ _ _).mp
    maxLlmCalls := safe.maxLlmCalls.imp fun _ found => found.imp_left (getItem_ok_iff _ _ _).mp
    maxOutputChars :=
      safe.maxOutputChars.imp fun _ found => found.imp_left (getItem_ok_iff _ _ _).mp
    timeoutS := safe.timeoutS.imp fun _ found => found.imp_left (getItem_ok_iff _ _ _).mp
    rootModel := ⟨rootText, lookup_of_modelId rootRead, rootVisible⟩
    subModel := ⟨subText, lookup_of_modelId subRead, subVisible⟩
    embeddingModel :=
      safe.embeddingModel.imp fun _ found => found.imp_left (getItem_ok_iff _ _ _).mp
    embeddingDim := safe.embeddingDim.imp fun _ found => found.imp_left (getItem_ok_iff _ _ _).mp
    counters := (failureStatus_ok_iff _ _ true).mp (safe.status true)
    id := visible.id
    tenantId := visible.tenantId
    subjectId := visible.subjectId
    namespaceName := visible.namespaceName
    task := visible.task
    context := visible.context
    workerId := visible.workerId }

/-- The decoder raises only what `claim` catches, returns only claims that are safe to
execute, with the values of the row, and refuses no safe claim with visible texts. -/
theorem decoded_claim_safe (row : ClaimRow) (workerId : Str) :
    (∀ error, decodeClaimedRun row workerId = .error error → error.isDecodeError = true) ∧
    (∀ run, decodeClaimedRun row workerId = .ok run → row.Holds workerId run ∧ run.Safe) ∧
    ∀ run, row.Holds workerId run → run.Safe → run.Visible → ModelVisible run "root_model" →
      ModelVisible run "sub_model" → decodeClaimedRun row workerId = .ok run := by
  refine ⟨decodeClaimedRun_raises row workerId, fun run decoded => ?_,
    fun run held safe visible root sub => ?_⟩
  · obtain ⟨held, formed⟩ := (decodeClaimedRun_ok_iff row workerId run).mp decoded
    exact ⟨held, formed.safe⟩
  · exact (decodeClaimedRun_ok_iff row workerId run).mpr
      ⟨held, safe.wellFormed visible root sub⟩

/-- A claim whose root model is a space. -/
def spaceModelClaim : ClaimedRun where
  id := lit "r"
  tenantId := lit "acme"
  subjectId := lit "client"
  namespaceName := lit "default"
  task := lit "t"
  context := lit "c"
  limits := [(lit "max_iters", 1), (lit "max_llm_calls", 0), (lit "max_output_chars", 1),
    (lit "timeout_s", 1)]
  modelConfig := [(lit "root_model", .text (lit " ")), (lit "sub_model", .text (lit "sub")),
    (lit "embedding_model", .text (lit "embed")), (lit "embedding_dim", .number 8)]
  includeTrajectory := false
  attempts := 1
  maxAttempts := 3
  workerId := lit "w"

/-- The row that holds it. -/
def spaceModelRow : ClaimRow where
  id := .other (lit "r")
  tenantId := .text (lit "acme")
  subjectId := .text (lit "client")
  namespaceName := .text (lit "default")
  task := .text (lit "t")
  context := .text (lit "c")
  limits := .dict [(lit "max_iters", .int 1), (lit "max_llm_calls", .int 0),
    (lit "max_output_chars", .int 1), (lit "timeout_s", .int 1)]
  modelConfig := .dict [(lit "root_model", .str (lit " ")), (lit "sub_model", .str (lit "sub")),
    (lit "embedding_model", .str (lit "embed")), (lit "embedding_dim", .int 8)]
  includeTrajectory := .bool false
  attempts := .int 1
  maxAttempts := .int 3

/-- `_model_id` accepts a model name of spaces, and the decoder does not. -/
theorem space_model_refused :
    spaceModelRow.Holds (lit "w") spaceModelClaim ∧ spaceModelClaim.Safe ∧
      spaceModelClaim.Visible ∧
      decodeClaimedRun spaceModelRow (lit "w") =
        .error (.valueError "persisted root_model must be a non-empty string") := by
  refine ⟨⟨⟨_, rfl, by rfl⟩, ⟨_, rfl, by rfl⟩, rfl, rfl, rfl, rfl, rfl, rfl, rfl, rfl, rfl, rfl⟩,
    ⟨⟨1, by rfl, by decide⟩, ⟨0, by rfl, by decide⟩, ⟨1, by rfl, by decide⟩,
      ⟨1, by rfl, by decide⟩, ⟨_, by rfl⟩, ⟨_, by rfl⟩, ⟨_, by rfl, by decide⟩,
      ⟨8, by rfl, by decide⟩, fun retryable => ?_, ⟨1, by rfl⟩⟩,
    ⟨by decide, by decide, by decide, by decide, by decide, by decide, by decide⟩, by rfl⟩
  exact (failureStatus_ok_iff 1 3 retryable).mpr (by decide)

end RlmApi
