import RlmApi.Authentication
import RlmApi.QueueHistory

/-!
# Submitting a run

`createRun` is the handler of `POST /v1/rlm/runs`. The request body is given by
what the validation library makes of it, a `CreateRun` within the declared bounds
or a list of error details; the bounds are fields of the structure, so a payload
outside them cannot be built.

The validator and the decoder of claimed rows were written independently. The
results below say exactly which accepted runs the decoder accepts when they are
claimed for the first time.
-/

namespace RlmApi

open RunStore

structure Limits where
  maxIters : Int
  maxLlmCalls : Int
  maxOutputChars : Int
  timeoutS : Int
  maxIters_bounds : 1 ≤ maxIters ∧ maxIters ≤ 30
  maxLlmCalls_bounds : 0 ≤ maxLlmCalls ∧ maxLlmCalls ≤ 80
  maxOutputChars_bounds : 500 ≤ maxOutputChars ∧ maxOutputChars ≤ 20000
  timeoutS_bounds : 10 ≤ timeoutS ∧ timeoutS ≤ 900

/-- The default factory; every default is within its own bounds. -/
def Limits.defaults : Limits where
  maxIters := 12
  maxLlmCalls := 24
  maxOutputChars := 8000
  timeoutS := 300
  maxIters_bounds := by decide
  maxLlmCalls_bounds := by decide
  maxOutputChars_bounds := by decide
  timeoutS_bounds := by decide

/-- `model_dump()`. -/
def Limits.modelDump (limits : Limits) : List (Str × Int) :=
  [(lit "max_iters", limits.maxIters), (lit "max_llm_calls", limits.maxLlmCalls),
    (lit "max_output_chars", limits.maxOutputChars), (lit "timeout_s", limits.timeoutS)]

structure CreateRun where
  tenantId : Option Str
  subjectId : Str
  namespaceName : Str
  context : Str
  query : Str
  limits : Limits
  includeTrajectory : Bool
  maxAttempts : Int
  subjectId_length : 1 ≤ subjectId.length ∧ subjectId.length ≤ 256
  namespaceName_length : 1 ≤ namespaceName.length ∧ namespaceName.length ≤ 128
  context_length : 1 ≤ context.length ∧ context.length ≤ 5000000
  query_length : 1 ≤ query.length ∧ query.length ≤ 20000
  maxAttempts_bounds : 1 ≤ maxAttempts ∧ maxAttempts ≤ 10

/-- A request: its headers, and its body as the validation library reads it. -/
structure Request where
  headers : Headers
  body : Except (List Json) CreateRun

structure Response where
  statusCode : Nat
  headers : Headers
  body : Json

/-- The ASCII characters a request id may contain. -/
def isRequestIdCharacter (c : CodePoint) : Bool :=
  (48 ≤ c.val && c.val ≤ 57) || (65 ≤ c.val && c.val ≤ 90) || (97 ≤ c.val && c.val ≤ 122) ||
    c ∈ lit "-_.:"

/-- `_request_id`, with the `uuid4` it would draw. -/
def requestId (lib : StandardLibrary) (headers : Headers) (fresh : Str) : Str :=
  match headers.find? (fun field => decide (lib.lower field.1 = lit "x-request-id") &&
      (0 < field.2.length && field.2.length ≤ 128) && field.2.all isRequestIdCharacter) with
  | some field => field.2
  | none => fresh

/-- `_response`. -/
def response (statusCode : Nat) (body : Json) (requestId : Str) (extra : Headers) : Response where
  statusCode := statusCode
  headers := mergeFields
    [(lit "Content-Type", lit "application/json"), (lit "X-Request-ID", requestId)] extra
  body := body

/-- `{"error": code}`. -/
def errorBody (code : String) : Json := .obj (jsonFields [("error", .str (lit code))])

/-- What `create_run` passes to `enqueue`. -/
def enqueueArguments (settings : Settings) (principal : Principal) (payload : CreateRun) :
    EnqueueArguments where
  tenantId := principal.tenantId
  subjectId := payload.subjectId
  namespaceName := payload.namespaceName
  task := payload.query
  context := payload.context
  limits := payload.limits.modelDump
  modelConfig := settings.publicModelConfig
  includeTrajectory := payload.includeTrajectory
  maxAttempts := payload.maxAttempts

/-- `create_run`, with the identifiers it draws and the store, if it is ready. -/
def createRun (lib : StandardLibrary) (settings : Settings) (now : Timestamp) (fresh : Str)
    (runId : Uuid) (request : Request) (store : Option Database) :
    Except AuthFault (Response × Option Database) :=
  let id := requestId lib request.headers fresh
  match authenticate lib request.headers settings.apiKeys with
  | .error (.authentication code) => .ok (response 401 (errorBody code) id [], store)
  | .error fault => .error fault
  | .ok principal =>
    match request.body with
    | .error details =>
      .ok (response 422 (.obj (jsonFields [("error", .str (lit "invalid_request")),
        ("details", .arr details)])) id [], store)
    | .ok payload =>
      match enforceScope principal payload.tenantId (some payload.subjectId) with
      | .error (.permission code) => .ok (response 403 (errorBody code) id [], store)
      | .error fault => .error fault
      | .ok () =>
        match store with
        | none => .ok (response 503 (errorBody "service_not_ready") id [], none)
        | some db =>
          match perform now (fun _ => false)
              (.enqueue runId (enqueueArguments settings principal payload)) db with
          | .error _ => .ok (response 503 (errorBody "queue_unavailable") id [], some db)
          | .ok (_, db') =>
            .ok (response 202 (.obj (jsonFields [("id", .str runId.text),
              ("status", .str (lit "queued"))])) id
              [(lit "Location", lit "/v1/rlm/runs/" ++ runId.text)], some db')

/-- What a `202` stands for: an authenticated principal, a valid payload within its
scope and a committed `enqueue`. -/
structure Accepted (lib : StandardLibrary) (settings : Settings) (now : Timestamp) (runId : Uuid)
    (request : Request) (db db' : Database) (principal : Principal) (payload : CreateRun) :
    Prop where
  authenticated : authenticate lib request.headers settings.apiKeys = .ok principal
  validated : request.body = .ok payload
  inScope : enforceScope principal payload.tenantId (some payload.subjectId) = .ok ()
  enqueued : ∃ answer, perform now (fun _ => false)
    (.enqueue runId (enqueueArguments settings principal payload)) db = .ok (answer, db')

/-- The handler answers `202` only after the run has been enqueued. -/
theorem accepted_of_createRun {lib : StandardLibrary} {settings : Settings} {now : Timestamp}
    {fresh : Str} {runId : Uuid} {request : Request} {store store' : Option Database}
    {answer : Response}
    (created : createRun lib settings now fresh runId request store = .ok (answer, store'))
    (accepted : answer.statusCode = 202) :
    ∃ db db' principal payload, store = some db ∧ store' = some db' ∧
      Accepted lib settings now runId request db db' principal payload := by
  simp only [createRun] at created
  split at created
  · cases created
    cases accepted
  · cases created
  · next principal authenticated =>
    split at created
    · cases created
      cases accepted
    · next payload validated =>
      split at created
      · cases created
        cases accepted
      · cases created
      · next inScope =>
        split at created
        · cases created
          cases accepted
        · next db =>
          split at created
          · cases created
            cases accepted
          · next enqueued db' performed =>
            cases created
            exact ⟨db, db', principal, payload, rfl, rfl, authenticated, validated, inScope, _,
              performed⟩

/-! ## What the decoder makes of an accepted run -/

/-- The claim that the first attempt of an accepted run should hand out. -/
def expectedClaim (settings : Settings) (principal : Principal) (payload : CreateRun)
    (runId : Uuid) (workerId : Str) : ClaimedRun where
  id := runId.text
  tenantId := principal.tenantId
  subjectId := payload.subjectId
  namespaceName := payload.namespaceName
  task := payload.query
  context := payload.context
  limits := payload.limits.modelDump
  modelConfig := settings.publicModelConfig
  includeTrajectory := payload.includeTrajectory
  attempts := 1
  maxAttempts := payload.maxAttempts
  workerId := workerId

/-- Each text the decoder requires holds a character that is not whitespace. -/
def CreateRun.Visible (payload : CreateRun) : Prop :=
  ∀ text ∈ [payload.subjectId, payload.namespaceName, payload.query, payload.context],
    ∃ c ∈ text, isSpace c = false

theorem CreateRun.visible_iff (payload : CreateRun) :
    payload.Visible ↔ isBlank payload.subjectId = false ∧ isBlank payload.namespaceName = false ∧
      isBlank payload.query = false ∧ isBlank payload.context = false := by
  simp [Visible, isBlank_eq_false_iff]

theorem int?_int (value : Int) : (Json.int value).int? = some value := rfl

/-- The limits within their bounds are the ones the worker relies on. -/
theorem Limits.lookups (limits : Limits) :
    (∃ n, limits.modelDump.lookup (lit "max_iters") = some n ∧ 0 < n) ∧
    (∃ n, limits.modelDump.lookup (lit "max_llm_calls") = some n ∧ 0 ≤ n) ∧
    (∃ n, limits.modelDump.lookup (lit "max_output_chars") = some n ∧ 0 < n) ∧
    ∃ n, limits.modelDump.lookup (lit "timeout_s") = some n ∧ 0 < n := by
  obtain ⟨iters, -⟩ := limits.maxIters_bounds
  obtain ⟨calls, -⟩ := limits.maxLlmCalls_bounds
  obtain ⟨chars, -⟩ := limits.maxOutputChars_bounds
  obtain ⟨timeout, -⟩ := limits.timeoutS_bounds
  exact ⟨⟨_, rfl, by omega⟩, ⟨_, rfl, by omega⟩, ⟨_, rfl, by omega⟩, ⟨_, rfl, by omega⟩⟩

/-- The first claim of a row that still holds an accepted request decodes to the
expected claim if and only if every required text is visible: the other checks of
the decoder pass by the bounds of the validator and of the configuration. -/
theorem decode_accepted_iff {settings : Settings} {principal : Principal} {payload : CreateRun}
    {runId : Uuid} {workerId : Str} {row : RunRow} {enqueued claimedAt : Timestamp}
    (valid : settings.Valid) (tenant : isBlank principal.tenantId = false)
    (worker : isBlank workerId = false)
    (storable : (enqueueArguments settings principal payload).storable = true)
    (same : SameRequest
      (queuedRow enqueued runId.text (enqueueArguments settings principal payload)) row)
    (first : row.attempts = 0) :
    decodeClaimedRun (claimedVersion claimedAt workerId row).returning workerId =
        .ok (expectedClaim settings principal payload runId workerId) ↔ payload.Visible := by
  rw [decodeClaimedRun_ok_iff, payload.visible_iff]
  constructor
  · rintro ⟨-, formed⟩
    exact ⟨formed.subjectId, formed.namespaceName, formed.task, formed.context⟩
  · rintro ⟨subject, namespaceName, query, context⟩
    obtain ⟨iters, calls, chars, timeout⟩ := payload.limits.lookups
    have counters : 1 ≤ payload.maxAttempts := payload.maxAttempts_bounds.1
    refine ⟨?_, ⟨iters, calls, chars, timeout, ⟨_, rfl, valid.rootModel⟩, ⟨_, rfl, valid.subModel⟩,
      ⟨_, rfl, valid.embeddingModel⟩, ⟨_, rfl, valid.embeddingDim⟩, ⟨le_refl _, counters⟩,
      runId.not_isBlank, tenant, subject, namespaceName, query, context, worker⟩⟩
    have attempt : row.attempts + 1 = 1 := by rw [first, Int.zero_add]
    obtain ⟨config, limits⟩ := EnqueueArguments.loads storable
    have readLimits := (congrArg Json.loads same.limits).trans limits
    have readConfig := (congrArg Json.loads same.modelConfig).trans config
    exact ⟨⟨_, decodeJson_text_iff.mpr readLimits, convertFields_map int?_int _⟩,
      ⟨_, decodeJson_text_iff.mpr readConfig, convertFields_map modelValue?_modelValueJson _⟩,
      congrArg Column.int attempt, congrArg Column.int same.maxAttempts,
      congrArg Column.bool same.includeTrajectory, same.id, congrArg Column.text same.tenantId,
      congrArg Column.text same.subjectId, congrArg Column.text same.namespaceName,
      congrArg Column.text same.task, congrArg Column.text same.context, rfl⟩

/-- An accepted request reaches its first claim as it was enqueued. -/
theorem enqueued_request {lib : StandardLibrary} {settings : Settings} {now : Timestamp}
    {runId : Uuid} {request : Request} {db db' : Database} {principal : Principal}
    {payload : CreateRun} (linked : db.Linked)
    (accepted : Accepted lib settings now runId request db db' principal payload) :
    db'.Linked ∧ (enqueueArguments settings principal payload).storable = true ∧
      ∃ row, db'.run? runId.text = some row ∧
      SameRequest (queuedRow now runId.text (enqueueArguments settings principal payload)) row := by
  obtain ⟨answer, performed⟩ := accepted.enqueued
  have effect := perform_effect linked performed
  refine ⟨effect.linked, ?_⟩
  obtain ⟨action, acts, acted⟩ := effect.acted runId.text
  cases answer with
  | enqueued stored =>
    simp only [Operation.Acts, ↓reduceIte] at acts
    subst acts
    obtain ⟨dossier, written, change⟩ := acted
    have keyed := Store.dossier?_key written
    generalize db.dossier? runId.text = before at change
    cases change with
    | @enqueue other arguments storable positive =>
      have sameId : other.text = runId.text := keyed
      refine ⟨storable, _, run?_eq_some_iff.mpr ⟨_, written, rfl⟩, ?_⟩
      rw [sameId]
      exact SameRequest.refl _
  | claimed | beaten | succeeded | failed | recovered | reported => exact False.elim acts

/-- The API's validator and the queue's decoder agree on an accepted run exactly
when every required text of the payload is visible.

Whatever happens to the queue after the `202`, when a claim selects the run for the
first time its row still holds the accepted request, and the decoder returns the
expected claim if and only if subject, namespace, query and context each contain a
character that is not whitespace. -/
theorem accepted_claimable_iff {lib : StandardLibrary} {env : Environment} {settings : Settings}
    {now : Timestamp} {fresh workerId : Str} {runId : Uuid} {request : Request}
    {payload : CreateRun} {db db' : Database} {answer : Response} {created later : QueueState}
    {row : RunRow} (claimedAt : Timestamp) (configured : Settings.fromEnv lib env = .ok settings)
    (linked : db.Linked)
    (submitted : createRun lib settings now fresh runId request (some db) = .ok (answer, some db'))
    (accepted : answer.statusCode = 202) (body : request.body = .ok payload)
    (state : created.db = db') (continued : Runs (QueueState.Step QueueState.anyCall) created later)
    (found : later.db.run? runId.text = some row) (first : row.attempts = 0)
    (worker : isBlank workerId = false) :
    ∃ principal, authenticate lib request.headers settings.apiKeys = .ok principal ∧
      (decodeClaimedRun (claimedVersion claimedAt workerId row).returning workerId =
        .ok (expectedClaim settings principal payload runId workerId) ↔ payload.Visible) := by
  subst state
  obtain ⟨_, _, principal, validated, stored, stored', whole⟩ :=
    accepted_of_createRun submitted accepted
  obtain rfl := Option.some.inj stored
  obtain rfl := Option.some.inj stored'
  obtain rfl : payload = validated := Except.ok.inj (body.symm.trans whole.validated)
  have valid := Settings.valid_of_fromEnv configured
  obtain ⟨entry, member, tenant, -⟩ := authenticate_configured whole.authenticated
  obtain ⟨linked', storable, enqueued, stored, request_⟩ := enqueued_request linked whole
  obtain ⟨row', found', kept⟩ := QueueState.sameRequest_runs linked' continued stored
  obtain rfl : row = row' := Option.some.inj (found.symm.trans found')
  exact ⟨principal, whole.authenticated, decode_accepted_iff valid
    (tenant ▸ valid.tenants entry member) worker storable (request_.trans kept) first⟩

/-! ## A small deployment -/

/-- The parsers on ASCII input: decimal integers, the one float that is read, and
one key file. -/
def smallLibrary : StandardLibrary where
  int := fun text =>
    if !text.isEmpty && text.all (fun c => decide (48 ≤ c.val ∧ c.val ≤ 57)) then
      some (text.foldl (fun total c => 10 * total + (c.val - 48 : Int)) 0)
    else none
  float := fun text => if text = lit "1.0" then some (.finite 1) else none
  loads := fun text =>
    if text = lit "\x7b\"secret\": \"acme\"\x7d" then
      some (.obj [(lit "secret", .str (lit "acme"))])
    else none
  lower := fun text => text.map (fun c =>
    if 65 ≤ c.val ∧ c.val ≤ 90 then codePoint (c.val + 32) else c)

def smallEnvironment : Environment :=
  [(lit "DATABASE_URL", lit "postgresql://db"), (lit "RLM_ROOT_MODEL", lit "root"),
    (lit "RLM_SUB_MODEL", lit "sub"), (lit "EMBEDDING_MODEL", lit "embed"),
    (lit "API_KEYS_JSON", lit "\x7b\"secret\": \"acme\"\x7d"), (lit "EMBEDDING_DIM", lit "8")]

/-- A request with this context and otherwise ordinary texts. -/
def smallPayload (context : Str) (bounded : 1 ≤ context.length ∧ context.length ≤ 5000000) :
    CreateRun where
  tenantId := none
  subjectId := lit "user"
  namespaceName := lit "default"
  context := context
  query := lit "sum"
  limits := Limits.defaults
  includeTrajectory := false
  maxAttempts := 3
  subjectId_length := by decide
  namespaceName_length := by decide
  context_length := bounded
  query_length := by decide
  maxAttempts_bounds := by decide

def smallSubmission (payload : CreateRun) : Request where
  headers := [(lit "Authorization", lit "Bearer secret")]
  body := .ok payload

def smallSettings : Settings where
  databaseUrl := lit "postgresql://db"
  rootModel := lit "root"
  subModel := lit "sub"
  embeddingModel := lit "embed"
  embeddingDim := 8
  apiKeys := [(lit "secret", ⟨lit "acme", none, lit "client"⟩)]
  dbPoolSize := 10
  embeddedWorker := false
  workerPollSeconds := .finite 1
  workerStaleSeconds := 600
  workerBatchSize := 1
  workerMaxPollFailures := 5
  workerRecoveryBatchSize := 100

/-- The small deployment reads its environment. -/
theorem fromEnv_small : Settings.fromEnv smallLibrary smallEnvironment = .ok smallSettings := by
  rfl

/-- A submission to the small deployment's empty tables, observed. -/
def smallOutcome (payload : CreateRun) : Except AuthFault (Nat × Option Int) :=
  (createRun smallLibrary smallSettings 0 [] smallId (smallSubmission payload)
    (some Database.empty)).map (fun outcome => (outcome.1.statusCode,
      (outcome.2.bind (fun db => db.run? smallId.text)).map RunRow.attempts))

/-- What an observed acceptance consists of. -/
theorem of_smallOutcome {payload : CreateRun}
    (observed : smallOutcome payload = .ok (202, some 0)) :
    ∃ answer db row, createRun smallLibrary smallSettings 0 [] smallId (smallSubmission payload)
        (some Database.empty) = .ok (answer, some db) ∧ answer.statusCode = 202 ∧
      db.run? smallId.text = some row ∧ row.attempts = 0 := by
  unfold smallOutcome at observed
  cases submitted : createRun smallLibrary smallSettings 0 [] smallId (smallSubmission payload)
      (some Database.empty) with
  | error fault =>
    rw [submitted] at observed
    cases observed
  | ok outcome =>
    obtain ⟨answer, store⟩ := outcome
    rw [submitted] at observed
    simp only [Except.map, Except.ok.injEq, Prod.mk.injEq] at observed
    obtain ⟨accepted, stored⟩ := observed
    cases store with
    | none => cases stored
    | some db =>
      obtain ⟨row, found, first⟩ := Option.map_eq_some_iff.mp stored
      exact ⟨answer, db, row, rfl, accepted, found, first⟩

/-- An ordinary submission is claimed as it was enqueued. -/
theorem accepted_claimable_small : ∃ answer db row principal,
    createRun smallLibrary smallSettings 0 [] smallId
        (smallSubmission (smallPayload (lit "1 2") (by decide))) (some Database.empty) =
      .ok (answer, some db) ∧ db.run? smallId.text = some row ∧
    decodeClaimedRun (claimedVersion 0 (lit "w") row).returning (lit "w") =
      .ok (expectedClaim smallSettings principal (smallPayload (lit "1 2") (by decide)) smallId
        (lit "w")) := by
  have observed : smallOutcome (smallPayload (lit "1 2") (by decide)) = .ok (202, some 0) := by rfl
  obtain ⟨answer, db, row, submitted, accepted, found, first⟩ := of_smallOutcome observed
  have created : (⟨db, [], [], fun _ => none⟩ : QueueState).db = db := rfl
  have linked : Database.empty.Linked := fun _ _ => rfl
  have worker : isBlank (lit "w") = false := by decide
  have visible : (smallPayload (lit "1 2") (by decide)).Visible := by
    rw [CreateRun.visible_iff]
    decide
  obtain ⟨principal, -, agreed⟩ := accepted_claimable_iff 0 fromEnv_small linked
    submitted accepted rfl created .refl found first worker
  exact ⟨answer, db, row, principal, submitted, found, agreed.mpr visible⟩

/-- A context of one space is accepted with `202`, and the decoder rejects it. -/
theorem blank_context_rejected :
    ¬ ∀ (lib : StandardLibrary) (env : Environment) (settings : Settings)
      (now claimedAt : Timestamp) (fresh workerId : Str) (runId : Uuid) (request : Request)
      (payload : CreateRun) (db db' : Database) (answer : Response) (row : RunRow),
      Settings.fromEnv lib env = .ok settings → db.Linked →
      createRun lib settings now fresh runId request (some db) = .ok (answer, some db') →
      answer.statusCode = 202 → request.body = .ok payload →
      db'.run? runId.text = some row → row.attempts = 0 → isBlank workerId = false →
      ∃ principal, decodeClaimedRun (claimedVersion claimedAt workerId row).returning workerId =
        .ok (expectedClaim settings principal payload runId workerId) := by
  intro always
  have observed : smallOutcome (smallPayload (lit " ") (by decide)) = .ok (202, some 0) := by rfl
  obtain ⟨answer, db, row, submitted, accepted, found, first⟩ := of_smallOutcome observed
  have linked : Database.empty.Linked := fun _ _ => rfl
  obtain ⟨principal, decoded⟩ := always _ _ _ _ 0 _ (lit "w") _ _ _ _ _ _ _ fromEnv_small linked
    submitted accepted rfl found first (by decide)
  have formed := ((decodeClaimedRun_ok_iff _ _ _).mp decoded).2.context
  have blank : isBlank (lit " ") = true := by decide
  exact absurd formed (by simp [expectedClaim, smallPayload, blank])

end RlmApi
