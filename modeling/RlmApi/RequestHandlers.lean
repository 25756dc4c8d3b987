import RlmApi.MemorySearch
import RlmApi.RequestGate
import RlmApi.RunReading

/-!
# The handlers of the API

Every handler that names a subject passes the same steps before its store is called:
authentication, validation, scope. `gated` is these steps, and each handler applies
it to its own request; `get_run` reads the row first and then checks the scope of
what it read.

A body is given by what the validation library makes of it, as in `createRun`. The
search parameters are named strings. Where they are a mapping to the validation
library, it reads them field by field, trimmed of the characters that
`ValidationLibrary` names; where they are none, its error has no field to name, and
`validate_memory_search_params` raises.
-/

namespace RlmApi

open RunStore

/-- The gate in front of a store call: the principal with the validated payload, or
the response that refuses the request. -/
def gated {α : Type} (lib : StandardLibrary) (settings : Settings) (headers : Headers)
    (requestId : Str) (validated : Except Response α) (tenantId : α → Option Str)
    (subjectId : α → Str) : Except AuthFault (Except Response (Principal × α)) :=
  match principalOf lib settings.apiKeys headers requestId with
  | .error fault => .error fault
  | .ok (.error refusal) => .ok (.error refusal)
  | .ok (.ok principal) =>
    match validated with
    | .error refusal => .ok (.error refusal)
    | .ok payload =>
      match scopeRefusal principal (tenantId payload) (some (subjectId payload)) requestId with
      | .error fault => .error fault
      | .ok (some refusal) => .ok (.error refusal)
      | .ok none => .ok (.ok (principal, payload))

/-- What a handler raises. -/
inductive HandlerFault where
  | auth (fault : AuthFault)
  | indexError (message : String)
deriving DecidableEq, Repr

/-- The answer to a body that the validation library refuses. -/
def validatedBody {α : Type} (body : Except (List Json) α) (requestId : Str) : Except Response α :=
  body.mapError (fun details => response 422 (.obj (jsonFields
    [("error", .str (lit "invalid_request")), ("details", .arr details)])) requestId [])

/-! ## Requests -/

/-- A text whose length is declared by `min_length=1` and `max_length`. -/
abbrev BoundedText (maximum : Nat) := {text : Str // 1 ≤ text.length ∧ text.length ≤ maximum}

/-- The payload of `POST /v1/memories`. -/
structure WriteMemory where
  tenantId : Option Str
  subjectId : BoundedText 256
  namespaceName : BoundedText 128
  kind : MemoryKind
  content : BoundedText 12000
  metadata : List (Str × Json)
  importance : PyFloat
  /-- `expires_at.isoformat()`. -/
  expiresAt : Option Str
  importance_bounds : ∀ value, importance = .finite value → 0 ≤ value ∧ value ≤ 1

/-- The parameters of `GET /v1/memories/search`. -/
structure MemorySearchParams where
  tenantId : Option Str
  subjectId : BoundedText 256
  namespaceName : BoundedText 128
  q : BoundedText 20000
  limit : {n : Int // 1 ≤ n ∧ n ≤ 20}

structure WriteRequest where
  headers : Headers
  body : Except (List Json) WriteMemory

structure SearchRequest where
  headers : Headers
  queryParams : List (Str × Str)

structure ReadRequest where
  headers : Headers
  /-- `request.path_params.get("run_id", "")`. -/
  runId : Str

/-! ## The validator of search parameters -/

/-- What the validation library does to search parameters. -/
structure ValidationLibrary where
  /-- The parameters are a mapping to it. A dict is one; robyn's `QueryParams` is none. -/
  isMapping : Bool
  /-- The characters that `strip_whitespace` removes from both ends. -/
  isWhitespace : CodePoint → Bool
  /-- The `int` that a text is read as, where `none` is an error. -/
  int : Str → Option Int

/-- `strip_whitespace`. -/
def ValidationLibrary.trim (validation : ValidationLibrary) (text : Str) : Str :=
  (text.dropWhile validation.isWhitespace).rdropWhile validation.isWhitespace

/-- The validation library on ASCII input in a dict. Its whitespace leaves out the
separators U+001C to U+001F. -/
def smallValidation : ValidationLibrary where
  isMapping := true
  isWhitespace := fun c => isSpace c && !(28 ≤ c.val && c.val ≤ 31)
  int := smallLibrary.int

section Validator

variable (validation : ValidationLibrary) (values : List (Str × Str))

/-- A field with `strip_whitespace` and both lengths. A text with surrogates is not
stripped but refused. -/
def constrainedText (name code : String) (maximum : Nat) (default : Option (BoundedText maximum)) :
    Except String (BoundedText maximum) :=
  match values.lookup (lit name) with
  | none =>
    match default with
    | some text => .ok text
    | none => .error code
  | some value =>
    if bounded : 1 ≤ (validation.trim value).length ∧
        (validation.trim value).length ≤ maximum then
      if isUnicode value then .ok ⟨validation.trim value, bounded⟩ else .error code
    else .error code

/-- Any text is a tenant. -/
def tenantParameter : Option Str := values.lookup (lit "tenant_id")

def subjectParameter : Except String (BoundedText 256) :=
  constrainedText validation values "subject_id" "invalid_subject_id" 256 none

/-- The default namespace fits. -/
theorem default_bounded : 1 ≤ (lit "default").length ∧ (lit "default").length ≤ 128 := by
  decide

def namespaceParameter : Except String (BoundedText 128) :=
  constrainedText validation values "namespace" "invalid_namespace" 128
    (some ⟨lit "default", default_bounded⟩)

def queryParameter : Except String (BoundedText 20000) :=
  constrainedText validation values "q" "invalid_query" 20000 none

def limitParameter : Except String {n : Int // 1 ≤ n ∧ n ≤ 20} :=
  match values.lookup (lit "limit") with
  | none => .ok ⟨8, by decide⟩
  | some value =>
    match validation.int value with
    | none => .error "invalid_limit"
    | some n => if bounded : 1 ≤ n ∧ n ≤ 20 then .ok ⟨n, bounded⟩ else .error "invalid_limit"

/-- The model of the parameters, or the code of the first field that fails. -/
def memorySearchParams : Except String MemorySearchParams := do
  let subjectId ← subjectParameter validation values
  let namespaceName ← namespaceParameter validation values
  let q ← queryParameter validation values
  let limit ← limitParameter validation values
  pure ⟨tenantParameter values, subjectId, namespaceName, q, limit⟩

/-- `validate_memory_search_params`. The error about what is no mapping has an empty
location, whose first entry is read all the same. -/
def validateMemorySearchParams : Except HandlerFault (Except String MemorySearchParams) :=
  if validation.isMapping then .ok (memorySearchParams validation values)
  else .error (.indexError "tuple index out of range")

end Validator

section Validated

variable {validation : ValidationLibrary} {values : List (Str × Str)} {name code : String}
  {maximum : Nat} {default : Option (BoundedText maximum)} {value : Str}

/-- A given text is accepted as what its trimming leaves. -/
theorem constrainedText_ok_iff (given : values.lookup (lit name) = some value)
    (text : BoundedText maximum) :
    constrainedText validation values name code maximum default = .ok text ↔
      validation.trim value = text.val ∧ isUnicode value = true := by
  unfold constrainedText
  rw [given]
  dsimp only
  constructor
  · intro accepted
    split at accepted
    · split at accepted
      · next unicode =>
        cases accepted
        exact ⟨rfl, unicode⟩
      · cases accepted
    · cases accepted
  · rintro ⟨trimmed, unicode⟩
    have bounded : 1 ≤ (validation.trim value).length ∧
        (validation.trim value).length ≤ maximum := trimmed ▸ text.property
    rw [dif_pos bounded, if_pos unicode]
    exact congrArg Except.ok (Subtype.ext trimmed)

/-- Search parameters are accepted field by field. -/
theorem memorySearchParams_ok_iff (search : MemorySearchParams) :
    memorySearchParams validation values = .ok search ↔
      tenantParameter values = search.tenantId ∧
      subjectParameter validation values = .ok search.subjectId ∧
      namespaceParameter validation values = .ok search.namespaceName ∧
      queryParameter validation values = .ok search.q ∧
      limitParameter validation values = .ok search.limit := by
  simp only [memorySearchParams, except_bind_ok_iff]
  constructor
  · rintro ⟨subjectId, subject, namespaceName, named, q, query, limit, limited, collected⟩
    cases collected
    exact ⟨rfl, subject, named, query, limited⟩
  · obtain ⟨tenantId, subjectId, namespaceName, q, limit⟩ := search
    rintro ⟨rfl, subject, named, query, limited⟩
    exact ⟨_, subject, _, named, _, query, _, limited, rfl⟩

/-- The validator returns parameters only from a mapping. -/
theorem validateMemorySearchParams_ok_iff (search : MemorySearchParams) :
    validateMemorySearchParams validation values = .ok (.ok search) ↔
      validation.isMapping = true ∧ memorySearchParams validation values = .ok search := by
  unfold validateMemorySearchParams
  cases validation.isMapping with
  | true => simp
  | false => simp

end Validated

/-! ## The handlers -/

namespace Api

section Handlers

variable (lib : StandardLibrary) (settings : Settings) (fresh : Str)

/-- The answers with `503`. -/
def unavailable (code : String) (requestId : Str) : Response :=
  response 503 (errorBody code) requestId []

/-- `get_run`. -/
def getRun (reading : RowReading) (request : ReadRequest) (store : Option Database) :
    Except AuthFault Response :=
  let id := requestId lib request.headers fresh
  match principalOf lib settings.apiKeys request.headers id with
  | .error fault => .error fault
  | .ok (.error refusal) => .ok refusal
  | .ok (.ok principal) =>
    match store with
    | none => .ok (unavailable "service_not_ready" id)
    | some db =>
      match get reading request.runId principal.tenantId db with
      | .error _ => .ok (unavailable "database_unavailable" id)
      | .ok none => .ok (response 404 (errorBody "run_not_found") id [])
      | .ok (some run) =>
        match scopeRefusal principal none (some (subjectMember run)) id with
        | .error fault => .error fault
        | .ok (some refusal) => .ok refusal
        | .ok none => .ok (response 200 (.obj run) id [])
where
  /-- `str(run["subject_id"])`. -/
  subjectMember (run : List (Str × Json)) : Str :=
    match run.lookup (lit "subject_id") with
    | some (.str subject) => subject
    | _ => []

/-- The arguments of the `write` call. -/
def writeArguments (principal : Principal) (payload : WriteMemory) :
    MemoryStore.WriteArguments where
  tenantId := principal.tenantId
  subjectId := payload.subjectId
  namespaceName := payload.namespaceName
  kind := payload.kind
  content := payload.content
  metadata := payload.metadata
  importance := payload.importance
  expiresAt := payload.expiresAt
  sourceRunId := none

/-- `write_memory` before it uses the store. -/
def writeGate (request : WriteRequest) :
    Except AuthFault (Except Response (Principal × WriteMemory)) :=
  let id := requestId lib request.headers fresh
  gated lib settings request.headers id (validatedBody request.body id)
    WriteMemory.tenantId (fun payload => payload.subjectId)

/-- `write_memory`, with the id that the insertion would draw. -/
def writeMemory (backend : MemoryBackend) (memoryId : Str) (request : WriteRequest)
    (store : Option MemoryTable) : Except AuthFault (Response × Option MemoryTable) :=
  let id := requestId lib request.headers fresh
  match writeGate lib settings fresh request with
  | .error fault => .error fault
  | .ok (.error refusal) => .ok (refusal, store)
  | .ok (.ok (principal, payload)) =>
    match store with
    | none => .ok (unavailable "service_not_ready" id, none)
    | some table =>
      match MemoryStore.write backend settings.embeddingDim memoryId
          (writeArguments principal payload) table with
      | .error _ => .ok (unavailable "memory_store_unavailable" id, some table)
      | .ok (stored, table') =>
        .ok (response 201 (.obj (jsonFields
          [("id", .str stored), ("status", .str (lit "stored"))])) id [], some table')

/-- The arguments of the `search` call. -/
def searchArguments (principal : Principal) (search : MemorySearchParams) : SearchArguments where
  tenantId := principal.tenantId
  subjectId := search.subjectId
  namespaceName := search.namespaceName
  query := search.q
  limit := search.limit

/-- `search_memory` before it uses the store. -/
def searchGate (validation : ValidationLibrary) (request : SearchRequest) :
    Except HandlerFault (Except Response (Principal × MemorySearchParams)) :=
  let id := requestId lib request.headers fresh
  match principalOf lib settings.apiKeys request.headers id with
  | .error fault => .error (.auth fault)
  | .ok (.error refusal) => .ok (.error refusal)
  | .ok (.ok principal) =>
    match validateMemorySearchParams validation request.queryParams with
    | .error fault => .error fault
    | .ok (.error code) => .ok (.error (response 400 (errorBody code) id []))
    | .ok (.ok search) =>
      match scopeRefusal principal search.tenantId (some search.subjectId) id with
      | .error fault => .error (.auth fault)
      | .ok (some refusal) => .ok (.error refusal)
      | .ok none => .ok (.ok (principal, search))

/-- One of the `items`. -/
def resultItem (memory : Memory) : Json :=
  .obj (jsonFields [("id", .str memory.id), ("kind", .str memory.kind),
    ("content", .str memory.content), ("metadata", .obj memory.metadata),
    ("score", .float (.finite memory.score))])

/-- The answer to what `search` returned. -/
def searchResponse (results : Except PyError (List Memory)) (requestId : Str) : Response :=
  match results with
  | .error _ => unavailable "memory_store_unavailable" requestId
  | .ok results =>
    response 200 (.obj (jsonFields [("items", .arr (results.map resultItem))])) requestId []

/-- `search_memory`. -/
def searchMemory (validation : ValidationLibrary) (backend : MemoryBackend) (now : Timestamp)
    (request : SearchRequest) (store : Option MemoryTable) :
    Except HandlerFault (Response × Option MemoryTable) :=
  let id := requestId lib request.headers fresh
  match searchGate lib settings fresh validation request with
  | .error fault => .error fault
  | .ok (.error refusal) => .ok (refusal, store)
  | .ok (.ok (principal, search)) =>
    match store with
    | none => .ok (unavailable "service_not_ready" id, none)
    | some table =>
      let answer := MemoryStore.search backend settings.embeddingDim now
        (searchArguments principal search) table
      .ok (searchResponse answer.1 id, some answer.2)

end Handlers

end Api

/-! ## What passes the gate -/

section Gate

variable {lib : StandardLibrary} {settings : Settings} {headers : Headers} {id : Str}
  {principal : Principal}

variable (id) in
theorem principalOf_ok_iff {credentials : List (Str × Credential)} :
    principalOf lib credentials headers id = .ok (.ok principal) ↔
      authenticate lib headers credentials = .ok principal := by
  unfold principalOf
  cases authenticate lib headers credentials with
  | ok found => simp
  | error fault => cases fault <;> simp

variable (id) in
theorem scopeRefusal_none_iff {tenantId subjectId : Option Str} :
    scopeRefusal principal tenantId subjectId id = .ok none ↔
      enforceScope principal tenantId subjectId = .ok () := by
  unfold scopeRefusal
  cases enforceScope principal tenantId subjectId with
  | ok accepted => simp
  | error fault => cases fault <;> simp

/-- A refused key is answered with `401`. -/
theorem principalOf_refusal {credentials : List (Str × Credential)} {refusal : Response}
    (refused : principalOf lib credentials headers id = .ok (.error refusal)) :
    refusal.statusCode = 401 := by
  unfold principalOf at refused
  split at refused
  · cases refused
  · cases refused
    rfl
  · cases refused

/-- A refused scope is answered with `403`. -/
theorem scopeRefusal_refusal {tenantId subjectId : Option Str} {refusal : Response}
    (refused : scopeRefusal principal tenantId subjectId id = .ok (some refusal)) :
    refusal.statusCode = 403 := by
  unfold scopeRefusal at refused
  split at refused
  · cases refused
  · cases refused
    rfl
  · cases refused

/-- What a scope check lets pass matches the principal. -/
theorem matches_of_enforceScope {tenantId subjectId : Option Str}
    (inScope : enforceScope principal tenantId subjectId = .ok ()) :
    principal.Matches tenantId subjectId := by
  rw [enforceScope_eq] at inScope
  rcases enforceOne_cases tenantId (some principal.tenantId) "tenant_mismatch" with
    ⟨-, agrees, first⟩ | ⟨-, -, first⟩ | ⟨-, message, first⟩
  · rcases enforceOne_cases subjectId principal.subjectId "subject_mismatch" with
      ⟨-, agrees', second⟩ | ⟨-, -, second⟩ | ⟨-, message, second⟩
    · exact ⟨agrees, agrees'⟩
    · simp [first, second, Except.bind] at inScope
    · simp [first, second, Except.bind] at inScope
  · simp [first, Except.bind] at inScope
  · simp [first, Except.bind] at inScope

section Payload

variable {α : Type} {validated : Except Response α} {tenantId : α → Option Str}
  {subjectId : α → Str} {payload : α}

/-- A payload passes exactly when it is valid and in the scope of an authenticated
principal. -/
theorem gated_ok_iff :
    gated lib settings headers id validated tenantId subjectId = .ok (.ok (principal, payload)) ↔
      authenticate lib headers settings.apiKeys = .ok principal ∧ validated = .ok payload ∧
        enforceScope principal (tenantId payload) (some (subjectId payload)) = .ok () := by
  rw [← principalOf_ok_iff id, ← scopeRefusal_none_iff id]
  unfold gated
  constructor
  · intro passed
    split at passed
    · cases passed
    · cases passed
    · next found authenticated =>
      split at passed
      · cases passed
      · next valid =>
        split at passed
        · cases passed
        · cases passed
        · next inScope =>
          cases passed
          exact ⟨authenticated, rfl, inScope⟩
  · rintro ⟨authenticated, rfl, inScope⟩
    simp only [authenticated, inScope]

end Payload

/-- A refusal of the gate changes nothing and answers nothing else: `create_run` is the
gate in front of `enqueue`. -/
theorem createRun_eq (now : Timestamp) (fresh : Str) (runId : Uuid) (request : Request)
    (store : Option Database) :
    createRun lib settings now fresh runId request store =
      match gated lib settings request.headers (requestId lib request.headers fresh)
        (validatedBody request.body (requestId lib request.headers fresh)) CreateRun.tenantId
        CreateRun.subjectId with
      | .error fault => .error fault
      | .ok (.error refusal) => .ok (refusal, store)
      | .ok (.ok (principal, payload)) =>
        match store with
        | none => .ok (Api.unavailable "service_not_ready" (requestId lib request.headers fresh),
            none)
        | some db =>
          match perform now (fun _ => false)
              (.enqueue runId (enqueueArguments settings principal payload)) db with
          | .error _ => .ok (Api.unavailable "queue_unavailable"
              (requestId lib request.headers fresh), some db)
          | .ok (_, db') =>
            .ok (response 202 (.obj (jsonFields [("id", .str runId.text),
              ("status", .str (lit "queued"))])) (requestId lib request.headers fresh)
              [(lit "Location", lit "/v1/rlm/runs/" ++ runId.text)], some db') := by
  simp only [createRun, gated, principalOf, scopeRefusal]
  cases authenticate lib request.headers settings.apiKeys with
  | error fault => cases fault <;> rfl
  | ok principal =>
    cases body : request.body with
    | error details => rfl
    | ok payload =>
      simp only [validatedBody, Except.mapError]
      cases enforceScope principal payload.tenantId (some payload.subjectId) with
      | error fault => cases fault <;> rfl
      | ok accepted => rfl

/-! ## What the handlers do to their stores -/

/-- `create_run` leaves its store, or enqueues what passed the gate. -/
theorem createRun_stored {now : Timestamp} {fresh : Str} {runId : Uuid} {request : Request}
    {store store' : Option Database} {answer : Response}
    (created : createRun lib settings now fresh runId request store = .ok (answer, store')) :
    store' = store ∨ ∃ db db' principal payload enqueued,
      store = some db ∧ store' = some db' ∧
      authenticate lib request.headers settings.apiKeys = .ok principal ∧
      enforceScope principal payload.tenantId (some payload.subjectId) = .ok () ∧
      perform now (fun _ => false) (.enqueue runId (enqueueArguments settings principal payload))
        db = .ok (enqueued, db') := by
  rw [createRun_eq] at created
  split at created
  · cases created
  · cases created
    exact Or.inl rfl
  · next principal payload passed =>
    obtain ⟨authenticated, -, inScope⟩ := gated_ok_iff.mp passed
    split at created
    · cases created
      exact Or.inl rfl
    · next db =>
      split at created
      · cases created
        exact Or.inl rfl
      · next enqueued db' performed =>
        cases created
        exact Or.inr ⟨db, db', principal, payload, enqueued, rfl, rfl, authenticated, inScope,
          performed⟩

namespace Api

/-- A search reaches the store exactly when its parameters are a mapping, valid and in
the scope of an authenticated principal. -/
theorem searchGate_ok_iff {validation : ValidationLibrary} {fresh : Str} {request : SearchRequest}
    {search : MemorySearchParams} :
    searchGate lib settings fresh validation request = .ok (.ok (principal, search)) ↔
      authenticate lib request.headers settings.apiKeys = .ok principal ∧
        validation.isMapping = true ∧
        memorySearchParams validation request.queryParams = .ok search ∧
        enforceScope principal search.tenantId (some search.subjectId) = .ok () := by
  constructor
  · intro passed
    simp only [searchGate] at passed
    split at passed
    · cases passed
    · cases passed
    · next found authenticated =>
      split at passed
      · cases passed
      · cases passed
      · next accepted validated =>
        split at passed
        · cases passed
        · cases passed
        · next inScope =>
          cases passed
          obtain ⟨mapping, valid⟩ := (validateMemorySearchParams_ok_iff _).mp validated
          exact ⟨(principalOf_ok_iff _).mp authenticated, mapping, valid,
            (scopeRefusal_none_iff _).mp inScope⟩
  · rintro ⟨authenticated, mapping, valid, inScope⟩
    have passes := (principalOf_ok_iff (requestId lib request.headers fresh)).mpr authenticated
    have validated := (validateMemorySearchParams_ok_iff _).mpr ⟨mapping, valid⟩
    have admitted := (scopeRefusal_none_iff (requestId lib request.headers fresh)).mpr inScope
    simp only [searchGate, passes, validated, admitted]

/-- `write_memory` leaves its store, or writes what passed the gate. -/
theorem writeMemory_stored {backend : MemoryBackend} {fresh memoryId : Str}
    {request : WriteRequest} {store store' : Option MemoryTable} {answer : Response}
    (written : writeMemory lib settings fresh backend memoryId request store =
      .ok (answer, store')) :
    store' = store ∨ ∃ table table' principal payload stored,
      store = some table ∧ store' = some table' ∧
      writeGate lib settings fresh request = .ok (.ok (principal, payload)) ∧
      MemoryStore.write backend settings.embeddingDim memoryId (writeArguments principal payload)
        table = .ok (stored, table') := by
  simp only [writeMemory] at written
  split at written
  · cases written
  · cases written
    exact Or.inl rfl
  · next principal payload passed =>
    split at written
    · cases written
      exact Or.inl rfl
    · next table =>
      split at written
      · cases written
        exact Or.inl rfl
      · next stored table' wrote =>
        cases written
        exact Or.inr ⟨table, table', principal, payload, stored, rfl, rfl, passed, wrote⟩

/-- `search_memory` leaves its store, or searches for what passed the gate. -/
theorem searchMemory_stored {validation : ValidationLibrary} {backend : MemoryBackend}
    {now : Timestamp} {fresh : Str} {request : SearchRequest} {store store' : Option MemoryTable}
    {answer : Response}
    (searched : searchMemory lib settings fresh validation backend now request store =
      .ok (answer, store')) :
    store' = store ∨ ∃ table principal search, store = some table ∧
      searchGate lib settings fresh validation request = .ok (.ok (principal, search)) ∧
      store' = some (MemoryStore.search backend settings.embeddingDim now
        (searchArguments principal search) table).2 := by
  simp only [searchMemory] at searched
  split at searched
  · cases searched
  · cases searched
    exact Or.inl rfl
  · next principal search passed =>
    split at searched
    · cases searched
      exact Or.inl rfl
    · next table =>
      cases searched
      exact Or.inr ⟨table, principal, search, rfl, passed, rfl⟩

/-- `get_run` answers `200` with a run of the principal's tenant, within its scope. -/
theorem getRun_found {reading : RowReading} {fresh : Str} {request : ReadRequest}
    {store : Option Database} {answer : Response}
    (read : getRun lib settings fresh reading request store = .ok answer)
    (found : answer.statusCode = 200) :
    ∃ db principal run, store = some db ∧
      authenticate lib request.headers settings.apiKeys = .ok principal ∧
      get reading request.runId principal.tenantId db = .ok (some run) ∧
      enforceScope principal none (some (getRun.subjectMember run)) = .ok () ∧
      answer.body = .obj run := by
  simp only [getRun] at read
  split at read
  · cases read
  · next refusal refused =>
    cases read
    exact absurd found (by rw [principalOf_refusal refused]; decide)
  · next principal authenticated =>
    split at read
    · cases read
      cases found
    · next db =>
      split at read
      · cases read
        cases found
      · cases read
        cases found
      · next run stored =>
        split at read
        · cases read
        · next refusal refused =>
          cases read
          exact absurd found (by rw [scopeRefusal_refusal refused]; decide)
        · next inScope =>
          cases read
          exact ⟨db, principal, run, rfl, (principalOf_ok_iff _).mp authenticated, stored,
            (scopeRefusal_none_iff _).mp inScope, rfl⟩

end Api

end Gate

end RlmApi
