import RlmApi.PythonValues

/-!
# Runtime configuration

`Settings.fromEnv` reads the environment and rejects what the service could not
run with. The standard library's parsers that it calls are the fields of
`StandardLibrary`, and nothing is assumed of them: whatever they read, accepted
settings are valid in the sense of `Settings.Valid`.

The warning about identical root and sub models changes no value and is left out.
-/

namespace RlmApi

/-- Parsers of the Python standard library. -/
structure StandardLibrary where
  /-- `int(text)`, where `none` is a `ValueError`. -/
  int : Str → Option Int
  /-- `float(text)`, where `none` is a `ValueError`. -/
  float : Str → Option PyFloat
  /-- `json.loads(text)`, where `none` is a `JSONDecodeError`. -/
  loads : Str → Option Json
  /-- `text.lower()`. -/
  lower : Str → Str

/-- Raised when deployment configuration is unsafe or incomplete. -/
structure ConfigurationError where
  message : String
deriving DecidableEq, Repr

structure Credential where
  tenantId : Str
  subjectId : Option Str
  role : Str
deriving DecidableEq

structure Settings where
  databaseUrl : Str
  rootModel : Str
  subModel : Str
  embeddingModel : Str
  embeddingDim : Int
  apiKeys : List (Str × Credential)
  dbPoolSize : Int
  embeddedWorker : Bool
  workerPollSeconds : PyFloat
  workerStaleSeconds : Int
  workerBatchSize : Int
  workerMaxPollFailures : Int
  workerRecoveryBatchSize : Int

def Settings.publicModelConfig (settings : Settings) : List (Str × ModelValue) :=
  [(lit "root_model", .text settings.rootModel), (lit "sub_model", .text settings.subModel),
    (lit "embedding_model", .text settings.embeddingModel),
    (lit "embedding_dim", .number settings.embeddingDim)]

/-- The environment, as variable names with their values. -/
abbrev Environment := List (Str × Str)

namespace Config

/-- `required`. -/
def required (env : Environment) (name : String) : Except ConfigurationError Str :=
  let value := (env.lookup (lit name)).getD []
  if isBlank value then .error ⟨name ++ " must be set to a non-empty value"⟩
  else .ok (strip value)

/-- `_positive_int`. -/
def positiveInt (lib : StandardLibrary) (env : Environment) (name : String)
    (default : Option Int) : Except ConfigurationError Int :=
  match env.lookup (lit name), default with
  | none, some value => .ok value
  | raw, _ =>
    match lib.int (raw.getD []) with
    | none => .error ⟨name ++ " must be a positive integer"⟩
    | some value =>
      if value ≤ 0 then .error ⟨name ++ " must be a positive integer"⟩ else .ok value

/-- `value <= 0` on a float; every comparison with NaN is false. -/
def notPositive : PyFloat → Bool
  | .finite value => value ≤ 0
  | .negInf => true
  | .nan | .posInf => false

/-- `_positive_float`, with the text of its default. -/
def positiveFloat (lib : StandardLibrary) (env : Environment) (name : String)
    (default : String) : Except ConfigurationError PyFloat :=
  match lib.float ((env.lookup (lit name)).getD (lit default)) with
  | none => .error ⟨name ++ " must be positive"⟩
  | some value =>
    if notPositive value then .error ⟨name ++ " must be positive"⟩ else .ok value

/-- `_bool`. -/
def bool (lib : StandardLibrary) (raw : Str) : Except ConfigurationError Bool :=
  let normalized := lib.lower (strip raw)
  if normalized ∈ [lit "1", lit "true", lit "yes", lit "on"] then .ok true
  else if normalized ∈ [lit "0", lit "false", lit "no", lit "off"] then .ok false
  else .error ⟨"EMBEDDED_WORKER must be a boolean"⟩

/-- The stripped text of a JSON string. -/
def stripped? : Json → Option Str
  | .str value => some (strip value)
  | _ => none

/-- One entry of `API_KEYS_JSON`, a string or an object. -/
def credential (value : Json) : Except ConfigurationError Credential :=
  match value with
  | .str tenant => .ok ⟨strip tenant, none, lit "client"⟩
  | .obj fields =>
    .ok ⟨((fields.lookup (lit "tenant_id")).bind stripped?).getD [],
      (fields.lookup (lit "subject_id")).bind stripped?,
      ((fields.lookup (lit "role")).bind stripped?).getD (lit "client")⟩
  | _ => .error ⟨"API_KEYS_JSON values must be tenant strings or credential objects"⟩

/-- The body of the loop over the decoded keys. -/
def keyEntry (entry : Str × Json) : Except ConfigurationError (Str × Credential) := do
  if isBlank entry.1 then throw ⟨"API_KEYS_JSON contains an empty API key"⟩
  if entry.1 ≠ strip entry.1 then
    throw ⟨"API_KEYS_JSON keys must not contain surrounding whitespace"⟩
  let parsed ← credential entry.2
  if parsed.tenantId.isEmpty then throw ⟨"Every API key must map to a tenant_id"⟩
  pure (entry.1, parsed)

/-- `_parse_api_keys`. -/
def parseApiKeys (lib : StandardLibrary) (raw : Str) :
    Except ConfigurationError (List (Str × Credential)) :=
  match lib.loads raw with
  | none => .error ⟨"API_KEYS_JSON must be valid JSON"⟩
  | some (.obj (first :: rest)) => do
    let entries ← (first :: rest).mapM keyEntry
    pure (mergeFields [] entries)
  | some _ => .error ⟨"API_KEYS_JSON must be a non-empty JSON object"⟩

end Config

open Config in
/-- `Settings.from_env`. -/
def Settings.fromEnv (lib : StandardLibrary) (env : Environment) :
    Except ConfigurationError Settings := do
  let databaseUrl ← required env "DATABASE_URL"
  let rootModel ← required env "RLM_ROOT_MODEL"
  let subModel ← required env "RLM_SUB_MODEL"
  let embeddingModel ← required env "EMBEDDING_MODEL"
  let apiKeys ← parseApiKeys lib (← required env "API_KEYS_JSON")
  let embeddingDim ← positiveInt lib env "EMBEDDING_DIM" none
  let dbPoolSize ← positiveInt lib env "DB_POOL_SIZE" (some 10)
  let workerStaleSeconds ← positiveInt lib env "WORKER_STALE_SECONDS" (some 600)
  let workerBatchSize ← positiveInt lib env "WORKER_BATCH_SIZE" (some 1)
  let workerMaxPollFailures ← positiveInt lib env "WORKER_MAX_POLL_FAILURES" (some 5)
  let workerRecoveryBatchSize ← positiveInt lib env "WORKER_RECOVERY_BATCH_SIZE" (some 100)
  let workerPollSeconds ← positiveFloat lib env "WORKER_POLL_SECONDS" "1.0"
  let embeddedWorker ← bool lib ((env.lookup (lit "EMBEDDED_WORKER")).getD (lit "false"))
  pure { databaseUrl, rootModel, subModel, embeddingModel, embeddingDim, apiKeys, dbPoolSize,
         embeddedWorker, workerPollSeconds, workerStaleSeconds, workerBatchSize,
         workerMaxPollFailures, workerRecoveryBatchSize }

namespace Config

/-! ## What accepted settings satisfy -/

/-- A required value is never blank. -/
theorem not_isBlank_of_required {env : Environment} {name : String} {value : Str}
    (accepted : required env name = .ok value) : isBlank value = false := by
  simp only [required] at accepted
  split at accepted
  · cases accepted
  · next visible =>
    rw [← Except.ok.inj accepted]
    exact not_isBlank_strip (Bool.not_eq_true _ ▸ visible)

/-- A positive integer is positive, provided that its default is. -/
theorem positive_of_positiveInt {lib : StandardLibrary} {env : Environment} {name : String}
    {default : Option Int} {value : Int} (sane : ∀ n, default = some n → 0 < n)
    (accepted : positiveInt lib env name default = .ok value) : 0 < value := by
  simp only [positiveInt] at accepted
  split at accepted
  · next fallback =>
    rw [← Except.ok.inj accepted]
    exact sane _ rfl
  · split at accepted
    · cases accepted
    · split at accepted
      · cases accepted
      · next positive =>
        rw [← Except.ok.inj accepted]
        exact Int.not_le.mp positive

/-- Text kept by stripping, or the empty text, is blank only when it is empty. -/
theorem not_isBlank_of_stripped {value : Option Json}
    (nonempty : ((value.bind stripped?).getD []).isEmpty = false) :
    isBlank ((value.bind stripped?).getD []) = false := by
  cases value with
  | none => simp at nonempty
  | some json =>
    cases json with
    | str text => exact not_isBlank_strip nonempty
    | null | bool | int | float | arr | obj => simp [stripped?] at nonempty

/-- A credential's tenant is stripped. -/
theorem not_isBlank_of_credential {value : Json} {parsed : Credential}
    (computed : credential value = .ok parsed) (nonempty : parsed.tenantId.isEmpty = false) :
    isBlank parsed.tenantId = false := by
  cases value with
  | str tenant =>
    cases computed
    exact not_isBlank_strip nonempty
  | obj fields =>
    cases computed
    exact not_isBlank_of_stripped nonempty
  | null | bool | int | float | arr => cases computed

/-- The shape of an accepted key file: some entries, each of them read by `keyEntry`. -/
theorem parseApiKeys_ok {lib : StandardLibrary} {raw : Str} {apiKeys : List (Str × Credential)}
    (accepted : parseApiKeys lib raw = .ok apiKeys) :
    ∃ fields entries, lib.loads raw = some (.obj fields) ∧ fields ≠ [] ∧
      fields.mapM keyEntry = .ok entries ∧ apiKeys = mergeFields [] entries := by
  simp only [parseApiKeys] at accepted
  split at accepted
  · cases accepted
  · next first rest loaded =>
    obtain ⟨entries, mapped, collected⟩ := except_bind_ok_iff.mp accepted
    exact ⟨first :: rest, entries, loaded, List.cons_ne_nil _ _, mapped,
      (Except.ok.inj collected).symm⟩
  · cases accepted

/-- What an accepted entry of the key file looks like. -/
theorem keyEntry_ok {entry : Str × Json} {key : Str × Credential}
    (accepted : keyEntry entry = .ok key) :
    key.1 = entry.1 ∧ isBlank key.1 = false ∧ strip key.1 = key.1 ∧
      credential entry.2 = .ok key.2 ∧ key.2.tenantId.isEmpty = false := by
  simp only [keyEntry] at accepted
  split at accepted
  · cases accepted
  · next visible =>
    split at accepted
    · cases accepted
    · next trimmed =>
      obtain ⟨parsed, computed, accepted⟩ := except_bind_ok_iff.mp accepted
      split at accepted
      · cases accepted
      · next nonempty =>
        cases accepted
        rw [ne_eq, not_not] at trimmed
        rw [Bool.not_eq_true] at nonempty visible
        exact ⟨rfl, visible, trimmed.symm, computed, nonempty⟩

/-- Every accepted API key comes from an entry of the key file. -/
theorem entry_of_parseApiKeys {lib : StandardLibrary} {raw : Str}
    {apiKeys : List (Str × Credential)} (accepted : parseApiKeys lib raw = .ok apiKeys)
    {key : Str × Credential} (member : key ∈ apiKeys) :
    ∃ fields, lib.loads raw = some (.obj fields) ∧ ∃ entry ∈ fields, keyEntry entry = .ok key := by
  obtain ⟨fields, entries, loaded, -, mapped, rfl⟩ := parseApiKeys_ok accepted
  rcases mem_mergeFields member with impossible | listed
  · cases impossible
  · exact ⟨fields, loaded, mem_of_mapM_ok mapped listed⟩

/-- An accepted key file keeps the credential of each of its tokens. -/
theorem credential_of_parseApiKeys {lib : StandardLibrary} {raw : Str}
    {apiKeys : List (Str × Credential)} (accepted : parseApiKeys lib raw = .ok apiKeys)
    {fields : List (Str × Json)} (loaded : lib.loads raw = some (.obj fields))
    (distinct : (fields.map Prod.fst).Nodup) {entry : Str × Json} (member : entry ∈ fields) :
    ∃ key ∈ apiKeys, keyEntry entry = .ok key := by
  obtain ⟨fields', entries, loaded', -, mapped, rfl⟩ := parseApiKeys_ok accepted
  obtain rfl : fields = fields' := Json.obj.inj (Option.some.inj (loaded.symm.trans loaded'))
  have keys : entries.map Prod.fst = fields.map Prod.fst := by
    have related := forall₂_of_mapM_ok mapped
    clear mapped loaded loaded' accepted distinct member
    induction related with
    | nil => rfl
    | cons computed _ ih => rw [List.map_cons, List.map_cons, ih, (keyEntry_ok computed).1]
  obtain ⟨key, listed, computed⟩ := result_of_mapM_ok mapped member
  refine ⟨key, ?_, computed⟩
  rw [mergeFields_append [] entries (by rwa [List.nil_append, keys])]
  exact listed

/-- Accepted API keys are distinct, and there is one. -/
theorem keys_of_parseApiKeys {lib : StandardLibrary} {raw : Str}
    {apiKeys : List (Str × Credential)} (accepted : parseApiKeys lib raw = .ok apiKeys) :
    (apiKeys.map Prod.fst).Nodup ∧ apiKeys ≠ [] := by
  obtain ⟨fields, entries, -, some, mapped, rfl⟩ := parseApiKeys_ok accepted
  refine ⟨mergeFields_distinct entries List.nodup_nil, ?_⟩
  cases fields with
  | nil => exact absurd rfl some
  | cons field rest =>
    rw [List.mapM_cons] at mapped
    obtain ⟨first, -, mapped⟩ := except_bind_ok_iff.mp mapped
    obtain ⟨others, -, collected⟩ := except_bind_ok_iff.mp mapped
    cases collected
    have kept : first.1 ∈ (mergeFields [] (first :: others)).map Prod.fst :=
      key_mem_mergeFields others (List.mem_singleton_self _)
    intro none
    rw [none] at kept
    cases kept

/-- Every accepted API key belongs to a tenant. -/
theorem not_isBlank_of_parseApiKeys {lib : StandardLibrary} {raw : Str}
    {apiKeys : List (Str × Credential)} (accepted : parseApiKeys lib raw = .ok apiKeys) :
    ∀ key ∈ apiKeys, isBlank key.2.tenantId = false := by
  intro key member
  obtain ⟨-, -, entry, -, computed⟩ := entry_of_parseApiKeys accepted member
  obtain ⟨-, -, -, parsed, nonempty⟩ := keyEntry_ok computed
  exact not_isBlank_of_credential parsed nonempty

end Config

/-- What the service relies on in its settings. -/
structure Settings.Valid (settings : Settings) : Prop where
  rootModel : isBlank settings.rootModel = false
  subModel : isBlank settings.subModel = false
  embeddingModel : isBlank settings.embeddingModel = false
  embeddingDim : 0 < settings.embeddingDim
  tenants : ∀ key ∈ settings.apiKeys, isBlank key.2.tenantId = false
  dbPoolSize : 0 < settings.dbPoolSize
  workerStaleSeconds : 0 < settings.workerStaleSeconds
  workerBatchSize : 0 < settings.workerBatchSize
  workerMaxPollFailures : 0 < settings.workerMaxPollFailures
  workerRecoveryBatchSize : 0 < settings.workerRecoveryBatchSize

open Config in
/-- Accepted settings are valid, whatever the parsers read. -/
theorem Settings.valid_of_fromEnv {lib : StandardLibrary} {env : Environment} {settings : Settings}
    (accepted : Settings.fromEnv lib env = .ok settings) : settings.Valid := by
  simp only [Settings.fromEnv, except_bind_ok_iff, pure, Except.pure, Except.ok.injEq] at accepted
  obtain ⟨databaseUrl, -, rootModel, root, subModel, sub, embeddingModel, embedding, raw, -,
    apiKeys, keys, embeddingDim, dim, dbPoolSize, pool, stale, staleRead, batch, batchRead,
    failures, failuresRead, recovery, recoveryRead, poll, -, embedded, -, rfl⟩ := accepted
  exact ⟨not_isBlank_of_required root, not_isBlank_of_required sub,
    not_isBlank_of_required embedding, positive_of_positiveInt (by simp) dim,
    not_isBlank_of_parseApiKeys keys, positive_of_positiveInt (by simp) pool,
    positive_of_positiveInt (by simp) staleRead, positive_of_positiveInt (by simp) batchRead,
    positive_of_positiveInt (by simp) failuresRead, positive_of_positiveInt (by simp) recoveryRead⟩

end RlmApi
