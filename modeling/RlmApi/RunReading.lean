import RlmApi.RunStore

/-!
# Reading a run

`RunStore.get` selects one row by its id and tenant, and builds the JSON object that
`GET /v1/rlm/runs/{id}` answers with. What the driver makes of a text for a `uuid`
parameter, and how a timestamp is rendered, are the fields of `RowReading`.
-/

namespace RlmApi

/-- How parameters reach the database and timestamps come back. -/
structure RowReading where
  /-- `$1::uuid`: the canonical text, or `none` for an `InvalidTextRepresentationError`;
  any other refusal is an error. -/
  uuid : Str → Except PyError (Option Str)
  /-- `value.isoformat()` of a column, which has a time zone. -/
  isoformat : Timestamp → Str

/-- A driver that accepts canonical texts, and reads whole seconds of one minute. -/
def smallReading : RowReading where
  uuid := fun text => if text.length = 36 then .ok (some text) else .error .invalidArgument
  isoformat := fun time =>
    let second := (time / 1000000).toNat % 60
    lit "1970-01-01T00:00:" ++ [codePoint (48 + second / 10), codePoint (48 + second % 10)] ++
      lit "+00:00"

example : smallReading.isoformat (seconds 42) = lit "1970-01-01T00:00:42+00:00" := by
  decide

/-- The values of `RunStatus`. -/
def RunStatus.value : RunStatus → Str
  | .queued => lit "queued"
  | .running => lit "running"
  | .succeeded => lit "succeeded"
  | .failed => lit "failed"

/-- An optional text as JSON. -/
def optionalText (value : Option Str) : Json := (value.map Json.str).getD .null

/-- `_json_list`. -/
def jsonList (column : JsonColumn) : Except PyError (List Json) := do
  match ← decodeJson column with
  | .arr items => pure items
  | _ => throw (.valueError "database JSON value is not an array")

namespace RunStore

/-- `_iso`. -/
def iso (reading : RowReading) (value : Option Timestamp) : Json :=
  optionalText (value.map reading.isoformat)

/-- `_json_object(row["result"]) if row["result"] else None`. -/
def resultMember (row : RunRow) : Except PyError Json :=
  match row.result with
  | some result => (jsonObject (.text result.loads)).map Json.obj
  | none => .ok .null

/-- The member that only runs with a trajectory have. -/
def trajectoryMember (row : RunRow) : Except PyError (List (Str × Json)) :=
  if row.includeTrajectory then
    (decodeJson (row.trajectory.elim .null (fun trajectory => .text trajectory.loads))).map
      (fun trajectory => [(lit "trajectory", trajectory)])
  else .ok []

/-- The object that `get` builds from a row and its decoded JSON columns. -/
def runMembers (reading : RowReading) (row : RunRow) (modelConfig limits : List (Str × Json))
    (result : Json) (usage : List (Str × Json)) (recalled : List Json)
    (trajectory : List (Str × Json)) : List (Str × Json) :=
  jsonFields [("id", .str row.id), ("status", .str row.status.value),
    ("tenant_id", .str row.tenantId), ("subject_id", .str row.subjectId),
    ("namespace", .str row.namespaceName), ("model_config", .obj modelConfig),
    ("limits", .obj limits), ("result", result), ("usage", .obj usage),
    ("error", optionalText row.error), ("attempts", .int row.attempts),
    ("max_attempts", .int row.maxAttempts), ("created_at", iso reading (some row.createdAt)),
    ("updated_at", iso reading (some row.updatedAt)), ("started_at", iso reading row.startedAt),
    ("completed_at", iso reading row.completedAt), ("recalled_memory_ids", .arr recalled)] ++
    trajectory

/-- The columns that `get` decodes, in its order. -/
def runObject (reading : RowReading) (row : RunRow) : Except PyError (List (Str × Json)) := do
  let modelConfig ← jsonObject (.text row.modelConfig.loads)
  let limits ← jsonObject (.text row.limits.loads)
  let result ← resultMember row
  let usage ← jsonObject (.text row.usage.loads)
  let recalled ← jsonList (.text row.memorySnapshot.loads)
  let trajectory ← trajectoryMember row
  pure (runMembers reading row modelConfig limits result usage recalled trajectory)

/-- `WHERE id = $1::uuid AND tenant_id = $2`. -/
def ownRun (id tenantId : Str) (db : Database) : Option RunRow :=
  (db.run? id).filter (fun row => decide (row.tenantId = tenantId))

/-- `get`. -/
def get (reading : RowReading) (runId tenantId : Str) (db : Database) :
    Except PyError (Option (List (Str × Json))) :=
  match reading.uuid runId with
  | .error error => .error error
  | .ok none => .ok none
  | .ok (some id) =>
    if !storableText tenantId then .error (refusedParameters [tenantId])
    else
      match ownRun id tenantId db with
      | none => .ok none
      | some row => (runObject reading row).map some

/-! ## What it reads -/

section Reading

variable {reading : RowReading} {id tenantId : Str} {db first second : Database} {row : RunRow}
  {fields : List (Str × Json)}

/-- The selected row is a row of the tenant under the id. -/
theorem ownRun_eq_some_iff :
    ownRun id tenantId db = some row ↔ db.run? id = some row ∧ row.tenantId = tenantId := by
  simp [ownRun, Option.filter_eq_some_iff]

/-- The selection depends on the tenant's rows only. -/
theorem ownRun_congr (same : ∀ row, row.tenantId = tenantId →
      (row ∈ first.table.rows ↔ row ∈ second.table.rows)) :
    ownRun id tenantId first = ownRun id tenantId second := by
  have transfers : ∀ {one other : Database},
      (∀ row, row.tenantId = tenantId → (row ∈ one.table.rows ↔ row ∈ other.table.rows)) →
      ∀ row, ownRun id tenantId one = some row → ownRun id tenantId other = some row := by
    intro one other same row selected
    obtain ⟨found, own⟩ := ownRun_eq_some_iff.mp selected
    have stored := (same row own).mp (Table.find?_mem found)
    have keyed : row.id = id := Table.find?_key found
    exact ownRun_eq_some_iff.mpr ⟨keyed ▸ Table.find?_of_mem stored, own⟩
  refine Option.ext (fun row => ⟨transfers same row, transfers ?_ row⟩)
  exact fun row own => (same row own).symm

/-- A read answers the same on tables that agree on its tenant. -/
theorem get_congr {runId : Str} (same : ∀ row, row.tenantId = tenantId →
      (row ∈ first.table.rows ↔ row ∈ second.table.rows)) :
    get reading runId tenantId first = get reading runId tenantId second := by
  unfold get
  cases reading.uuid runId with
  | error error => rfl
  | ok parsed =>
    cases parsed with
    | none => rfl
    | some id =>
      dsimp only
      rw [ownRun_congr same]

/-- What a read that finds a run has read. -/
theorem get_eq_some_iff {runId : Str} :
    get reading runId tenantId db = .ok (some fields) ↔
      ∃ id row, reading.uuid runId = .ok (some id) ∧ storableText tenantId = true ∧
        db.run? id = some row ∧ row.tenantId = tenantId ∧ runObject reading row = .ok fields := by
  unfold get
  constructor
  · intro found
    split at found
    · cases found
    · cases found
    · next id parsed =>
      split at found
      · cases found
      · next storable =>
        rw [Bool.not_eq_true, Bool.not_eq_false'] at storable
        split at found
        · cases found
        · next row selected =>
          obtain ⟨stored, own⟩ := ownRun_eq_some_iff.mp selected
          cases built : runObject reading row with
          | error error =>
            rw [built] at found
            cases found
          | ok object =>
            rw [built] at found
            cases found
            exact ⟨id, row, parsed, storable, stored, own, built⟩
  · rintro ⟨id, row, parsed, storable, stored, own, built⟩
    have selected : ownRun id tenantId db = some row := ownRun_eq_some_iff.mpr ⟨stored, own⟩
    simp only [parsed, storable, selected, built]
    rfl

/-- The object of a row whose JSON columns can be read. -/
theorem runObject_of_loads {modelConfig limits usage : List (Str × Json)} {result : Json}
    {recalled : List Json} {trajectory : List (Str × Json)}
    (models : row.modelConfig.loads = some (.obj modelConfig))
    (bounds : row.limits.loads = some (.obj limits)) (answered : resultMember row = .ok result)
    (used : row.usage.loads = some (.obj usage))
    (remembered : row.memorySnapshot.loads = some (.arr recalled))
    (traced : trajectoryMember row = .ok trajectory) :
    runObject reading row =
      .ok (runMembers reading row modelConfig limits result usage recalled trajectory) := by
  simp only [runObject, models, bounds, answered, used, remembered, traced]
  rfl

/-- The members that say whose run it is. -/
theorem runObject_ok (built : runObject reading row = .ok fields) :
    fields.lookup (lit "id") = some (.str row.id) ∧
      fields.lookup (lit "tenant_id") = some (.str row.tenantId) ∧
      fields.lookup (lit "subject_id") = some (.str row.subjectId) := by
  simp only [runObject, except_bind_ok_iff] at built
  obtain ⟨modelConfig, -, limits, -, result, -, usage, -, recalled, -, trajectory, -, built⟩ :=
    built
  cases built
  simp [runMembers, List.lookup_append, lookup_jsonFields, List.lookup_cons]

end Reading

end RunStore

end RlmApi
