import RlmApi.Schema

/-!
# Decoding a claimed row

`decode_claimed_run` turns the row that a claim returns into a `ClaimedRun`, and
raises on anything the worker could not execute. Its input is a row of Python
objects: a scalar column is a string, an integer, a boolean or some other object,
and a JSON column is text or an already decoded JSON value. Text is represented
by what `json.loads` makes of it, so no JSON syntax appears here; for a `jsonb`
column that is the value written.

`decodeClaimedRun_ok_iff` is the decoder's complete specification. Everything
else in this development cites it instead of unfolding the decoder.
-/

namespace RlmApi

structure ClaimedRun where
  id : Str
  tenantId : Str
  subjectId : Str
  namespaceName : Str
  task : Str
  context : Str
  limits : List (Str × Int)
  modelConfig : List (Str × ModelValue)
  includeTrajectory : Bool
  attempts : Int
  maxAttempts : Int
  workerId : Str
deriving DecidableEq

/-- A Python object in a scalar column. -/
inductive Column where
  | text (value : Str)
  | int (value : Int)
  | bool (value : Bool)
  /-- Any other object, `None` included, by its `str`. -/
  | other (rendering : Str)

/-- A Python object in a JSON column. -/
inductive JsonColumn where
  /-- A `str`, by what `json.loads` reads from it, or `none` where it raises. -/
  | text (parsed : Option Json)
  | null
  | bool (value : Bool)
  | int (value : Int)
  | float (value : PyFloat)
  | list (items : List Json)
  | dict (fields : List (Str × Json))

/-- The row `decode_claimed_run` reads. -/
structure ClaimRow where
  id : Column
  tenantId : Column
  subjectId : Column
  namespaceName : Column
  task : Column
  context : Column
  limits : JsonColumn
  modelConfig : JsonColumn
  includeTrajectory : Column
  attempts : Column
  maxAttempts : Column

/-- `str(value)`. -/
def Column.str : Column → Str
  | .text value => value
  | .int value => lit (toString value)
  | .bool value => if value then lit "True" else lit "False"
  | .other rendering => rendering

/-- What `RETURNING` hands to Python: `jsonb` arrives as text. -/
def RunRow.returning (row : RunRow) : ClaimRow where
  id := .other row.id
  tenantId := .text row.tenantId
  subjectId := .text row.subjectId
  namespaceName := .text row.namespaceName
  task := .text row.task
  context := .text row.context
  limits := .text row.limits.loads
  modelConfig := .text row.modelConfig.loads
  includeTrajectory := .bool row.includeTrajectory
  attempts := .int row.attempts
  maxAttempts := .int row.maxAttempts

/-- `_decode_json`. -/
def decodeJson : JsonColumn → Except PyError Json
  | .text (some parsed) => .ok parsed
  | .text none => .error (.valueError "JSONDecodeError")
  | .null => .ok .null
  | .bool value => .ok (.bool value)
  | .int value => .ok (.int value)
  | .float value => .ok (.float value)
  | .list items => .ok (.arr items)
  | .dict fields => .ok (.obj fields)

/-- A text is decoded if `json.loads` reads it. -/
theorem decodeJson_text_iff {parsed : Option Json} {value : Json} :
    decodeJson (.text parsed) = .ok value ↔ parsed = some value := by
  cases parsed <;> simp [decodeJson]

/-- `_json_object`. -/
def jsonObject (column : JsonColumn) : Except PyError (List (Str × Json)) := do
  match ← decodeJson column with
  | .obj fields => pure fields
  | _ => throw (.valueError "database JSON value is not an object")

/-- A JSON integer, which in Python a boolean is too and here is not. -/
def Json.int? : Json → Option Int
  | .int value => some value
  | _ => none

/-- A `str | int` that is not a boolean. -/
def Json.modelValue? : Json → Option ModelValue
  | .str value => some (.text value)
  | .int value => some (.number value)
  | _ => none

/-- Convert every member of an object, or none. -/
def convertFields {α : Type} (convert : Json → Option α) (fields : List (Str × Json)) :
    Option (List (Str × α)) :=
  fields.mapM (fun field => (convert field.2).map (field.1, ·))

/-- `_json_int_object`. -/
def jsonIntObject (column : JsonColumn) : Except PyError (List (Str × Int)) := do
  match convertFields Json.int? (← jsonObject column) with
  | some limits => pure limits
  | none => throw (.valueError "persisted limits must contain integers")

/-- `_json_model_object`. -/
def jsonModelObject (column : JsonColumn) : Except PyError (List (Str × ModelValue)) := do
  match convertFields Json.modelValue? (← jsonObject column) with
  | some modelConfig => pure modelConfig
  | none => throw (.valueError "persisted model configuration has invalid values")

/-- `_required_text`. -/
def requiredText (value : Column) (field : String) : Except PyError Str :=
  match value with
  | .text text =>
      if isBlank text then
        .error (.valueError ("persisted " ++ field ++ " must be a non-empty string"))
      else .ok text
  | _ => .error (.valueError ("persisted " ++ field ++ " must be a non-empty string"))

/-- `_required_int`. -/
def requiredInt (value : Column) (field : String) : Except PyError Int :=
  match value with
  | .int number => .ok number
  | _ => .error (.valueError ("persisted " ++ field ++ " must be an integer"))

/-- `mapping[key]`. -/
def getItem {α : Type} (fields : List (Str × α)) (name : String) : Except PyError α :=
  match fields.lookup (lit name) with
  | some value => .ok value
  | none => .error (.keyError name)

/-- `model_config.get(key)` as an object. -/
def ModelValue.column : Option ModelValue → Column
  | some (.text value) => .text value
  | some (.number value) => .int value
  | none => .other (lit "None")

/-- `REQUIRED_LIMIT_KEYS`, sorted as the error message sorts them. -/
def requiredLimitKeys : List String :=
  ["max_iters", "max_llm_calls", "max_output_chars", "timeout_s"]

/-- `if bad: raise ValueError(message)`. -/
def rejectIf (bad : Bool) (message : String) : Except PyError Unit :=
  if bad then .error (.valueError message) else .ok ()

/-- `embedding_dim` of a model configuration: an integer above zero. -/
def requiredEmbeddingDim (modelConfig : List (Str × ModelValue)) : Except PyError Int :=
  match modelConfig.lookup (lit "embedding_dim") with
  | some (.number dim) =>
      if dim ≤ 0 then .error (.valueError "persisted embedding_dim must be a positive integer")
      else .ok dim
  | _ => .error (.valueError "persisted embedding_dim must be a positive integer")

/-- `_required_text(model_config.get(key), key)`. -/
def requiredModelText (modelConfig : List (Str × ModelValue)) (name : String) :
    Except PyError Str :=
  requiredText (ModelValue.column (modelConfig.lookup (lit name))) name

/-- The check of `include_trajectory`. -/
def requiredBool (value : Column) : Except PyError Bool :=
  match value with
  | .bool flag => .ok flag
  | _ => .error (.valueError "persisted include_trajectory must be a boolean")

def decodeClaimedRun (row : ClaimRow) (workerId : Str) : Except PyError ClaimedRun := do
  let limits ← jsonIntObject row.limits
  let missing := requiredLimitKeys.filter (fun name => (limits.lookup (lit name)).isNone)
  rejectIf (!missing.isEmpty) ("persisted limits are missing: " ++ ", ".intercalate missing)
  let maxIters ← getItem limits "max_iters"
  let maxLlmCalls ← getItem limits "max_llm_calls"
  let maxOutputChars ← getItem limits "max_output_chars"
  let timeoutS ← getItem limits "timeout_s"
  rejectIf (maxIters ≤ 0 || maxLlmCalls < 0 || maxOutputChars ≤ 0 || timeoutS ≤ 0)
    "persisted limits contain invalid values"
  let modelConfig ← jsonModelObject row.modelConfig
  let _ ← requiredModelText modelConfig "root_model"
  let _ ← requiredModelText modelConfig "sub_model"
  let _ ← requiredModelText modelConfig "embedding_model"
  let _ ← requiredEmbeddingDim modelConfig
  let attempts ← requiredInt row.attempts "attempts"
  let maxAttempts ← requiredInt row.maxAttempts "max_attempts"
  rejectIf (attempts < 1 || maxAttempts < 1 || attempts > maxAttempts)
    "persisted attempt counters are invalid"
  let includeTrajectory ← requiredBool row.includeTrajectory
  let id ← requiredText (.text row.id.str) "id"
  let tenantId ← requiredText row.tenantId "tenant_id"
  let subjectId ← requiredText row.subjectId "subject_id"
  let namespaceName ← requiredText row.namespaceName "namespace"
  let task ← requiredText row.task "task"
  let context ← requiredText row.context "context"
  let workerId ← requiredText (.text workerId) "worker_id"
  pure { id, tenantId, subjectId, namespaceName, task, context, limits, modelConfig,
         includeTrajectory, attempts, maxAttempts, workerId }

theorem rejectIf_ok_iff (bad : Bool) (message : String) (out : Unit) :
    rejectIf bad message = .ok out ↔ bad = false := by
  cases bad <;> simp [rejectIf]

theorem requiredText_ok_iff (value : Column) (field : String) (text : Str) :
    requiredText value field = .ok text ↔ value = .text text ∧ isBlank text = false := by
  cases value with
  | text stored =>
    cases blank : isBlank stored <;> simp only [requiredText, blank, ↓reduceIte]
    · constructor
      · intro same
        cases same
        exact ⟨rfl, blank⟩
      · rintro ⟨same, _⟩
        cases same
        rfl
    · constructor
      · intro impossible
        cases impossible
      · rintro ⟨same, visible⟩
        cases same
        rw [blank] at visible
        cases visible
  | int number => simp [requiredText]
  | bool flag => simp [requiredText]
  | other rendering => simp [requiredText]

theorem requiredInt_ok_iff (value : Column) (field : String) (number : Int) :
    requiredInt value field = .ok number ↔ value = .int number := by
  cases value <;> simp [requiredInt]

theorem requiredBool_ok_iff (value : Column) (flag : Bool) :
    requiredBool value = .ok flag ↔ value = .bool flag := by
  cases value <;> simp [requiredBool]

theorem getItem_ok_iff {α : Type} (fields : List (Str × α)) (name : String) (value : α) :
    getItem fields name = .ok value ↔ fields.lookup (lit name) = some value := by
  cases found : fields.lookup (lit name) <;> simp [getItem, found]

theorem requiredEmbeddingDim_ok_iff (modelConfig : List (Str × ModelValue)) (dim : Int) :
    requiredEmbeddingDim modelConfig = .ok dim ↔
      modelConfig.lookup (lit "embedding_dim") = some (.number dim) ∧ 0 < dim := by
  cases found : modelConfig.lookup (lit "embedding_dim") with
  | none => simp [requiredEmbeddingDim, found]
  | some value =>
    cases value with
    | text text => simp [requiredEmbeddingDim, found]
    | number stored =>
      by_cases positive : stored ≤ 0
      · simp only [requiredEmbeddingDim, found, positive, ↓reduceIte, reduceCtorEq,
          Option.some.injEq, ModelValue.number.injEq, false_iff, not_and]
        omega
      · simp only [requiredEmbeddingDim, found, positive, ↓reduceIte, Except.ok.injEq,
          Option.some.injEq, ModelValue.number.injEq]
        omega

theorem jsonObject_ok_iff (column : JsonColumn) (fields : List (Str × Json)) :
    jsonObject column = .ok fields ↔ decodeJson column = .ok (.obj fields) := by
  simp only [jsonObject, except_bind_ok_iff]
  constructor
  · rintro ⟨value, decoded, matched⟩
    cases value <;> simp_all [pure, Except.pure, throw, throwThe, MonadExceptOf.throw]
  · intro decoded
    exact ⟨_, decoded, rfl⟩

theorem jsonIntObject_ok_iff (column : JsonColumn) (limits : List (Str × Int)) :
    jsonIntObject column = .ok limits ↔ ∃ fields, decodeJson column = .ok (.obj fields) ∧
      convertFields Json.int? fields = some limits := by
  simp only [jsonIntObject, except_bind_ok_iff, jsonObject_ok_iff]
  refine exists_congr (fun fields => and_congr_right (fun _ => ?_))
  cases convertFields Json.int? fields <;>
    simp [pure, Except.pure, throw, throwThe, MonadExceptOf.throw]

theorem jsonModelObject_ok_iff (column : JsonColumn) (modelConfig : List (Str × ModelValue)) :
    jsonModelObject column = .ok modelConfig ↔ ∃ fields, decodeJson column = .ok (.obj fields) ∧
      convertFields Json.modelValue? fields = some modelConfig := by
  simp only [jsonModelObject, except_bind_ok_iff, jsonObject_ok_iff]
  refine exists_congr (fun fields => and_congr_right (fun _ => ?_))
  cases convertFields Json.modelValue? fields <;>
    simp [pure, Except.pure, throw, throwThe, MonadExceptOf.throw]

theorem requiredModelText_ok_iff (modelConfig : List (Str × ModelValue)) (name : String)
    (text : Str) : requiredModelText modelConfig name = .ok text ↔
      modelConfig.lookup (lit name) = some (.text text) ∧ isBlank text = false := by
  rw [requiredModelText, requiredText_ok_iff]
  cases modelConfig.lookup (lit name) with
  | none => simp [ModelValue.column]
  | some stored => cases stored <;> simp [ModelValue.column]

/-- The claim's fields are the row's decoded values. -/
structure ClaimRow.Holds (row : ClaimRow) (workerId : Str) (run : ClaimedRun) : Prop where
  limits : ∃ fields, decodeJson row.limits = .ok (.obj fields) ∧
    convertFields Json.int? fields = some run.limits
  modelConfig : ∃ fields, decodeJson row.modelConfig = .ok (.obj fields) ∧
    convertFields Json.modelValue? fields = some run.modelConfig
  attempts : row.attempts = .int run.attempts
  maxAttempts : row.maxAttempts = .int run.maxAttempts
  includeTrajectory : row.includeTrajectory = .bool run.includeTrajectory
  id : row.id.str = run.id
  tenantId : row.tenantId = .text run.tenantId
  subjectId : row.subjectId = .text run.subjectId
  namespaceName : row.namespaceName = .text run.namespaceName
  task : row.task = .text run.task
  context : row.context = .text run.context
  workerId : workerId = run.workerId

/-- What the worker relies on when it executes a claim. -/
structure ClaimedRun.WellFormed (run : ClaimedRun) : Prop where
  maxIters : ∃ n, run.limits.lookup (lit "max_iters") = some n ∧ 0 < n
  maxLlmCalls : ∃ n, run.limits.lookup (lit "max_llm_calls") = some n ∧ 0 ≤ n
  maxOutputChars : ∃ n, run.limits.lookup (lit "max_output_chars") = some n ∧ 0 < n
  timeoutS : ∃ n, run.limits.lookup (lit "timeout_s") = some n ∧ 0 < n
  rootModel : ∃ text, run.modelConfig.lookup (lit "root_model") = some (.text text) ∧
    isBlank text = false
  subModel : ∃ text, run.modelConfig.lookup (lit "sub_model") = some (.text text) ∧
    isBlank text = false
  embeddingModel : ∃ text, run.modelConfig.lookup (lit "embedding_model") = some (.text text) ∧
    isBlank text = false
  embeddingDim : ∃ dim, run.modelConfig.lookup (lit "embedding_dim") = some (.number dim) ∧ 0 < dim
  counters : 1 ≤ run.attempts ∧ run.attempts ≤ run.maxAttempts
  id : isBlank run.id = false
  tenantId : isBlank run.tenantId = false
  subjectId : isBlank run.subjectId = false
  namespaceName : isBlank run.namespaceName = false
  task : isBlank run.task = false
  context : isBlank run.context = false
  workerId : isBlank run.workerId = false

/-- The four limit lookups cannot raise once the missing-key check has passed. -/
theorem no_missing_limits_iff (limits : List (Str × Int)) :
    (!(requiredLimitKeys.filter (fun name => (limits.lookup (lit name)).isNone)).isEmpty) = false ↔
      ∀ name ∈ requiredLimitKeys, ∃ n, limits.lookup (lit name) = some n := by
  simp only [Bool.not_eq_eq_eq_not, Bool.not_false, List.isEmpty_iff, List.filter_eq_nil_iff,
    Option.isNone_iff_eq_none, ← ne_eq, Option.ne_none_iff_exists']

/-- The decoder succeeds exactly on the rows that hold a well-formed claim, and
returns that claim.

Reading a success: each bind exposes the value it passed on, so the checks appear
as the fields of `WellFormed` and the values as the fields of `Holds`. Conversely
every check passes on a well-formed claim, in the order the decoder makes them. -/
theorem decodeClaimedRun_ok_iff (row : ClaimRow) (workerId : Str) (run : ClaimedRun) :
    decodeClaimedRun row workerId = .ok run ↔ row.Holds workerId run ∧ run.WellFormed := by
  simp only [decodeClaimedRun, except_bind_ok_iff, rejectIf_ok_iff, no_missing_limits_iff,
    getItem_ok_iff, jsonIntObject_ok_iff, jsonModelObject_ok_iff, requiredModelText_ok_iff,
    requiredEmbeddingDim_ok_iff, requiredInt_ok_iff, requiredBool_ok_iff, requiredText_ok_iff,
    exists_const, pure, Except.pure, Except.ok.injEq]
  constructor
  · rintro ⟨limits, limitsRead, -, maxIters, hasIters, maxLlmCalls, hasCalls, maxOutputChars,
      hasChars, timeoutS, hasTimeout, bounded, modelConfig, configRead, rootText, root, subText,
      sub, embeddingText, embedding, dimValue, dim, attempts, hasAttempts, maxAttempts,
      hasMaxAttempts, counters, trajectory, hasTrajectory, id, ⟨hasId, idVisible⟩, tenantId,
      ⟨hasTenant, tenantVisible⟩, subjectId, ⟨hasSubject, subjectVisible⟩, namespaceName,
      ⟨hasNamespace, namespaceVisible⟩, task, ⟨hasTask, taskVisible⟩, context,
      ⟨hasContext, contextVisible⟩, worker, ⟨hasWorker, workerVisible⟩, rfl⟩
    simp only [Bool.or_eq_false_iff, decide_eq_false_iff_not] at bounded counters
    have ordered : 1 ≤ attempts ∧ attempts ≤ maxAttempts := by omega
    refine ⟨⟨limitsRead, configRead, hasAttempts, hasMaxAttempts, hasTrajectory, ?_, hasTenant,
        hasSubject, hasNamespace, hasTask, hasContext, ?_⟩,
      ⟨⟨maxIters, hasIters, by omega⟩, ⟨maxLlmCalls, hasCalls, by omega⟩,
        ⟨maxOutputChars, hasChars, by omega⟩, ⟨timeoutS, hasTimeout, by omega⟩, ⟨rootText, root⟩,
        ⟨subText, sub⟩, ⟨embeddingText, embedding⟩, ⟨dimValue, dim⟩, ordered, idVisible,
        tenantVisible, subjectVisible, namespaceVisible, taskVisible, contextVisible,
        workerVisible⟩⟩
    · exact Column.text.inj hasId
    · exact Column.text.inj hasWorker
  · rintro ⟨held, formed⟩
    obtain ⟨maxIters, hasIters, itersPositive⟩ := formed.maxIters
    obtain ⟨maxLlmCalls, hasCalls, callsNonnegative⟩ := formed.maxLlmCalls
    obtain ⟨maxOutputChars, hasChars, charsPositive⟩ := formed.maxOutputChars
    obtain ⟨timeoutS, hasTimeout, timeoutPositive⟩ := formed.timeoutS
    obtain ⟨rootText, root⟩ := formed.rootModel
    obtain ⟨subText, sub⟩ := formed.subModel
    obtain ⟨embeddingText, embedding⟩ := formed.embeddingModel
    obtain ⟨dimValue, dim⟩ := formed.embeddingDim
    obtain ⟨lower, upper⟩ := formed.counters
    refine ⟨run.limits, held.limits, ?_, maxIters, hasIters, maxLlmCalls, hasCalls,
      maxOutputChars, hasChars, timeoutS, hasTimeout, ?_, run.modelConfig, held.modelConfig,
      rootText, root, subText, sub, embeddingText, embedding, dimValue, dim, run.attempts,
      held.attempts, run.maxAttempts, held.maxAttempts, ?_, run.includeTrajectory,
      held.includeTrajectory, run.id, ⟨congrArg Column.text held.id, formed.id⟩, run.tenantId,
      ⟨held.tenantId, formed.tenantId⟩, run.subjectId, ⟨held.subjectId, formed.subjectId⟩,
      run.namespaceName, ⟨held.namespaceName, formed.namespaceName⟩, run.task,
      ⟨held.task, formed.task⟩, run.context, ⟨held.context, formed.context⟩, run.workerId,
      ⟨congrArg Column.text held.workerId, formed.workerId⟩, rfl⟩
    · intro name member
      simp only [requiredLimitKeys, List.mem_cons, List.not_mem_nil, or_false] at member
      rcases member with rfl | rfl | rfl | rfl
      · exact ⟨_, hasIters⟩
      · exact ⟨_, hasCalls⟩
      · exact ⟨_, hasChars⟩
      · exact ⟨_, hasTimeout⟩
    · simp only [Bool.or_eq_false_iff, decide_eq_false_iff_not]
      omega
    · simp only [Bool.or_eq_false_iff, decide_eq_false_iff_not]
      omega

/-! ## What the decoder raises -/

/-- The exceptions that `claim` catches around the decoder. -/
def PyError.isDecodeError : PyError → Bool
  | .keyError _ | .typeError _ | .valueError _ => true
  | .invalidArgument | .dataError | .checkViolation _ => false

/-- Whatever the computation raises, `claim` catches. -/
def RaisesDecodeErrors {α : Type} (result : Except PyError α) : Prop :=
  ∀ error, result = .error error → error.isDecodeError = true

namespace RaisesDecodeErrors

variable {α γ : Type}

theorem ok (value : α) : RaisesDecodeErrors (Except.ok value) :=
  fun _ impossible => nomatch impossible

theorem valueError (message : String) :
    RaisesDecodeErrors (Except.error (.valueError message) : Except PyError α) := by
  intro error raised
  cases raised
  rfl

theorem bind {first : Except PyError α} {rest : α → Except PyError γ}
    (early : RaisesDecodeErrors first) (late : ∀ value, RaisesDecodeErrors (rest value)) :
    RaisesDecodeErrors (first >>= rest) := by
  cases computed : first with
  | ok value => exact late value
  | error error =>
    intro other raised
    cases raised
    exact early error computed

theorem rejectIf (bad : Bool) (message : String) : RaisesDecodeErrors (rejectIf bad message) := by
  cases bad
  · exact ok ()
  · exact valueError message

theorem requiredText (value : Column) (field : String) :
    RaisesDecodeErrors (requiredText value field) := by
  unfold RlmApi.requiredText
  repeat' split
  · exact valueError _
  · exact ok _
  · exact valueError _

theorem requiredInt (value : Column) (field : String) :
    RaisesDecodeErrors (requiredInt value field) := by
  unfold RlmApi.requiredInt
  split
  · exact ok _
  · exact valueError _

theorem requiredBool (value : Column) : RaisesDecodeErrors (requiredBool value) := by
  unfold RlmApi.requiredBool
  split
  · exact ok _
  · exact valueError _

theorem requiredEmbeddingDim (modelConfig : List (Str × ModelValue)) :
    RaisesDecodeErrors (requiredEmbeddingDim modelConfig) := by
  unfold RlmApi.requiredEmbeddingDim
  repeat' split
  · exact valueError _
  · exact ok _
  · exact valueError _

theorem getItem (fields : List (Str × α)) (name : String) :
    RaisesDecodeErrors (getItem fields name) := by
  unfold RlmApi.getItem
  split
  · exact ok _
  · intro error raised
    cases raised
    rfl

theorem decodeJson (column : JsonColumn) : RaisesDecodeErrors (decodeJson column) := by
  unfold RlmApi.decodeJson
  split
  case h_2 => exact valueError _
  all_goals exact ok _

theorem jsonObject (column : JsonColumn) : RaisesDecodeErrors (jsonObject column) := by
  refine bind (decodeJson column) (fun value => ?_)
  split
  · exact ok _
  · exact valueError _

theorem jsonIntObject (column : JsonColumn) : RaisesDecodeErrors (jsonIntObject column) := by
  refine bind (jsonObject column) (fun fields => ?_)
  split
  · exact ok _
  · exact valueError _

theorem jsonModelObject (column : JsonColumn) : RaisesDecodeErrors (jsonModelObject column) := by
  refine bind (jsonObject column) (fun fields => ?_)
  split
  · exact ok _
  · exact valueError _

end RaisesDecodeErrors

/-- Whatever the columns hold, the decoder raises nothing that `claim` lets
through. -/
theorem decodeClaimedRun_raises (row : ClaimRow) (workerId : Str) :
    RaisesDecodeErrors (decodeClaimedRun row workerId) := by
  refine .bind (.jsonIntObject _) (fun limits => .bind (.rejectIf _ _) (fun _ => ?_))
  refine .bind (.getItem _ _) (fun _ => .bind (.getItem _ _) (fun _ => ?_))
  refine .bind (.getItem _ _) (fun _ => .bind (.getItem _ _) (fun _ => ?_))
  refine .bind (.rejectIf _ _) (fun _ => .bind (.jsonModelObject _) (fun modelConfig => ?_))
  refine .bind (.requiredText _ _) (fun _ => .bind (.requiredText _ _) (fun _ => ?_))
  refine .bind (.requiredText _ _) (fun _ => .bind (.requiredEmbeddingDim _) (fun _ => ?_))
  refine .bind (.requiredInt _ _) (fun _ => .bind (.requiredInt _ _) (fun _ => ?_))
  refine .bind (.rejectIf _ _) (fun _ => .bind (.requiredBool _) (fun _ => ?_))
  refine .bind (.requiredText _ _) (fun _ => .bind (.requiredText _ _) (fun _ => ?_))
  refine .bind (.requiredText _ _) (fun _ => .bind (.requiredText _ _) (fun _ => ?_))
  refine .bind (.requiredText _ _) (fun _ => .bind (.requiredText _ _) (fun _ => ?_))
  exact .bind (.requiredText _ _) (fun _ => .ok _)

end RlmApi
