import RlmApi.PythonValues

/-!
# The subprocess boundary

The child process sends one Python object, and the parent decodes it. The child has
turned the trajectory into JSON, and the parent does so once more because it cannot
tell who sent the object.
-/

namespace RlmApi

/-- A key of a Python dictionary. -/
inductive PyKey where
  | text (name : Str)
  /-- Any other key, with its `str()`. -/
  | other (rendering : Str)

/-- A Python object as the two functions `_json_value` tell objects apart. -/
inductive PyObject where
  | none
  | bool (value : Bool)
  | int (value : Int)
  | float (value : PyFloat)
  | str (value : Str)
  | list (items : List PyObject)
  /-- A `Sequence` that is neither a list nor a string. -/
  | sequence (items : List PyObject)
  | dict (entries : List (PyKey × PyObject))
  /-- A `Mapping` that is not a dictionary, with its `str()`. -/
  | mapping (entries : List (PyKey × PyObject)) (rendering : Str)
  /-- Any other object, with its `str()`. -/
  | other (rendering : Str)

/-- `str(key)`. -/
def PyKey.str : PyKey → Str
  | .text name => name
  | .other rendering => rendering

mutual
/-- What both functions `_json_value` do; `mappings` says whether a `Mapping` that is
not a dictionary becomes an object too. Keys with the same `str()` collapse, the last
value winning. -/
def PyObject.normalised (mappings : Bool) : PyObject → Json
  | .none => .null
  | .bool value => .bool value
  | .int value => .int value
  | .float value => .float value
  | .str value => .str value
  | .list items => .arr (normalisedItems mappings items)
  | .sequence items => .arr (normalisedItems mappings items)
  | .dict entries => .obj (mergeFields [] (normalisedEntries mappings entries))
  | .mapping entries rendering =>
    if mappings then .obj (mergeFields [] (normalisedEntries mappings entries))
    else .str rendering
  | .other rendering => .str rendering

def normalisedItems (mappings : Bool) : List PyObject → List Json
  | [] => []
  | item :: rest => item.normalised mappings :: normalisedItems mappings rest

def normalisedEntries (mappings : Bool) : List (PyKey × PyObject) → List (Str × Json)
  | [] => []
  | (key, value) :: rest =>
    (key.str, value.normalised mappings) :: normalisedEntries mappings rest
end

/-- `_json_value` of the model runtime, which asks for a `dict`. -/
def PyObject.jsonValue (value : PyObject) : Json := value.normalised false

/-- `_json_value` of the worker, which asks for a `Mapping`. -/
def PyObject.workerJsonValue (value : PyObject) : Json := value.normalised true

mutual
/-- The Python object that a JSON value is. -/
def Json.pyObject : Json → PyObject
  | .null => .none
  | .bool value => .bool value
  | .int value => .int value
  | .float value => .float value
  | .str value => .str value
  | .arr items => .list (pyItems items)
  | .obj fields => .dict (pyEntries fields)

def pyItems : List Json → List PyObject
  | [] => []
  | item :: rest => item.pyObject :: pyItems rest

def pyEntries : List (Str × Json) → List (PyKey × PyObject)
  | [] => []
  | (name, value) :: rest => (.text name, value.pyObject) :: pyEntries rest
end

/-- `RemoteRLMError`. -/
structure RemoteRLMError where
  exceptionType : Str
  retryable : Bool

/-- `RLMSubprocessResult`. -/
structure RLMSubprocessResult where
  answer : Str
  evidence : List Str
  trajectory : Json

/-- The object when it is a string. -/
def PyObject.text? : PyObject → Option Str
  | .str value => some value
  | _ => Option.none

/-- `payload.get(name)`. -/
def getEntry (entries : List (PyKey × PyObject)) (name : String) : PyObject :=
  match entries.find? (fun entry =>
    match entry.1 with
    | .text key => key = lit name
    | .other _ => false) with
  | some entry => entry.2
  | none => .none

def invalidChildPayload : RemoteRLMError := ⟨lit "InvalidChildPayload", true⟩

def invalidChildResult : RemoteRLMError := ⟨lit "InvalidChildResult", false⟩

/-- The error a child reports. -/
def reportedError (entries : List (PyKey × PyObject)) : RemoteRLMError :=
  match getEntry entries "exception_type", getEntry entries "retryable" with
  | .str exceptionType, .bool retryable => ⟨exceptionType, retryable⟩
  | _, _ => invalidChildPayload

/-- The result a child reports. -/
def reportedResult (entries : List (PyKey × PyObject)) :
    Except RemoteRLMError RLMSubprocessResult :=
  match getEntry entries "answer", getEntry entries "evidence" with
  | .str answer, .list evidence =>
    match evidence.mapM PyObject.text? with
    | some texts => .ok ⟨answer, texts, (getEntry entries "trajectory").jsonValue⟩
    | none => .error invalidChildResult
  | _, _ => .error invalidChildResult

/-- `decode_subprocess_payload`. -/
def decodeSubprocessPayload : PyObject → Except RemoteRLMError RLMSubprocessResult
  | .dict entries =>
    match getEntry entries "ok" with
    | .bool false => .error (reportedError entries)
    | _ => reportedResult entries
  | _ => .error invalidChildPayload

/-- What a child sends for a prediction whose answer and evidence have the right
types. -/
def childPayload (answer : Str) (evidence : List Str) (trajectory : PyObject) : PyObject :=
  .dict [(.text (lit "ok"), .bool true), (.text (lit "answer"), .str answer),
    (.text (lit "evidence"), .list (evidence.map .str)), (.text (lit "trajectory"), trajectory)]

/-- The members of a prediction; a missing trajectory is `None`. -/
structure Prediction where
  answer : PyObject
  evidence : PyObject
  trajectory : PyObject

/-- The end of `_execute_rlm_in_child`. -/
def executeRlmInChild (prediction : Prediction) : Except PyError PyObject :=
  match prediction.answer, prediction.evidence with
  | .str answer, .list evidence =>
    match evidence.mapM PyObject.text? with
    | some texts => .ok (childPayload answer texts prediction.trajectory.jsonValue.pyObject)
    | none => .error (.valueError "invalid evidence type")
  | .str _, _ => .error (.valueError "invalid evidence type")
  | _, _ => .error (.valueError "invalid answer type")

/-- A list of texts is read as it is. -/
theorem mapM_text? (texts : List Str) :
    (texts.map PyObject.str).mapM PyObject.text? = some texts := by
  induction texts with
  | nil => rfl
  | cons text rest ih => simp [PyObject.text?, ih]

/-- The parent accepts such a payload, and reads what the child was given. -/
theorem decodeSubprocessPayload_childPayload (answer : Str) (evidence : List Str)
    (trajectory : PyObject) :
    decodeSubprocessPayload (childPayload answer evidence trajectory) =
      .ok ⟨answer, evidence, trajectory.jsonValue⟩ := by
  have entries : decodeSubprocessPayload (childPayload answer evidence trajectory) =
      match (evidence.map PyObject.str).mapM PyObject.text? with
      | some texts => .ok ⟨answer, texts, trajectory.jsonValue⟩
      | none => .error invalidChildResult := rfl
  rw [entries, mapM_text?]

/-! ## Normalised values -/

mutual
/-- No object has a key twice: a value of Python's own JSON types. -/
def Json.Normal : Json → Prop
  | .null | .bool _ | .int _ | .float _ | .str _ => True
  | .arr items => NormalItems items
  | .obj fields => (fields.map Prod.fst).Nodup ∧ NormalFields fields

def NormalItems : List Json → Prop
  | [] => True
  | item :: rest => item.Normal ∧ NormalItems rest

def NormalFields : List (Str × Json) → Prop
  | [] => True
  | (_, value) :: rest => value.Normal ∧ NormalFields rest
end

theorem normalFields_iff (fields : List (Str × Json)) :
    NormalFields fields ↔ ∀ field ∈ fields, field.2.Normal := by
  induction fields with
  | nil => simp [NormalFields]
  | cons field rest ih => simp [NormalFields, ih]

/-- A dictionary of normalised values, with its keys collapsed. -/
theorem normal_mergeFields {fields : List (Str × Json)} (normal : NormalFields fields) :
    (Json.obj (mergeFields [] fields)).Normal := by
  refine ⟨mergeFields_distinct fields List.nodup_nil, (normalFields_iff _).mpr ?_⟩
  intro field member
  rcases mem_mergeFields member with impossible | listed
  · cases impossible
  · exact (normalFields_iff _).mp normal field listed

mutual
/-- What either function returns is normalised. -/
theorem PyObject.normal_normalised (mappings : Bool) :
    (value : PyObject) → (value.normalised mappings).Normal
  | .none | .bool _ | .int _ | .float _ | .str _ | .other _ => by
    simp [PyObject.normalised, Json.Normal]
  | .list items | .sequence items => by
    simpa only [PyObject.normalised, Json.Normal] using normal_normalisedItems mappings items
  | .dict entries => by
    simpa only [PyObject.normalised] using
      normal_mergeFields (normal_normalisedEntries mappings entries)
  | .mapping entries rendering => by
    cases mappings with
    | true =>
      simpa only [PyObject.normalised, if_pos] using
        normal_mergeFields (normal_normalisedEntries true entries)
    | false => simp [PyObject.normalised, Json.Normal]

theorem normal_normalisedItems (mappings : Bool) :
    (items : List PyObject) → NormalItems (normalisedItems mappings items)
  | [] => by simp [normalisedItems, NormalItems]
  | item :: rest => by
    simp only [normalisedItems, NormalItems]
    exact ⟨item.normal_normalised mappings, normal_normalisedItems mappings rest⟩

theorem normal_normalisedEntries (mappings : Bool) :
    (entries : List (PyKey × PyObject)) → NormalFields (normalisedEntries mappings entries)
  | [] => by simp [normalisedEntries, NormalFields]
  | (_, value) :: rest => by
    simp only [normalisedEntries, NormalFields]
    exact ⟨value.normal_normalised mappings, normal_normalisedEntries mappings rest⟩
end

mutual
/-- Both functions are the identity on normalised values. -/
theorem Json.normalised_pyObject (mappings : Bool) :
    (value : Json) → value.Normal → value.pyObject.normalised mappings = value
  | .null, _ | .bool _, _ | .int _, _ | .float _, _ | .str _, _ => rfl
  | .arr items, normal => by
    rw [Json.Normal] at normal
    rw [Json.pyObject, PyObject.normalised, normalisedItems_pyItems mappings items normal]
  | .obj fields, normal => by
    rw [Json.Normal] at normal
    rw [Json.pyObject, PyObject.normalised, normalisedEntries_pyEntries mappings fields normal.2,
      mergeFields_append [] fields normal.1, List.nil_append]

theorem normalisedItems_pyItems (mappings : Bool) :
    (items : List Json) → NormalItems items → normalisedItems mappings (pyItems items) = items
  | [], _ => rfl
  | item :: rest, normal => by
    rw [NormalItems] at normal
    rw [pyItems, normalisedItems, item.normalised_pyObject mappings normal.1,
      normalisedItems_pyItems mappings rest normal.2]

theorem normalisedEntries_pyEntries (mappings : Bool) :
    (fields : List (Str × Json)) → NormalFields fields →
      normalisedEntries mappings (pyEntries fields) = fields
  | [], _ => rfl
  | (name, value) :: rest, normal => by
    rw [NormalFields] at normal
    rw [pyEntries, normalisedEntries, value.normalised_pyObject mappings normal.1,
      normalisedEntries_pyEntries mappings rest normal.2]
    rfl
end

end RlmApi
