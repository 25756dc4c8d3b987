import RlmApi.RequestProvenance
import RlmApi.RunCompletion
import RlmApi.RunReading

/-!
# From the child's prediction to the client

A prediction passes from the child to its parent, from there into the row of its run,
and back out through `get`. Its trajectory is normalised on the way by two different
functions, three times in all; the first result is already what the later ones leave
alone. Whether a trajectory is kept is decided twice, by the claim in Python and by
the row in SQL, and both have it from the request.
-/

namespace RlmApi

open RunStore

/-! ## The way to the parent -/

/-- Only a list of texts is read as one. -/
theorem eq_of_mapM_text? {items : List PyObject} {texts : List Str}
    (read : items.mapM PyObject.text? = some texts) : items = texts.map PyObject.str := by
  induction items generalizing texts with
  | nil =>
    rw [List.mapM_nil] at read
    cases read
    rfl
  | cons item rest ih =>
    simp only [List.mapM_cons, Option.bind_eq_bind, Option.bind_eq_some_iff] at read
    obtain ⟨text, isText, others, readRest, collected⟩ := read
    cases collected
    cases item with
    | str value =>
      cases isText
      rw [List.map_cons, ih readRest]
    | none | bool | int | float | list | sequence | dict | mapping | other => cases isText

/-- The child's payload carries what the prediction says, and a normalised
trajectory. -/
theorem executeRlmInChild_ok {prediction : Prediction} {payload : PyObject}
    (returned : executeRlmInChild prediction = .ok payload) :
    ∃ answer evidence, prediction.answer = .str answer ∧
      prediction.evidence = .list (evidence.map .str) ∧
      payload = childPayload answer evidence prediction.trajectory.jsonValue.pyObject := by
  unfold executeRlmInChild at returned
  split at returned
  · next answer items isText isList =>
    split at returned
    · next evidence read =>
      cases returned
      exact ⟨answer, evidence, isText, eq_of_mapM_text? read ▸ isList, rfl⟩
    · cases returned
  · cases returned
  · cases returned

/-- A trajectory that was normalised stays as it is. -/
theorem jsonValue_pyObject_jsonValue (value : PyObject) :
    value.jsonValue.pyObject.jsonValue = value.jsonValue :=
  Json.normalised_pyObject false _ (value.normal_normalised false)

theorem workerJsonValue_pyObject_jsonValue (value : PyObject) :
    value.jsonValue.pyObject.workerJsonValue = value.jsonValue :=
  Json.normalised_pyObject true _ (value.normal_normalised false)

/-- The parent reads the prediction, with its trajectory normalised. -/
theorem decode_executeRlmInChild {prediction : Prediction} {payload : PyObject}
    {result : RLMSubprocessResult} (returned : executeRlmInChild prediction = .ok payload)
    (decoded : decodeSubprocessPayload payload = .ok result) :
    prediction.answer = .str result.answer ∧
      prediction.evidence = .list (result.evidence.map .str) ∧
      result.trajectory = prediction.trajectory.jsonValue := by
  obtain ⟨answer, evidence, isText, isList, rfl⟩ := executeRlmInChild_ok returned
  rw [decodeSubprocessPayload_childPayload, jsonValue_pyObject_jsonValue] at decoded
  cases decoded
  exact ⟨isText, isList, rfl⟩

/-! ## The way out -/

/-- What a client reads of a run's outcome. -/
structure Reads (object : List (Str × Json)) (answer : Str) (evidence recalled : List Str)
    (trajectory : Option Json) : Prop where
  result : object.lookup (lit "result") = some (.obj (jsonFields [("answer", .str answer),
    ("evidence", .arr (evidence.map .str))]))
  recalled : object.lookup (lit "recalled_memory_ids") = some (.arr (recalled.map .str))
  trajectory : object.lookup (lit "trajectory") = trajectory

/-- The object of a row that succeeded. -/
theorem runObject_succeeded (reading : RowReading) (now : Timestamp) (arguments : SucceedArguments)
    {row : RunRow} {modelConfig limits : List (Str × Json)}
    (models : row.modelConfig.loads = some (.obj modelConfig))
    (bounds : row.limits.loads = some (.obj limits)) :
    ∃ object, runObject reading (succeededVersion now arguments row) = .ok object ∧
      object.lookup (lit "result") = some (.obj arguments.result) ∧
      object.lookup (lit "recalled_memory_ids") =
        some (.arr (arguments.recalledMemoryIds.map .str)) ∧
      object.lookup (lit "trajectory") =
        if row.includeTrajectory then some arguments.trajectory else none := by
  obtain ⟨answered, counted, recalled, traced, -⟩ := arguments.loads
  refine ⟨runMembers reading (succeededVersion now arguments row) modelConfig limits
    (.obj arguments.result) arguments.usage (arguments.recalledMemoryIds.map .str)
    (if row.includeTrajectory then [(lit "trajectory", arguments.trajectory)] else []),
    ?_, ?_, ?_, ?_⟩
  · have member : trajectoryMember (succeededVersion now arguments row) =
        .ok (if row.includeTrajectory then [(lit "trajectory", arguments.trajectory)] else []) := by
      cases kept : row.includeTrajectory with
      | true =>
        simp only [trajectoryMember, succeededVersion, kept, ↓reduceIte, Option.elim_some, traced]
        rfl
      | false => simp [trajectoryMember, succeededVersion, kept]
    have read : resultMember (succeededVersion now arguments row) =
        .ok (.obj arguments.result) := by
      simp only [resultMember, succeededVersion, answered]
      rfl
    exact runObject_of_loads models bounds read counted recalled member
  · simp [runMembers, List.lookup_append, lookup_jsonFields, List.lookup_cons]
  · simp [runMembers, List.lookup_append, lookup_jsonFields, List.lookup_cons]
  · cases kept : row.includeTrajectory with
    | true =>
      simp [runMembers, List.lookup_append, lookup_jsonFields, List.lookup_cons]
    | false =>
      simp [runMembers, lookup_jsonFields, List.lookup_cons]

namespace Delivery

/-- What the child computed is what the client reads, in every later state.

A run is enqueued, handed out, and its child's payload decoded; `process_claim` builds
the arguments of `succeed`, and the call commits under the held lease. Then `get`
returns the child's answer and evidence and the recalled ids in order, and the
trajectory as the child normalised it if and only if the request asked for it.
Otherwise no trajectory is stored. -/
theorem child_result_is_read {embedding : Str → Str × Int}
    {start created state after later : Delivery} {queuedAt now : Timestamp}
    {busy locked : Str → Bool} {runId : Uuid} {request : EnqueueArguments} {run : ClaimedRun}
    {prediction : Prediction} {payload : PyObject} {result : RLMSubprocessResult}
    {latencyMs : Int} {recalled : List Str} {arguments : SucceedArguments}
    {reading : RowReading} {text : Str}
    (reached : Reachable embedding start)
    (submitted : next embedding (.call queuedAt busy (.enqueue runId request)) start = some created)
    (continued : Runs (Step embedding) created state)
    (own : run.id = runId.text)
    (returned : executeRlmInChild prediction = .ok payload)
    (decoded : decodeSubprocessPayload payload = .ok result)
    (built : succeedArguments run latencyMs result recalled = .ok arguments)
    (taken : next embedding (.call now locked (.succeed run arguments)) state = some after)
    (committed : perform now locked (.succeed run arguments) state.queue.db =
      .ok (.succeeded true, after.queue.db))
    (finished : Runs (Step embedding) after later)
    (parsed : reading.uuid text = .ok (some runId.text)) :
    prediction.answer = .str result.answer ∧
      prediction.evidence = .list (result.evidence.map .str) ∧
      (∃ object, get reading text request.tenantId later.queue.db = .ok (some object) ∧
        Reads object result.answer result.evidence recalled
          (if request.includeTrajectory then some prediction.trajectory.jsonValue else none)) ∧
      (request.includeTrajectory = false →
        ∀ row, later.queue.db.run? runId.text = some row → row.trajectory = none) := by
  obtain ⟨isText, isList, normalised⟩ := decode_executeRlmInChild returned decoded
  obtain ⟨outcome, ids, kept, -, -⟩ := succeedArguments_ok built
  have whole := (reached.tail ⟨_, submitted⟩).trans continued
  have handed : run ∈ state.queue.handed := (next_call taken).1
  have sound := sound_of_reachable whole
  -- The row that the success finds holds the request, and the claim was read from it.
  obtain ⟨row, found, enqueued, same⟩ :=
    requested (sound_of_reachable reached) submitted continued
  obtain ⟨row', found', decodedFrom⟩ := (traced_of_reachable whole).claims run handed
  rw [own] at found'
  obtain rfl : row = row' := Option.some.inj (found.symm.trans found')
  have carries := decodedFrom.carries enqueued
  obtain ⟨-, row', -, found', -, written, -⟩ :=
    (perform_effect sound.queue.linked committed).success
  rw [own] at found' written
  obtain rfl : row = row' := Option.some.inj (found.symm.trans found')
  have final := (followed_of_runs (sound.step taken).sound finished).final runId.text _ written
    (Or.inl rfl)
  have wanted : run.includeTrajectory = request.includeTrajectory :=
    carries.includeTrajectory.trans carries.requested
  refine ⟨isText, isList, ?_, fun unwanted row' there => ?_⟩
  · obtain ⟨models, bounds⟩ := EnqueueArguments.loads enqueued.storable
    obtain ⟨object, reads, result', recalled', trajectory⟩ :=
      runObject_succeeded reading now arguments
        ((congrArg Json.loads same.modelConfig).trans models)
        ((congrArg Json.loads same.limits).trans bounds)
    refine ⟨object, get_eq_some_iff.mpr ⟨_, _, parsed, ?_, final, same.tenantId, reads⟩,
      outcome ▸ result', ids ▸ recalled', ?_⟩
    · have storable := enqueued.storable
      simp only [EnqueueArguments.storable, Bool.and_eq_true] at storable
      exact storable.1.1.1.1.1.1.1.1
    · rw [trajectory, kept, keptTrajectory, wanted, ← carries.includeTrajectory, wanted, normalised,
        workerJsonValue_pyObject_jsonValue]
      cases request.includeTrajectory <;> rfl
  · obtain rfl := Option.some.inj (final.symm.trans there)
    have omitted : row.includeTrajectory = false := carries.requested.trans unwanted
    simp only [succeededVersion, omitted, Bool.false_eq_true, ↓reduceIte]

/-- A request that asks for the trajectory. -/
def tracedRequest : EnqueueArguments := { smallRequest 2 with includeTrajectory := true }

/-- The claim its first attempt hands out. -/
def tracedClaim : ClaimedRun := { smallClaim (lit "w") 1 2 with includeTrajectory := true }

/-- A prediction whose trajectory needs every rule of the normaliser. -/
def tracedPrediction : Prediction where
  answer := .str (lit "3")
  evidence := .list [.str (lit "1 + 2")]
  trajectory := .sequence [.dict [(.other (lit "1"), .int 1), (.text (lit "1"), .int 2)],
    .mapping [(.text (lit "k"), .none)] (lit "m"), .other (lit "x")]

/-- What its child sends, and the arguments its worker builds. -/
def tracedArguments : Option (PyObject × RLMSubprocessResult × SucceedArguments) := do
  let payload ← (executeRlmInChild tracedPrediction).toOption
  let result ← (decodeSubprocessPayload payload).toOption
  let arguments ← (succeedArguments tracedClaim 5 result [lit "m"]).toOption
  pure (payload, result, arguments)

/-- The state after a success that commits. -/
def committedSuccess (now : Timestamp) (run : ClaimedRun) (arguments : SucceedArguments)
    (state : Delivery) : Option Delivery :=
  match next smallEmbedding (.call now (fun _ => false) (.succeed run arguments)) state,
    perform now (fun _ => false) (.succeed run arguments) state.queue.db with
  | some after, .ok (.succeeded true, _) => some after
  | _, _ => none

theorem committedSuccess_spec {now : Timestamp} {run : ClaimedRun} {arguments : SucceedArguments}
    {state after : Delivery} (committed : committedSuccess now run arguments state = some after) :
    next smallEmbedding (.call now (fun _ => false) (.succeed run arguments)) state = some after ∧
      perform now (fun _ => false) (.succeed run arguments) state.queue.db =
        .ok (.succeeded true, after.queue.db) := by
  unfold committedSuccess at committed
  split at committed
  · next taken performed =>
    cases committed
    refine ⟨taken, ?_⟩
    obtain ⟨-, answer, db, performed', rfl⟩ := next_call taken
    rw [performed] at performed' ⊢
    cases performed'
    rfl
  · cases committed

/-- The states after its enqueue, its claim and its success. -/
def tracedStates (arguments : SucceedArguments) : Option (Delivery × Delivery × Delivery) := do
  let created ← next smallEmbedding (.call 0 (fun _ => false) (.enqueue smallId tracedRequest))
    initial
  let state ← next smallEmbedding (.call (seconds 1) (fun _ => false) (.claim (lit "w") 10)) created
  let after ← committedSuccess (seconds 2) tracedClaim arguments state
  pure (created, state, after)

/-- The client reads what the child computed of the traced prediction. -/
theorem child_result_is_read_traced : ∃ later object,
    get smallReading smallId.text (lit "acme") later = .ok (some object) ∧
    Reads object (lit "3") [lit "1 + 2"] [lit "m"]
      (some (.arr [.obj [(lit "1", .int 2)], .str (lit "m"), .str (lit "x")])) := by
  have ran : (tracedArguments.bind (fun built => (tracedStates built.2.2).map (fun _ =>
      (built.2.1.answer, built.2.1.evidence)))) = some (lit "3", [lit "1 + 2"]) := by
    decide +kernel
  obtain ⟨⟨payload, result, arguments⟩, traced, replayed⟩ := Option.bind_eq_some_iff.mp ran
  obtain ⟨states, computed, shown⟩ := Option.map_eq_some_iff.mp replayed
  obtain ⟨answer, evidence⟩ := Prod.mk.inj shown
  simp only [tracedArguments, Option.bind_eq_bind, Option.bind_eq_some_iff] at traced
  obtain ⟨payload', returned, result', decoded, arguments', built, collected⟩ := traced
  cases collected
  simp only [tracedStates, Option.bind_eq_bind, Option.bind_eq_some_iff] at computed
  obtain ⟨created, submitted, state, claimed, after, succeeded, collected⟩ := computed
  cases collected
  obtain ⟨taken, committed⟩ := committedSuccess_spec succeeded
  have parsed : smallReading.uuid smallId.text = .ok (some smallId.text) := by rfl
  obtain ⟨-, -, ⟨object, reads, read⟩, -⟩ :=
    child_result_is_read .refl submitted (.single ⟨_, claimed⟩) rfl (toOption_eq_some.mp returned)
      (toOption_eq_some.mp decoded) (toOption_eq_some.mp built) taken committed .refl parsed
  refine ⟨_, object, reads, ?_⟩
  dsimp only at answer evidence
  rw [answer, evidence] at read
  exact read

end Delivery

end RlmApi
