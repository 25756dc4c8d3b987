import RlmApi.DeliveryInvariant
import RlmApi.JsonDumps
import RlmApi.ModelRuntime

/-!
# From a prediction to its summary

The producer of summaries is the end of `process_claim`, which passes the first
12000 code points of the answer to `succeed`. The consumer is `claim_summary`, which
rejects a row with a blank text and completes it without delivery. Whether the
consumer accepts what the producer writes depends on the answer alone: scope and
embedding configuration come from a claim that was decoded.
-/

namespace RlmApi

open RunStore

/-- `_model_id`. -/
def modelId (modelConfig : List (Str × ModelValue)) (name : String) : Except PyError Str :=
  match modelConfig.lookup (lit name) with
  | some (.text value) =>
    if value.isEmpty then .error (.valueError ("persisted model configuration is missing " ++ name))
    else .ok value
  | _ => .error (.valueError ("persisted model configuration is missing " ++ name))

/-- A configured text that is not blank is read as it is. -/
theorem modelId_ok {modelConfig : List (Str × ModelValue)} {name : String} {text : Str}
    (configured : modelConfig.lookup (lit name) = some (.text text))
    (visible : isBlank text = false) : modelId modelConfig name = .ok text := by
  have nonempty : text.isEmpty = false := by
    cases text with
    | nil => cases visible
    | cons c rest => rfl
  simp only [modelId, configured, nonempty, Bool.false_eq_true, ↓reduceIte]

/-- `prediction.answer[:12_000]`. -/
def summaryContent (prediction : RLMSubprocessResult) : Str := prediction.answer.take 12000

/-- The `summary_metadata` of `process_claim`. -/
def summaryMetadata (run : ClaimedRun) (recalled : List Str) : List (Str × Json) :=
  jsonFields [("run_id", .str run.id), ("source_memory_ids", .arr (recalled.map .str))]

/-- The trajectory that `process_claim` keeps, normalised once more. -/
def keptTrajectory (run : ClaimedRun) (prediction : RLMSubprocessResult) : Json :=
  if run.includeTrajectory then prediction.trajectory.pyObject.workerJsonValue else .null

/-- What `succeed` raises for arguments that are not accepted: `json.dumps` cannot write a
column, PostgreSQL cannot read one as JSON, or else it is the content of the summary. -/
def succeedRefusal (columns : List Json) (content : Str) : PyError :=
  if !columns.all Json.convertible then tooManyDigits
  else if columns.all (fun column => column.every readable paired) then
    refusedParameters [content]
  else .dataError

/-- The arguments with which `process_claim` calls `succeed`; `recalled` are the ids
of the recalled memories. The answer and the evidence have the right types already.
An argument that PostgreSQL does not accept makes the call raise. -/
def succeedArguments (run : ClaimedRun) (latencyMs : Int) (prediction : RLMSubprocessResult)
    (recalled : List Str) : Except PyError SucceedArguments := do
  let rootModel ← modelId run.modelConfig "root_model"
  let subModel ← modelId run.modelConfig "sub_model"
  let result := jsonFields [("answer", .str prediction.answer),
    ("evidence", .arr (prediction.evidence.map .str))]
  let usage := jsonFields [("latency_ms", .int latencyMs), ("attempt", .int run.attempts),
    ("root_model", .str rootModel), ("sub_model", .str subModel)]
  let trajectory := keptTrajectory run prediction
  if storable : (storableFields result && storableFields usage &&
      storableItems (recalled.map .str) && trajectory.storable &&
      storableText (summaryContent prediction) &&
      storableFields (summaryMetadata run recalled)) = true then
    pure { result := result, usage := usage, recalledMemoryIds := recalled,
           trajectory := trajectory, summaryContent := summaryContent prediction,
           summaryMetadata := summaryMetadata run recalled, storable := storable }
  else throw (succeedRefusal
    [.obj result, .obj usage, .arr (recalled.map .str), trajectory] (summaryContent prediction))

/-- What `process_claim` passes to `succeed`, whether PostgreSQL accepts it or not. -/
structure SuccessReport where
  result : List (Str × Json)
  usage : List (Str × Json)
  recalledMemoryIds : List Str
  trajectory : Json
  summaryContent : Str
  summaryMetadata : List (Str × Json)

/-- What `process_claim` reports of a prediction whose answer and evidence have the
right types. -/
def successReport (run : ClaimedRun) (latencyMs : Int) (prediction : RLMSubprocessResult)
    (recalled : List Str) : Except PyError SuccessReport := do
  let rootModel ← modelId run.modelConfig "root_model"
  let subModel ← modelId run.modelConfig "sub_model"
  pure {
    result := jsonFields [("answer", .str prediction.answer),
      ("evidence", .arr (prediction.evidence.map .str))]
    usage := jsonFields [("latency_ms", .int latencyMs), ("attempt", .int run.attempts),
      ("root_model", .str rootModel), ("sub_model", .str subModel)]
    recalledMemoryIds := recalled
    trajectory := keptTrajectory run prediction
    summaryContent := summaryContent prediction
    summaryMetadata := summaryMetadata run recalled }

/-- The arguments of a call that does not raise are the report. -/
theorem report_of_succeedArguments {run : ClaimedRun} {latencyMs : Int}
    {prediction : RLMSubprocessResult} {recalled : List Str} {arguments : SucceedArguments}
    (built : succeedArguments run latencyMs prediction recalled = .ok arguments) :
    successReport run latencyMs prediction recalled = .ok
      ⟨arguments.result, arguments.usage, arguments.recalledMemoryIds, arguments.trajectory,
        arguments.summaryContent, arguments.summaryMetadata⟩ := by
  simp only [succeedArguments, except_bind_ok_iff] at built
  obtain ⟨rootModel, root, subModel, sub, built⟩ := built
  split at built
  · cases built
    rw [successReport, root, sub]
    rfl
  · cases built

/-- A report with a part that is not accepted makes the call raise. -/
theorem succeedArguments_refused {run : ClaimedRun} {latencyMs : Int}
    {prediction : RLMSubprocessResult} {recalled : List Str} {report : SuccessReport}
    (reported : successReport run latencyMs prediction recalled = .ok report)
    (refused : (storableFields report.result && storableFields report.usage &&
      storableItems (report.recalledMemoryIds.map .str) && report.trajectory.storable &&
      storableText report.summaryContent && storableFields report.summaryMetadata) = false) :
    succeedArguments run latencyMs prediction recalled = .error (succeedRefusal
      [.obj report.result, .obj report.usage, .arr (report.recalledMemoryIds.map .str),
        report.trajectory] report.summaryContent) := by
  simp only [successReport, except_bind_ok_iff] at reported
  obtain ⟨rootModel, root, subModel, sub, same⟩ := reported
  cases same
  rw [succeedArguments, root, sub]
  exact dif_neg (Bool.eq_false_iff.mp refused)

/-- The arguments of `succeed` are cut from the prediction, whichever models the run names. -/
theorem succeedArguments_ok {run : ClaimedRun} {latencyMs : Int} {prediction : RLMSubprocessResult}
    {recalled : List Str} {arguments : SucceedArguments}
    (built : succeedArguments run latencyMs prediction recalled = .ok arguments) :
    arguments.result = jsonFields [("answer", .str prediction.answer),
        ("evidence", .arr (prediction.evidence.map .str))] ∧
      arguments.recalledMemoryIds = recalled ∧
      arguments.trajectory = keptTrajectory run prediction ∧
      arguments.summaryContent = summaryContent prediction ∧
      arguments.summaryMetadata = summaryMetadata run recalled := by
  have reported := report_of_succeedArguments built
  simp only [successReport, except_bind_ok_iff] at reported
  obtain ⟨rootModel, -, subModel, -, same⟩ := reported
  injection same with same
  injection same with result usage recalledIds trajectory content metadata
  exact ⟨result.symm, recalledIds.symm, trajectory.symm, content.symm, metadata.symm⟩

/-- The embedding configuration that a success stores is the claim's. -/
theorem embeddingParameters_ok {run : ClaimedRun} {model : Str} {dim : Int}
    (embedded : embeddingParameters run = .ok (model, dim)) :
    run.modelConfig.lookup (lit "embedding_model") = some (.text model) ∧
      run.modelConfig.lookup (lit "embedding_dim") = some (.number dim) := by
  simp only [embeddingParameters, except_bind_ok_iff, getItem_ok_iff] at embedded
  obtain ⟨modelValue, foundModel, dimValue, foundDim, built⟩ := embedded
  split at built
  · next text number =>
    split at built
    · cases built
    · split at built
      · cases built
      · cases built
        exact ⟨foundModel, foundDim⟩
  · cases built

/-- The row that the success of a decoded claim proposes can be decoded, if its
content is not blank. -/
theorem summaryRow_deliverable_iff {run : ClaimedRun} (formed : run.WellFormed) {now : Timestamp}
    {arguments : SucceedArguments} {embedding : Str × Int}
    (embedded : embeddingParameters run = .ok embedding) :
    (summaryRow now run arguments embedding).Deliverable ↔
      isBlank arguments.summaryContent = false := by
  refine ⟨fun deliverable => deliverable.content, fun visible => ?_⟩
  obtain ⟨model, dim⟩ := embedding
  obtain ⟨text, configured, nonblank⟩ := formed.embeddingModel
  have same : model = text := by
    have found := (embeddingParameters_ok embedded).1
    exact ModelValue.text.inj (Option.some.inj (found.symm.trans configured))
  obtain ⟨-, -, -, -, metadata⟩ := arguments.loads
  exact ⟨formed.tenantId, formed.subjectId, formed.namespaceName, same ▸ nonblank, visible, _,
    metadata⟩

namespace Delivery

/-- The summary of a run decodes as it was written, whoever claims it and when, and
it was not rejected and is not about to be. -/
structure SummaryIntact (state : Delivery) (run : ClaimedRun) (content : Str)
    (metadata : List (Str × Json)) : Prop where
  decodes : ∃ summary, state.outbox.find? run.id = some summary ∧
    summary.lastError ≠ some invalidConfiguration ∧
    ∀ now workerId, ∃ item,
      decodeSummary (claimedSummary now workerId summary).returning workerId = .ok item ∧
        item.tenantId = run.tenantId ∧ item.subjectId = run.subjectId ∧
        item.namespaceName = run.namespaceName ∧
        run.modelConfig.lookup (lit "embedding_model") = some (.text item.embeddingModel) ∧
        run.modelConfig.lookup (lit "embedding_dim") = some (.number item.embeddingDim) ∧
        item.content = content ∧ item.metadata = metadata
  accepted : ∀ workerId, state.phases workerId ≠ .poisoned run.id

/-- A deliverable row is decoded to an item of it, by every worker at every time. -/
theorem decodes_of_deliverable {summary : OutboxRow} (deliverable : summary.Deliverable)
    (now : Timestamp) (workerId : Str) : ∃ item,
      decodeSummary (claimedSummary now workerId summary).returning workerId = .ok item ∧
        item.Of (claimedSummary now workerId summary) := by
  have same := claimedSummary_same now workerId summary
  obtain ⟨item, decoded⟩ := (same.deliverable.mpr deliverable).decodes workerId
  exact ⟨item, decoded, ((decodeSummary_ok_iff _ _ _).mp decoded).1⟩

/-- A committed success of a decoded claim leaves a summary that decodes as it was
written in every later state, if and only if the first 12000 code points of the
answer are not all whitespace. -/
theorem summary_intact_iff {embedding : Str → Str × Int} {state after : Delivery}
    {row : ClaimRow} {workerId : Str} {run : ClaimedRun} {prediction : RLMSubprocessResult}
    {latencyMs : Int} {recalled : List Str} {arguments : SucceedArguments} {now : Timestamp}
    {locked : Str → Bool} (reached : Reachable embedding state)
    (decoded : decodeClaimedRun row workerId = .ok run)
    (built : succeedArguments run latencyMs prediction recalled = .ok arguments)
    (taken : next embedding (.call now locked (.succeed run arguments)) state = some after)
    (committed : perform now locked (.succeed run arguments) state.queue.db =
      .ok (.succeeded true, after.queue.db)) :
    (∀ later, Runs (Step embedding) after later → later.SummaryIntact run
      (prediction.answer.take 12000) (summaryMetadata run recalled)) ↔
      ∃ c ∈ prediction.answer.take 12000, isSpace c = false := by
  have before := sound_of_reachable reached
  have sound := (before.step taken).sound
  have formed := ((decodeClaimedRun_ok_iff _ _ _).mp decoded).2
  obtain ⟨-, -, -, content, metadata⟩ := succeedArguments_ok built
  obtain ⟨⟨model, dim⟩, -, embedded, -, -, -, proposed⟩ :=
    before.summarized (perform_effect before.queue.linked committed)
  have found : after.outbox.find? run.id = some (summaryRow now run arguments (model, dim)) := by
    rw [Delivery.outbox, proposed, if_pos rfl]
  have deliverable : (summaryRow now run arguments (model, dim)).Deliverable ↔ _ :=
    summaryRow_deliverable_iff formed embedded
  rw [content] at deliverable
  rw [← isBlank_eq_false_iff]
  constructor
  · intro intact
    obtain ⟨⟨summary, found', -, decodes⟩, -⟩ := intact after .refl
    obtain rfl := Option.some.inj (found.symm.trans found')
    obtain ⟨item, decoded', -⟩ := decodes now run.workerId
    have of := ((decodeSummary_ok_iff _ _ _).mp decoded').1
    exact deliverable.mp ((claimedSummary_same _ _ _).deliverable.mp of.deliverable)
  · intro visible later continued
    have soundLater := sound.runs continued
    obtain ⟨summary, found', same⟩ := kept_of_runs sound continued run.id _ found
    have delivers : summary.Deliverable := same.deliverable.mpr (deliverable.mpr visible)
    refine ⟨⟨summary, found', fun rejected =>
      (soundLater.settled run.id summary found').rejected rejected delivers,
      fun time workerId => ?_⟩, fun workerId poisoned => ?_⟩
    · obtain ⟨item, decoded', of⟩ := decodes_of_deliverable delivers time workerId
      have whole := same.trans (claimedSummary_same time workerId summary)
      obtain ⟨foundModel, foundDim⟩ := embeddingParameters_ok embedded
      refine ⟨item, decoded', of.tenantId.trans whole.tenantId,
        of.subjectId.trans whole.subjectId, of.namespaceName.trans whole.namespaceName, ?_, ?_,
        (of.content.trans whole.content).trans content, ?_⟩
      · rw [foundModel, of.embeddingModel.trans whole.embeddingModel]
        rfl
      · rw [foundDim, of.embeddingDim.trans whole.embeddingDim]
        rfl
      · have stored := (Json.loads_eq_some of.metadata).symm.trans whole.metadata
        exact (Json.obj.inj stored).trans metadata
    · have fits := soundLater.phases workerId
      rw [poisoned] at fits
      obtain ⟨other, found'', undeliverable⟩ := fits
      obtain rfl : other = summary := Option.some.inj (found''.symm.trans found')
      exact undeliverable delivers

/-- The workers of the concrete runs are configured like the run. -/
def smallEmbedding (_ : Str) : Str × Int := (lit "embed", 8)

/-- Enqueue a run and hand it to a worker. -/
def handOut : List DeliveryAct :=
  [.call 0 (fun _ => false) (.enqueue smallId (smallRequest 2)),
    .call (seconds 1) (fun _ => false) (.claim (lit "w") 10)]

/-- The row that was decoded for it. -/
def handedRow : ClaimRow :=
  (claimedVersion (seconds 1) (lit "w") (queuedRow 0 smallId.text (smallRequest 2))).returning

/-- The worker receives an answer from its child, and stores the success. -/
def smallCompletion (answer : Str) :
    Option (Delivery × RLMSubprocessResult × SucceedArguments × Delivery) := do
  let state ← replay (next smallEmbedding) handOut initial
  let prediction ← (decodeSubprocessPayload (childPayload answer [] .none)).toOption
  let arguments ← (succeedArguments (smallClaim (lit "w") 1 2) 5 prediction []).toOption
  let operation := Operation.succeed (smallClaim (lit "w") 1 2) arguments
  if Received state.queue operation then
    match perform (seconds 2) (fun _ => false) operation state.queue.db with
    | .ok (.succeeded true, db) =>
      some (state, prediction, arguments,
        { state with queue := state.queue.after (seconds 2) operation (.succeeded true) db })
    | _ => none
  else none

/-- The states of such a completion, and the calls between them. -/
theorem smallCompletion_spec {answer : Str} {state after : Delivery}
    {prediction : RLMSubprocessResult} {arguments : SucceedArguments}
    (completed : smallCompletion answer = some (state, prediction, arguments, after)) :
    Reachable smallEmbedding state ∧
      decodeSubprocessPayload (childPayload answer [] .none) = .ok prediction ∧
      succeedArguments (smallClaim (lit "w") 1 2) 5 prediction [] = .ok arguments ∧
      next smallEmbedding (.call (seconds 2) (fun _ => false)
        (.succeed (smallClaim (lit "w") 1 2) arguments)) state = some after ∧
      perform (seconds 2) (fun _ => false) (.succeed (smallClaim (lit "w") 1 2) arguments)
        state.queue.db = .ok (.succeeded true, after.queue.db) := by
  simp only [smallCompletion, Option.bind_eq_bind, Option.bind_eq_some_iff] at completed
  obtain ⟨start, replayed, result, accepted, built, stored, taken⟩ := completed
  split at taken
  · next received =>
    split at taken
    · next db performed =>
      cases taken
      refine ⟨runs_of_replay (fun act _ _ taken => ⟨act, taken⟩) replayed,
        toOption_eq_some.mp accepted, toOption_eq_some.mp stored, ?_, performed⟩
      simp only [next, received, performed, ↓reduceIte]
    · cases taken
  · cases taken

/-- A visible answer gives a summary that stays intact. -/
theorem summary_intact_iff_visible : ∃ state prediction arguments after,
    smallCompletion (lit "3") = some (state, prediction, arguments, after) ∧
      prediction.answer = lit "3" ∧
      ∀ later, Runs (Step smallEmbedding) after later →
        later.SummaryIntact (smallClaim (lit "w") 1 2) (prediction.answer.take 12000)
          (summaryMetadata (smallClaim (lit "w") 1 2) []) := by
  have ran : (smallCompletion (lit "3")).map (fun ends => ends.2.1.answer) = some (lit "3") := by
    decide +kernel
  obtain ⟨⟨state, prediction, arguments, after⟩, completed, answer⟩ := Option.map_eq_some_iff.mp ran
  obtain ⟨reached, -, built, taken, committed⟩ := smallCompletion_spec completed
  have decoded : decodeClaimedRun handedRow (lit "w") = .ok (smallClaim (lit "w") 1 2) := by rfl
  have visible : ∃ c ∈ prediction.answer.take 12000, isSpace c = false := by
    rw [show prediction.answer = lit "3" from answer]
    exact ⟨51, by decide +kernel, by decide⟩
  exact ⟨state, prediction, arguments, after, completed, answer,
    (summary_intact_iff reached decoded built taken committed).mpr visible⟩

/-- A worker claims the summary, and rejects it. -/
def rejection : List DeliveryAct :=
  [.claim (lit "w") (seconds 3) (fun _ => false) 60, .quarantine (lit "w") (seconds 4)]

/-- An answer of one blank is accepted and stored. Its summary is rejected by the
first worker that claims it, counts as completed, and is never delivered. -/
theorem blank_summary_rejected : ∃ state prediction arguments after later summary,
    Reachable smallEmbedding state ∧
      decodeClaimedRun handedRow (lit "w") = .ok (smallClaim (lit "w") 1 2) ∧
      decodeSubprocessPayload (childPayload (lit " ") [] .none) = .ok prediction ∧
      succeedArguments (smallClaim (lit "w") 1 2) 5 prediction [] = .ok arguments ∧
      next smallEmbedding (.call (seconds 2) (fun _ => false)
        (.succeed (smallClaim (lit "w") 1 2) arguments)) state = some after ∧
      perform (seconds 2) (fun _ => false) (.succeed (smallClaim (lit "w") 1 2) arguments)
        state.queue.db = .ok (.succeeded true, after.queue.db) ∧
      Runs (Step smallEmbedding) after later ∧
      later.outbox.find? smallId.text = some summary ∧ summary.completedAt = some (seconds 4) ∧
      summary.lastError = some invalidConfiguration ∧ later.memory.rows = [] := by
  have ran : ((smallCompletion (lit " ")).bind (fun ends =>
      (replay (next smallEmbedding) rejection ends.2.2.2).bind (fun later =>
        (later.outbox.find? smallId.text).map (fun summary =>
          (summary.completedAt, summary.lastError, later.memory.rows.isEmpty))))) =
      some (some (seconds 4), some invalidConfiguration, true) := by decide +kernel
  obtain ⟨⟨state, prediction, arguments, after⟩, completed, rest⟩ := Option.bind_eq_some_iff.mp ran
  obtain ⟨later, replayed, shown⟩ := Option.bind_eq_some_iff.mp rest
  obtain ⟨summary, found, settled⟩ := Option.map_eq_some_iff.mp shown
  obtain ⟨ended, error⟩ := Prod.mk.inj settled
  obtain ⟨rejected, empty⟩ := Prod.mk.inj error
  obtain ⟨reached, accepted, built, taken, committed⟩ := smallCompletion_spec completed
  exact ⟨state, prediction, arguments, after, later, summary, reached, by rfl, accepted, built,
    taken, committed, runs_of_replay (fun act _ _ taken => ⟨act, taken⟩) replayed, found, ended,
    rejected, List.isEmpty_iff.mp empty⟩

end Delivery

end RlmApi
