import RlmApi.ClaimExecution
import RlmApi.JsonDumps
import RlmApi.LeaseFencing
import RlmApi.ResultRoundTrip
import RlmApi.SearchScope

/-!
# The texts of a prediction

`succeed` passes five JSON texts to PostgreSQL, and the beginning of the answer as plain
text. What the claim and the recall put into the JSON is always accepted; the rest is the
prediction's own. `_json_value` lets every float and every string through, so it is the
payload of the child that decides whether PostgreSQL accepts them. As plain text the
answer is encoded, so that it must not hold a surrogate at all, also in a pair.
-/

namespace RlmApi

open RunStore

/-! ## Payloads -/

mutual
/-- The text of the normalised object is JSON that is accepted. Of the entries whose
keys have the same `str()`, only the last is written. -/
def PyObject.admissible : PyObject → Bool
  | .none | .bool _ => true
  | .int value => convertibleInt value
  | .float value => value.isFinite
  | .str value => paired value
  | .list items | .sequence items => admissibleItems items
  | .dict entries => admissibleEntries entries
  | .mapping _ rendering | .other rendering => paired rendering

def admissibleItems : List PyObject → Bool
  | [] => true
  | item :: rest => item.admissible && admissibleItems rest

def admissibleEntries : List (PyKey × PyObject) → Bool
  | [] => true
  | (key, value) :: rest =>
    (rest.any (fun entry => entry.1.str = key.str) || paired key.str && value.admissible) &&
      admissibleEntries rest
end

/-- The beginning of an answer is text that is accepted. -/
def PyObject.summarisable : PyObject → Bool
  | .str answer => storableText (answer.take 12000)
  | _ => false

/-- The members of a payload that are stored: the answer, also as a summary, the evidence,
and the trajectory if it was asked for. -/
def PyObject.persistable (includeTrajectory : Bool) : PyObject → Bool
  | .dict entries =>
    (getEntry entries "answer").admissible && (getEntry entries "answer").summarisable &&
      (getEntry entries "evidence").admissible &&
      (!includeTrajectory || (getEntry entries "trajectory").admissible)
  | _ => false

/-- Every entry that no later one replaces. -/
def LastWins {α : Type} (holds : Str × α → Prop) : List (Str × α) → Prop
  | [] => True
  | field :: rest => (field.1 ∈ rest.map Prod.fst ∨ holds field) ∧ LastWins holds rest

/-- What holds of every entry of a merged dictionary. -/
theorem forall_mergeFields_iff {α : Type} {holds : Str × α → Prop} {base : List (Str × α)}
    (distinct : (base.map Prod.fst).Nodup) (extra : List (Str × α)) :
    (∀ field ∈ mergeFields base extra, holds field) ↔
      (∀ field ∈ base, field.1 ∈ extra.map Prod.fst ∨ holds field) ∧ LastWins holds extra := by
  induction extra generalizing base with
  | nil => simp [mergeFields, LastWins]
  | cons field rest ih =>
    have put : ∀ other, other ∈ Table.putRow Prod.fst field base ↔
        other = field ∨ other ∈ base ∧ other.1 ≠ field.1 := fun other =>
      Table.mem_putRow_iff distinct
    have first : (∀ other ∈ Table.putRow Prod.fst field base,
          other.1 ∈ rest.map Prod.fst ∨ holds other) ↔
        (field.1 ∈ rest.map Prod.fst ∨ holds field) ∧
          ∀ other ∈ base, other.1 ∈ (field :: rest).map Prod.fst ∨ holds other := by
      constructor
      · intro every
        refine ⟨every field ((put field).mpr (Or.inl rfl)), fun other member => ?_⟩
        by_cases replaced : other.1 = field.1
        · exact Or.inl (replaced ▸ List.mem_cons_self)
        · exact (every other ((put other).mpr (Or.inr ⟨member, replaced⟩))).imp_left
            (List.mem_cons_of_mem _)
      · rintro ⟨added, kept⟩ other member
        rcases (put other).mp member with rfl | ⟨old, apart⟩
        · exact added
        · refine (kept other old).imp_left (fun later => ?_)
          exact (List.mem_cons.mp later).resolve_left apart
    change (∀ other ∈ mergeFields (Table.putRow Prod.fst field base) rest, holds other) ↔ _
    rw [ih (Table.putRow_distinct field base distinct), first, LastWins]
    tauto

theorem everyField_iff {leaf : Json → Bool} {key : Str → Bool} (fields : List (Str × Json)) :
    everyField leaf key fields = true ↔
      ∀ field ∈ fields, key field.1 = true ∧ field.2.every leaf key = true := by
  induction fields with
  | nil => simp [everyField]
  | cons field rest ih => simp [everyField, ih]

theorem keys_normalisedEntries (mappings : Bool) (entries : List (PyKey × PyObject)) :
    (normalisedEntries mappings entries).map Prod.fst = entries.map (fun entry => entry.1.str) := by
  induction entries with
  | nil => rfl
  | cons entry rest ih => rw [normalisedEntries, List.map_cons, ih, List.map_cons]

mutual
/-- The condition on an object is the one on its normal form. -/
theorem PyObject.every_jsonValue : (value : PyObject) →
    (value.normalised false).every admissible paired = value.admissible
  | .none | .bool _ => rfl
  | .int value => by
    simp only [PyObject.normalised, Json.every, RlmApi.admissible, printable, readable,
      Bool.and_true, PyObject.admissible]
  | .float _ | .str _ | .mapping _ _ | .other _ => rfl
  | .list items | .sequence items => by
    simp only [PyObject.normalised, Json.every, PyObject.admissible]
    exact everyItem_normalisedItems items
  | .dict entries => by
    have distinct : (([] : List (Str × Json)).map Prod.fst).Nodup := List.nodup_nil
    rw [PyObject.normalised, Json.every, PyObject.admissible, Bool.eq_iff_iff, everyField_iff,
      forall_mergeFields_iff distinct, lastWins_normalisedEntries entries]
    simp

theorem everyItem_normalisedItems : (items : List PyObject) →
    everyItem admissible paired (normalisedItems false items) = admissibleItems items
  | [] => rfl
  | item :: rest => by
    rw [normalisedItems, everyItem, item.every_jsonValue, everyItem_normalisedItems rest,
      admissibleItems]

theorem lastWins_normalisedEntries : (entries : List (PyKey × PyObject)) →
    (LastWins (fun field => paired field.1 = true ∧ field.2.every admissible paired = true)
      (normalisedEntries false entries) ↔ admissibleEntries entries = true)
  | [] => by simp [normalisedEntries, LastWins, admissibleEntries]
  | (key, value) :: rest => by
    rw [normalisedEntries, LastWins, lastWins_normalisedEntries rest, keys_normalisedEntries,
      value.every_jsonValue, admissibleEntries]
    simp only [List.mem_map, Bool.and_eq_true, Bool.or_eq_true, List.any_eq_true, decide_eq_true_eq]
end

/-- What a decoded payload holds. -/
theorem decodeSubprocessPayload_ok {payload : PyObject} {result : RLMSubprocessResult}
    (decoded : decodeSubprocessPayload payload = .ok result) :
    ∃ entries, payload = .dict entries ∧ getEntry entries "answer" = .str result.answer ∧
      getEntry entries "evidence" = .list (result.evidence.map .str) ∧
      result.trajectory = (getEntry entries "trajectory").jsonValue := by
  unfold decodeSubprocessPayload at decoded
  split at decoded
  · next entries =>
    split at decoded
    · cases decoded
    · unfold reportedResult at decoded
      split at decoded
      · next answer items isText isList =>
        split at decoded
        · next evidence read =>
          cases decoded
          exact ⟨entries, rfl, isText, eq_of_mapM_text? read ▸ isList, rfl⟩
        · cases decoded
      · cases decoded
  · cases decoded

theorem admissibleItems_texts (texts : List Str) :
    admissibleItems (texts.map .str) = texts.all paired := by
  induction texts with
  | nil => rfl
  | cons text rest ih => rw [List.map_cons, admissibleItems, ih, List.all_cons, PyObject.admissible]

/-! ## Texts -/

/-- The values whose texts `succeed` builds, in the order of its parameters. -/
def SuccessReport.values (report : SuccessReport) : List Json :=
  [.obj report.result, .obj report.usage, .arr (report.recalledMemoryIds.map .str),
    report.trajectory, .obj report.summaryMetadata]

/-- The texts of `succeed`. -/
def succeedTexts (shortest : ℚ → ShortestDigits) (run : ClaimedRun) (latencyMs : Int)
    (prediction : RLMSubprocessResult) (recalled : List Str) : Except PyError (List Str) := do
  let report ← successReport run latencyMs prediction recalled
  report.values.mapM (dumps shortest)

/-- Every text is built, and accepted as JSON, and the summary as plain text. -/
def Persists (shortest : ℚ → ShortestDigits) (run : ClaimedRun) (latencyMs : Int)
    (prediction : RLMSubprocessResult) (recalled : List Str) : Prop :=
  (∃ texts, succeedTexts shortest run latencyMs prediction recalled = .ok texts ∧
    ∀ text ∈ texts, JsonScanner.accepts text = true) ∧
  storableText (summaryContent prediction) = true

/-- Values have accepted texts exactly if each one is admissible. -/
theorem texts_accepted_iff (shortest : ℚ → ShortestDigits) (values : List Json) :
    (∃ texts, values.mapM (dumps shortest) = .ok texts ∧
      ∀ text ∈ texts, JsonScanner.accepts text = true) ↔
      ∀ value ∈ values, value.every admissible paired = true := by
  induction values with
  | nil => exact ⟨fun _ _ impossible => absurd impossible List.not_mem_nil,
      fun _ => ⟨[], rfl, fun _ impossible => absurd impossible List.not_mem_nil⟩⟩
  | cons value rest ih =>
    rw [List.forall_mem_cons, ← ih, ← dumps_accepted_iff shortest]
    simp only [List.mapM_cons, except_bind_ok_iff]
    constructor
    · rintro ⟨texts, ⟨text, dumped, others, dumpedRest, collected⟩, accepted⟩
      cases collected
      rw [List.forall_mem_cons] at accepted
      exact ⟨⟨text, dumped, accepted.1⟩, others, dumpedRest, accepted.2⟩
    · rintro ⟨⟨text, dumped, first⟩, others, dumpedRest, accepted⟩
      exact ⟨text :: others, ⟨text, dumped, others, dumpedRest, rfl⟩,
        List.forall_mem_cons.mpr ⟨first, accepted⟩⟩

theorem persists_iff_values (shortest : ℚ → ShortestDigits) {run : ClaimedRun} {latencyMs : Int}
    {prediction : RLMSubprocessResult} {recalled : List Str} {report : SuccessReport}
    (reported : successReport run latencyMs prediction recalled = .ok report) :
    Persists shortest run latencyMs prediction recalled ↔
      (∀ value ∈ report.values, value.every admissible paired = true) ∧
        storableText (summaryContent prediction) = true := by
  rw [← texts_accepted_iff shortest, Persists, succeedTexts, reported]
  exact Iff.rfl

/-- Text that fits a `TEXT` column has no surrogates at all. -/
theorem paired_of_storableText {text : Str} (storable : storableText text = true) :
    paired text = true := by
  induction text with
  | nil => rfl
  | cons c rest ih =>
    simp only [storableText, List.all_cons, Bool.and_eq_true] at storable
    obtain ⟨code, others⟩ := storable
    simp only [storableCode, Bool.and_eq_true, bne_iff_ne, ne_eq, Bool.not_eq_eq_eq_not,
      Bool.not_true, Bool.and_eq_false_iff, decide_eq_false_iff_not] at code
    have low : JsonScanner.isLow c.val = false := by
      simp only [JsonScanner.isLow, Bool.and_eq_false_iff, decide_eq_false_iff_not]
      omega
    have high : JsonScanner.isHigh c.val = false := by
      simp only [JsonScanner.isHigh, Bool.and_eq_false_iff, decide_eq_false_iff_not]
      omega
    rw [paired.eq_def]
    simp only [code.1, low, high, Bool.false_eq_true, or_self, ↓reduceIte]
    exact ih others

/-- A `uuid` is hexadecimal digits and dashes. -/
theorem Uuid.storable (id : Uuid) : storableText id.text = true := by
  obtain ⟨text, canonical⟩ := id
  have characters := (Bool.and_eq_true _ _ ▸ canonical).2
  simp only [List.all_eq_true] at characters
  simp only [storableText, List.all_eq_true]
  intro c member
  obtain ⟨position, inside, rfl⟩ := List.getElem_of_mem member
  have digit := characters (text[position], 0 + position)
    (List.mem_iff_getElem.mpr ⟨position, by simpa using inside, by simp⟩)
  simp only [isUuidCharacter] at digit
  simp only [storableCode, Bool.and_eq_true, bne_iff_ne, ne_eq, Bool.not_eq_eq_eq_not,
    Bool.not_true, Bool.and_eq_false_iff, decide_eq_false_iff_not]
  split at digit
  · rw [beq_iff_eq] at digit
    omega
  · simp only [Bool.or_eq_true, Bool.and_eq_true, decide_eq_true_eq] at digit
    omega

theorem storable_of_mem {fields : List (Str × Json)} (storable : storableFields fields = true)
    {field : Str × Json} (member : field ∈ fields) : field.2.storable = true :=
  ((everyField_iff fields).mp storable field member).2

theorem everyItem_texts (texts : List Str) :
    everyItem admissible paired (texts.map .str) = texts.all paired := by
  induction texts with
  | nil => rfl
  | cons text rest ih =>
    have one : (Json.str text).every admissible paired = paired text := by
      simp [Json.every, admissible, printable, readable]
    rw [List.map_cons, everyItem, ih, List.all_cons, one]

/-- A text of a stored configuration is one that PostgreSQL accepts. -/
theorem storable_of_lookup {modelConfig : List (Str × ModelValue)}
    (storable : (modelConfigJson modelConfig).storable = true) {name : String} {text : Str}
    (configured : modelConfig.lookup (lit name) = some (.text text)) :
    storableText text = true := by
  obtain ⟨before, after, listed, -⟩ := List.lookup_eq_some_iff.mp configured
  have member : (lit name, modelValueJson (.text text)) ∈
      modelConfig.map (fun field => (field.1, modelValueJson field.2)) := by
    rw [listed, List.map_append, List.map_cons]
    exact List.mem_append_right _ List.mem_cons_self
  exact storable_of_mem storable member

/-- Digits to spare. -/
theorem convertibleInt_of_lt {value : Int} {n : Nat} (few : n ≤ intMaxStrDigits)
    (small : value.natAbs < 2 ^ n) : convertibleInt value = true := by
  rw [convertibleInt_eq, decide_eq_true_eq]
  calc
    value.natAbs < 2 ^ n := small
    _ ≤ 10 ^ n := Nat.pow_le_pow_left (by decide) n
    _ ≤ 10 ^ intMaxStrDigits := Nat.pow_le_pow_right (by decide) few

/-- What the claim and the recall put into the texts is admissible. -/
structure OwnPartsAdmissible (run : ClaimedRun) (latencyMs : Int) (recalled : List Str) :
    Prop where
  rootModel : ∃ text, modelId run.modelConfig "root_model" = .ok text ∧ paired text = true
  subModel : ∃ text, modelId run.modelConfig "sub_model" = .ok text ∧ paired text = true
  id : paired run.id = true
  recalled : recalled.all paired = true
  latency : convertibleInt latencyMs = true
  attempts : convertibleInt run.attempts = true

/-- Then the prediction decides. -/
theorem OwnPartsAdmissible.persists_iff {run : ClaimedRun} {latencyMs : Int} {recalled : List Str}
    (own : OwnPartsAdmissible run latencyMs recalled) (shortest : ℚ → ShortestDigits)
    (prediction : RLMSubprocessResult) :
    Persists shortest run latencyMs prediction recalled ↔
      paired prediction.answer = true ∧ prediction.evidence.all paired = true ∧
        (keptTrajectory run prediction).every admissible paired = true ∧
        storableText (summaryContent prediction) = true := by
  obtain ⟨rootModel, root, rootPaired⟩ := own.rootModel
  obtain ⟨subModel, sub, subPaired⟩ := own.subModel
  have names : ["answer", "evidence", "latency_ms", "attempt", "root_model", "sub_model", "run_id",
      "source_memory_ids"].all (fun name => paired (lit name)) = true := by
    decide +kernel
  simp only [List.all_cons, List.all_nil, Bool.and_true, Bool.and_eq_true] at names
  obtain ⟨answer, evidence, latency, attempt, rootName, subName, runId, sources⟩ := names
  have reported : successReport run latencyMs prediction recalled = .ok {
      result := jsonFields [("answer", .str prediction.answer),
        ("evidence", .arr (prediction.evidence.map .str))]
      usage := jsonFields [("latency_ms", .int latencyMs), ("attempt", .int run.attempts),
        ("root_model", .str rootModel), ("sub_model", .str subModel)]
      recalledMemoryIds := recalled
      trajectory := keptTrajectory run prediction
      summaryContent := summaryContent prediction
      summaryMetadata := summaryMetadata run recalled } := by
    rw [successReport, root, sub]
    rfl
  rw [persists_iff_values shortest reported]
  simp only [SuccessReport.values, List.forall_mem_cons]
  simp [Json.every, everyField, everyItem_texts, jsonFields, summaryMetadata, admissible, printable,
    readable, answer, evidence, latency, attempt, rootName, subName, runId, sources, rootPaired,
    subPaired, own.id, own.recalled, own.latency, own.attempts, and_assoc]

/-- A memory that a search returns is in the table. -/
theorem stored_of_search {backend : MemoryBackend} {embeddingDim : Int} {now : Timestamp}
    {arguments : SearchArguments} {memories : MemoryTable} {found : List Memory}
    (searched : (MemoryStore.search backend embeddingDim now arguments memories).1 = .ok found)
    {memory : Memory} (member : memory ∈ found) : ∃ row ∈ memories.rows, row.id = memory.id := by
  unfold MemoryStore.search at searched
  split at searched
  · cases searched
  · next results selected =>
    obtain ⟨result, listed, decoded⟩ := mem_of_mapM_ok searched member
    simp only [resultMemory, except_bind_ok_iff] at decoded
    obtain ⟨metadata, -, built⟩ := decoded
    cases built
    exact ⟨result.1, (MemoryStore.mem_selected selected listed).1, rfl⟩

theorem stored_of_executeClaim {backend : MemoryBackend} {renderScore : ℚ → Str}
    {expected : Str × Int} {now : Timestamp} {run : ClaimedRun} {memories : MemoryTable}
    {recalled : List Memory} {input : RLMSubprocessInput}
    (executed : (executeClaim backend renderScore expected now run memories).1 =
      .ok (recalled, input)) {memory : Memory} (member : memory ∈ recalled) :
    ∃ row ∈ memories.rows, row.id = memory.id := by
  unfold executeClaim at executed
  split at executed
  · cases executed
  · next rootModel subModel timeout begun =>
    obtain ⟨found, searched, mapped⟩ := except_bind_ok_iff.mp executed
    cases built : subprocessInput renderScore run rootModel subModel found with
    | error error =>
      rw [built] at mapped
      cases mapped
    | ok own =>
      rw [built] at mapped
      cases mapped
      exact stored_of_search searched member

namespace Delivery

/-- A claim is handed out. -/
theorem handedOut : ∃ state, Reachable smallEmbedding state ∧
    smallClaim (lit "w") 1 2 ∈ state.queue.handed := by
  have ran : (replay (next smallEmbedding) handOut initial).map (fun state => state.queue.handed) =
      some [smallClaim (lit "w") 1 2] := by rfl
  obtain ⟨state, replayed, handed⟩ := Option.map_eq_some_iff.mp ran
  exact ⟨state, runs_of_replay (fun act _ _ taken => ⟨act, taken⟩) replayed,
    handed ▸ List.mem_cons_self⟩

/-- It is executed on an empty memory. -/
theorem executedSmall : ∃ input, (executeClaim smallBackend (fun _ => []) (lit "embed", 8)
    (seconds 1) (smallClaim (lit "w") 1 2) Table.empty).1 = .ok ([], input) :=
  ⟨_, rfl⟩

variable {embedding : Str → Str × Int} {state : Delivery}

/-- The own parts of every claim that was handed out and executed are admissible. -/
theorem ownPartsAdmissible (reached : Reachable embedding state) {run : ClaimedRun}
    (handed : run ∈ state.queue.handed) {latencyMs : Int} (rounded : latencyMs.natAbs < 2 ^ 1024)
    {recalled : List Str} (keys : ∀ id ∈ recalled, ∃ own : Uuid, id = own.text) :
    OwnPartsAdmissible run latencyMs recalled := by
  have traced := traced_of_reachable reached
  obtain ⟨row, found, decoded⟩ := traced.claims run handed
  obtain ⟨arguments, enqueued⟩ := traced.runs _ row found
  have carries := decoded.carries enqueued
  have formed := decoded.wellFormed
  have storable := enqueued.storable
  simp only [EnqueueArguments.storable, Bool.and_eq_true, decide_eq_true_eq] at storable
  obtain ⟨⟨⟨⟨-, config⟩, -⟩, -⟩, limit⟩ := storable
  rw [← carries.modelConfig] at config
  obtain ⟨counted, held, bounded, positive, atMost⟩ :=
    (sound_of_reachable reached).queue.claimed_counters handed
  obtain ⟨now, runId, same⟩ := enqueued.same
  have attempts : run.attempts.natAbs < 2 ^ 31 := by
    obtain rfl : row = counted := Option.some.inj (found.symm.trans held)
    have rowLimit : row.maxAttempts = arguments.maxAttempts := same.maxAttempts
    omega
  obtain ⟨rootModel, root, rootVisible⟩ := formed.rootModel
  obtain ⟨subModel, sub, subVisible⟩ := formed.subModel
  constructor
  case rootModel =>
    exact ⟨rootModel, modelId_ok root rootVisible,
      paired_of_storableText (storable_of_lookup config root)⟩
  case subModel =>
    exact ⟨subModel, modelId_ok sub subVisible,
      paired_of_storableText (storable_of_lookup config sub)⟩
  case id =>
    have own : run.id = runId.text := carries.id.trans same.id
    rw [own]
    exact paired_of_storableText runId.storable
  case recalled =>
    refine List.all_eq_true.mpr (fun id member => ?_)
    obtain ⟨own, rfl⟩ := keys id member
    exact paired_of_storableText own.storable
  case latency => exact convertibleInt_of_lt (by decide) rounded
  case attempts => exact convertibleInt_of_lt (by decide) attempts

/-- A prediction can be stored if and only if what is stored of its payload is admissible,
whatever claim it is for and whatever was recalled. The ids of memories are of type `UUID`, and
the latency is a rounded float. -/
theorem prediction_persists_iff (shortest : ℚ → ShortestDigits) {backend : MemoryBackend}
    {renderScore : ℚ → Str} {expected : Str × Int} {now : Timestamp} {run : ClaimedRun}
    {memories : MemoryTable} {recalled : List Memory} {input : RLMSubprocessInput}
    {latencyMs : Int} {payload : PyObject} {result : RLMSubprocessResult}
    (reached : Reachable embedding state) (handed : run ∈ state.queue.handed)
    (keys : ∀ row ∈ memories.rows, ∃ id : Uuid, row.id = id.text)
    (executed : (executeClaim backend renderScore expected now run memories).1 =
      .ok (recalled, input))
    (rounded : latencyMs.natAbs < 2 ^ 1024)
    (decoded : decodeSubprocessPayload payload = .ok result) :
    Persists shortest run latencyMs result (recalled.map Memory.id) ↔
      payload.persistable run.includeTrajectory = true := by
  have own : OwnPartsAdmissible run latencyMs (recalled.map Memory.id) := by
    refine ownPartsAdmissible reached handed rounded (fun id member => ?_)
    obtain ⟨memory, listed, rfl⟩ := List.mem_map.mp member
    obtain ⟨row, stored, same⟩ := stored_of_executeClaim executed listed
    exact same ▸ keys row stored
  obtain ⟨entries, rfl, answer, evidence, trajectory⟩ := decodeSubprocessPayload_ok decoded
  have kept : (keptTrajectory run result).every admissible paired =
      (!run.includeTrajectory || (getEntry entries "trajectory").admissible) := by
    rw [keptTrajectory, trajectory, workerJsonValue_pyObject_jsonValue]
    cases run.includeTrajectory with
    | true => exact (getEntry entries "trajectory").every_jsonValue
    | false => rfl
  have texts : (getEntry entries "evidence").admissible = result.evidence.all paired := by
    rw [evidence, PyObject.admissible, admissibleItems_texts]
  rw [own.persists_iff, kept, PyObject.persistable, texts, answer, PyObject.admissible,
    PyObject.summarisable, summaryContent, Bool.and_eq_true, Bool.and_eq_true, Bool.and_eq_true]
  constructor
  · rintro ⟨pairs, listed, held, encoded⟩
    exact ⟨⟨⟨pairs, encoded⟩, listed⟩, held⟩
  · rintro ⟨⟨⟨pairs, encoded⟩, listed⟩, held⟩
    exact ⟨pairs, listed, held, encoded⟩

/-- A trajectory that nobody asked for may hold anything. -/
theorem prediction_persists_iff_unasked : ∃ result,
    decodeSubprocessPayload (childPayload (lit "3") [lit "1 + 2"] (.float .nan)) = .ok result ∧
      ∀ shortest, Persists shortest (smallClaim (lit "w") 1 2) 5 result [] := by
  obtain ⟨state, reached, handed⟩ := handedOut
  obtain ⟨input, executed⟩ := executedSmall
  refine ⟨_, decodeSubprocessPayload_childPayload _ _ _, fun shortest => ?_⟩
  exact (prediction_persists_iff shortest reached handed
    (fun _ impossible => absurd impossible List.not_mem_nil) executed (by decide +kernel)
    (decodeSubprocessPayload_childPayload _ _ _)).mpr (by decide +kernel)

/-- A pair of surrogates is text for JSON only. -/
example : (PyObject.str [codePoint 0xD83D, codePoint 0xDE00]).admissible = true ∧
    (PyObject.str [codePoint 0xD83D, codePoint 0xDE00]).summarisable = false := by
  decide +kernel

/-- The payload of an answer that is a NUL character. -/
def nulPayload : PyObject := childPayload [codePoint 0] [] .none

/-- What `succeed` is given for it. -/
def nulReport : SuccessReport where
  result := jsonFields [("answer", .str [codePoint 0]), ("evidence", .arr [])]
  usage := jsonFields [("latency_ms", .int 5), ("attempt", .int 1),
    ("root_model", .str (lit "root")), ("sub_model", .str (lit "sub"))]
  recalledMemoryIds := []
  trajectory := .null
  summaryContent := [codePoint 0]
  summaryMetadata := summaryMetadata (smallClaim (lit "w") 1 2) []

/-- An answer that is a NUL character is decoded, and its text is refused; so `succeed`
raises for a claim that is still held. -/
theorem nul_answer_refused : ∃ state input result, Reachable smallEmbedding state ∧
    smallClaim (lit "w") 1 2 ∈ state.queue.handed ∧
    (executeClaim smallBackend (fun _ => []) (lit "embed", 8) (seconds 1)
      (smallClaim (lit "w") 1 2) Table.empty).1 = .ok ([], input) ∧
    decodeSubprocessPayload nulPayload = .ok result ∧
    (∀ shortest, ¬ Persists shortest (smallClaim (lit "w") 1 2) 5 result []) ∧
    succeedArguments (smallClaim (lit "w") 1 2) 5 result [] = .error .dataError := by
  obtain ⟨state, reached, handed⟩ := handedOut
  obtain ⟨input, executed⟩ := executedSmall
  have own : OwnPartsAdmissible (smallClaim (lit "w") 1 2) 5 [] :=
    ownPartsAdmissible reached handed (by decide +kernel) (fun _ impossible => absurd impossible
      List.not_mem_nil)
  refine ⟨state, input, _, reached, handed, executed, decodeSubprocessPayload_childPayload _ _ _,
    fun shortest persists => ?_, ?_⟩
  · have read := ((own.persists_iff shortest _).mp persists).1
    have unread : paired [codePoint 0] = false := by decide +kernel
    exact Bool.noConfusion (unread.symm.trans read)
  · have reported : successReport (smallClaim (lit "w") 1 2) 5 ⟨[codePoint 0], [], .null⟩ [] =
        .ok nulReport := rfl
    exact (succeedArguments_refused reported (by decide +kernel)).trans
      (congrArg Except.error (by decide +kernel))

end Delivery

end RlmApi
