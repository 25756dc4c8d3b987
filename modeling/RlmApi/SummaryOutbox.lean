import RlmApi.RunStore

/-!
# The summary outbox

The statements of `claim_summary`, `_quarantine_summary_claim`, `complete_summary`
and `retry_summary`, each of which commits by itself, and the decoding between the
first two. A claimed row is leased by the time of its claim alone: nothing renews
the lease, and once it is stale another worker may claim the row again.
-/

namespace RlmApi

open RunStore

/-! ## The statements -/

/-- The filter of `claim_summary`. -/
def summaryClaimable (now : Timestamp) (staleSeconds : Int) (row : OutboxRow) : Bool :=
  row.completedAt.isNone && row.availableAt ≤ now &&
    row.claimedAt.all (fun claimedAt => claimedAt < now - seconds staleSeconds)

/-- `ORDER BY available_at, created_at`. -/
def summaryOrder (a b : OutboxRow) : Bool :=
  a.availableAt < b.availableAt || (a.availableAt = b.availableAt && a.createdAt ≤ b.createdAt)

/-- What `claim_summary` sets. -/
def claimedSummary (now : Timestamp) (workerId : Str) (row : OutboxRow) : OutboxRow :=
  { row with
    claimedBy := some workerId
    claimedAt := some now
    attempts := row.attempts + 1
    updatedAt := now }

/-- The rows its `FOR UPDATE SKIP LOCKED` does not skip. -/
def summaryCandidate (now : Timestamp) (locked : Str → Bool) (staleSeconds : Int)
    (row : OutboxRow) : Bool :=
  summaryClaimable now staleSeconds row && !locked row.runId

/-- The statement of `claim_summary`: the row it returns, and the outbox. -/
def claimSummaryRow (now : Timestamp) (locked : Str → Bool) (workerId : Str) (staleSeconds : Int)
    (outbox : Outbox) : Option (OutboxRow × Outbox) :=
  match outbox.select (summaryCandidate now locked staleSeconds) summaryOrder 1 with
  | [] => none
  | candidate :: _ =>
    some (claimedSummary now workerId candidate, outbox.put (claimedSummary now workerId candidate))

/-- `completed_at IS NULL AND claimed_by = $2`. -/
def summaryLeasedBy (workerId : Str) (row : OutboxRow) : Bool :=
  row.completedAt.isNone && row.claimedBy = some workerId

/-- What `_quarantine_summary_claim` sets. -/
def quarantinedSummary (now : Timestamp) (row : OutboxRow) : OutboxRow :=
  { row with
    completedAt := some now
    lastError := some invalidConfiguration
    claimedBy := none
    claimedAt := none
    updatedAt := now }

/-- `_quarantine_summary_claim`. -/
def quarantineSummaryClaim (now : Timestamp) (runId workerId : Str) (outbox : Outbox) : Outbox :=
  (outbox.update runId (summaryLeasedBy workerId) (quarantinedSummary now)).2

/-- `SummaryOutboxItem`. -/
structure SummaryOutboxItem where
  runId : Str
  tenantId : Str
  subjectId : Str
  namespaceName : Str
  embeddingModel : Str
  embeddingDim : Int
  content : Str
  metadata : List (Str × Json)
  attempts : Int
  workerId : Str

/-- What `complete_summary` sets. -/
def completedSummary (now : Timestamp) (row : OutboxRow) : OutboxRow :=
  { row with
    completedAt := some now
    updatedAt := now
    claimedBy := none
    claimedAt := none
    lastError := none }

/-- `complete_summary`. -/
def completeSummary (now : Timestamp) (item : SummaryOutboxItem) (outbox : Outbox) :
    Bool × Outbox :=
  let updated := outbox.update item.runId (summaryLeasedBy item.workerId) (completedSummary now)
  (updated.1.isSome, updated.2)

/-- What `retry_summary` sets. -/
def retriedSummary (now : Timestamp) (delay : Int) (publicError : Str) (row : OutboxRow) :
    OutboxRow :=
  { row with
    availableAt := now + seconds delay
    claimedBy := none
    claimedAt := none
    lastError := some publicError
    updatedAt := now }

/-- `retry_summary`. -/
def retrySummary (now : Timestamp) (item : SummaryOutboxItem) (publicError : Str)
    (outbox : Outbox) : Except PyError (Bool × Outbox) := do
  let delay ← summaryRetryDelaySeconds item.attempts
  let updated := outbox.update item.runId (summaryLeasedBy item.workerId)
    (retriedSummary now delay publicError)
  pure (updated.1.isSome, updated.2)

/-! ## Decoding a claimed summary -/

/-- The row `claim_summary` decodes. -/
structure SummaryClaimRow where
  runId : Column
  tenantId : Column
  subjectId : Column
  namespaceName : Column
  embeddingModel : Column
  embeddingDim : Column
  content : Column
  metadata : JsonColumn
  attempts : Column

/-- What `RETURNING` hands to Python. -/
def OutboxRow.returning (row : OutboxRow) : SummaryClaimRow where
  runId := .other row.runId
  tenantId := .text row.tenantId
  subjectId := .text row.subjectId
  namespaceName := .text row.namespaceName
  embeddingModel := .text row.embeddingModel
  embeddingDim := .int row.embeddingDim
  content := .text row.content
  metadata := .text row.metadata.loads
  attempts := .int row.attempts

/-- The `SummaryOutboxItem` that `claim_summary` builds. -/
def decodeSummary (row : SummaryClaimRow) (workerId : Str) : Except PyError SummaryOutboxItem := do
  let runId := row.runId.str
  let tenantId ← requiredText row.tenantId "tenant_id"
  let subjectId ← requiredText row.subjectId "subject_id"
  let namespaceName ← requiredText row.namespaceName "namespace"
  let embeddingModel ← requiredText row.embeddingModel "embedding_model"
  let embeddingDim ← requiredInt row.embeddingDim "embedding_dim"
  let content ← requiredText row.content "content"
  let metadata ← jsonObject row.metadata
  let attempts ← requiredInt row.attempts "attempts"
  pure { runId, tenantId, subjectId, namespaceName, embeddingModel, embeddingDim, content,
         metadata, attempts, workerId }

/-- A row that `claim_summary` can decode. -/
structure OutboxRow.Deliverable (row : OutboxRow) : Prop where
  tenantId : isBlank row.tenantId = false
  subjectId : isBlank row.subjectId = false
  namespaceName : isBlank row.namespaceName = false
  embeddingModel : isBlank row.embeddingModel = false
  content : isBlank row.content = false
  metadata : ∃ fields, row.metadata.loads = some (.obj fields)

/-- The item carries the summary that the row stores. -/
structure SummaryOutboxItem.Of (item : SummaryOutboxItem) (row : OutboxRow) : Prop where
  deliverable : row.Deliverable
  runId : item.runId = row.runId
  tenantId : item.tenantId = row.tenantId
  subjectId : item.subjectId = row.subjectId
  namespaceName : item.namespaceName = row.namespaceName
  embeddingModel : item.embeddingModel = row.embeddingModel
  embeddingDim : item.embeddingDim = row.embeddingDim
  content : item.content = row.content
  metadata : row.metadata.loads = some (.obj item.metadata)

/-- Decoding a database row succeeds exactly on the deliverable ones, and copies
their summary, their attempts and the worker. -/
theorem decodeSummary_ok_iff (row : OutboxRow) (workerId : Str) (item : SummaryOutboxItem) :
    decodeSummary row.returning workerId = .ok item ↔
      item.Of row ∧ item.attempts = row.attempts ∧ item.workerId = workerId := by
  simp only [decodeSummary, OutboxRow.returning, except_bind_ok_iff, requiredText_ok_iff,
    requiredInt_ok_iff, jsonObject_ok_iff, decodeJson_text_iff, Column.str, Column.text.injEq,
    Column.int.injEq, Except.ok.injEq, pure, Except.pure]
  constructor
  · rintro ⟨_, ⟨rfl, tenant⟩, _, ⟨rfl, subject⟩, _, ⟨rfl, scope⟩, _, ⟨rfl, model⟩, _, rfl, _,
      ⟨rfl, content⟩, fields, metadata, _, rfl, rfl⟩
    exact ⟨⟨⟨tenant, subject, scope, model, content, fields, metadata⟩, rfl, rfl, rfl, rfl, rfl,
      rfl, rfl, metadata⟩, rfl, rfl⟩
  · rintro ⟨same, attempts, worker⟩
    refine ⟨_, ⟨rfl, same.deliverable.tenantId⟩, _, ⟨rfl, same.deliverable.subjectId⟩, _,
      ⟨rfl, same.deliverable.namespaceName⟩, _, ⟨rfl, same.deliverable.embeddingModel⟩, _, rfl, _,
      ⟨rfl, same.deliverable.content⟩, item.metadata, same.metadata, _, rfl, ?_⟩
    rw [← same.runId, ← same.tenantId, ← same.subjectId, ← same.namespaceName,
      ← same.embeddingModel, ← same.embeddingDim, ← same.content, ← attempts, ← worker]

/-- A deliverable row decodes. -/
theorem OutboxRow.Deliverable.decodes {row : OutboxRow} (deliverable : row.Deliverable)
    (workerId : Str) : ∃ item, decodeSummary row.returning workerId = .ok item := by
  obtain ⟨fields, metadata⟩ := deliverable.metadata
  let item : SummaryOutboxItem :=
    { runId := row.runId, tenantId := row.tenantId, subjectId := row.subjectId,
      namespaceName := row.namespaceName, embeddingModel := row.embeddingModel,
      embeddingDim := row.embeddingDim, content := row.content, metadata := fields,
      attempts := row.attempts, workerId := workerId }
  exact ⟨item, (decodeSummary_ok_iff row workerId item).mpr
    ⟨⟨deliverable, rfl, rfl, rfl, rfl, rfl, rfl, rfl, metadata⟩, rfl, rfl⟩⟩

/-! ## What no statement changes -/

/-- The columns that `succeed` writes once. -/
structure SameSummary (before after : OutboxRow) : Prop where
  runId : after.runId = before.runId
  tenantId : after.tenantId = before.tenantId
  subjectId : after.subjectId = before.subjectId
  namespaceName : after.namespaceName = before.namespaceName
  embeddingModel : after.embeddingModel = before.embeddingModel
  embeddingDim : after.embeddingDim = before.embeddingDim
  content : after.content = before.content
  metadata : after.metadata = before.metadata

theorem SameSummary.refl (row : OutboxRow) : SameSummary row row :=
  ⟨rfl, rfl, rfl, rfl, rfl, rfl, rfl, rfl⟩

theorem SameSummary.trans {first second third : OutboxRow} (early : SameSummary first second)
    (late : SameSummary second third) : SameSummary first third :=
  ⟨late.runId.trans early.runId, late.tenantId.trans early.tenantId,
    late.subjectId.trans early.subjectId, late.namespaceName.trans early.namespaceName,
    late.embeddingModel.trans early.embeddingModel, late.embeddingDim.trans early.embeddingDim,
    late.content.trans early.content, late.metadata.trans early.metadata⟩

/-- Whether a row can be decoded depends only on its summary. -/
theorem SameSummary.deliverable {before after : OutboxRow} (same : SameSummary before after) :
    after.Deliverable ↔ before.Deliverable := by
  constructor
  · rintro ⟨tenantId, subjectId, namespaceName, embeddingModel, content, metadata⟩
    exact ⟨same.tenantId ▸ tenantId, same.subjectId ▸ subjectId, same.namespaceName ▸ namespaceName,
      same.embeddingModel ▸ embeddingModel, same.content ▸ content, same.metadata ▸ metadata⟩
  · rintro ⟨tenantId, subjectId, namespaceName, embeddingModel, content, metadata⟩
    exact ⟨same.tenantId ▸ tenantId, same.subjectId ▸ subjectId, same.namespaceName ▸ namespaceName,
      same.embeddingModel ▸ embeddingModel, same.content ▸ content, same.metadata ▸ metadata⟩

/-- An item of one version of a row is an item of every version. -/
theorem SummaryOutboxItem.Of.transfer {item : SummaryOutboxItem} {before after : OutboxRow}
    (of : item.Of before) (same : SameSummary before after) : item.Of after :=
  ⟨same.deliverable.mpr of.deliverable, of.runId.trans same.runId.symm,
    of.tenantId.trans same.tenantId.symm, of.subjectId.trans same.subjectId.symm,
    of.namespaceName.trans same.namespaceName.symm,
    of.embeddingModel.trans same.embeddingModel.symm,
    of.embeddingDim.trans same.embeddingDim.symm, of.content.trans same.content.symm,
    (congrArg Json.loads same.metadata).trans of.metadata⟩

theorem claimedSummary_same (now : Timestamp) (workerId : Str) (row : OutboxRow) :
    SameSummary row (claimedSummary now workerId row) :=
  ⟨rfl, rfl, rfl, rfl, rfl, rfl, rfl, rfl⟩

theorem quarantinedSummary_same (now : Timestamp) (row : OutboxRow) :
    SameSummary row (quarantinedSummary now row) :=
  ⟨rfl, rfl, rfl, rfl, rfl, rfl, rfl, rfl⟩

theorem completedSummary_same (now : Timestamp) (row : OutboxRow) :
    SameSummary row (completedSummary now row) :=
  ⟨rfl, rfl, rfl, rfl, rfl, rfl, rfl, rfl⟩

theorem retriedSummary_same (now : Timestamp) (delay : Int) (publicError : Str) (row : OutboxRow) :
    SameSummary row (retriedSummary now delay publicError row) :=
  ⟨rfl, rfl, rfl, rfl, rfl, rfl, rfl, rfl⟩

/-! ## The candidates of a claim -/

theorem summaryClaimable_iff (now : Timestamp) (staleSeconds : Int) (row : OutboxRow) :
    summaryClaimable now staleSeconds row = true ↔ row.completedAt = none ∧ row.availableAt ≤ now ∧
      ∀ claimedAt, row.claimedAt = some claimedAt → claimedAt < now - seconds staleSeconds := by
  simp [summaryClaimable, and_assoc, Option.all_eq_true]

theorem summaryOrder_total (a b : OutboxRow) :
    summaryOrder a b = true ∨ summaryOrder b a = true := by
  simp only [summaryOrder, Bool.or_eq_true, Bool.and_eq_true, decide_eq_true_eq]
  rcases lt_trichotomy a.availableAt b.availableAt with less | same | more
  · exact Or.inl (Or.inl less)
  · exact (le_total a.createdAt b.createdAt).imp (fun le => Or.inr ⟨same, le⟩)
      (fun le => Or.inr ⟨same.symm, le⟩)
  · exact Or.inr (Or.inl more)

theorem summaryOrder_trans (a b c : OutboxRow) (first : summaryOrder a b = true)
    (second : summaryOrder b c = true) : summaryOrder a c = true := by
  simp only [summaryOrder, Bool.or_eq_true, Bool.and_eq_true, decide_eq_true_eq] at first second ⊢
  rcases first with less | ⟨same, le⟩ <;> rcases second with less' | ⟨same', le'⟩
  · exact Or.inl (lt_trans less less')
  · exact Or.inl (same' ▸ less)
  · exact Or.inl (same ▸ less')
  · exact Or.inr ⟨same.trans same', le_trans le le'⟩

/-- The row that a claim returns was a candidate, and the claim changed only it. -/
theorem claimSummaryRow_spec {now : Timestamp} {locked : Str → Bool} {workerId : Str}
    {staleSeconds : Int} {outbox outbox' : Outbox} {row : OutboxRow}
    (claimed : claimSummaryRow now locked workerId staleSeconds outbox = some (row, outbox')) :
    ∃ candidate, outbox.find? candidate.runId = some candidate ∧
      summaryClaimable now staleSeconds candidate = true ∧
      row = claimedSummary now workerId candidate ∧ outbox' = outbox.put row := by
  unfold claimSummaryRow at claimed
  split at claimed
  · cases claimed
  · next candidate rest selected =>
    cases claimed
    have member : candidate ∈ outbox.select (summaryCandidate now locked staleSeconds)
        summaryOrder 1 := by
      rw [selected]
      exact List.mem_cons_self
    obtain ⟨stored, passes⟩ := Table.mem_select member
    exact ⟨candidate, Table.find?_of_mem stored, (Bool.and_eq_true_iff.mp passes).1, rfl, rfl⟩

/-- With a candidate that nobody holds, a claim takes a first one of the candidates. -/
theorem claimSummaryRow_first {now : Timestamp} {locked : Str → Bool} (workerId : Str)
    {staleSeconds : Int} {outbox : Outbox} {row : OutboxRow}
    (stored : outbox.find? row.runId = some row)
    (claimable : summaryClaimable now staleSeconds row = true) (free : locked row.runId = false) :
    ∃ candidate, outbox.find? candidate.runId = some candidate ∧
      summaryClaimable now staleSeconds candidate = true ∧ summaryOrder candidate row = true ∧
      claimSummaryRow now locked workerId staleSeconds outbox =
        some (claimedSummary now workerId candidate,
          outbox.put (claimedSummary now workerId candidate)) := by
  have passes : summaryCandidate now locked staleSeconds row = true := by
    simp [summaryCandidate, claimable, free]
  obtain ⟨first, selected, before⟩ := Table.select_one summaryOrder_total summaryOrder_trans
    (Table.find?_mem stored) passes
  have member : first ∈ outbox.select (summaryCandidate now locked staleSeconds) summaryOrder 1 :=
    selected ▸ List.mem_singleton_self first
  obtain ⟨inOutbox, wanted⟩ := Table.mem_select member
  exact ⟨first, Table.find?_of_mem inOutbox, (Bool.and_eq_true_iff.mp wanted).1, before,
    by simp [claimSummaryRow, selected]⟩

/-- A candidate that nobody holds is claimed unless an earlier one is. -/
theorem claimSummaryRow_of_claimable {now : Timestamp} {locked : Str → Bool} (workerId : Str)
    {staleSeconds : Int} {outbox : Outbox} {row : OutboxRow}
    (stored : outbox.find? row.runId = some row)
    (claimable : summaryClaimable now staleSeconds row = true) (free : locked row.runId = false) :
    ∃ candidate, summaryOrder candidate row = true ∧
      claimSummaryRow now locked workerId staleSeconds outbox =
        some (claimedSummary now workerId candidate,
          outbox.put (claimedSummary now workerId candidate)) := by
  obtain ⟨candidate, -, -, before, selected⟩ :=
    claimSummaryRow_first workerId stored claimable free
  exact ⟨candidate, before, selected⟩

end RlmApi
