import Mathlib.Algebra.Order.Ring.Rat
import Mathlib.Data.List.Lex
import RlmApi.MemoryStore
import RlmApi.OrderedBatches

/-!
# Hybrid search of the memory store

`searchMemories` is the SQL function of migration 002: a semantic and a keyword
ranking of the memories in scope, each cut at 50 rows, joined by id into one score.
`MemoryStore.search` embeds the query, runs it and counts the accesses.

What pgvector and PostgreSQL's text search compute of one memory is a field of
`MemoryBackend`, and so is the embedding provider. Scores are exact until they are
rounded to a `REAL`, equal ranks are ordered by id, and the keyword list keeps its
first rows in rank order.
-/

namespace RlmApi

/-- A row of `memory_items` with the columns that a search reads or writes. -/
structure MemoryRow extends MemoryItem where
  embedding : Option (List ℚ)
  importance : ℚ
  accessCount : Int
  lastAccessedAt : Option Timestamp

/-- The primary key of `memory_items`. -/
def MemoryRow.key (row : MemoryRow) : Str := row.id

abbrev MemoryTable := Table MemoryRow.key

/-- The embedding provider, and the functions of the database on one memory. -/
structure MemoryBackend where
  /-- `EmbeddingProvider.embed([text])`. -/
  provider : Str → Except PyError (List (List PyFloat))
  /-- `embedding <=> p_embedding`. -/
  distance : List ℚ → List ℚ → ℚ
  /-- `content_tsv @@ websearch_to_tsquery('english', p_query)`. -/
  hits : Str → Str → Bool
  /-- `ts_rank_cd(content_tsv, websearch_to_tsquery('english', p_query))`. -/
  textRank : Str → Str → ℚ
  /-- A cast to `REAL`. -/
  toReal : ℚ → ℚ
  /-- A text for a `timestamptz` parameter, where `none` is a refusal. -/
  timestamptz : Str → Option Timestamp

/-- The arguments of `search`. -/
structure SearchArguments where
  tenantId : Str
  subjectId : Str
  namespaceName : Str
  query : Str
  limit : Int
deriving DecidableEq

/-! ## The SQL function -/

/-- The filter of `scoped`. -/
def inScope (now : Timestamp) (arguments : SearchArguments) (row : MemoryRow) : Bool :=
  row.tenantId = arguments.tenantId && row.subjectId = arguments.subjectId &&
    row.namespaceName = arguments.namespaceName && row.expiresAt.all (fun time => now < time)

section Function

variable (backend : MemoryBackend) (now : Timestamp) (arguments : SearchArguments)
  (embedding : List ℚ)

/-- `embedding <=> p_embedding` of a row that has an embedding. -/
def rowDistance (row : MemoryRow) : ℚ := backend.distance (row.embedding.getD []) embedding

/-- `ORDER BY embedding <=> p_embedding`. -/
def nearer (a b : MemoryRow) : Bool :=
  rowDistance backend embedding a < rowDistance backend embedding b ||
    (rowDistance backend embedding a = rowDistance backend embedding b && a.id ≤ b.id)

/-- `ts_rank_cd` of a row. -/
def rowRank (row : MemoryRow) : ℚ := backend.textRank row.content arguments.query

/-- `ORDER BY ts_rank_cd(…) DESC`. -/
def moreRelevant (a b : MemoryRow) : Bool :=
  rowRank backend arguments b < rowRank backend arguments a ||
    (rowRank backend arguments b = rowRank backend arguments a && a.id ≤ b.id)

/-- The first 50 rows of an order, with their `row_number()`. -/
def ranked (rows : List MemoryRow) : List (Str × Nat) :=
  ((rows.zipIdx 1).take 50).map (fun entry => (entry.1.id, entry.2))

/-- The rows that `semantic` ranks. -/
def semanticRow (row : MemoryRow) : Bool := inScope now arguments row && row.embedding.isSome

/-- `semantic`. -/
def semantic (table : MemoryTable) : List (Str × Nat) :=
  ranked (table.ordered (semanticRow now arguments) (nearer backend embedding))

/-- The rows that `keyword` ranks. -/
def keywordRow (row : MemoryRow) : Bool :=
  inScope now arguments row && backend.hits row.content arguments.query

/-- `keyword`. -/
def keyword (table : MemoryTable) : List (Str × Nat) :=
  ranked (table.ordered (keywordRow backend now arguments) (moreRelevant backend arguments))

/-- The default of `p_semantic_weight`. -/
def semanticWeight : ℚ := 1

/-- The default of `p_keyword_weight`. -/
def keywordWeight : ℚ := 7 / 10

/-- `COALESCE(weight / (60.0 + rank), 0)`. -/
def reciprocalRank (weight : ℚ) (rank : Option Nat) : ℚ :=
  (rank.map (fun rank => weight / (60 + rank))).getD 0

/-- `fused`: the full outer join of the two rankings by id. -/
def fused (semantic keyword : List (Str × Nat)) : List (Str × ℚ) :=
  semantic.map (fun entry => (entry.1, reciprocalRank semanticWeight (some entry.2) +
    reciprocalRank keywordWeight (keyword.lookup entry.1))) ++
  (keyword.filter (fun entry => (semantic.lookup entry.1).isNone)).map (fun entry =>
    (entry.1, reciprocalRank semanticWeight none + reciprocalRank keywordWeight (some entry.2)))

/-- `(f.rrf_score * (0.8 + 0.2 * m.importance))::REAL`. -/
def fusedScore (score : ℚ) (row : MemoryRow) : ℚ :=
  backend.toReal (score * (4 / 5 + 1 / 5 * row.importance))

/-- `fused JOIN memory_items ON m.id = f.id`. -/
def joined (table : MemoryTable) (fused : List (Str × ℚ)) : List (MemoryRow × ℚ) :=
  fused.flatMap (fun entry =>
    (table.rows.filter (fun row => decide (row.key = entry.1))).map
      (fun row => (row, fusedScore backend entry.2 row)))

/-- `ORDER BY score DESC`. -/
def higherScore (a b : MemoryRow × ℚ) : Bool :=
  b.2 < a.2 || (b.2 = a.2 && a.1.id ≤ b.1.id)

/-- `search_memories`. -/
def searchMemories (table : MemoryTable) : List (MemoryRow × ℚ) :=
  ((joined backend table (fused (semantic backend now arguments embedding table)
    (keyword backend now arguments table))).insertionSort
      (fun a b => higherScore a b = true)).take arguments.limit.toNat

end Function

/-! ## What the function depends on -/

section Scope

variable {backend : MemoryBackend} {now : Timestamp} {arguments : SearchArguments}
  {embedding : List ℚ} {table first second : MemoryTable}

theorem nearer_iff (a b : MemoryRow) : nearer backend embedding a b = true ↔
    rowDistance backend embedding a < rowDistance backend embedding b ∨
      rowDistance backend embedding a = rowDistance backend embedding b ∧ a.id ≤ b.id := by
  simp [nearer]

theorem moreRelevant_iff (a b : MemoryRow) : moreRelevant backend arguments a b = true ↔
    -rowRank backend arguments a < -rowRank backend arguments b ∨
      -rowRank backend arguments a = -rowRank backend arguments b ∧ a.id ≤ b.id := by
  simp only [moreRelevant, Bool.or_eq_true, Bool.and_eq_true, decide_eq_true_eq, neg_lt_neg_iff,
    neg_inj, eq_comm (a := rowRank backend arguments b)]

theorem inScope_tenant {row : MemoryRow} (within : inScope now arguments row = true) :
    row.tenantId = arguments.tenantId := by
  simp only [inScope, Bool.and_eq_true, decide_eq_true_eq] at within
  exact within.1.1.1

theorem inScope_subject {row : MemoryRow} (within : inScope now arguments row = true) :
    row.subjectId = arguments.subjectId := by
  simp only [inScope, Bool.and_eq_true, decide_eq_true_eq] at within
  exact within.1.1.2

/-- A ranked entry is the id of a row. -/
theorem mem_ranked {rows : List MemoryRow} {entry : Str × Nat} (member : entry ∈ ranked rows) :
    ∃ row ∈ rows, row.id = entry.1 := by
  obtain ⟨⟨row, rank⟩, kept, rfl⟩ := List.mem_map.mp member
  exact ⟨row, (List.mem_zipIdx (List.mem_of_mem_take kept)).2.2 ▸ List.getElem_mem _, rfl⟩

/-- A fused entry stems from one of the rankings. -/
theorem mem_fused {semantic keyword : List (Str × Nat)} {entry : Str × ℚ}
    (member : entry ∈ fused semantic keyword) :
    (∃ rank, (entry.1, rank) ∈ semantic) ∨ ∃ rank, (entry.1, rank) ∈ keyword := by
  rcases List.mem_append.mp member with inSemantic | inKeyword
  · obtain ⟨⟨id, rank⟩, listed, rfl⟩ := List.mem_map.mp inSemantic
    exact Or.inl ⟨rank, listed⟩
  · obtain ⟨⟨id, rank⟩, listed, rfl⟩ := List.mem_map.mp inKeyword
    exact Or.inr ⟨rank, (List.mem_filter.mp listed).1⟩

/-- Only memories in scope are fused. -/
theorem fused_inScope {entry : Str × ℚ}
    (member : entry ∈ fused (semantic backend now arguments embedding table)
      (keyword backend now arguments table)) :
    ∃ row ∈ table.rows, row.id = entry.1 ∧ inScope now arguments row = true := by
  rcases mem_fused member with ⟨rank, listed⟩ | ⟨rank, listed⟩
  · obtain ⟨row, ordered, same⟩ := mem_ranked listed
    obtain ⟨stored, wanted⟩ := Table.mem_ordered.mp ordered
    exact ⟨row, stored, same, (Bool.and_eq_true _ _ ▸ wanted).1⟩
  · obtain ⟨row, ordered, same⟩ := mem_ranked listed
    obtain ⟨stored, wanted⟩ := Table.mem_ordered.mp ordered
    exact ⟨row, stored, same, (Bool.and_eq_true _ _ ▸ wanted).1⟩

/-- Every result is a stored memory in scope: the join by id finds the row that was
ranked, because no other row has its id. -/
theorem mem_searchMemories {result : MemoryRow × ℚ}
    (member : result ∈ searchMemories backend now arguments embedding table) :
    result.1 ∈ table.rows ∧ inScope now arguments result.1 = true := by
  have sorted := List.mem_of_mem_take member
  rw [List.mem_insertionSort] at sorted
  obtain ⟨entry, ranked, found⟩ := List.mem_flatMap.mp sorted
  obtain ⟨row, kept, rfl⟩ := List.mem_map.mp found
  obtain ⟨stored, keyed⟩ := List.mem_filter.mp kept
  obtain ⟨origin, stored', same, within⟩ := fused_inScope ranked
  have one : row = origin := List.inj_on_of_nodup_map table.distinct stored stored'
    ((of_decide_eq_true keyed).trans same.symm)
  exact ⟨stored, one ▸ within⟩

/-- The function reads nothing but the rows in scope. -/
theorem searchMemories_congr_scope (same : ∀ row, inScope now arguments row = true →
      (row ∈ first.rows ↔ row ∈ second.rows)) :
    searchMemories backend now arguments embedding first =
      searchMemories backend now arguments embedding second := by
  have nearest : semantic backend now arguments embedding first =
      semantic backend now arguments embedding second := by
    refine congrArg ranked (Table.ordered_congr (Ranks.lexicographic nearer_iff)
      (first.resolved_of_key (fun _ _ early late => (tie_of_lexicographic nearer_iff early late).2))
      (fun row wanted => same row (Bool.and_eq_true _ _ ▸ wanted).1))
  have relevant : keyword backend now arguments first = keyword backend now arguments second := by
    refine congrArg ranked (Table.ordered_congr (Ranks.lexicographic moreRelevant_iff)
      (first.resolved_of_key (fun _ _ early late =>
        (tie_of_lexicographic moreRelevant_iff early late).2))
      (fun row wanted => same row (Bool.and_eq_true _ _ ▸ wanted).1))
  have joins : joined backend first (fused (semantic backend now arguments embedding first)
        (keyword backend now arguments first)) =
      joined backend second (fused (semantic backend now arguments embedding first)
        (keyword backend now arguments first)) := by
    refine List.flatMap_congr (fun entry member => ?_)
    obtain ⟨row, stored, keyed, within⟩ := fused_inScope member
    have stored' := (same row within).mp stored
    rw [Table.filter_key, Table.filter_key, ← keyed,
      show first.find? row.id = some row from Table.find?_of_mem stored,
      show second.find? row.id = some row from Table.find?_of_mem stored']
  rw [searchMemories, joins, nearest, relevant]
  rfl

end Scope

/-! ## The store's methods -/

def PyFloat.rational? : PyFloat → Option ℚ
  | .finite value => some value
  | .nan | .posInf | .negInf => none

namespace MemoryStore

/-- `embed`. -/
def embed (backend : MemoryBackend) (embeddingDim : Int) (text : Str) :
    Except PyError (List PyFloat) := do
  match ← backend.provider text with
  | [vector] =>
    if vector.length ≠ embeddingDim then
      throw (.valueError ("embedding dimension mismatch: expected " ++ toString embeddingDim ++
        ", received " ++ toString vector.length))
    else pure vector
  | _ => throw (.valueError "embedding provider returned an unexpected vector count")

/-- A component whose text is in the range of `float4`: at most halfway from the last one to
2¹²⁸. The double that is just there has a shorter text, which lies below. -/
def fitsFloat4 (component : ℚ) : Bool :=
  component.num.natAbs ≤ (2 ^ 128 - 2 ^ 103) * component.den

/-- `json.dumps(embedding)` as a `vector` parameter. -/
def vectorParameter (vector : List PyFloat) : Except PyError (List ℚ) :=
  match vector.mapM PyFloat.rational? with
  | some components => if components.all fitsFloat4 then .ok components else .error .dataError
  | none => .error .dataError

/-- `embed`, as a parameter. -/
def embedded (backend : MemoryBackend) (embeddingDim : Int) (text : Str) :
    Except PyError (List ℚ) := do
  vectorParameter (← embed backend embeddingDim text)

end MemoryStore

/-- The values of the `memory_kind` enumeration. -/
def MemoryKind.value : MemoryKind → Str
  | .fact => lit "fact"
  | .preference => lit "preference"
  | .decision => lit "decision"
  | .episode => lit "episode"
  | .runSummary => lit "run_summary"
  | .feedback => lit "feedback"

structure Memory where
  id : Str
  kind : Str
  content : Str
  metadata : List (Str × Json)
  score : ℚ

/-- `_json_metadata` of a text, by what `json.loads` reads from it. -/
def jsonMetadata : Option Json → Except PyError (List (Str × Json))
  | some (.obj fields) => .ok fields
  | some _ => .error (.valueError "memory metadata is not a JSON object")
  | none => .error (.valueError "JSONDecodeError")

/-- The `Memory` of a row with its score. -/
def resultMemory (result : MemoryRow × ℚ) : Except PyError Memory := do
  let metadata ← jsonMetadata result.1.metadata.loads
  pure ⟨result.1.id, result.1.kind.value, result.1.content, metadata, result.2⟩

/-- Every text parameter fits its column. -/
def SearchArguments.storable (arguments : SearchArguments) : Bool :=
  storableText arguments.tenantId && storableText arguments.subjectId &&
    storableText arguments.namespaceName && storableText arguments.query

/-- What `search` raises for the others. -/
def SearchArguments.refusal (arguments : SearchArguments) : PyError :=
  refusedParameters [arguments.tenantId, arguments.subjectId, arguments.namespaceName,
    arguments.query]

/-- What the access count's `UPDATE` sets. -/
def accessedVersion (now : Timestamp) (row : MemoryRow) : MemoryRow :=
  { row with accessCount := row.accessCount + 1, lastAccessedAt := some now }

theorem accessedVersion_key (now : Timestamp) (row : MemoryRow) :
    (accessedVersion now row).key = row.key := rfl

/-- `UPDATE memory_items SET access_count = access_count + 1 … WHERE id = ANY(ids)`. -/
def countAccesses (now : Timestamp) (ids : List Str) (table : MemoryTable) : MemoryTable :=
  table.modify (fun row => decide (row.id ∈ ids)) (accessedVersion now) (accessedVersion_key now)

/-- Counting accesses of one tenant's memories leaves the others' as they were. -/
theorem mem_countAccesses {now : Timestamp} {ids : List Str} {table : MemoryTable} {tenant : Str}
    (own : ∀ row ∈ table.rows, row.id ∈ ids → row.tenantId = tenant) {row : MemoryRow}
    (foreign : row.tenantId ≠ tenant) :
    row ∈ (countAccesses now ids table).rows ↔ row ∈ table.rows := by
  rw [countAccesses, Table.mem_modify]
  constructor
  · rintro ⟨stored, member, rfl⟩
    by_cases counted : stored.id ∈ ids
    · simp only [counted, decide_true, ↓reduceIte] at foreign
      exact absurd (own stored member counted) foreign
    · simpa only [counted, decide_false, Bool.false_eq_true, ↓reduceIte] using member
  · intro member
    refine ⟨row, member, ?_⟩
    have uncounted : row.id ∉ ids := fun counted => foreign (own row member counted)
    simp only [uncounted, decide_false, Bool.false_eq_true, ↓reduceIte]

namespace MemoryStore

/-- The rows that the first statement of `search` selects. -/
def selected (backend : MemoryBackend) (embeddingDim : Int) (now : Timestamp)
    (arguments : SearchArguments) (table : MemoryTable) : Except PyError (List (MemoryRow × ℚ)) :=
  match embedded backend embeddingDim arguments.query with
  | .error error => .error error
  | .ok embedding =>
    if !arguments.storable then .error arguments.refusal
    else .ok (searchMemories backend now arguments embedding table)

/-- The ids of selected rows. -/
def selectedIds (results : List (MemoryRow × ℚ)) : List Str :=
  results.map (fun result => result.1.id)

/-- `search`. The two statements commit one by one, and the results are decoded
after both. -/
def search (backend : MemoryBackend) (embeddingDim : Int) (now : Timestamp)
    (arguments : SearchArguments) (table : MemoryTable) :
    Except PyError (List Memory) × MemoryTable :=
  match selected backend embeddingDim now arguments table with
  | .error error => (.error error, table)
  | .ok results =>
    (results.mapM resultMemory,
      if results.isEmpty then table else countAccesses now (selectedIds results) table)

/-- The arguments of `write`. -/
structure WriteArguments where
  tenantId : Str
  subjectId : Str
  namespaceName : Str
  kind : MemoryKind
  content : Str
  metadata : List (Str × Json)
  importance : PyFloat
  expiresAt : Option Str
  sourceRunId : Option Str

/-- Every parameter fits its column. -/
def WriteArguments.storable (arguments : WriteArguments) : Bool :=
  storableText arguments.tenantId && storableText arguments.subjectId &&
    storableText arguments.namespaceName && storableText arguments.content &&
    storableFields arguments.metadata

/-- What `write` raises for the others. -/
def WriteArguments.refusal (arguments : WriteArguments) : PyError :=
  if (Json.obj arguments.metadata).convertible then
    refusedParameters [arguments.tenantId, arguments.subjectId, arguments.namespaceName,
      arguments.content]
  else tooManyDigits

/-- `importance`, within its `CHECK`. -/
def storedImportance (backend : MemoryBackend) (importance : PyFloat) : Except PyError ℚ :=
  match importance.rational? with
  | some value =>
    if 0 ≤ backend.toReal value ∧ backend.toReal value ≤ 1 then .ok (backend.toReal value)
    else .error (.checkViolation "memory_items_importance_check")
  | none => .error (.checkViolation "memory_items_importance_check")

/-- `expires_at`, if there is one. -/
def storedExpiry (backend : MemoryBackend) (expiresAt : Option Str) :
    Except PyError (Option Timestamp) :=
  match expiresAt with
  | none => .ok none
  | some text =>
    match backend.timestamptz text with
    | some time => .ok (some time)
    | none => .error .invalidArgument

/-- The row `write` proposes, with the column defaults. -/
def proposed (memoryId : Str) (arguments : WriteArguments) (embedding : List ℚ)
    (importance : ℚ) (expiresAt : Option Timestamp) : MemoryRow where
  id := memoryId
  tenantId := arguments.tenantId
  subjectId := arguments.subjectId
  namespaceName := arguments.namespaceName
  kind := arguments.kind
  content := arguments.content
  metadata := .obj arguments.metadata
  expiresAt := expiresAt
  sourceRunId := arguments.sourceRunId
  embedding := some embedding
  importance := importance
  accessCount := 0
  lastAccessedAt := none

/-- The row that `ON CONFLICT (tenant_id, subject_id, namespace, source_run_id)`
finds. -/
def conflicting (row : MemoryRow) (table : MemoryTable) : Option MemoryRow :=
  table.rows.find? (fun stored => row.sourceRunId.isSome &&
    decide (stored.toMemoryItem.slot = row.toMemoryItem.slot))

/-- The parameters of the insertion, as the row it proposes. -/
def insertion (backend : MemoryBackend) (embeddingDim : Int) (memoryId : Str)
    (arguments : WriteArguments) : Except PyError MemoryRow := do
  let embedding ← embedded backend embeddingDim arguments.content
  let expiresAt ← storedExpiry backend arguments.expiresAt
  let importance ← storedImportance backend arguments.importance
  if arguments.storable then pure (proposed memoryId arguments embedding importance expiresAt)
  else throw arguments.refusal

/-- `write`, with the id that the insertion would draw, which never repeats. A memory
that is already there is left as it is. -/
def write (backend : MemoryBackend) (embeddingDim : Int) (memoryId : Str)
    (arguments : WriteArguments) (table : MemoryTable) : Except PyError (Str × MemoryTable) :=
  if arguments.sourceRunId.isSome && arguments.kind ≠ .runSummary then
    .error (.valueError "source_run_id is only valid for run summaries")
  else
    match insertion backend embeddingDim memoryId arguments with
    | .error error => .error error
    | .ok row =>
      match conflicting row table with
      | some stored => .ok (stored.id, table)
      | none =>
        if (table.find? memoryId).isSome then .error .dataError
        else .ok (memoryId, table.put row)

/-! ## What the methods read and change -/

section Effects

variable {backend : MemoryBackend} {embeddingDim : Int} {now : Timestamp}
  {table first second : MemoryTable}

/-- A selected row is a stored memory in scope. -/
theorem mem_selected {arguments : SearchArguments} {results : List (MemoryRow × ℚ)}
    (found : selected backend embeddingDim now arguments table = .ok results)
    {result : MemoryRow × ℚ} (member : result ∈ results) :
    result.1 ∈ table.rows ∧ inScope now arguments result.1 = true := by
  unfold selected at found
  split at found
  · cases found
  · split at found
    · cases found
    · cases found
      exact mem_searchMemories member

/-- The selection reads nothing but the rows in scope. -/
theorem selected_congr_scope {arguments : SearchArguments}
    (same : ∀ row, inScope now arguments row = true → (row ∈ first.rows ↔ row ∈ second.rows)) :
    selected backend embeddingDim now arguments first =
      selected backend embeddingDim now arguments second := by
  unfold selected
  cases embedded backend embeddingDim arguments.query with
  | error error => rfl
  | ok embedding =>
    have answers : searchMemories backend now arguments embedding first =
        searchMemories backend now arguments embedding second := searchMemories_congr_scope same
    simp only [answers]

/-- A search answers the same on tables that agree on its tenant. -/
theorem search_congr {arguments : SearchArguments}
    (same : ∀ row, row.tenantId = arguments.tenantId →
      (row ∈ first.rows ↔ row ∈ second.rows)) :
    (search backend embeddingDim now arguments first).1 =
      (search backend embeddingDim now arguments second).1 := by
  have agree : selected backend embeddingDim now arguments first =
      selected backend embeddingDim now arguments second :=
    selected_congr_scope (fun row within => same row (inScope_tenant within))
  unfold search
  rw [agree]
  cases selected backend embeddingDim now arguments second with
  | error error => rfl
  | ok results => rfl

/-- A search changes no memory of another tenant: it counts accesses by id alone, but
the ids are those of memories in scope. -/
theorem search_others {arguments : SearchArguments} {row : MemoryRow}
    (foreign : row.tenantId ≠ arguments.tenantId) :
    row ∈ (search backend embeddingDim now arguments table).2.rows ↔ row ∈ table.rows := by
  unfold search
  cases found : selected backend embeddingDim now arguments table with
  | error error => rfl
  | ok results =>
    dsimp only
    split
    · rfl
    · refine mem_countAccesses (fun stored member counted => ?_) foreign
      obtain ⟨result, returned, sameId⟩ := List.mem_map.mp counted
      obtain ⟨stored', within⟩ := mem_selected found returned
      have one : result.1 = stored :=
        List.inj_on_of_nodup_map table.distinct stored' member sameId
      exact one ▸ inScope_tenant within

/-- The proposed row carries the arguments. -/
structure Carries (row : MemoryRow) (memoryId : Str) (arguments : WriteArguments) : Prop where
  id : row.id = memoryId
  tenantId : row.tenantId = arguments.tenantId
  subjectId : row.subjectId = arguments.subjectId
  namespaceName : row.namespaceName = arguments.namespaceName
  sourceRunId : row.sourceRunId = arguments.sourceRunId
  storable : arguments.storable = true

theorem carries_of_insertion {memoryId : Str} {arguments : WriteArguments} {row : MemoryRow}
    (inserted : insertion backend embeddingDim memoryId arguments = .ok row) :
    Carries row memoryId arguments := by
  simp only [insertion, except_bind_ok_iff] at inserted
  obtain ⟨embedding, -, expiresAt, -, importance, -, inserted⟩ := inserted
  split at inserted
  · next storable =>
    cases inserted
    exact ⟨rfl, rfl, rfl, rfl, rfl, storable⟩
  · cases inserted

/-- A write that succeeds found its memory there, or added the proposed one. -/
theorem write_ok {memoryId stored : Str} {arguments : WriteArguments} {table' : MemoryTable}
    (wrote : write backend embeddingDim memoryId arguments table = .ok (stored, table')) :
    ∃ row, Carries row memoryId arguments ∧
      (table' = table ∨ table.find? row.key = none ∧ table' = table.put row) := by
  unfold write at wrote
  split at wrote
  · cases wrote
  · split at wrote
    · cases wrote
    · next row inserted =>
      have carries := carries_of_insertion inserted
      refine ⟨row, carries, ?_⟩
      split at wrote
      · cases wrote
        exact Or.inl rfl
      · split at wrote
        · cases wrote
        · next fresh =>
          cases wrote
          rw [Bool.not_eq_true, Option.isSome_eq_false_iff, Option.isNone_iff_eq_none] at fresh
          have keyed : row.key = memoryId := carries.id
          exact Or.inr ⟨keyed ▸ fresh, rfl⟩

/-- A memory that a write adds is in the scope of its arguments. -/
theorem write_adds {memoryId stored : Str} {arguments : WriteArguments} {table' : MemoryTable}
    (wrote : write backend embeddingDim memoryId arguments table = .ok (stored, table'))
    {row : MemoryRow} (there : row ∈ table'.rows) (added : row ∉ table.rows) :
    Carries row memoryId arguments := by
  obtain ⟨written, carries, rfl | ⟨fresh, rfl⟩⟩ := write_ok wrote
  · exact absurd there added
  · rcases (Table.mem_put_fresh fresh).mp there with old | rfl
    · exact absurd old added
    · exact carries

/-- A write changes no memory of another tenant. -/
theorem write_others {memoryId stored : Str} {arguments : WriteArguments} {table' : MemoryTable}
    (wrote : write backend embeddingDim memoryId arguments table = .ok (stored, table'))
    {row : MemoryRow} (foreign : row.tenantId ≠ arguments.tenantId) :
    row ∈ table'.rows ↔ row ∈ table.rows := by
  obtain ⟨written, carries, rfl | ⟨fresh, rfl⟩⟩ := write_ok wrote
  · rfl
  · rw [Table.mem_put_fresh fresh]
    constructor
    · rintro (old | rfl)
      · exact old
      · exact absurd carries.tenantId foreign
    · exact Or.inl

end Effects

end MemoryStore

end RlmApi
