import Mathlib.Algebra.Order.Field.Basic
import Mathlib.Tactic.Linarith
import RlmApi.MemorySearch
import RlmApi.SqlSelections

/-!
# Whatever order ties are in

`search_memories` leaves PostgreSQL choices: `row_number()` and the `ORDER BY` of the
semantic list may break ties differently, the keyword list is limited without an order,
and equal scores come in any order. A `SearchExecution` is one way to make them all. The
comparisons by distance and by text rank are arbitrary, the weights are arbitrary and
positive, and scores are exact.

`searchMemories` of `MemorySearch` breaks every tie by id; `deterministic_execution` says
that this is one of the ways.
-/

namespace RlmApi

open Sql

/-- What the function is given beside the scope: how embeddings compare with the query's,
which memories match its text and how well, and the two weights. -/
structure SearchOrders where
  /-- `ORDER BY embedding <=> p_embedding`. -/
  nearer : MemoryRow → MemoryRow → Prop
  nearer_total : ∀ a b, nearer a b ∨ nearer b a
  nearer_trans : ∀ a b c, nearer a b → nearer b c → nearer a c
  /-- `content_tsv @@ websearch_to_tsquery('english', p_query)`. -/
  hits : MemoryRow → Bool
  /-- `ORDER BY ts_rank_cd(…) DESC`. -/
  relevant : MemoryRow → MemoryRow → Prop
  relevant_total : ∀ a b, relevant a b ∨ relevant b a
  relevant_trans : ∀ a b c, relevant a b → relevant b c → relevant a c
  semanticWeight : ℚ
  semanticWeight_positive : 0 < semanticWeight
  keywordWeight : ℚ
  keywordWeight_positive : 0 < keywordWeight

/-- `memory_items` with the `CHECK` of its importance. -/
structure CheckedMemories where
  table : MemoryTable
  importance : ∀ row ∈ table.rows, 0 ≤ row.importance ∧ row.importance ≤ 1

/-- `LIMIT 50`, of which only ids and ranks are read. -/
def limited (rows : List (MemoryRow × Nat)) : List (Str × Nat) :=
  (rows.take 50).map (fun entry => (entry.1.id, entry.2))

section Function

variable (orders : SearchOrders) (now : Timestamp) (arguments : SearchArguments)

/-- The rows of `keyword`. -/
def matchingRow (row : MemoryRow) : Bool := inScope now arguments row && orders.hits row

/-- `fused`. -/
def fusedRanks (semantic keyword : List (Str × Nat)) : List (Str × ℚ) :=
  (fullOuterJoin semantic keyword).map (fun entry =>
    (entry.1, reciprocalRank orders.semanticWeight entry.2.1 +
      reciprocalRank orders.keywordWeight entry.2.2))

/-- `JOIN memory_items m ON m.id = f.id` for one row of `fused`, with the score. -/
def scoredRow (table : MemoryTable) (entry : Str × ℚ) : List (MemoryRow × ℚ) :=
  (table.rows.filter (fun row => decide (row.key = entry.1))).map
    (fun row => (row, entry.2 * (4 / 5 + 1 / 5 * row.importance)))

/-- `fused JOIN memory_items`. -/
def scoredRows (table : MemoryTable) (semantic keyword : List (Str × Nat)) :
    List (MemoryRow × ℚ) :=
  (fusedRanks orders semantic keyword).flatMap (scoredRow table)

/-- One execution of `search_memories`. -/
structure SearchExecution (table : MemoryTable) where
  /-- The order along which `semantic` numbers its rows. -/
  semanticNumbered : List MemoryRow
  semanticNumbering :
    OrderedBy orders.nearer (table.rows.filter (semanticRow now arguments)) semanticNumbered
  /-- The order along which `semantic` is limited. -/
  semanticOrdered : List (MemoryRow × Nat)
  semanticOrdering :
    OrderedBy (fun a b => orders.nearer a.1 b.1) (numbered semanticNumbered) semanticOrdered
  /-- The order along which `keyword` numbers its rows. -/
  keywordNumbered : List MemoryRow
  keywordNumbering : OrderedBy orders.relevant
    (table.rows.filter (matchingRow orders now arguments)) keywordNumbered
  /-- The order, which is none in particular, along which `keyword` is limited. -/
  keywordListed : List (MemoryRow × Nat)
  keywordListing : keywordListed.Perm (numbered keywordNumbered)
  /-- The order of the result. -/
  ordered : List (MemoryRow × ℚ)
  ordering : OrderedBy (fun a b => b.2 ≤ a.2)
    (scoredRows orders table (limited semanticOrdered) (limited keywordListed)) ordered

end Function

namespace SearchExecution

variable {orders : SearchOrders} {now : Timestamp} {arguments : SearchArguments}
  {table : MemoryTable}

/-- `semantic`. -/
def semantic (run : SearchExecution orders now arguments table) : List (Str × Nat) :=
  limited run.semanticOrdered

/-- `keyword`. -/
def keyword (run : SearchExecution orders now arguments table) : List (Str × Nat) :=
  limited run.keywordListed

/-- What the function returns. -/
def result (run : SearchExecution orders now arguments table) : List (MemoryRow × ℚ) :=
  run.ordered.take arguments.limit.toNat

/-- The row is in one of the two lists. -/
def Candidate (run : SearchExecution orders now arguments table) (row : MemoryRow) : Prop :=
  (∃ rank, (row.id, rank) ∈ run.semantic) ∨ ∃ rank, (row.id, rank) ∈ run.keyword

/-- The score of a row. -/
def score (run : SearchExecution orders now arguments table) (row : MemoryRow) : ℚ :=
  (reciprocalRank orders.semanticWeight (run.semantic.lookup row.id) +
    reciprocalRank orders.keywordWeight (run.keyword.lookup row.id)) *
      (4 / 5 + 1 / 5 * row.importance)

/-! ## The two lists -/

/-- What is kept of numbered rows with different keys are different keys. -/
theorem limited_keys {rows numberedRows : List MemoryRow} {listed : List (MemoryRow × Nat)}
    (same : numberedRows.Perm rows) (kept : listed.Perm (numbered numberedRows))
    (distinct : (rows.map MemoryRow.key).Nodup) : ((limited listed).map Prod.fst).Nodup := by
  have keys : ((numbered numberedRows).map (fun entry => entry.1.key)).Nodup := by
    have renamed : (numbered numberedRows).map (fun entry => entry.1.key) =
        ((numbered numberedRows).map Prod.fst).map MemoryRow.key := by
      rw [List.map_map]
      rfl
    rw [renamed, numbered_fst]
    exact ((same.map MemoryRow.key).nodup_iff).mpr distinct
  have prefixKeys := keys_take kept keys 50
  rw [limited, List.map_map]
  exact prefixKeys

/-- What is kept are ids of the rows. -/
theorem mem_of_limited {rows numberedRows : List MemoryRow} {listed : List (MemoryRow × Nat)}
    (same : numberedRows.Perm rows) (kept : listed.Perm (numbered numberedRows))
    {entry : Str × Nat} (member : entry ∈ limited listed) : ∃ row ∈ rows, row.id = entry.1 := by
  obtain ⟨⟨row, rank⟩, taken, rfl⟩ := List.mem_map.mp member
  have found : (row, rank) ∈ numbered numberedRows :=
    kept.mem_iff.mp (List.mem_of_mem_take taken)
  have inOrder : row ∈ numberedRows := by
    rw [← numbered_fst numberedRows]
    exact List.mem_map_of_mem (f := Prod.fst) found
  exact ⟨row, same.mem_iff.mp inOrder, rfl⟩

theorem filter_distinct (table : MemoryTable) (wanted : MemoryRow → Bool) :
    ((table.rows.filter wanted).map MemoryRow.key).Nodup :=
  table.distinct.sublist (List.filter_sublist.map MemoryRow.key)

theorem semantic_distinct (run : SearchExecution orders now arguments table) :
    (run.semantic.map Prod.fst).Nodup :=
  limited_keys run.semanticNumbering.perm run.semanticOrdering.perm (filter_distinct table _)

theorem keyword_distinct (run : SearchExecution orders now arguments table) :
    (run.keyword.map Prod.fst).Nodup :=
  limited_keys run.keywordNumbering.perm run.keywordListing (filter_distinct table _)

/-- A listed row of the table is in scope, if the list checks the scope of its rows. -/
theorem inScope_of_limited {wanted : MemoryRow → Bool}
    (checked : ∀ row, wanted row = true → inScope now arguments row = true)
    {numberedRows : List MemoryRow} {listed : List (MemoryRow × Nat)}
    (same : numberedRows.Perm (table.rows.filter wanted))
    (kept : listed.Perm (numbered numberedRows)) {row : MemoryRow} {rank : Nat}
    (stored : row ∈ table.rows) (member : (row.id, rank) ∈ limited listed) :
    inScope now arguments row = true := by
  obtain ⟨other, kept, equal⟩ := mem_of_limited same kept member
  obtain ⟨inTable, wants⟩ := List.mem_filter.mp kept
  obtain rfl : other = row := List.inj_on_of_nodup_map table.distinct inTable stored equal
  exact checked other wants

/-- A candidate of the table is in scope. -/
theorem Candidate.inScope {run : SearchExecution orders now arguments table} {row : MemoryRow}
    (candidate : run.Candidate row) (stored : row ∈ table.rows) :
    inScope now arguments row = true := by
  rcases candidate with ⟨rank, member⟩ | ⟨rank, member⟩
  · exact inScope_of_limited (fun _ wanted => (Bool.and_eq_true _ _ ▸ wanted).1)
      run.semanticNumbering.perm run.semanticOrdering.perm stored member
  · exact inScope_of_limited (fun _ wanted => (Bool.and_eq_true _ _ ▸ wanted).1)
      run.keywordNumbering.perm run.keywordListing stored member

/-! ## The scores -/

theorem mem_fusedRanks_iff (run : SearchExecution orders now arguments table) (k : Str) (sum : ℚ) :
    (k, sum) ∈ fusedRanks orders run.semantic run.keyword ↔
      sum = reciprocalRank orders.semanticWeight (run.semantic.lookup k) +
        reciprocalRank orders.keywordWeight (run.keyword.lookup k) ∧
      ((∃ rank, (k, rank) ∈ run.semantic) ∨ ∃ rank, (k, rank) ∈ run.keyword) := by
  rw [fusedRanks, List.mem_map]
  constructor
  · rintro ⟨⟨name, left, right⟩, joined, ⟨⟩⟩
    obtain ⟨⟨rfl, rfl⟩, listed⟩ :=
      (mem_fullOuterJoin_iff run.semantic_distinct run.keyword_distinct _ _ _).mp joined
    exact ⟨rfl, listed⟩
  · rintro ⟨rfl, listed⟩
    exact ⟨(k, run.semantic.lookup k, run.keyword.lookup k),
      (mem_fullOuterJoin_iff run.semantic_distinct run.keyword_distinct _ _ _).mpr
        ⟨⟨rfl, rfl⟩, listed⟩, rfl⟩

/-- The scored rows are the candidates with their scores. -/
theorem mem_scoredRows_iff (run : SearchExecution orders now arguments table)
    (scored : MemoryRow × ℚ) :
    scored ∈ scoredRows orders table run.semantic run.keyword ↔
      scored.1 ∈ table.rows ∧ run.Candidate scored.1 ∧ scored.2 = run.score scored.1 := by
  rw [scoredRows, List.mem_flatMap]
  constructor
  · rintro ⟨⟨k, sum⟩, fused, joined⟩
    obtain ⟨row, kept, rfl⟩ := List.mem_map.mp joined
    obtain ⟨stored, keyed⟩ := List.mem_filter.mp kept
    obtain rfl : row.key = k := of_decide_eq_true keyed
    obtain ⟨rfl, listed⟩ := (run.mem_fusedRanks_iff _ _).mp fused
    exact ⟨stored, listed, rfl⟩
  · rintro ⟨stored, candidate, same⟩
    refine ⟨_, (run.mem_fusedRanks_iff scored.1.id _).mpr ⟨rfl, candidate⟩, ?_⟩
    refine List.mem_map.mpr ⟨scored.1, List.mem_filter.mpr ⟨stored, decide_eq_true rfl⟩, ?_⟩
    exact Prod.ext rfl same.symm

/-- No row is scored twice. -/
theorem scoredRows_keys (run : SearchExecution orders now arguments table) :
    ((scoredRows orders table run.semantic run.keyword).map (fun scored => scored.1.id)).Nodup := by
  have keys : ((fusedRanks orders run.semantic run.keyword).map Prod.fst).Nodup := by
    have joins := fullOuterJoin_keys run.semantic_distinct run.keyword_distinct
    rw [fusedRanks, List.map_map]
    exact joins
  have single : ∀ entry : Str × ℚ,
      ((scoredRow table entry).map (fun scored => scored.1.id)).Sublist [entry.1] := by
    intro entry
    rw [scoredRow, Table.filter_key]
    cases found : table.find? entry.1 with
    | none => exact List.nil_sublist _
    | some row =>
      have keyed : row.key = entry.1 := Table.find?_key found
      rw [← keyed]
      exact List.Sublist.refl _
  have joined : ∀ entries : List (Str × ℚ),
      ((entries.flatMap (scoredRow table)).map (fun scored => scored.1.id)).Sublist
        (entries.map Prod.fst) := by
    intro entries
    induction entries with
    | nil => exact List.Sublist.refl _
    | cons entry rest inductionHypothesis =>
      rw [List.flatMap_cons, List.map_append]
      exact (single entry).append inductionHypothesis
  exact keys.sublist (joined _)

/-- A rank is worth something, and a better one at least as much. -/
theorem reciprocalRank_le {weight : ℚ} (positive : 0 < weight) {worse better : Option Nat}
    (dominated : ∀ rank, worse = some rank → ∃ other, better = some other ∧ other ≤ rank) :
    0 ≤ reciprocalRank weight worse ∧
      reciprocalRank weight worse ≤ reciprocalRank weight better := by
  have worth : ∀ rank : Option Nat, 0 ≤ reciprocalRank weight rank := by
    intro rank
    cases rank with
    | none => exact le_refl _
    | some rank => exact div_nonneg positive.le (by positivity)
  refine ⟨worth worse, ?_⟩
  cases worse with
  | none => exact worth better
  | some rank =>
    obtain ⟨other, rfl, le⟩ := dominated rank rfl
    have fewer : (60 : ℚ) + other ≤ 60 + rank := by
      have cast : (other : ℚ) ≤ rank := Nat.cast_le.mpr le
      linarith
    exact div_le_div_of_nonneg_left positive.le (by positivity) fewer

/-- One row is in every list that another is in, with a rank at least as good, and it is
at least as important. -/
structure Dominates (run : SearchExecution orders now arguments table) (better worse : MemoryRow) :
    Prop where
  semantic : ∀ rank, (worse.id, rank) ∈ run.semantic →
    ∃ other, (better.id, other) ∈ run.semantic ∧ other ≤ rank
  keyword : ∀ rank, (worse.id, rank) ∈ run.keyword →
    ∃ other, (better.id, other) ∈ run.keyword ∧ other ≤ rank
  importance : worse.importance ≤ better.importance

/-- Fusion is monotone. -/
theorem Dominates.score_le {run : SearchExecution orders now arguments table}
    {better worse : MemoryRow} (dominates : run.Dominates better worse)
    (important : 0 ≤ worse.importance) : run.score worse ≤ run.score better := by
  have near : ∀ rank, run.semantic.lookup worse.id = some rank →
      ∃ other, run.semantic.lookup better.id = some other ∧ other ≤ rank := by
    simpa only [lookup_eq_some_iff_mem run.semantic_distinct] using dominates.semantic
  have relevance : ∀ rank, run.keyword.lookup worse.id = some rank →
      ∃ other, run.keyword.lookup better.id = some other ∧ other ≤ rank := by
    simpa only [lookup_eq_some_iff_mem run.keyword_distinct] using dominates.keyword
  have nearer := reciprocalRank_le orders.semanticWeight_positive near
  have relevant := reciprocalRank_le orders.keywordWeight_positive relevance
  have importance := dominates.importance
  refine mul_le_mul (add_le_add nearer.2 relevant.2) ?_ ?_ ?_
  · linarith
  · linarith
  · exact add_nonneg (nearer.1.trans nearer.2) (relevant.1.trans relevant.2)

end SearchExecution

/-! ## The result -/

/-- An unexpired row of exactly the searched scope. -/
structure Searchable (now : Timestamp) (arguments : SearchArguments) (row : MemoryRow) : Prop where
  tenantId : row.tenantId = arguments.tenantId
  subjectId : row.subjectId = arguments.subjectId
  namespaceName : row.namespaceName = arguments.namespaceName
  unexpired : ∀ time, row.expiresAt = some time → now < time

theorem searchable_of_inScope {now : Timestamp} {arguments : SearchArguments} {row : MemoryRow}
    (within : inScope now arguments row = true) : Searchable now arguments row := by
  simp only [inScope, Bool.and_eq_true, decide_eq_true_eq, Option.all_eq_true] at within
  obtain ⟨⟨⟨tenant, subject⟩, namespaceName⟩, unexpired⟩ := within
  exact ⟨tenant, subject, namespaceName, fun time expires => unexpired time expires⟩

/-- What is sound about the result of an execution. -/
structure SoundRanking {orders : SearchOrders} {now : Timestamp} {arguments : SearchArguments}
    {table : MemoryTable} (run : SearchExecution orders now arguments table) : Prop where
  distinct : (run.result.map (fun scored => scored.1.id)).Nodup
  bounded : (run.result.length : Int) ≤ arguments.limit
  listed : ∀ scored ∈ run.result, scored.1 ∈ table.rows ∧ Searchable now arguments scored.1 ∧
    run.Candidate scored.1 ∧ scored.2 = run.score scored.1
  ordered : run.result.Pairwise (fun first second => second.2 ≤ first.2)
  complete : ∀ row ∈ table.rows, run.Candidate row → row ∉ run.result.map Prod.fst →
    ∀ scored ∈ run.result, run.score row ≤ scored.2
  monotone : ∀ better ∈ table.rows, ∀ worse ∈ table.rows, run.Dominates better worse →
    run.score worse ≤ run.score better
  ahead : ∀ better ∈ table.rows, ∀ scored ∈ run.result, run.Dominates better scored.1 →
    scored.2 ≤ run.score better

/-- However PostgreSQL breaks ties and whichever rows the keyword list keeps, the result
is a sound fused ranking. -/
theorem ranking_sound {orders : SearchOrders} {now : Timestamp} {arguments : SearchArguments}
    (memories : CheckedMemories) (limit : 0 ≤ arguments.limit)
    (run : SearchExecution orders now arguments memories.table) : SoundRanking run := by
  have scored : ∀ entry, entry ∈ run.result → entry.1 ∈ memories.table.rows ∧
      run.Candidate entry.1 ∧ entry.2 = run.score entry.1 := fun entry member =>
    (run.mem_scoredRows_iff entry).mp (run.ordering.perm.mem_iff.mp (List.mem_of_mem_take member))
  have monotone : ∀ better ∈ memories.table.rows, ∀ worse ∈ memories.table.rows,
      run.Dominates better worse → run.score worse ≤ run.score better :=
    fun better _ worse stored dominates =>
      dominates.score_le (memories.importance worse stored).1
  constructor
  · exact keys_take run.ordering.perm run.scoredRows_keys _
  · have short : run.result.length ≤ arguments.limit.toNat := List.length_take_le _ _
    omega
  · intro entry member
    obtain ⟨stored, candidate, same⟩ := scored entry member
    exact ⟨stored, searchable_of_inScope (candidate.inScope stored), candidate, same⟩
  · exact run.ordering.sorted.sublist (List.take_sublist _ _)
  · intro row stored candidate left entry member
    have joined : (row, run.score row) ∈
        scoredRows orders memories.table run.semantic run.keyword :=
      (run.mem_scoredRows_iff _).mpr ⟨stored, candidate, rfl⟩
    have cut : (row, run.score row) ∉ run.result := fun inside =>
      left (List.mem_map_of_mem (f := Prod.fst) inside)
    exact run.ordering.before_cut joined cut member
  · exact monotone
  · intro better inTable entry member dominates
    obtain ⟨stored, -, same⟩ := scored entry member
    rw [same]
    exact monotone better inTable entry.1 stored dominates

/-! ## Ties broken by id -/

/-- The comparisons of a backend, with the default weights. -/
def backendOrders (backend : MemoryBackend) (arguments : SearchArguments) (embedding : List ℚ) :
    SearchOrders where
  nearer a b := rowDistance backend embedding a ≤ rowDistance backend embedding b
  nearer_total _ _ := le_total _ _
  nearer_trans _ _ _ := le_trans
  hits row := backend.hits row.content arguments.query
  relevant a b := rowRank backend arguments b ≤ rowRank backend arguments a
  relevant_total _ _ := le_total _ _
  relevant_trans _ _ _ first second := le_trans second first
  semanticWeight := semanticWeight
  semanticWeight_positive := by decide +kernel
  keywordWeight := keywordWeight
  keywordWeight_positive := by decide +kernel

section Deterministic

variable {backend : MemoryBackend} {now : Timestamp} {arguments : SearchArguments}
  {embedding : List ℚ} {table : MemoryTable}

/-- An order that is finer than the comparison is permitted. -/
theorem orderedBy_ordered {wanted : MemoryRow → Bool} {finer : MemoryRow → MemoryRow → Bool}
    {before : MemoryRow → MemoryRow → Prop} (ranks : Ranks finer)
    (permitted : ∀ a b, finer a b = true → before a b) :
    OrderedBy before (table.rows.filter wanted) (table.ordered wanted finer) :=
  ⟨List.perm_insertionSort _ _, (table.ordered_sorted ranks).imp fun {a b} => permitted a b⟩

theorem higherScore_iff (a b : MemoryRow × ℚ) : higherScore a b = true ↔
    -a.2 < -b.2 ∨ -a.2 = -b.2 ∧ a.1.id ≤ b.1.id := by
  simp only [higherScore, Bool.or_eq_true, Bool.and_eq_true, decide_eq_true_eq, neg_lt_neg_iff,
    neg_inj, eq_comm (a := b.2)]

theorem joined_eq_scoredRows (exact : ∀ score, backend.toReal score = score)
    (semantic keyword : List (Str × Nat)) :
    joined backend table (fused semantic keyword) =
      scoredRows (backendOrders backend arguments embedding) table semantic keyword := by
  have ranks : fused semantic keyword =
      fusedRanks (backendOrders backend arguments embedding) semantic keyword := by
    simp only [fused, fusedRanks, fullOuterJoin, List.map_append, List.map_map]
    rfl
  rw [ranks]
  simp only [joined, scoredRows, fusedScore, exact]
  rfl

/-- Breaking every tie by id, and keeping the best rows of the keyword list, is one of
the executions. -/
theorem deterministic_execution (exact : ∀ score, backend.toReal score = score) :
    ∃ run : SearchExecution (backendOrders backend arguments embedding) now arguments table,
      run.result = searchMemories backend now arguments embedding table := by
  have sortedScores : ∀ rows : List (MemoryRow × ℚ),
      OrderedBy (fun a b => b.2 ≤ a.2) rows
        (rows.insertionSort (fun a b => higherScore a b = true)) := by
    intro rows
    have ranks : Ranks higherScore := Ranks.lexicographic higherScore_iff
    have : Std.Total (fun a b => higherScore a b = true) := ⟨ranks.total⟩
    have : IsTrans (MemoryRow × ℚ) (fun a b => higherScore a b = true) := ⟨ranks.trans⟩
    refine ⟨List.perm_insertionSort _ _, (List.pairwise_insertionSort _ _).imp ?_⟩
    intro a b higher
    rcases (higherScore_iff a b).mp higher with less | ⟨same, -⟩
    · exact (neg_lt_neg_iff.mp less).le
    · exact (neg_inj.mp same).ge
  have numbering : ∀ {before : MemoryRow → MemoryRow → Prop} {rows : List MemoryRow},
      rows.Pairwise before →
        OrderedBy (fun a b => before a.1 b.1) (numbered rows) (numbered rows) := by
    intro before rows sorted
    refine ⟨List.Perm.refl _, List.pairwise_map.mp ?_⟩
    rwa [numbered_fst]
  have nearest : OrderedBy (backendOrders backend arguments embedding).nearer
      (table.rows.filter (semanticRow now arguments))
      (table.ordered (semanticRow now arguments) (nearer backend embedding)) := by
    refine orderedBy_ordered (Ranks.lexicographic nearer_iff) (fun a b finer => ?_)
    rcases (nearer_iff a b).mp finer with less | ⟨same, -⟩
    · exact less.le
    · exact same.le
  have relevant : OrderedBy (backendOrders backend arguments embedding).relevant
      (table.rows.filter (matchingRow (backendOrders backend arguments embedding) now arguments))
      (table.ordered (keywordRow backend now arguments) (moreRelevant backend arguments)) := by
    refine orderedBy_ordered (Ranks.lexicographic moreRelevant_iff) (fun a b finer => ?_)
    rcases (moreRelevant_iff a b).mp finer with less | ⟨same, -⟩
    · exact (neg_lt_neg_iff.mp less).le
    · exact (neg_inj.mp same).ge
  refine ⟨⟨_, nearest, _, numbering nearest.sorted, _, relevant, _, List.Perm.refl _, _,
    sortedScores _⟩, ?_⟩
  rw [searchMemories, joined_eq_scoredRows exact]
  rfl

end Deterministic

/-- A memory with an importance. -/
def tiedMemory (id : Str) (importance : ℚ) : MemoryRow where
  id := id
  tenantId := lit "acme"
  subjectId := lit "client"
  namespaceName := lit "default"
  kind := .fact
  content := lit "c"
  metadata := .obj []
  expiresAt := none
  sourceRunId := none
  embedding := some []
  importance := importance
  accessCount := 0
  lastAccessedAt := none

/-- Two memories at the same distance, of which one is more important. -/
def tiedMemories : CheckedMemories where
  table := ⟨[tiedMemory (lit "a") 0, tiedMemory (lit "b") 1], by decide⟩
  importance := by
    intro row member
    simp only [List.mem_cons, List.not_mem_nil, or_false] at member
    rcases member with rfl | rfl
    · exact ⟨by decide +kernel, by decide +kernel⟩
    · exact ⟨by decide +kernel, by decide +kernel⟩

/-- Every memory is as near as any other, and none matches the text. -/
def tiedBackend : MemoryBackend where
  provider := fun _ => .ok []
  distance := fun _ _ => 0
  hits := fun _ _ => false
  textRank := fun _ _ => 0
  toReal := id
  timestamptz := fun _ => none

/-- Both memories come back, the important one first. -/
theorem ranking_sound_tied :
    ∃ run : SearchExecution (backendOrders tiedBackend
        ⟨lit "acme", lit "client", lit "default", lit "q", 8⟩ []) 0
        ⟨lit "acme", lit "client", lit "default", lit "q", 8⟩ tiedMemories.table,
      run.result.map (fun scored => scored.1.id) = [lit "b", lit "a"] ∧ SoundRanking run := by
  obtain ⟨run, same⟩ := @deterministic_execution tiedBackend 0
    ⟨lit "acme", lit "client", lit "default", lit "q", 8⟩ [] tiedMemories.table (fun _ => rfl)
  refine ⟨run, ?_, ranking_sound tiedMemories (by decide) run⟩
  rw [same]
  decide +kernel

end RlmApi
