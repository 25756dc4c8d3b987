import RlmApi.SearchScope
import RlmApi.WorkerCoroutines

/-!
# Histories of the memory store

The statements of writes and searches in the order of the database's clock, and between
them the deletions of migration 003. A search selects in one statement and counts in
another, so other calls and a deletion may come between, and the caller may never learn
that a statement was executed. A search hides an expired memory whether it is still stored
or not, so nobody can tell the deletions; and a memory counts how often it was found.

The initial table may hold memories that expire. The service itself writes none with
asyncpg, which takes no text for a `timestamptz`.
-/

namespace RlmApi

/-- The writes that the service makes. -/
inductive ServiceWrite : MemoryStore.WriteArguments → Prop
  | posted {principal : Principal} {payload : WriteMemory} :
      ServiceWrite (Api.writeArguments principal payload)
  | delivered {item : SummaryOutboxItem} : ServiceWrite (Worker.summaryMemory item)

/-- The service writes no memory of a run that expires. -/
theorem ServiceWrite.lasting {arguments : MemoryStore.WriteArguments}
    (service : ServiceWrite arguments) (run : arguments.sourceRunId.isSome = true) :
    arguments.expiresAt = none := by
  cases service with
  | posted => cases run
  | delivered => rfl

/-- A call of the store, with the id that an insertion would draw. -/
inductive MemoryCall where
  | write (memoryId : Str) (arguments : MemoryStore.WriteArguments)
  | search (arguments : SearchArguments)

inductive MemoryAnswer where
  | written (result : Except PyError Str)
  | found (result : Except PyError (List Memory))

/-- A call whose last statement was executed, with the time of that statement, the answer
and whether the caller got it. -/
structure MemoryEntry where
  now : Timestamp
  call : MemoryCall
  answer : MemoryAnswer
  arrived : Bool

/-- A search between its two statements. -/
structure OpenSearch where
  arguments : SearchArguments
  results : List (MemoryRow × ℚ)

namespace MemoryStore

/-- What a write answers and leaves. -/
def written (backend : MemoryBackend) (embeddingDim : Int) (memoryId : Str)
    (arguments : WriteArguments) (table : MemoryTable) : Except PyError Str × MemoryTable :=
  match write backend embeddingDim memoryId arguments table with
  | .error error => (.error error, table)
  | .ok (stored, table') => (.ok stored, table')

/-- Migration 003. -/
def deleteExpired (now : Timestamp) (table : MemoryTable) : MemoryTable :=
  table.filter (fun row => !row.expiresAt.any (fun time => time < now))

end MemoryStore

/-- The table, the calls so far, the ids that were drawn, the searches between their
statements, and the clock. -/
structure MemoryHistory where
  table : MemoryTable
  log : List MemoryEntry
  drawn : List Str
  searching : List OpenSearch
  clock : Timestamp

namespace MemoryHistory

open MemoryStore

/-- A table at some time, before any call. -/
def initial (table : MemoryTable) (clock : Timestamp) : MemoryHistory :=
  ⟨table, [], table.rows.map (fun row => row.id), [], clock⟩

/-- A call has ended. -/
def logged (now : Timestamp) (call : MemoryCall) (answer : MemoryAnswer) (arrived : Bool)
    (state : MemoryHistory) : MemoryHistory :=
  { state with log := state.log ++ [⟨now, call, answer, arrived⟩], clock := now }

section Statements

variable (backend : MemoryBackend) (embeddingDim : Int) (now : Timestamp) (arrived : Bool)
  (state : MemoryHistory)

/-- After the one statement of a write. -/
def afterWrite (memoryId : Str) (arguments : WriteArguments) : MemoryHistory :=
  let outcome := written backend embeddingDim memoryId arguments state.table
  { state with table := outcome.2, drawn := memoryId :: state.drawn }.logged now
    (.write memoryId arguments) (.written outcome.1) arrived

/-- After the first statement of a search, which ends the search where nothing was
selected. -/
def afterSelect (arguments : SearchArguments) : MemoryHistory :=
  match selected backend embeddingDim now arguments state.table with
  | .error error => state.logged now (.search arguments) (.found (.error error)) arrived
  | .ok [] => state.logged now (.search arguments) (.found (.ok [])) arrived
  | .ok (first :: rest) =>
    { state with searching := ⟨arguments, first :: rest⟩ :: state.searching, clock := now }

/-- After the second statement of a search, where the others stay between theirs. -/
def afterCount (search : OpenSearch) (others : List OpenSearch) : MemoryHistory :=
  { state with
    table := countAccesses now (selectedIds search.results) state.table
    searching := others }.logged now (.search search.arguments)
      (.found (search.results.mapM resultMemory)) arrived

end Statements

section Steps

variable (backend : MemoryBackend) (embeddingDim : Int)

/-- A statement of a call, or the end of a search without its second one. An id never
repeats. -/
inductive CallStep : MemoryHistory → MemoryHistory → Prop
  | write {state : MemoryHistory} {now : Timestamp} {memoryId : Str} {arguments : WriteArguments}
      (arrived : Bool) (later : state.clock ≤ now) (service : ServiceWrite arguments)
      (unused : memoryId ∉ state.drawn) :
      CallStep state (afterWrite backend embeddingDim now arrived state memoryId arguments)
  | select {state : MemoryHistory} {now : Timestamp} {arguments : SearchArguments}
      (arrived : Bool) (later : state.clock ≤ now) :
      CallStep state (afterSelect backend embeddingDim now arrived state arguments)
  | count {state : MemoryHistory} {now : Timestamp} {before : List OpenSearch}
      {search : OpenSearch} {behind : List OpenSearch} (arrived : Bool)
      (later : state.clock ≤ now) (between : state.searching = before ++ search :: behind) :
      CallStep state (afterCount now arrived state search (before ++ behind))
  | abandon {state : MemoryHistory} {before : List OpenSearch} {search : OpenSearch}
      {behind : List OpenSearch} (between : state.searching = before ++ search :: behind) :
      CallStep state { state with searching := before ++ behind }

/-- A statement of a call, or the deletion of the expired memories. -/
inductive Step : MemoryHistory → MemoryHistory → Prop
  | call {state state' : MemoryHistory} (called : CallStep backend embeddingDim state state') :
      Step state state'
  | clean {state : MemoryHistory} {now : Timestamp} (later : state.clock ≤ now) :
      Step state { state with table := deleteExpired now state.table, clock := now }

end Steps

/-- Where nothing comes between its statements, a search is `search`. -/
theorem runs_search {backend : MemoryBackend} {embeddingDim : Int} {now : Timestamp}
    {state : MemoryHistory} (arrived : Bool) (later : state.clock ≤ now)
    (arguments : SearchArguments) :
    ∃ state', Runs (CallStep backend embeddingDim) state state' ∧
      state'.table = (MemoryStore.search backend embeddingDim now arguments state.table).2 ∧
      state'.log = state.log ++ [⟨now, .search arguments,
        .found (MemoryStore.search backend embeddingDim now arguments state.table).1,
        arrived⟩] := by
  have first : CallStep backend embeddingDim state
      (afterSelect backend embeddingDim now arrived state arguments) := .select arrived later
  unfold MemoryStore.search
  cases found : selected backend embeddingDim now arguments state.table with
  | error error =>
    simp only [afterSelect, found] at first
    exact ⟨_, .single first, rfl, rfl⟩
  | ok results =>
    cases results with
    | nil =>
      simp only [afterSelect, found] at first
      exact ⟨_, .single first, rfl, rfl⟩
    | cons result rest =>
      simp only [afterSelect, found] at first
      exact ⟨_, (Relation.ReflTransGen.single first).tail
        (.count arrived (le_refl now) (show _ = [] ++ _ :: state.searching from rfl)), rfl, rfl⟩

/-! ## What the deletions leave -/

/-- A memory of a run never expires, and no other memory has its slot. -/
structure Kept (table : MemoryTable) : Prop where
  lasting : ∀ row ∈ table.rows, row.sourceRunId.isSome = true → row.expiresAt = none
  alone : ∀ row ∈ table.rows, ∀ other ∈ table.rows, row.sourceRunId.isSome = true →
    row.slot = other.slot → row = other

/-- One table has the rows of the other but for some that have expired. -/
structure Cleaned (clock : Timestamp) (table whole : MemoryTable) : Prop where
  stored : ∀ row ∈ table.rows, row ∈ whole.rows
  expired : ∀ row ∈ whole.rows, row ∉ table.rows →
    ∃ time, row.expiresAt = some time ∧ time < clock

section Cleaning

variable {backend : MemoryBackend} {embeddingDim : Int} {clock now : Timestamp}
  {table whole : MemoryTable}

/-- The rows in scope of a later search are the same. -/
theorem Cleaned.inScope_iff (cleaned : Cleaned clock table whole) (later : clock ≤ now)
    {arguments : SearchArguments} {row : MemoryRow} (within : inScope now arguments row = true) :
    row ∈ table.rows ↔ row ∈ whole.rows := by
  refine ⟨cleaned.stored row, fun member => ?_⟩
  by_contra removed
  obtain ⟨time, expires, past⟩ := cleaned.expired row member removed
  have alive : now < time := by
    simp only [inScope, expires, Option.all_some, Bool.and_eq_true, decide_eq_true_eq] at within
    exact within.2
  exact absurd (past.trans_le later) (not_lt.mpr alive.le)

theorem Cleaned.mono (cleaned : Cleaned clock table whole) (later : clock ≤ now) :
    Cleaned now table whole where
  stored := cleaned.stored
  expired row member removed := by
    obtain ⟨time, expires, past⟩ := cleaned.expired row member removed
    exact ⟨time, expires, past.trans_le later⟩

/-- A deletion leaves the rows that have not expired. -/
theorem Cleaned.clean (cleaned : Cleaned clock table whole) (later : clock ≤ now) :
    Cleaned now (deleteExpired now table) whole where
  stored row member := cleaned.stored row (List.mem_of_mem_filter member)
  expired row member removed := by
    by_cases there : row ∈ table.rows
    · have past : row.expiresAt.any (fun time => time < now) = true := by
        by_contra alive
        exact removed (List.mem_filter.mpr ⟨there, by simpa using alive⟩)
      cases expires : row.expiresAt with
      | none => simp [expires] at past
      | some time => exact ⟨time, rfl, by simpa [expires] using past⟩
    · exact (cleaned.mono later).expired row member there

/-- Both tables count the same accesses. -/
theorem Cleaned.countAccesses (cleaned : Cleaned clock table whole) (ids : List Str) :
    Cleaned clock (countAccesses now ids table) (countAccesses now ids whole) where
  stored row member := by
    rw [RlmApi.countAccesses, Table.mem_modify] at member ⊢
    obtain ⟨earlier, there, same⟩ := member
    exact ⟨earlier, cleaned.stored earlier there, same⟩
  expired row member removed := by
    rw [RlmApi.countAccesses, Table.mem_modify] at member removed
    obtain ⟨earlier, there, same⟩ := member
    have gone : earlier ∉ table.rows := fun kept => removed ⟨earlier, kept, same⟩
    have expires : row.expiresAt = earlier.expiresAt := by
      rw [← same]
      split <;> rfl
    exact expires ▸ cleaned.expired earlier there gone

/-- The selection is the same. -/
theorem Cleaned.selected (cleaned : Cleaned clock table whole) (later : clock ≤ now)
    (arguments : SearchArguments) :
    selected backend embeddingDim now arguments table =
      selected backend embeddingDim now arguments whole :=
  selected_congr_scope (fun _ within => cleaned.inScope_iff later within)

theorem sourceRun_of_slot {row stored : MemoryRow} (run : row.sourceRunId.isSome = true)
    (same : stored.slot = row.slot) : stored.sourceRunId.isSome = true := by
  unfold MemoryItem.slot at same
  cases own : row.sourceRunId with
  | none =>
    rw [own] at run
    cases run
  | some id =>
    cases other : stored.sourceRunId with
    | some _ => rfl
    | none =>
      rw [own, other] at same
      cases same

/-- The conflict is with the one memory of the run. -/
theorem Kept.conflicting_iff (kept : Kept table) {row stored : MemoryRow} :
    conflicting row table = some stored ↔
      row.sourceRunId.isSome = true ∧ stored ∈ table.rows ∧ stored.slot = row.slot := by
  unfold MemoryStore.conflicting
  constructor
  · intro found
    have passes := List.find?_some found
    simp only [Bool.and_eq_true, decide_eq_true_eq] at passes
    exact ⟨passes.1, List.mem_of_find?_eq_some found, passes.2⟩
  · rintro ⟨run, member, same⟩
    cases found : table.rows.find? (fun stored => row.sourceRunId.isSome &&
        decide (stored.toMemoryItem.slot = row.toMemoryItem.slot)) with
    | none =>
      have passes := List.find?_eq_none.mp found stored member
      simp [run, same] at passes
    | some other =>
      have passes := List.find?_some found
      simp only [Bool.and_eq_true, decide_eq_true_eq] at passes
      rw [kept.alone other (List.mem_of_find?_eq_some found) stored member
        (sourceRun_of_slot run passes.2) (passes.2.trans same.symm)]

theorem Cleaned.kept (cleaned : Cleaned clock table whole) (kept : Kept whole) : Kept table where
  lasting row member := kept.lasting row (cleaned.stored row member)
  alone row member other member' :=
    kept.alone row (cleaned.stored row member) other (cleaned.stored other member')

/-- A memory of a run is in both tables. -/
theorem Cleaned.conflicting (cleaned : Cleaned clock table whole) (kept : Kept whole)
    (row : MemoryRow) : conflicting row table = conflicting row whole := by
  refine Option.ext (fun stored => ?_)
  rw [(cleaned.kept kept).conflicting_iff, kept.conflicting_iff]
  refine and_congr_right (fun run => and_congr_left (fun same =>
    ⟨cleaned.stored stored, fun member => ?_⟩))
  by_contra removed
  obtain ⟨time, expires, -⟩ := cleaned.expired stored member removed
  cases (kept.lasting stored member (sourceRun_of_slot run same)).symm.trans expires

/-- A row under an id that neither table has. -/
theorem Cleaned.put (cleaned : Cleaned clock table whole) {row : MemoryRow}
    (fresh : whole.find? row.key = none) (fresh' : table.find? row.key = none) :
    Cleaned clock (table.put row) (whole.put row) where
  stored stored member := by
    rw [Table.mem_put_fresh fresh'] at member
    exact (Table.mem_put_fresh fresh).mpr (member.imp (cleaned.stored stored) id)
  expired stored member removed := by
    rw [Table.mem_put_fresh fresh'] at removed
    rcases (Table.mem_put_fresh fresh).mp member with old | new
    · exact cleaned.expired stored old (fun there => removed (Or.inl there))
    · exact absurd (Or.inr new) removed

/-- A write that finds its id unused. -/
theorem Cleaned.written (cleaned : Cleaned clock table whole) (kept : Kept whole)
    (later : clock ≤ now) {memoryId : Str} (fresh : whole.find? memoryId = none)
    (arguments : WriteArguments) :
    (written backend embeddingDim memoryId arguments table).1 =
        (written backend embeddingDim memoryId arguments whole).1 ∧
      Cleaned now (written backend embeddingDim memoryId arguments table).2
        (written backend embeddingDim memoryId arguments whole).2 := by
  have aged := cleaned.mono later
  have fresh' : table.find? memoryId = none := by
    cases found : table.find? memoryId with
    | none => rfl
    | some row =>
      have stored := Table.find?_of_mem (cleaned.stored row (Table.find?_mem found))
      rw [Table.find?_key found, fresh] at stored
      cases stored
  simp only [MemoryStore.written, MemoryStore.write]
  cases arguments.sourceRunId.isSome && decide (arguments.kind ≠ .runSummary) with
  | true => exact ⟨rfl, aged⟩
  | false =>
    cases inserted : insertion backend embeddingDim memoryId arguments with
    | error error => exact ⟨rfl, aged⟩
    | ok row =>
      have keyed : row.key = memoryId := (carries_of_insertion inserted).id
      simp only [cleaned.conflicting kept row]
      cases MemoryStore.conflicting row whole with
      | some stored => exact ⟨rfl, aged⟩
      | none =>
        simp only [fresh, fresh', Option.isSome_none, Bool.false_eq_true, if_false, true_and]
        exact aged.put (keyed ▸ fresh) (keyed ▸ fresh')

end Cleaning

/-! ## What every call keeps -/

section Calls

variable {backend : MemoryBackend} {embeddingDim : Int} {state state' : MemoryHistory}

/-- The tables of a history without deletions: runs keep their memories, and every id
was drawn. -/
structure Whole (state : MemoryHistory) : Prop where
  kept : Kept state.table
  drawn : ∀ row ∈ state.table.rows, row.id ∈ state.drawn

variable (backend embeddingDim) in
/-- A write leaves the table, or adds a row that conflicts with none. -/
theorem written_cases (memoryId : Str) (arguments : WriteArguments) (table : MemoryTable) :
    (written backend embeddingDim memoryId arguments table).2 = table ∨
      ∃ row, insertion backend embeddingDim memoryId arguments = .ok row ∧
        conflicting row table = none ∧ table.find? row.key = none ∧
        (written backend embeddingDim memoryId arguments table).2 = table.put row := by
  simp only [MemoryStore.written, MemoryStore.write]
  cases arguments.sourceRunId.isSome && decide (arguments.kind ≠ .runSummary) with
  | true => exact Or.inl rfl
  | false =>
    cases inserted : insertion backend embeddingDim memoryId arguments with
    | error error => exact Or.inl rfl
    | ok row =>
      have keyed : row.key = memoryId := (carries_of_insertion inserted).id
      cases clash : MemoryStore.conflicting row table with
      | some stored =>
        simp only [clash, Bool.false_eq_true, if_false, true_or]
      | none =>
        cases found : table.find? memoryId with
        | some other =>
          simp only [clash, Option.isSome_some, Bool.false_eq_true, if_false, if_true, true_or]
        | none =>
          refine Or.inr ⟨row, rfl, clash, keyed.symm ▸ found, ?_⟩
          simp only [clash, Option.isSome_none, Bool.false_eq_true, if_false]

/-- The row of a write of the service. -/
theorem lasting_of_insertion {memoryId : Str} {arguments : WriteArguments} {row : MemoryRow}
    (service : ServiceWrite arguments)
    (inserted : insertion backend embeddingDim memoryId arguments = .ok row)
    (run : row.sourceRunId.isSome = true) : row.expiresAt = none := by
  have never : arguments.expiresAt = none :=
    service.lasting ((carries_of_insertion inserted).sourceRunId ▸ run)
  simp only [insertion, except_bind_ok_iff, never] at inserted
  obtain ⟨embedding, -, expiresAt, expires, importance, -, inserted⟩ := inserted
  cases expires
  split at inserted
  · cases inserted
    rfl
  · cases inserted

/-- Counted rows are the rows as they were, but for their counts. -/
theorem Kept.countAccesses {now : Timestamp} {ids : List Str} {table : MemoryTable}
    (kept : Kept table) : Kept (countAccesses now ids table) := by
  have counted : ∀ row ∈ (RlmApi.countAccesses now ids table).rows, ∃ earlier ∈ table.rows,
      (if row.id ∈ ids then accessedVersion now earlier else earlier) = row ∧
        row.toMemoryItem = earlier.toMemoryItem := by
    intro row member
    rw [RlmApi.countAccesses, Table.mem_modify] at member
    obtain ⟨earlier, there, same⟩ := member
    have item : row.toMemoryItem = earlier.toMemoryItem := by
      rw [← same]
      split <;> rfl
    refine ⟨earlier, there, ?_, item⟩
    rw [show row.id = earlier.id from congrArg MemoryItem.id item]
    simpa using same
  refine ⟨fun row member run => ?_, fun row member other member' run same => ?_⟩
  · obtain ⟨earlier, there, -, item⟩ := counted row member
    rw [item] at run ⊢
    exact kept.lasting earlier there run
  · obtain ⟨first, there, version, item⟩ := counted row member
    obtain ⟨second, there', version', item'⟩ := counted other member'
    rw [item, item'] at same
    rw [item] at run
    have one := kept.alone first there second there' run same
    subst one
    rw [← version, ← version', show row.id = other.id from congrArg MemoryItem.id
      (item.trans item'.symm)]

/-- A row that conflicts with none. -/
theorem Kept.put {table : MemoryTable} {row : MemoryRow} (kept : Kept table)
    (clash : conflicting row table = none) (fresh : table.find? row.key = none)
    (lasting : row.sourceRunId.isSome = true → row.expiresAt = none) : Kept (table.put row) := by
  have apart : ∀ stored ∈ table.rows, row.sourceRunId.isSome = true → stored.slot ≠ row.slot := by
    intro stored member run same
    cases clash.symm.trans (kept.conflicting_iff.mpr ⟨run, member, same⟩)
  refine ⟨fun stored member run => ?_, fun first member second member' run same => ?_⟩
  · rcases (Table.mem_put_fresh fresh).mp member with old | rfl
    · exact kept.lasting stored old run
    · exact lasting run
  · rcases (Table.mem_put_fresh fresh).mp member with old | rfl <;>
      rcases (Table.mem_put_fresh fresh).mp member' with old' | rfl
    · exact kept.alone first old second old' run same
    · exact absurd same (apart first old (sourceRun_of_slot run same.symm))
    · exact absurd same.symm (apart second old' run)
    · rfl

/-- A write keeps the memories of runs, and its rows have ids that were drawn. -/
theorem Whole.write (whole : state.Whole) {now : Timestamp} {memoryId : Str}
    {arguments : WriteArguments} (arrived : Bool) (service : ServiceWrite arguments) :
    (afterWrite backend embeddingDim now arrived state memoryId arguments).Whole := by
  rcases written_cases backend embeddingDim memoryId arguments state.table with
    same | ⟨row, inserted, clash, fresh, same⟩
  · have table : (afterWrite backend embeddingDim now arrived state memoryId arguments).table =
        state.table := same
    refine ⟨table ▸ whole.kept, fun row member => ?_⟩
    exact List.mem_cons_of_mem _ (whole.drawn row (table ▸ member))
  · have table : (afterWrite backend embeddingDim now arrived state memoryId arguments).table =
        state.table.put row := same
    refine ⟨table ▸ whole.kept.put clash fresh (lasting_of_insertion service inserted),
      fun stored member => ?_⟩
    rw [table] at member
    rcases (Table.mem_put_fresh fresh).mp member with old | rfl
    · exact List.mem_cons_of_mem _ (whole.drawn stored old)
    · exact List.mem_cons.mpr (Or.inl (carries_of_insertion inserted).id)

/-- So does the count of a search. -/
theorem Whole.count (whole : state.Whole) (now : Timestamp) (arrived : Bool)
    (search : OpenSearch) (others : List OpenSearch) :
    (afterCount now arrived state search others).Whole := by
  refine ⟨whole.kept.countAccesses, fun row member => ?_⟩
  rw [show (afterCount now arrived state search others).table =
    countAccesses now (selectedIds search.results) state.table from rfl, countAccesses,
    Table.mem_modify] at member
  obtain ⟨earlier, there, rfl⟩ := member
  have drawn := whole.drawn earlier there
  split
  · exact drawn
  · exact drawn

/-! ## Histories with and without deletions -/

/-- The same calls, ids, answers and open searches, and the tables differ in expired rows
only. -/
structure Matches (state state' : MemoryHistory) : Prop where
  log : state'.log = state.log
  drawn : state'.drawn = state.drawn
  searching : state'.searching = state.searching
  clock : state'.clock ≤ state.clock
  cleaned : Cleaned state.clock state.table state'.table
  whole : state'.Whole

section Matching

variable {before other : MemoryHistory} {now : Timestamp}

/-- A write is the same in the other history. -/
theorem Matches.write (matching : Matches before other) (later : before.clock ≤ now)
    {memoryId : Str} {arguments : WriteArguments} (arrived : Bool)
    (service : ServiceWrite arguments) (unused : memoryId ∉ before.drawn) :
    CallStep backend embeddingDim other
        (afterWrite backend embeddingDim now arrived other memoryId arguments) ∧
      Matches (afterWrite backend embeddingDim now arrived before memoryId arguments)
        (afterWrite backend embeddingDim now arrived other memoryId arguments) := by
  obtain ⟨log, drawn, searching, clock, cleaned, whole⟩ := matching
  have unused' : memoryId ∉ other.drawn := drawn ▸ unused
  have fresh : other.table.find? memoryId = none := by
    cases found : other.table.find? memoryId with
    | none => rfl
    | some row =>
      have keyed : row.key = memoryId := Table.find?_key found
      exact absurd (keyed ▸ whole.drawn row (Table.find?_mem found) : memoryId ∈ _) unused'
  obtain ⟨answers, aged⟩ := @Cleaned.written backend embeddingDim _ _ _ _ cleaned whole.kept later
    memoryId fresh arguments
  refine ⟨.write arrived (clock.trans later) service unused', ?_, ?_, searching, le_refl _, aged,
    whole.write arrived service⟩
  · simp only [afterWrite, logged, log, answers]
  · simp only [afterWrite, logged, drawn]

/-- A selection is the same in the other history. -/
theorem Matches.select (matching : Matches before other) (later : before.clock ≤ now)
    (arrived : Bool) (arguments : SearchArguments) :
    Matches (afterSelect backend embeddingDim now arrived before arguments)
      (afterSelect backend embeddingDim now arrived other arguments) := by
  obtain ⟨log, drawn, searching, clock, cleaned, whole⟩ := matching
  have same := @Cleaned.selected backend embeddingDim _ _ _ _ cleaned later arguments
  have aged := cleaned.mono later
  have ends (answer : MemoryAnswer) : Matches (before.logged now (.search arguments) answer arrived)
      (other.logged now (.search arguments) answer arrived) :=
    ⟨by simp only [logged, log], drawn, searching, le_refl _, aged, ⟨whole.kept, whole.drawn⟩⟩
  simp only [afterSelect, same]
  cases selected backend embeddingDim now arguments other.table with
  | error error => exact ends _
  | ok results =>
    cases results with
    | nil => exact ends _
    | cons first rest =>
      exact ⟨log, drawn, by simp only [searching], le_refl _, aged, ⟨whole.kept, whole.drawn⟩⟩

/-- A statement is executed in the other history as well, and a deletion is not. -/
theorem Matches.step {after : MemoryHistory} (matching : Matches before other)
    (taken : Step backend embeddingDim before after) :
    ∃ other', Runs (CallStep backend embeddingDim) other other' ∧ Matches after other' := by
  cases taken with
  | clean later =>
    exact ⟨other, .refl, matching.log, matching.drawn, matching.searching,
      matching.clock.trans later, matching.cleaned.clean later, matching.whole⟩
  | call called =>
    cases called with
    | write arrived later service unused =>
      obtain ⟨made, matched⟩ := matching.write later arrived service unused
      exact ⟨_, .single made, matched⟩
    | select arrived later =>
      exact ⟨_, .single (.select arrived (matching.clock.trans later)),
        matching.select later arrived _⟩
    | @count now ahead search behind arrived later between =>
      refine ⟨_, .single (.count arrived (matching.clock.trans later)
        (matching.searching.trans between)), ?_, matching.drawn, rfl, le_refl _,
        (matching.cleaned.mono later).countAccesses _, matching.whole.count now arrived search _⟩
      simp only [afterCount, logged, matching.log]
    | abandon between =>
      exact ⟨_, .single (.abandon (matching.searching.trans between)), matching.log,
        matching.drawn, rfl, matching.clock, matching.cleaned,
        ⟨matching.whole.kept, matching.whole.drawn⟩⟩

end Matching

end Calls

/-- Nobody can tell the deletions: the calls of any history with deletions, at the same
times and with the same answers, are those of a history without. -/
theorem deletions_unobservable {backend : MemoryBackend} {embeddingDim : Int}
    {table : MemoryTable} {clock : Timestamp} (kept : Kept table) {state : MemoryHistory}
    (run : Runs (Step backend embeddingDim) (initial table clock) state) :
    ∃ state', Runs (CallStep backend embeddingDim) (initial table clock) state' ∧
      state'.log = state.log := by
  have start : Matches (initial table clock) (initial table clock) :=
    ⟨rfl, rfl, rfl, le_refl _,
      ⟨fun _ member => member, fun _ member removed => absurd member removed⟩,
      ⟨kept, fun row member => List.mem_map.mpr ⟨row, member, rfl⟩⟩⟩
  obtain ⟨state', calls, matching⟩ :=
    run.simulated (fun _ _ _ matching taken => Matches.step matching taken) start
  exact ⟨state', calls, matching.log⟩

/-! ## How often a memory was found -/

/-- The call found the memory. -/
def finds (id : Str) (entry : MemoryEntry) : Bool :=
  match entry.answer with
  | .found (.ok items) => items.any (fun item => item.id = id)
  | _ => false

/-- The calls that found the memory, in order. -/
def findings (log : List MemoryEntry) (id : Str) : List MemoryEntry := log.filter (finds id)

/-- Those whose callers got the answer. -/
def answers (log : List MemoryEntry) (id : Str) : List MemoryEntry :=
  (findings log id).filter (fun entry => entry.arrived)

/-- Those whose answer was lost. -/
def losses (log : List MemoryEntry) (id : Str) : List MemoryEntry :=
  (findings log id).filter (fun entry => !entry.arrived)

/-- The columns of a row agree with the log. -/
structure CountedRow (log : List MemoryEntry) (row : MemoryRow) : Prop where
  count : row.accessCount = (findings log row.id).length
  last : row.lastAccessedAt = (findings log row.id).getLast?.map MemoryEntry.now

/-- Every row agrees with the log, and only ids that were drawn are selected and found. -/
structure Counted (state : MemoryHistory) : Prop where
  rows : ∀ row ∈ state.table.rows, CountedRow state.log row
  metadata : ∀ row ∈ state.table.rows, ∃ fields, row.metadata.loads = some (.obj fields)
  drawn : ∀ row ∈ state.table.rows, row.id ∈ state.drawn
  found : ∀ entry ∈ state.log, ∀ id, finds id entry = true → id ∈ state.drawn
  searching : ∀ search ∈ state.searching, ∀ result ∈ search.results,
    result.1.id ∈ state.drawn ∧ ∃ fields, result.1.metadata.loads = some (.obj fields)

/-- Rows with metadata are decoded, one by one. -/
theorem mapM_resultMemory {results : List (MemoryRow × ℚ)}
    (metadata : ∀ result ∈ results, ∃ fields, result.1.metadata.loads = some (.obj fields)) :
    ∃ items, results.mapM resultMemory = .ok items ∧
      items.map Memory.id = selectedIds results := by
  induction results with
  | nil => exact ⟨[], rfl, rfl⟩
  | cons result rest inductionHypothesis =>
    obtain ⟨fields, object⟩ := metadata result List.mem_cons_self
    obtain ⟨items, decoded, ids⟩ :=
      inductionHypothesis (fun other member => metadata other (List.mem_cons_of_mem _ member))
    refine ⟨⟨result.1.id, result.1.kind.value, result.1.content, fields, result.2⟩ :: items, ?_, ?_⟩
    · simp only [List.mapM_cons, decoded, resultMemory, object, jsonMetadata]
      rfl
    · simp only [selectedIds, List.map_cons] at ids ⊢
      rw [ids]

section Counting

variable {log : List MemoryEntry} {entry : MemoryEntry} {row : MemoryRow}

/-- A call that does not find the memory. -/
theorem CountedRow.missed (counted : CountedRow log row) (missed : finds row.id entry = false) :
    CountedRow (log ++ [entry]) row := by
  have same : findings (log ++ [entry]) row.id = findings log row.id := by
    simp [findings, List.filter_append, missed]
  exact ⟨same ▸ counted.count, same ▸ counted.last⟩

/-- A call that finds the memory, and counts it. -/
theorem CountedRow.hit (counted : CountedRow log row) (hit : finds row.id entry = true) :
    CountedRow (log ++ [entry]) (accessedVersion entry.now row) := by
  have longer : findings (log ++ [entry]) row.id = findings log row.id ++ [entry] := by
    simp [findings, List.filter_append, hit]
  refine ⟨?_, ?_⟩
  · rw [show (accessedVersion entry.now row).id = row.id from rfl, longer]
    simp [accessedVersion, counted.count]
  · rw [show (accessedVersion entry.now row).id = row.id from rfl, longer]
    simp [accessedVersion]

end Counting

section Counting

variable {backend : MemoryBackend} {embeddingDim : Int} {state : MemoryHistory} {now : Timestamp}

/-- The end of a call that found nothing keeps the counts. -/
theorem Counted.missed (counted : state.Counted) {call : MemoryCall} {answer : MemoryAnswer}
    {arrived : Bool} (missed : ∀ id, finds id ⟨now, call, answer, arrived⟩ = false) :
    (state.logged now call answer arrived).Counted where
  rows row member := (counted.rows row member).missed (missed row.id)
  metadata := counted.metadata
  drawn := counted.drawn
  found entry member id finds := by
    rcases List.mem_append.mp member with old | new
    · exact counted.found entry old id finds
    · obtain rfl := List.mem_singleton.mp new
      cases (missed id).symm.trans finds
  searching := counted.searching

/-- An insertion proposes a memory that was never found. -/
theorem unfound_of_insertion {memoryId : Str} {arguments : WriteArguments} {row : MemoryRow}
    (inserted : insertion backend embeddingDim memoryId arguments = .ok row) :
    row.accessCount = 0 ∧ row.lastAccessedAt = none ∧
      ∃ fields, row.metadata.loads = some (.obj fields) := by
  simp only [insertion, except_bind_ok_iff] at inserted
  obtain ⟨embedding, -, expiresAt, -, importance, -, inserted⟩ := inserted
  split at inserted
  · next storable =>
    cases inserted
    simp only [WriteArguments.storable, Bool.and_eq_true] at storable
    exact ⟨rfl, rfl, _, Json.loads_of_storable storable.2⟩
  · cases inserted

/-- A write adds at most a memory that was never found. -/
theorem Counted.written (counted : state.Counted) {memoryId : Str} {arguments : WriteArguments}
    (unused : memoryId ∉ state.drawn) :
    ({ state with
      table := (written backend embeddingDim memoryId arguments state.table).2
      drawn := memoryId :: state.drawn } : MemoryHistory).Counted := by
  have older : ∀ id ∈ state.drawn, id ∈ memoryId :: state.drawn :=
    fun id member => List.mem_cons_of_mem _ member
  have found : ∀ entry ∈ state.log, ∀ id, finds id entry = true → id ∈ memoryId :: state.drawn :=
    fun entry member id finds => older id (counted.found entry member id finds)
  have searching : ∀ search ∈ state.searching, ∀ result ∈ search.results,
      result.1.id ∈ memoryId :: state.drawn ∧
        ∃ fields, result.1.metadata.loads = some (.obj fields) :=
    fun search member result selected => by
      obtain ⟨drawn, object⟩ := counted.searching search member result selected
      exact ⟨older _ drawn, object⟩
  rcases written_cases backend embeddingDim memoryId arguments state.table with
    same | ⟨row, inserted, -, fresh, same⟩
  · rw [same]
    exact ⟨counted.rows, counted.metadata, fun row member => older _ (counted.drawn row member),
      found, searching⟩
  · rw [same]
    have keyed : row.id = memoryId := (carries_of_insertion inserted).id
    obtain ⟨count, last, metadata⟩ := unfound_of_insertion inserted
    have never : findings state.log row.id = [] :=
      List.filter_eq_nil_iff.mpr (fun entry there found =>
        unused (keyed ▸ counted.found entry there row.id found))
    refine ⟨fun stored member => ?_, fun stored member => ?_, fun stored member => ?_, found,
      searching⟩
    · rcases (Table.mem_put_fresh fresh).mp member with old | rfl
      · exact counted.rows stored old
      · exact ⟨by simp [count, never], by simp [last, never]⟩
    · rcases (Table.mem_put_fresh fresh).mp member with old | rfl
      · exact counted.metadata stored old
      · exact metadata
    · rcases (Table.mem_put_fresh fresh).mp member with old | rfl
      · exact older _ (counted.drawn stored old)
      · exact List.mem_cons.mpr (Or.inl keyed)

/-- A selection ends the search with nothing found, or opens it with stored memories. -/
theorem Counted.select (counted : state.Counted) (arrived : Bool) (arguments : SearchArguments) :
    (afterSelect backend embeddingDim now arrived state arguments).Counted := by
  unfold afterSelect
  cases found : selected backend embeddingDim now arguments state.table with
  | error error => exact counted.missed (fun _ => rfl)
  | ok results =>
    cases results with
    | nil => exact counted.missed (fun _ => rfl)
    | cons first rest =>
      refine ⟨counted.rows, counted.metadata, counted.drawn, counted.found,
        fun search member result listed => ?_⟩
      rcases List.mem_cons.mp member with rfl | old
      · obtain ⟨stored, -⟩ := mem_selected found listed
        exact ⟨counted.drawn result.1 stored, counted.metadata result.1 stored⟩
      · exact counted.searching search old result listed

/-- A search counts the memories that it found. -/
theorem Counted.count (counted : state.Counted) (arrived : Bool) {search : OpenSearch}
    (open_ : search ∈ state.searching) {others : List OpenSearch}
    (rest : ∀ other ∈ others, other ∈ state.searching) :
    (afterCount now arrived state search others).Counted := by
  have own := counted.searching search open_
  obtain ⟨items, decoded, ids⟩ := mapM_resultMemory (fun result listed => (own result listed).2)
  have hits (id : Str) : finds id ⟨now, .search search.arguments,
      .found (search.results.mapM resultMemory), arrived⟩ =
        decide (id ∈ selectedIds search.results) := by
    rw [← ids, decoded, Bool.eq_iff_iff]
    simp only [finds, List.any_eq_true, decide_eq_true_eq, List.mem_map]
  have rows : ∀ row ∈ (afterCount now arrived state search others).table.rows,
      ∃ earlier ∈ state.table.rows, (if earlier.id ∈ selectedIds search.results then
        accessedVersion now earlier else earlier) = row := by
    intro row member
    rw [show (afterCount now arrived state search others).table =
      countAccesses now (selectedIds search.results) state.table from rfl, countAccesses,
      Table.mem_modify] at member
    simpa only [decide_eq_true_eq] using member
  refine ⟨fun row member => ?_, fun row member => ?_, fun row member => ?_,
    fun entry member id finds => ?_,
    fun other member => counted.searching other (rest other member)⟩
  · obtain ⟨earlier, there, rfl⟩ := rows row member
    have before := counted.rows earlier there
    split
    · next returned => exact before.hit ((hits earlier.id).trans (decide_eq_true returned))
    · next other => exact before.missed ((hits earlier.id).trans (decide_eq_false other))
  · obtain ⟨earlier, there, rfl⟩ := rows row member
    obtain ⟨fields, object⟩ := counted.metadata earlier there
    refine ⟨fields, ?_⟩
    split <;> exact object
  · obtain ⟨earlier, there, rfl⟩ := rows row member
    have drawn := counted.drawn earlier there
    split <;> exact drawn
  · rcases List.mem_append.mp member with old | new
    · exact counted.found entry old id finds
    · obtain rfl := List.mem_singleton.mp new
      have returned := of_decide_eq_true ((hits id).symm.trans finds)
      obtain ⟨result, listed, rfl⟩ := List.mem_map.mp returned
      exact (own result listed).1

/-- Every step keeps the counts. -/
theorem Counted.step {state' : MemoryHistory} (counted : state.Counted)
    (taken : Step backend embeddingDim state state') : state'.Counted := by
  cases taken with
  | clean later =>
    exact ⟨fun row member => counted.rows row (List.mem_of_mem_filter member),
      fun row member => counted.metadata row (List.mem_of_mem_filter member),
      fun row member => counted.drawn row (List.mem_of_mem_filter member), counted.found,
      counted.searching⟩
  | call called =>
    cases called with
    | write arrived later service unused => exact (counted.written unused).missed (fun _ => rfl)
    | select arrived later => exact counted.select arrived _
    | count arrived later between =>
      refine counted.count arrived (between ▸ by simp) (fun other member => ?_)
      rw [between]
      rcases List.mem_append.mp member with ahead | behind
      · exact List.mem_append_left _ ahead
      · exact List.mem_append_right _ (List.mem_cons_of_mem _ behind)
    | abandon between =>
      refine ⟨counted.rows, counted.metadata, counted.drawn, counted.found,
        fun other member => counted.searching other ?_⟩
      rw [between]
      rcases List.mem_append.mp member with ahead | behind
      · exact List.mem_append_left _ ahead
      · exact List.mem_append_right _ (List.mem_cons_of_mem _ behind)

end Counting

/-- In every history, with deletions or without, a stored memory has been counted once for
every search that answered with it and once for every search that found it and whose
answer was lost, and bears the time of the last of these counts. -/
theorem accesses_counted {backend : MemoryBackend} {embeddingDim : Int} {clock : Timestamp}
    {state : MemoryHistory}
    (run : Runs (Step backend embeddingDim) (initial Table.empty clock) state)
    {row : MemoryRow} (stored : row ∈ state.table.rows) :
    row.accessCount = (answers state.log row.id).length + (losses state.log row.id).length ∧
      row.lastAccessedAt = (findings state.log row.id).getLast?.map MemoryEntry.now := by
  have none : ∀ row : MemoryRow, row ∉ (initial Table.empty clock).table.rows :=
    fun _ => List.not_mem_nil
  have start : Counted (initial Table.empty clock) :=
    ⟨fun row member => absurd member (none row), fun row member => absurd member (none row),
      fun row member => absurd member (none row), fun _ member => absurd member List.not_mem_nil,
      fun _ member => absurd member List.not_mem_nil⟩
  have counted := Runs.keeps run (fun _ _ counted taken => Counted.step counted taken) start
  obtain ⟨count, last⟩ := counted.rows row stored
  refine ⟨?_, last⟩
  rw [count, List.length_eq_length_filter_add (fun entry => entry.arrived)]
  exact Nat.cast_add _ _

/-! ## A memory that expires, and one that is counted twice -/

def smallArguments : WriteArguments :=
  Api.writeArguments smallPrincipal (smallFact ⟨lit "user", user_bounded⟩)

def userSearch : SearchArguments := ⟨lit "acme", lit "user", lit "default", lit "1", 8⟩

/-- A table with a memory that expires after fifty seconds. -/
def expiringTable : MemoryTable :=
  Table.empty.put (proposed (lit "m") smallArguments (List.replicate 8 1) (1 / 2)
    (some (seconds 50)))

theorem kept_expiringTable : Kept expiringTable := by
  have direct : ∀ row ∈ expiringTable.rows, row.sourceRunId.isSome = false := by
    intro row member
    rcases (Table.mem_put_fresh rfl).mp member with old | rfl
    · exact absurd old List.not_mem_nil
    · rfl
  refine ⟨fun row member run => ?_, fun row member other member' run => ?_⟩
  · cases (direct row member).symm.trans run
  · cases (direct row member).symm.trans run

/-- The first open search counts. -/
def countFirst (now : Timestamp) (arrived : Bool) (state : MemoryHistory) : MemoryHistory :=
  match state.searching with
  | [] => state
  | search :: others => afterCount now arrived state search others

theorem runs_countFirst {backend : MemoryBackend} {embeddingDim : Int} {now : Timestamp}
    {state : MemoryHistory} (arrived : Bool) (later : state.clock ≤ now) :
    Runs (Step backend embeddingDim) state (countFirst now arrived state) := by
  unfold countFirst
  split
  · exact .refl
  · next search others between =>
    exact .single (.call (.count arrived later (show _ = [] ++ search :: others from between)))

/-- The memory is selected. -/
def selectedOnce : MemoryHistory :=
  afterSelect smallBackend 8 (seconds 2) true (initial expiringTable 0) userSearch

/-- It expires and is deleted. -/
def deletedBetween : MemoryHistory :=
  { selectedOnce with
    table := deleteExpired (seconds 60) selectedOnce.table
    clock := seconds 60 }

/-- The search that selected it counts, and there is another one. -/
def searchedAgain : MemoryHistory :=
  afterSelect smallBackend 8 (seconds 62) true (countFirst (seconds 61) true deletedBetween)
    userSearch

/-- The first search finds the memory, and the second does not. -/
theorem deletions_unobservable_expired : ∃ state,
    Runs (CallStep smallBackend 8) (initial expiringTable 0) state ∧
      state.log = searchedAgain.log ∧ deletedBetween.table.rows.length = 0 ∧
      (answers state.log (lit "m")).length = 1 ∧ state.log.length = 2 := by
  have selects : Step smallBackend 8 (initial expiringTable 0) selectedOnce :=
    .call (.select true (by decide))
  have deletes : Step smallBackend 8 selectedOnce deletedBetween := .clean (by decide +kernel)
  have counts : Runs (Step smallBackend 8) deletedBetween
      (countFirst (seconds 61) true deletedBetween) := runs_countFirst true (by decide)
  have selectsAgain : Step smallBackend 8 (countFirst (seconds 61) true deletedBetween)
      searchedAgain := .call (.select true (by decide +kernel))
  have run : Runs (Step smallBackend 8) (initial expiringTable 0) searchedAgain :=
    (((Relation.ReflTransGen.single selects).tail deletes).trans counts).tail selectsAgain
  obtain ⟨state, calls, same⟩ := deletions_unobservable kept_expiringTable run
  refine ⟨state, calls, same, by decide +kernel, ?_, ?_⟩
  · rw [same]
    decide +kernel
  · rw [same]
    decide +kernel

/-- A memory is stored. -/
def storedOnce : MemoryHistory :=
  afterWrite smallBackend 8 (seconds 1) true (initial Table.empty 0) (lit "m") smallArguments

/-- One search is answered. -/
def foundOnce : MemoryHistory :=
  countFirst (seconds 3) true (afterSelect smallBackend 8 (seconds 2) true storedOnce userSearch)

/-- The answer to another one is lost. -/
def foundTwice : MemoryHistory :=
  countFirst (seconds 5) false (afterSelect smallBackend 8 (seconds 4) true foundOnce userSearch)

theorem accesses_counted_lost : ∃ row ∈ foundTwice.table.rows,
    row.accessCount =
        (answers foundTwice.log row.id).length + (losses foundTwice.log row.id).length ∧
      row.lastAccessedAt = (findings foundTwice.log row.id).getLast?.map MemoryEntry.now ∧
      (losses foundTwice.log row.id).length = 1 := by
  have stores : Step smallBackend 8 (initial Table.empty 0) storedOnce :=
    .call (.write true (by decide) .posted List.not_mem_nil)
  have finds : Runs (Step smallBackend 8) storedOnce foundOnce :=
    (Relation.ReflTransGen.single (.call (.select true (by decide)))).trans
      (runs_countFirst true (by decide +kernel))
  have findsAgain : Runs (Step smallBackend 8) foundOnce foundTwice :=
    (Relation.ReflTransGen.single (.call (.select true (by decide +kernel)))).trans
      (runs_countFirst false (by decide +kernel))
  have run : Runs (Step smallBackend 8) (initial Table.empty 0) foundTwice :=
    ((Relation.ReflTransGen.single stores).trans finds).trans findsAgain
  have one : foundTwice.table.rows.map (fun row => row.id) = [lit "m"] := by decide +kernel
  obtain ⟨row, single, named⟩ := List.map_eq_singleton_iff.mp one
  have stored : row ∈ foundTwice.table.rows := single ▸ List.mem_singleton_self row
  obtain ⟨count, last⟩ := accesses_counted run stored
  refine ⟨row, stored, count, last, ?_⟩
  rw [named]
  decide +kernel

end MemoryHistory

end RlmApi
