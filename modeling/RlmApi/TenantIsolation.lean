import RlmApi.ClaimExecution
import RlmApi.DeliveryInvariant
import RlmApi.SearchScope
import RlmApi.WorkerCoroutines

/-!
# Tenant isolation

Two databases that agree on the rows of a tenant cannot be told apart by that
tenant: its requests are answered alike, and its runs recall the same memories.
Conversely nothing that is done for a tenant changes a row of another one. Both are
needed, since an update by id alone may reach further than the query before it.

The rows of a run's journal carry no tenant; they belong to the tenant of the run.
-/

namespace RlmApi

open RunStore

/-! ## What another tenant keeps -/

/-- The rows of every tenant but one are the same: runs, their journals, and
summaries. -/
structure Database.Untouched (tenant : Str) (before after : Database) : Prop where
  runs : Table.AgreeOn (fun row : RunRow => row.tenantId ≠ tenant) after.table before.table
  journals : ∀ id row, before.run? id = some row → row.tenantId ≠ tenant →
    after.dossier? id = before.dossier? id
  summaries : Table.AgreeOn (fun row : OutboxRow => row.tenantId ≠ tenant) after.side before.side

theorem Database.Untouched.refl (tenant : Str) (db : Database) : db.Untouched tenant db :=
  ⟨Table.AgreeOn.refl _, fun _ _ _ _ => rfl, Table.AgreeOn.refl _⟩

/-- An enqueue adds a run of its tenant, under an id that no run has. -/
theorem untouched_of_enqueue {now : Timestamp} {locked : Str → Bool} {runId : Uuid}
    {arguments : EnqueueArguments} {db db' : Database} {answer : Answer}
    (performed : perform now locked (.enqueue runId arguments) db = .ok (answer, db')) :
    db.Untouched arguments.tenantId db' := by
  obtain ⟨-, fresh, table, side, log⟩ := stored_of_enqueue performed
  refine ⟨?_, fun id row found _ => ?_, side ▸ Table.AgreeOn.refl _⟩
  · rw [table]
    refine Table.agreeOn_put (fun foreign => foreign rfl) (fun stored there => ?_)
    cases fresh.symm.trans there
  · have other : runId.text ≠ id := by
      rintro rfl
      cases fresh.symm.trans found
    have apart : (queuedRow now runId.text arguments).id ≠ id := other
    rw [Store.dossier?, Store.dossier?, table, log, LogEntry.ofOwner_extend_ne _ _ other,
      Table.find?_put_ne _ apart]

/-! ## Delivering a summary -/

/-- The run whose summary a worker holds. -/
def DeliveryPhase.Concerns (id : Str) : DeliveryPhase → Prop
  | .idle => False
  | .poisoned runId => runId = id
  | .claimed item | .written item | .undelivered item => item.runId = id

/-- The act belongs to the delivery of the summary of the run. -/
def DeliveryAct.Concerns (state : Delivery) (id : Str) : DeliveryAct → Prop
  | .claim workerId now locked staleSeconds => ∃ row outbox,
      claimSummaryRow now locked workerId staleSeconds state.outbox = some (row, outbox) ∧
        row.runId = id
  | .quarantine workerId _ | .mismatch workerId _ | .write workerId _ _ | .writeRaises workerId
  | .complete workerId _ _ | .completeRaises workerId | .retry workerId _ | .abandon workerId =>
    (state.phases workerId).Concerns id
  | .call _ _ _ | .remember _ | .expire _ => False

namespace Delivery

variable {embedding : Str → Str × Int} {state state' : Delivery}

/-- A run's summary is its tenant's. -/
theorem Sound.summary_tenant (sound : state.Sound) {id : Str} {run : RunRow} {summary : OutboxRow}
    (ran : state.queue.db.run? id = some run) (found : state.outbox.find? id = some summary) :
    summary.tenantId = run.tenantId := by
  obtain ⟨row, stored, belongs⟩ := sound.belongs id summary found
  obtain rfl : row = run := Option.some.inj (stored.symm.trans ran)
  exact belongs.tenantId

/-- An update of one tenant's summary. -/
theorem untouched_update {tenant id : Str}
    (own : ∀ summary, state.outbox.find? id = some summary → summary.tenantId = tenant)
    {guard : OutboxRow → Bool} {change : OutboxRow → OutboxRow}
    (same : ∀ row, SameSummary row (change row)) :
    state.queue.db.Untouched tenant
      (state.withOutbox (state.outbox.update id guard change).2).queue.db := by
  refine ⟨Table.AgreeOn.refl _, fun _ _ _ _ => rfl, Table.agreeOn_update (fun row =>
    (same row).runId) (fun stored found => ?_)⟩
  have mine := own stored found
  exact ⟨fun foreign => foreign mine, fun foreign => foreign ((same stored).tenantId.trans mine)⟩

theorem untouched_reschedule {tenant : Str} (now : Timestamp) {item : SummaryOutboxItem}
    (own : ∀ summary, state.outbox.find? item.runId = some summary → summary.tenantId = tenant)
    (publicError : Str) :
    state.queue.db.Untouched tenant (state.reschedule now item publicError).queue.db := by
  rcases state.reschedule_cases now item publicError with ⟨delay, same⟩ | same
  · rw [same]
    exact untouched_update own (retriedSummary_same now delay publicError)
  · rw [same]
    exact Database.Untouched.refl tenant _

/-- Delivering a run's summary leaves the runs and the summaries of other tenants. -/
theorem Sound.untouched (sound : state.Sound) {act : DeliveryAct} {id : Str} {run : RunRow}
    (concerns : act.Concerns state id) (ran : state.queue.db.run? id = some run)
    (taken : next embedding act state = some state') :
    state.queue.db.Untouched run.tenantId state'.queue.db := by
  have own : ∀ runId, runId = id → ∀ summary, state.outbox.find? runId = some summary →
      summary.tenantId = run.tenantId := by
    rintro runId rfl summary found
    exact sound.summary_tenant ran found
  have claims : ∀ {workerId now locked staleSeconds row outbox},
      claimSummaryRow now locked workerId staleSeconds state.outbox = some (row, outbox) →
      (∃ row outbox, claimSummaryRow now locked workerId staleSeconds state.outbox =
        some (row, outbox) ∧ row.runId = id) →
      state.queue.db.Untouched run.tenantId (state.withOutbox outbox).queue.db := by
    rintro workerId now locked staleSeconds row outbox selected ⟨_, _, again, keyed⟩
    cases selected.symm.trans again
    obtain ⟨candidate, found, -, rfl, rfl⟩ := claimSummaryRow_spec selected
    have mine := own candidate.runId keyed candidate found
    refine ⟨Table.AgreeOn.refl _, fun _ _ _ _ => rfl, Table.agreeOn_put
      (fun foreign => foreign mine) (fun stored there => ?_)⟩
    exact fun foreign => foreign (own _ keyed stored there)
  cases taken_of_next taken with
  | call | remember | expire => exact False.elim concerns
  | claimed selected | poisoned selected => exact claims selected concerns
  | quarantine phase =>
    simp only [DeliveryAct.Concerns, phase] at concerns
    exact untouched_update (own _ concerns) (quarantinedSummary_same _)
  | mismatch phase | retry phase =>
    simp only [DeliveryAct.Concerns, phase] at concerns
    exact untouched_reschedule _ (own _ concerns) _
  | complete phase =>
    simp only [DeliveryAct.Concerns, phase] at concerns
    exact untouched_update (own _ concerns) (completedSummary_same _)
  | write | writeRaises | completeRaises | abandon => exact Database.Untouched.refl _ _

/-- An item that a worker holds is its run's. -/
theorem Sound.item_tenant (sound : state.Sound) {workerId : Str} {item : SummaryOutboxItem}
    (phase : state.phases workerId = .claimed item) {run : RunRow}
    (ran : state.queue.db.run? item.runId = some run) : item.tenantId = run.tenantId := by
  have fits := sound.phases workerId
  rw [phase] at fits
  obtain ⟨row, found, of⟩ := fits
  exact of.tenantId.trans (sound.summary_tenant ran found)

/-- Delivering a run's summary leaves the memories of other tenants. -/
theorem Sound.untouched_memory (sound : state.Sound) {act : DeliveryAct} {id : Str} {run : RunRow}
    (concerns : act.Concerns state id) (ran : state.queue.db.run? id = some run)
    (taken : next embedding act state = some state') :
    Table.AgreeOn (fun item : MemoryItem => item.tenantId ≠ run.tenantId) state'.memory
      state.memory := by
  cases taken_of_next taken with
  | call | remember | expire => exact False.elim concerns
  | claimed | poisoned | quarantine | writeRaises | complete | completeRaises | abandon =>
    exact Table.AgreeOn.refl _
  | mismatch | retry =>
    simp only [Delivery.enter, memory_reschedule]
    exact Table.AgreeOn.refl _
  | @write workerId memoryId delivered item phase same =>
    simp only [DeliveryAct.Concerns, phase, DeliveryPhase.Concerns] at concerns
    subst concerns
    have mine : (item.memory memoryId).tenantId = run.tenantId := sound.item_tenant phase ran
    simp only [Delivery.enter, insertMemory]
    split
    · exact Table.AgreeOn.refl _
    · next free =>
      refine Table.agreeOn_put (fun foreign => foreign mine) (fun stored there => ?_)
      cases free.symm.trans there

end Delivery

/-! ## Both directions -/

/-- A tenant's answers depend on its own rows, and what is done for it changes no
others. `get_run` has no effect at all. -/
structure Isolated (lib : StandardLibrary) (settings : Settings) (validation : ValidationLibrary)
    (backend : MemoryBackend) (reading : RowReading) (renderScore : ℚ → Str) (tenant : Str) :
    Prop where
  reads : ∀ fresh request principal first second,
    authenticate lib request.headers settings.apiKeys = .ok principal →
    principal.tenantId = tenant →
    Table.AgreeOn (fun row : RunRow => row.tenantId = tenant) first.table second.table →
    Api.getRun lib settings fresh reading request (some first) =
      Api.getRun lib settings fresh reading request (some second)
  searches : ∀ fresh now request principal first second,
    authenticate lib request.headers settings.apiKeys = .ok principal →
    principal.tenantId = tenant →
    Table.AgreeOn (fun row : MemoryRow => row.tenantId = tenant) first second →
    (Api.searchMemory lib settings fresh validation backend now request (some first)).map Prod.fst =
      (Api.searchMemory lib settings fresh validation backend now request (some second)).map
        Prod.fst
  recalls : ∀ expected now run first second, run.tenantId = tenant →
    Table.AgreeOn (fun row : MemoryRow => row.tenantId = tenant) first second →
    (executeClaim backend renderScore expected now run first).1 =
      (executeClaim backend renderScore expected now run second).1
  searchLeaves : ∀ fresh now request principal table answer store,
    authenticate lib request.headers settings.apiKeys = .ok principal →
    principal.tenantId = tenant →
    Api.searchMemory lib settings fresh validation backend now request (some table) =
      .ok (answer, store) →
    ∃ table', store = some table' ∧
      Table.AgreeOn (fun row : MemoryRow => row.tenantId ≠ tenant) table' table
  writeLeaves : ∀ fresh memoryId request principal table answer store,
    authenticate lib request.headers settings.apiKeys = .ok principal →
    principal.tenantId = tenant →
    Api.writeMemory lib settings fresh backend memoryId request (some table) =
      .ok (answer, store) →
    ∃ table', store = some table' ∧
      Table.AgreeOn (fun row : MemoryRow => row.tenantId ≠ tenant) table' table
  createLeaves : ∀ fresh now runId request principal db answer store,
    authenticate lib request.headers settings.apiKeys = .ok principal →
    principal.tenantId = tenant →
    createRun lib settings now fresh runId request (some db) = .ok (answer, store) →
    ∃ db', store = some db' ∧ db.Untouched tenant db'
  recallLeaves : ∀ expected now run table, run.tenantId = tenant →
    Table.AgreeOn (fun row : MemoryRow => row.tenantId ≠ tenant)
      (executeClaim backend renderScore expected now run table).2 table
  deliveryLeaves : ∀ embedding state state' act id run, Delivery.Reachable embedding state →
    DeliveryAct.Concerns state id act → state.queue.db.run? id = some run →
    run.tenantId = tenant → Delivery.next embedding act state = some state' →
    state.queue.db.Untouched tenant state'.queue.db ∧
      Table.AgreeOn (fun item : MemoryItem => item.tenantId ≠ tenant) state'.memory state.memory
  summaryLeaves : ∀ embedding state workerId item run embeddingDim memoryId table stored table',
    Delivery.Reachable embedding state → state.phases workerId = .claimed item →
    state.queue.db.run? item.runId = some run → run.tenantId = tenant →
    MemoryStore.write backend embeddingDim memoryId (Worker.summaryMemory item) table =
      .ok (stored, table') →
    Table.AgreeOn (fun row : MemoryRow => row.tenantId ≠ tenant) table' table

section Handlers

variable {lib : StandardLibrary} {settings : Settings} {fresh : Str} {principal : Principal}

/-- A read answers the same on databases that agree on the principal's tenant. -/
theorem Api.getRun_congr {reading : RowReading} {request : ReadRequest} {first second : Database}
    (authenticated : authenticate lib request.headers settings.apiKeys = .ok principal)
    (same : Table.AgreeOn (fun row : RunRow => row.tenantId = principal.tenantId) first.table
      second.table) :
    Api.getRun lib settings fresh reading request (some first) =
      Api.getRun lib settings fresh reading request (some second) := by
  have passes := (principalOf_ok_iff (requestId lib request.headers fresh)).mpr authenticated
  simp only [Api.getRun, passes, get_congr same]

/-- A search answers the same on tables that agree on the principal's tenant. -/
theorem Api.searchMemory_congr {validation : ValidationLibrary} {backend : MemoryBackend}
    {now : Timestamp} {request : SearchRequest} {first second : MemoryTable}
    (authenticated : authenticate lib request.headers settings.apiKeys = .ok principal)
    (same : Table.AgreeOn (fun row : MemoryRow => row.tenantId = principal.tenantId) first
      second) :
    (Api.searchMemory lib settings fresh validation backend now request (some first)).map Prod.fst =
      (Api.searchMemory lib settings fresh validation backend now request (some second)).map
        Prod.fst := by
  simp only [Api.searchMemory]
  cases passed : Api.searchGate lib settings fresh validation request with
  | error fault => rfl
  | ok gate =>
    cases gate with
    | error refusal => rfl
    | ok admitted =>
      obtain ⟨found, search⟩ := admitted
      obtain ⟨authenticated', -⟩ := Api.searchGate_ok_iff.mp passed
      obtain rfl : principal = found := Except.ok.inj (authenticated.symm.trans authenticated')
      have answers : (MemoryStore.search backend settings.embeddingDim now
            (Api.searchArguments principal search) first).1 =
          (MemoryStore.search backend settings.embeddingDim now
            (Api.searchArguments principal search) second).1 := MemoryStore.search_congr same
      simp only [Except.map, answers]

end Handlers

/-- No tenant learns of another one or changes what it has. -/
theorem tenants_do_not_interfere (lib : StandardLibrary) (settings : Settings)
    (validation : ValidationLibrary) (backend : MemoryBackend) (reading : RowReading)
    (renderScore : ℚ → Str) (tenant : Str) :
    Isolated lib settings validation backend reading renderScore tenant where
  reads := by
    rintro fresh request principal first second authenticated rfl same
    exact Api.getRun_congr authenticated same
  searches := by
    rintro fresh now request principal first second authenticated rfl same
    exact Api.searchMemory_congr authenticated same
  recalls := by
    rintro expected now run first second rfl same
    exact executeClaim_congr same
  searchLeaves := by
    rintro fresh now request principal table answer store authenticated rfl searched
    rcases Api.searchMemory_stored searched with rfl | ⟨_, found, search, ⟨⟩, passed, rfl⟩
    · exact ⟨table, rfl, Table.AgreeOn.refl table⟩
    · obtain ⟨authenticated', -⟩ := Api.searchGate_ok_iff.mp passed
      obtain rfl : principal = found := Except.ok.inj (authenticated.symm.trans authenticated')
      exact ⟨_, rfl, fun row foreign => MemoryStore.search_others foreign⟩
  writeLeaves := by
    rintro fresh memoryId request principal table answer store authenticated rfl written
    rcases Api.writeMemory_stored written with
      rfl | ⟨_, table', found, payload, stored, ⟨⟩, rfl, passed, wrote⟩
    · exact ⟨table, rfl, Table.AgreeOn.refl table⟩
    · obtain ⟨authenticated', -⟩ := gated_ok_iff.mp passed
      obtain rfl : principal = found := Except.ok.inj (authenticated.symm.trans authenticated')
      exact ⟨table', rfl, fun row foreign => MemoryStore.write_others wrote foreign⟩
  createLeaves := by
    rintro fresh now runId request principal db answer store authenticated rfl created
    rcases createRun_stored created with
      rfl | ⟨_, db', found, payload, enqueued, ⟨⟩, rfl, authenticated', -, performed⟩
    · exact ⟨db, rfl, Database.Untouched.refl _ db⟩
    · obtain rfl : principal = found := Except.ok.inj (authenticated.symm.trans authenticated')
      exact ⟨db', rfl, untouched_of_enqueue performed⟩
  recallLeaves := by
    rintro expected now run table rfl row foreign
    exact executeClaim_others foreign
  deliveryLeaves := by
    rintro embedding state state' act id run reached concerns ran rfl taken
    have sound := Delivery.sound_of_reachable reached
    exact ⟨sound.untouched concerns ran taken, sound.untouched_memory concerns ran taken⟩
  summaryLeaves := by
    rintro embedding state workerId item run embeddingDim memoryId table stored table' reached phase
      ran rfl wrote row foreign
    have mine := (Delivery.sound_of_reachable reached).item_tenant phase ran
    exact MemoryStore.write_others wrote (fun same => foreign (same.trans mine))

/-! ## Beside another tenant -/

/-- A memory of another tenant about the same subject. -/
def otherMemory : MemoryRow :=
  MemoryStore.proposed (lit "o") (Api.writeArguments ⟨lit "other", none, lit "client"⟩
    (smallFact ⟨lit "user", user_bounded⟩)) (List.replicate 8 1) 1 none

def otherMemories : MemoryTable := Table.empty.put otherMemory

/-- A run of another tenant. -/
def otherRun (id : Str) : RunRow :=
  { queuedRow 0 id (smallRequest 2) with tenantId := lit "other" }

def otherDatabase (id : Str) : Database := Database.empty.putRun (otherRun id)

def smallRead : ReadRequest where
  headers := [(lit "Authorization", lit "Bearer secret")]
  runId := smallId.text

/-- Tables with and without another tenant's row agree on the rows of the small deployment's
tenant. -/
theorem agreeOn_otherMemories :
    Table.AgreeOn (fun row : MemoryRow => row.tenantId = lit "acme") otherMemories Table.empty :=
  Table.agreeOn_put (by decide) (fun _ stored => by cases stored)

theorem agreeOn_otherDatabase (id : Str) :
    Table.AgreeOn (fun row : RunRow => row.tenantId = lit "acme") (otherDatabase id).table
      Database.empty.table :=
  Table.agreeOn_put (show ¬ lit "other" = lit "acme" by decide) (fun _ stored => by cases stored)

/-- Beside the rows of another tenant, requests with the small deployment's key are answered
as without them and leave them as they are, and so does the execution of a claim. -/
theorem tenants_do_not_interfere_small :
    Api.getRun smallLibrary smallSettings [] smallReading smallRead
        (some (otherDatabase smallId.text)) =
      Api.getRun smallLibrary smallSettings [] smallReading smallRead (some Database.empty) ∧
    (Api.searchMemory smallLibrary smallSettings [] smallValidation smallBackend 0
        (smallSearch (lit "user") (lit "default")) (some otherMemories)).map Prod.fst =
      (Api.searchMemory smallLibrary smallSettings [] smallValidation smallBackend 0
        (smallSearch (lit "user") (lit "default")) (some Table.empty)).map Prod.fst ∧
    (executeClaim smallBackend (fun _ => []) (lit "embed", 8) 0 (smallClaim (lit "w") 1 2)
        otherMemories).1 =
      (executeClaim smallBackend (fun _ => []) (lit "embed", 8) 0 (smallClaim (lit "w") 1 2)
        Table.empty).1 ∧
    (∃ answer table', Api.writeMemory smallLibrary smallSettings [] smallBackend (lit "m")
        (smallWrite ⟨lit "user", by decide⟩) (some otherMemories) = .ok (answer, some table') ∧
      answer.statusCode = 201 ∧ otherMemory ∈ table'.rows) ∧
    ∃ answer db', createRun smallLibrary smallSettings 0 [] smallId
        (smallSubmission (smallPayload (lit "1 2") (by decide)))
        (some (otherDatabase (lit "o"))) = .ok (answer, some db') ∧
      answer.statusCode = 202 ∧ otherRun (lit "o") ∈ db'.table.rows := by
  have isolated := tenants_do_not_interfere smallLibrary smallSettings smallValidation smallBackend
    smallReading (fun _ => []) (lit "acme")
  refine ⟨?_, ?_, ?_, ?_, ?_⟩
  · exact isolated.reads [] smallRead smallPrincipal _ _ rfl rfl (agreeOn_otherDatabase _)
  · exact isolated.searches [] 0 _ smallPrincipal _ _ rfl rfl agreeOn_otherMemories
  · exact isolated.recalls _ 0 _ _ _ rfl agreeOn_otherMemories
  · have stored : ((Api.writeMemory smallLibrary smallSettings [] smallBackend (lit "m")
        (smallWrite ⟨lit "user", by decide⟩) (some otherMemories)).toOption.map
          (fun outcome => outcome.1.statusCode)) = some 201 := by decide +kernel
    obtain ⟨⟨answer, store⟩, written, status⟩ := Option.map_eq_some_iff.mp stored
    have wrote := toOption_eq_some.mp written
    obtain ⟨table', rfl, same⟩ :=
      isolated.writeLeaves _ _ _ smallPrincipal _ _ _ rfl rfl wrote
    exact ⟨answer, table', wrote, status, (same otherMemory (by decide)).mpr
      ((Table.mem_put_fresh rfl).mpr (Or.inr rfl))⟩
  · have enqueued : ((createRun smallLibrary smallSettings 0 [] smallId
        (smallSubmission (smallPayload (lit "1 2") (by decide)))
        (some (otherDatabase (lit "o")))).toOption.map (fun outcome => outcome.1.statusCode)) =
          some 202 := by decide +kernel
    obtain ⟨⟨answer, store⟩, created, status⟩ := Option.map_eq_some_iff.mp enqueued
    have made := toOption_eq_some.mp created
    obtain ⟨db', rfl, untouched⟩ :=
      isolated.createLeaves _ _ _ _ smallPrincipal _ _ _ rfl rfl made
    exact ⟨answer, db', made, status, (untouched.runs (otherRun (lit "o"))
      (show lit "other" ≠ lit "acme" by decide)).mpr
        ((Table.mem_put_fresh rfl).mpr (Or.inr rfl))⟩

end RlmApi
