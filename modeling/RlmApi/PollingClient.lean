import RlmApi.RequestHandlers
import RlmApi.TransitionSystems

/-!
# A client that polls

A client posts a run and reads it until it has ended, while workers and other clients go
on. Every read of the accepted run answers `200`, and what one read says is not taken
back by a later one.
-/

namespace RlmApi

open RunStore

/-! ## Rows over time -/

/-- `get` decodes the columns of the row. -/
structure RunRow.Readable (row : RunRow) : Prop where
  modelConfig : ∃ fields, row.modelConfig.loads = some (.obj fields)
  limits : ∃ fields, row.limits.loads = some (.obj fields)
  result : ∀ value, row.result = some value → ∃ fields, value.loads = some (.obj fields)
  usage : ∃ fields, row.usage.loads = some (.obj fields)
  memorySnapshot : ∃ items, row.memorySnapshot.loads = some (.arr items)
  trajectory : ∀ value, row.trajectory = some value → ∃ read, value.loads = some read

/-- What the row of a run is like at a later time. -/
structure RunRow.Later (row row' : RunRow) : Prop where
  request : SameRequest row row'
  attempts : row.attempts ≤ row'.attempts
  startedAt : ∀ time, row.startedAt = some time → row'.startedAt = some time
  final : row.status = .succeeded ∨ row.status = .failed → row' = row

theorem RunRow.Later.refl (row : RunRow) : row.Later row :=
  ⟨SameRequest.refl row, le_refl _, fun _ started => started, fun _ => rfl⟩

theorem RunRow.Later.trans {first second third : RunRow} (early : first.Later second)
    (late : second.Later third) : first.Later third where
  request := early.request.trans late.request
  attempts := le_trans early.attempts late.attempts
  startedAt time started := late.startedAt time (early.startedAt time started)
  final finished := by
    have same := early.final finished
    rw [late.final (same ▸ finished), same]

section Changes

variable {now : Timestamp} {action : RunAction} {before after : RunDossier}

/-- An action leaves a row readable. -/
theorem RunChange.readable (change : RunChange now action (some before) after)
    (readable : before.row.Readable) : after.row.Readable := by
  obtain ⟨modelConfig, limits, result, usage, memorySnapshot, trajectory⟩ := readable
  cases change with
  | @succeed _ _ arguments leased embedded =>
    obtain ⟨answered, counted, recalled, traced, -⟩ := arguments.loads
    refine ⟨modelConfig, limits, fun value stored => ?_, ⟨_, counted⟩, ⟨_, recalled⟩,
      fun value stored => ?_⟩
    · cases stored
      exact ⟨_, answered⟩
    · obtain ⟨-, kept⟩ := Option.ite_none_right_eq_some.mp stored
      cases kept
      exact ⟨_, traced⟩
  | start | quarantine | beat | fail | recover | report =>
    exact ⟨modelConfig, limits, result, usage, memorySnapshot, trajectory⟩

/-- An action leads to a later row. -/
theorem RunChange.later (change : RunChange now action (some before) after) :
    before.row.Later after.row where
  request := change.sameRequest
  attempts := change.attempts_le
  startedAt time started := by
    cases change with
    | start | quarantine =>
      simp only [Dossier.record_row, Dossier.rewrite_row, quarantinedVersion, claimedVersion,
        started, Option.getD_some]
    | beat | succeed | fail | recover | report => exact started
  final finished := (change.ended finished).1

end Changes

/-- What `enqueue` inserts is readable. -/
theorem readable_queuedRow (now : Timestamp) (runId : Str) {arguments : EnqueueArguments}
    (storable : arguments.storable = true) : (queuedRow now runId arguments).Readable := by
  obtain ⟨modelConfig, limits⟩ := EnqueueArguments.loads storable
  exact ⟨⟨_, modelConfig⟩, ⟨_, limits⟩, (fun _ stored => by cases stored), ⟨_, rfl⟩, ⟨_, rfl⟩,
    (fun _ stored => by cases stored)⟩

/-! ## Databases over time -/

namespace Database

/-- One committed call of anyone. -/
def Call (db db' : Database) : Prop :=
  ∃ now locked operation answer, perform now locked operation db = .ok (answer, db')

/-- Every run can be read. -/
structure Served (db : Database) : Prop where
  linked : db.Linked
  readable : ∀ id row, db.run? id = some row → row.Readable

/-- Every run has a later row. -/
def Follows (db db' : Database) : Prop :=
  ∀ id row, db.run? id = some row → ∃ row', db'.run? id = some row' ∧ row.Later row'

variable {db db' : Database}

theorem served_empty : empty.Served := ⟨fun _ _ => rfl, fun _ _ found => by cases found⟩

/-- A call leaves every run readable, with a later row. -/
theorem Served.call (served : db.Served) (call : Call db db') : db'.Served ∧ db.Follows db' := by
  obtain ⟨now, locked, operation, answer, performed⟩ := call
  have effect := perform_effect served.linked performed
  refine ⟨⟨effect.linked, fun id row found => ?_⟩, fun id row found => ?_⟩
  · obtain ⟨dossier, stored, rfl⟩ := run?_eq_some_iff.mp found
    obtain ⟨action, acts, acted⟩ := effect.acted id
    cases action with
    | none => exact served.readable id _ (run?_eq_some_iff.mpr ⟨dossier, acted ▸ stored, rfl⟩)
    | some action =>
      obtain ⟨after, written, change⟩ := acted
      obtain rfl : dossier = after := Option.some.inj (stored.symm.trans written)
      cases earlier : db.dossier? id with
      | none =>
        rw [earlier] at change
        cases change with
        | enqueue storable positive => exact readable_queuedRow _ _ storable
      | some before =>
        rw [earlier] at change
        exact change.readable
          (served.readable id _ (run?_eq_some_iff.mpr ⟨before, earlier, rfl⟩))
  · rcases effect.kept_or_changed found with kept | ⟨_, before, after, -, change, rfl, stored⟩
    · exact ⟨row, kept, RunRow.Later.refl row⟩
    · exact ⟨after.row, stored, change.later⟩

/-- So do any calls. -/
theorem Served.calls (served : db.Served) (run : Runs Call db db') :
    db'.Served ∧ db.Follows db' := by
  induction run with
  | refl => exact ⟨served, fun _ row found => ⟨row, found, RunRow.Later.refl row⟩⟩
  | tail _ call inductionHypothesis =>
    obtain ⟨middle, early⟩ := inductionHypothesis
    obtain ⟨served', late⟩ := middle.call call
    refine ⟨served', fun id row found => ?_⟩
    obtain ⟨row', between, later⟩ := early id row found
    obtain ⟨row'', after, laterStill⟩ := late id row' between
    exact ⟨row'', after, later.trans laterStill⟩

end Database

/-! ## What two reads say -/

/-- What the first read says, the second does not take back. -/
structure SameStory (first second : List (Str × Json)) : Prop where
  request : ∀ name ∈ ["id", "tenant_id", "subject_id", "namespace", "model_config", "limits",
    "max_attempts", "created_at"], second.lookup (lit name) = first.lookup (lit name)
  started : first.lookup (lit "started_at") = some .null ∨
    second.lookup (lit "started_at") = first.lookup (lit "started_at")
  attempts : ∃ n m, first.lookup (lit "attempts") = some (.int n) ∧
    second.lookup (lit "attempts") = some (.int m) ∧ n ≤ m
  final : first.lookup (lit "status") = some (.str RunStatus.succeeded.value) ∨
    first.lookup (lit "status") = some (.str RunStatus.failed.value) → second = first

theorem RunStatus.value_injective : Function.Injective RunStatus.value := by
  intro first second same
  revert same
  cases first <;> cases second <;> decide

section Reads

variable {reading : RowReading} {row row' : RunRow}

/-- `get` reads a readable row. -/
theorem RunRow.Readable.read (readable : row.Readable) (reading : RowReading) :
    ∃ modelConfig limits result usage recalled trajectory,
      row.modelConfig.loads = some (.obj modelConfig) ∧ row.limits.loads = some (.obj limits) ∧
        runObject reading row =
          .ok (runMembers reading row modelConfig limits result usage recalled trajectory) := by
  obtain ⟨⟨modelConfig, models⟩, ⟨limits, bounds⟩, result, ⟨usage, used⟩, ⟨recalled, remembered⟩,
    trajectory⟩ := readable
  have read : ∃ value, resultMember row = .ok value := by
    unfold resultMember
    split
    · next value stored =>
      obtain ⟨fields, loaded⟩ := result value stored
      exact ⟨_, by rw [loaded]; rfl⟩
    · exact ⟨_, rfl⟩
  have traced : ∃ member, trajectoryMember row = .ok member := by
    unfold trajectoryMember
    split
    · cases stored : row.trajectory with
      | none => exact ⟨_, rfl⟩
      | some value =>
        obtain ⟨loaded, same⟩ := trajectory value stored
        exact ⟨_, by rw [Option.elim_some, same]; rfl⟩
    · exact ⟨_, rfl⟩
  obtain ⟨value, read⟩ := read
  obtain ⟨member, traced⟩ := traced
  exact ⟨modelConfig, limits, value, usage, recalled, member, models, bounds,
    runObject_of_loads models bounds read used remembered traced⟩

/-- The reads of a row and of a later one agree. -/
theorem RunRow.Later.sameStory (later : row.Later row') (readable : row.Readable)
    (readable' : row'.Readable) {first second : List (Str × Json)}
    (one : runObject reading row = .ok first) (other : runObject reading row' = .ok second) :
    SameStory first second := by
  obtain ⟨modelConfig, limits, result, usage, recalled, trajectory, models, bounds, read⟩ :=
    readable.read reading
  obtain ⟨modelConfig', limits', result', usage', recalled', trajectory', models', bounds',
    read'⟩ := readable'.read reading
  cases one.symm.trans read
  cases other.symm.trans read'
  obtain ⟨id, tenantId, subjectId, namespaceName, -, -, -, sameModels, sameBounds, -, maxAttempts,
    createdAt⟩ := later.request
  rw [sameModels, models, Option.some.injEq, Json.obj.injEq] at models'
  rw [sameBounds, bounds, Option.some.injEq, Json.obj.injEq] at bounds'
  subst models' bounds'
  refine ⟨fun name member => ?_, ?_, ⟨row.attempts, row'.attempts, ?_, ?_, later.attempts⟩,
    fun finished => ?_⟩
  · simp only [List.mem_cons, List.not_mem_nil, or_false] at member
    rcases member with rfl | rfl | rfl | rfl | rfl | rfl | rfl | rfl <;>
      simp [runMembers, List.lookup_append, lookup_jsonFields, List.lookup_cons, id, tenantId,
        subjectId, namespaceName, maxAttempts, createdAt]
  · cases begun : row.startedAt with
    | none =>
      refine Or.inl ?_
      simp [runMembers, List.lookup_append, lookup_jsonFields, List.lookup_cons, begun, iso,
        optionalText]
    | some time =>
      refine Or.inr ?_
      simp [runMembers, List.lookup_append, lookup_jsonFields, List.lookup_cons, begun,
        later.startedAt time begun]
  · simp [runMembers, List.lookup_append, lookup_jsonFields, List.lookup_cons]
  · simp [runMembers, List.lookup_append, lookup_jsonFields, List.lookup_cons]
  · have status : (runMembers reading row modelConfig limits result usage recalled
        trajectory).lookup (lit "status") = some (.str row.status.value) := by
      simp [runMembers, List.lookup_append, lookup_jsonFields, List.lookup_cons]
    rw [status, Option.some.injEq, Option.some.injEq, Json.str.injEq, Json.str.injEq,
      RunStatus.value_injective.eq_iff, RunStatus.value_injective.eq_iff] at finished
    obtain rfl := later.final finished
    exact Except.ok.inj (read'.symm.trans read)

end Reads

/-! ## The client -/

section Client

variable {lib : StandardLibrary} {settings : Settings} {reading : RowReading} {headers : Headers}
  {principal : Principal}

/-- A run of the principal's tenant, within its scope, is answered with `200`. -/
theorem Api.getRun_ok {fresh runId : Str} {db : Database} {run : List (Str × Json)}
    (authenticated : authenticate lib headers settings.apiKeys = .ok principal)
    (read : get reading runId principal.tenantId db = .ok (some run))
    (inScope : enforceScope principal none (some (getRun.subjectMember run)) = .ok ()) :
    Api.getRun lib settings fresh reading ⟨headers, runId⟩ (some db) =
      .ok (response 200 (.obj run) (requestId lib headers fresh) []) := by
  have passes := (principalOf_ok_iff (requestId lib headers fresh)).mpr authenticated
  have within := (scopeRefusal_none_iff (requestId lib headers fresh)).mpr inScope
  simp only [Api.getRun, passes, read, within]

/-- A subject that passes with a tenant passes alone. -/
theorem enforceScope_of_tenant {tenantId subjectId : Option Str}
    (inScope : enforceScope principal tenantId subjectId = .ok ()) :
    enforceScope principal none subjectId = .ok () := by
  rw [enforceScope_eq] at inScope
  obtain ⟨-, -, subject⟩ := except_bind_ok_iff.mp inScope
  rw [enforceScope_subject]
  exact subject

/-- A readable row of the client's own is answered with `200`. -/
theorem RunRow.Readable.answered {row : RunRow} {runId : Uuid} {db : Database}
    (readable : row.Readable) (fresh : Str) (found : db.run? runId.text = some row)
    (authenticated : authenticate lib headers settings.apiKeys = .ok principal)
    (parsed : reading.uuid runId.text = .ok (some runId.text))
    (storable : storableText principal.tenantId = true) (own : row.tenantId = principal.tenantId)
    (inScope : enforceScope principal none (some row.subjectId) = .ok ()) :
    ∃ run, runObject reading row = .ok run ∧
      Api.getRun lib settings fresh reading ⟨headers, runId.text⟩ (some db) =
        .ok (response 200 (.obj run) (requestId lib headers fresh) []) := by
  obtain ⟨modelConfig, limits, result, usage, recalled, trajectory, -, -, read⟩ :=
    readable.read reading
  refine ⟨_, read, Api.getRun_ok authenticated
    (get_eq_some_iff.mpr ⟨_, row, parsed, storable, found, own, read⟩) ?_⟩
  rw [Api.getRun.subjectMember, (runObject_ok read).2.2]
  exact inScope

/-- A run that was accepted is found by every later read of the client, whoever calls in
between, and no read takes back what an earlier one said: the request, the start, the
attempts counted so far and, once the run has ended, the whole answer. -/
theorem polls_agree {start created first second : Database} {now : Timestamp}
    {fresh freshFirst freshSecond : Str} {runId : Uuid} {request : Request} {answer : Response}
    (reached : Runs Database.Call Database.empty start)
    (posted : createRun lib settings now fresh runId request (some start) =
      .ok (answer, some created))
    (accepted : answer.statusCode = 202)
    (sameClient : authenticate lib headers settings.apiKeys =
      authenticate lib request.headers settings.apiKeys)
    (parsed : reading.uuid runId.text = .ok (some runId.text))
    (early : Runs Database.Call created first) (late : Runs Database.Call first second) :
    ∃ one two,
      Api.getRun lib settings freshFirst reading ⟨headers, runId.text⟩ (some first) =
        .ok (response 200 (.obj one) (requestId lib headers freshFirst) []) ∧
      Api.getRun lib settings freshSecond reading ⟨headers, runId.text⟩ (some second) =
        .ok (response 200 (.obj two) (requestId lib headers freshSecond) []) ∧
      one.lookup (lit "id") = some (.str runId.text) ∧ SameStory one two := by
  obtain ⟨_, _, principal, payload, ⟨⟩, ⟨⟩, whole⟩ := accepted_of_createRun posted accepted
  obtain ⟨enqueued, performed⟩ := whole.enqueued
  have authenticated := sameClient.trans whole.authenticated
  have inScope := enforceScope_of_tenant whole.inScope
  obtain ⟨storable, -, table, -, -⟩ := stored_of_enqueue performed
  have tenant : storableText principal.tenantId = true := by
    simp only [EnqueueArguments.storable, Bool.and_eq_true] at storable
    exact storable.1.1.1.1.1.1.1.1
  have queued : created.run? runId.text =
      some (queuedRow now runId.text (enqueueArguments settings principal payload)) := by
    rw [Database.run?, table]
    exact Table.find?_put_self _ _
  have served := ((Database.served_empty.calls reached).1.call ⟨_, _, _, _, performed⟩).1
  obtain ⟨servedFirst, followsFirst⟩ := served.calls early
  obtain ⟨servedSecond, followsSecond⟩ := servedFirst.calls late
  obtain ⟨row, found, later⟩ := followsFirst _ _ queued
  obtain ⟨row', found', later'⟩ := followsSecond _ _ found
  obtain ⟨one, read, polled⟩ := (servedFirst.readable _ _ found).answered freshFirst found
    authenticated parsed tenant later.request.tenantId
    (by rw [later.request.subjectId]; exact inScope)
  have whole' := later.trans later'
  obtain ⟨two, read', polled'⟩ := (servedSecond.readable _ _ found').answered
    freshSecond found' authenticated parsed tenant whole'.request.tenantId
    (by rw [whole'.request.subjectId]; exact inScope)
  refine ⟨one, two, polled, polled', ?_, later'.sameStory (servedFirst.readable _ _ found)
    (servedSecond.readable _ _ found') read read'⟩
  rw [(runObject_ok read).1, later.request.id]
  rfl

end Client

/-- The headers of the small deployment's client, in lower case. -/
def smallReader : Headers := [(lit "authorization", lit "Bearer secret")]

/-- What that client reads of its run. -/
def smallPoll (db : Database) : Except AuthFault Response :=
  Api.getRun smallLibrary smallSettings [] smallReading ⟨smallReader, smallId.text⟩ (some db)

/-- A run that is claimed between two reads. -/
theorem polls_agree_claimed : ∃ (created first : Database) (one two : List (Str × Json)),
    (∃ answer, perform (seconds 1) (fun _ => false) (.claim (lit "w") 10) created =
      .ok (answer, first)) ∧
    smallPoll created = .ok (response 200 (.obj one) (requestId smallLibrary smallReader []) []) ∧
    smallPoll first = .ok (response 200 (.obj two) (requestId smallLibrary smallReader []) []) ∧
    one.lookup (lit "id") = some (.str smallId.text) ∧ SameStory one two := by
  have run : ∃ (answer : Response) (created first : Database) (claimed : Answer),
      createRun smallLibrary smallSettings 0 [] smallId
        (smallSubmission (smallPayload (lit "1 2") (by decide))) (some Database.empty) =
        .ok (answer, some created) ∧ answer.statusCode = 202 ∧
      perform (seconds 1) (fun _ => false) (.claim (lit "w") 10) created =
        .ok (claimed, first) :=
    ⟨_, _, _, _, rfl, rfl, rfl⟩
  obtain ⟨answer, created, first, claimed, posted, accepted, performed⟩ := run
  have reader : authenticate smallLibrary smallReader smallSettings.apiKeys =
      .ok ⟨lit "acme", none, lit "client"⟩ := by rfl
  have poster : authenticate smallLibrary
      (smallSubmission (smallPayload (lit "1 2") (by decide))).headers smallSettings.apiKeys =
        .ok ⟨lit "acme", none, lit "client"⟩ := by rfl
  have parsed : smallReading.uuid smallId.text = .ok (some smallId.text) := by rfl
  obtain ⟨one, two, polled, polled', named, agree⟩ := polls_agree .refl posted accepted
    (reader.trans poster.symm) parsed .refl (.single ⟨_, _, _, _, performed⟩)
  exact ⟨created, first, one, two, ⟨_, performed⟩, polled, polled', named, agree⟩

end RlmApi
