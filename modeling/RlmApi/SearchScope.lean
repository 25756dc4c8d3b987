import RlmApi.ExactlyOnce
import RlmApi.RequestHandlers

/-!
# Stored memories and the scope of a search

A memory is stored in the scope that a request names, directly by `write_memory` or as
the summary of a run from `create_run`. A search names its scope in the same words,
but only its validator trims them, and the database compares with plain equality.
So a search looks where it says exactly when there is nothing to trim. It is
accepted at all only where the validator takes its parameters for a mapping.
-/

namespace RlmApi

open RunStore

/-- Where a memory is stored and a search looks. -/
structure MemoryScope where
  tenantId : Str
  subjectId : Str
  namespaceName : Str
deriving DecidableEq

def MemoryItem.scope (item : MemoryItem) : MemoryScope :=
  ⟨item.tenantId, item.subjectId, item.namespaceName⟩

def SearchArguments.scope (arguments : SearchArguments) : MemoryScope :=
  ⟨arguments.tenantId, arguments.subjectId, arguments.namespaceName⟩

/-- The scope that search parameters name; a tenant left out is the principal's. -/
def namedScope (principal : Principal) (values : List (Str × Str)) : MemoryScope :=
  ⟨(values.lookup (lit "tenant_id")).getD principal.tenantId,
    (values.lookup (lit "subject_id")).getD [],
    (values.lookup (lit "namespace")).getD (lit "default")⟩

/-! ## Trimmed texts -/

/-- Neither end of the text is whitespace to the validation library. -/
def Trimmed (validation : ValidationLibrary) (text : Str) : Prop :=
  (∀ c, text.head? = some c → validation.isWhitespace c = false) ∧
    ∀ c, text.getLast? = some c → validation.isWhitespace c = false

/-- Trimming leaves exactly the trimmed texts as they are. -/
theorem trim_eq_self_iff (validation : ValidationLibrary) (text : Str) :
    validation.trim text = text ↔ Trimmed validation text := by
  have ends : Trimmed validation text ↔ text.dropWhile validation.isWhitespace = text ∧
      text.rdropWhile validation.isWhitespace = text := by
    rw [List.dropWhile_eq_self_iff, List.rdropWhile_eq_self_iff, Trimmed]
    cases text with
    | nil => simp
    | cons first rest =>
      rw [List.getLast?_eq_getLast_of_ne_nil (List.cons_ne_nil first rest)]
      simp
  rw [ends, ValidationLibrary.trim]
  constructor
  · intro kept
    have suffix := List.dropWhile_suffix validation.isWhitespace (l := text)
    have shrinks := (List.rdropWhile_prefix validation.isWhitespace
      (text.dropWhile validation.isWhitespace)).length_le
    rw [kept] at shrinks
    have whole := suffix.eq_of_length (Nat.le_antisymm suffix.length_le shrinks)
    rw [whole] at kept
    exact ⟨whole, kept⟩
  · rintro ⟨left, right⟩
    rw [left, right]

/-! ## Storing and searching -/

/-- The memory was stored at the principal's request, under this subject and
namespace. -/
inductive Stored (lib : StandardLibrary) (settings : Settings) (principal : Principal)
    (subjectId namespaceName : Str) : MemoryItem → Prop
  /-- `write_memory` added it. -/
  | written {fresh memoryId : Str} {backend : MemoryBackend} {request : WriteRequest}
      {payload : WriteMemory} {table table' : MemoryTable} {answer : Response} {row : MemoryRow}
      (authenticated : authenticate lib request.headers settings.apiKeys = .ok principal)
      (body : request.body = .ok payload) (subject : payload.subjectId.val = subjectId)
      (named : payload.namespaceName.val = namespaceName)
      (wrote : Api.writeMemory lib settings fresh backend memoryId request (some table) =
        .ok (answer, some table'))
      (there : row ∈ table'.rows) (added : row ∉ table.rows) :
      Stored lib settings principal subjectId namespaceName row.toMemoryItem
  /-- `create_run` accepted a run, and it is the run's summary. -/
  | summarized {embedding : Str → Str × Int} {before created later : Delivery} {now : Timestamp}
      {fresh : Str} {runId : Uuid} {request : Request} {payload : CreateRun} {answer : Response}
      {db : Database} {item : MemoryItem}
      (authenticated : authenticate lib request.headers settings.apiKeys = .ok principal)
      (body : request.body = .ok payload) (subject : payload.subjectId = subjectId)
      (named : payload.namespaceName = namespaceName)
      (reached : Delivery.Reachable embedding before)
      (submitted : createRun lib settings now fresh runId request (some before.queue.db) =
        .ok (answer, some db))
      (accepted : answer.statusCode = 202)
      (state : created.queue.db = db) (sound : Delivery.Reachable embedding created)
      (continued : Runs (Delivery.Step embedding) created later)
      (member : item ∈ later.memoriesOf runId.text) :
      Stored lib settings principal subjectId namespaceName item

/-- What the request of a stored memory went through. -/
structure Admitted (principal : Principal) (subjectId namespaceName : Str) : Prop where
  subject_length : 1 ≤ subjectId.length ∧ subjectId.length ≤ 256
  namespace_length : 1 ≤ namespaceName.length ∧ namespaceName.length ≤ 128
  subject_unicode : isUnicode subjectId = true
  namespace_unicode : isUnicode namespaceName = true
  inScope : enforceOne (some subjectId) principal.subjectId "subject_mismatch" = .ok ()

section Stored

variable {lib : StandardLibrary} {settings : Settings} {principal : Principal}
  {subjectId namespaceName : Str} {item : MemoryItem}

/-- A scope check that passes with a tenant passes the subject. -/
theorem enforceOne_of_enforceScope {tenantId : Option Str} {subject : Str}
    (inScope : enforceScope principal tenantId (some subject) = .ok ()) :
    enforceOne (some subject) principal.subjectId "subject_mismatch" = .ok () := by
  rw [enforceScope_eq] at inScope
  cases checked : enforceOne tenantId (some principal.tenantId) "tenant_mismatch" with
  | error fault =>
    rw [checked] at inScope
    cases inScope
  | ok passed =>
    rw [checked] at inScope
    exact inScope

/-- The summary of an accepted run is in the scope of the request. -/
theorem scope_of_summary {embedding : Str → Str × Int} {created later : Delivery}
    {now : Timestamp} {runId : Uuid} {request : Request} {db db' : Database}
    {payload : CreateRun} (linked : db.Linked)
    (accepted : Accepted lib settings now runId request db db' principal payload)
    (state : created.queue.db = db') (sound : Delivery.Reachable embedding created)
    (continued : Runs (Delivery.Step embedding) created later)
    (member : item ∈ later.memoriesOf runId.text) :
    item.scope = ⟨principal.tenantId, payload.subjectId, payload.namespaceName⟩ := by
  obtain ⟨-, -, row, found, same⟩ := enqueued_request linked accepted
  rw [← state] at found
  have soundCreated := Delivery.sound_of_reachable sound
  obtain ⟨row', found', kept⟩ :=
    (Delivery.followed_of_runs soundCreated continued).request _ row found
  obtain ⟨row'', -, found'', -, tenant, subject, named, -⟩ :=
    (soundCreated.runs continued).faithful member
  obtain rfl := Option.some.inj (found'.symm.trans found'')
  rw [MemoryItem.scope, tenant, subject, named, kept.tenantId, kept.subjectId,
    kept.namespaceName, same.tenantId, same.subjectId, same.namespaceName]
  rfl

/-- A stored memory is in the scope of its request, and the request was admitted. -/
theorem Stored.spec (stored : Stored lib settings principal subjectId namespaceName item) :
    item.scope = ⟨principal.tenantId, subjectId, namespaceName⟩ ∧
      Admitted principal subjectId namespaceName := by
  cases stored with
  | @written fresh memoryId backend request payload table table' answer row authenticated body
      subject named wrote there added =>
    obtain same | ⟨_, _, other, payload', id, started, ended, passed, wrote⟩ :=
      Api.writeMemory_stored wrote
    · cases same
      exact absurd there added
    · cases started
      cases ended
      obtain ⟨authenticated', valid, inScope⟩ := gated_ok_iff.mp passed
      rw [body] at valid
      cases valid
      obtain rfl := Except.ok.inj (authenticated.symm.trans authenticated')
      have carries := MemoryStore.write_adds wrote there added
      have storable := carries.storable
      simp only [MemoryStore.WriteArguments.storable, Api.writeArguments, Bool.and_eq_true]
        at storable
      subst subject named
      refine ⟨?_, payload.subjectId.property, payload.namespaceName.property,
        isUnicode_of_storableText storable.1.1.1.2, isUnicode_of_storableText storable.1.1.2,
        enforceOne_of_enforceScope inScope⟩
      rw [MemoryItem.scope, carries.tenantId, carries.subjectId, carries.namespaceName]
      rfl
  | @summarized embedding before created later now fresh runId request payload answer db item
      authenticated body subject named reached submitted accepted state sound continued member =>
    obtain ⟨db₁, db₂, other, payload', started, ended, whole⟩ :=
      accepted_of_createRun submitted accepted
    cases started
    cases ended
    obtain rfl := Except.ok.inj (authenticated.symm.trans whole.authenticated)
    obtain rfl := Except.ok.inj (body.symm.trans whole.validated)
    subst subject named
    obtain ⟨enqueued, performed⟩ := whole.enqueued
    have storable := (stored_of_enqueue performed).1
    simp only [EnqueueArguments.storable, enqueueArguments, Bool.and_eq_true] at storable
    exact ⟨scope_of_summary (Delivery.sound_of_reachable reached).queue.linked whole state sound
        continued member, payload.subjectId_length, payload.namespaceName_length,
      isUnicode_of_storableText storable.1.1.1.1.1.1.1.2,
      isUnicode_of_storableText storable.1.1.1.1.1.1.2, enforceOne_of_enforceScope whole.inScope⟩

/-- A search request of the principal for these strings, valid otherwise. -/
structure SearchesFor (lib : StandardLibrary) (settings : Settings)
    (validation : ValidationLibrary) (principal : Principal) (subjectId namespaceName : Str)
    (request : SearchRequest) : Prop where
  authenticated : authenticate lib request.headers settings.apiKeys = .ok principal
  subjectId : request.queryParams.lookup (lit "subject_id") = some subjectId
  namespaceName : request.queryParams.lookup (lit "namespace") = some namespaceName
  tenantId : enforceScope principal (tenantParameter request.queryParams) none = .ok ()
  q : ∃ q, queryParameter validation request.queryParams = .ok q
  limit : ∃ limit, limitParameter validation request.queryParams = .ok limit

/-- The search is accepted and looks in the scope. -/
def LooksIn (lib : StandardLibrary) (settings : Settings) (validation : ValidationLibrary)
    (fresh : Str) (principal : Principal) (request : SearchRequest) (scope : MemoryScope) : Prop :=
  ∃ search, Api.searchGate lib settings fresh validation request = .ok (.ok (principal, search)) ∧
    (Api.searchArguments principal search).scope = scope

end Stored

/-! ## Where an accepted search looks -/

section Accepted

variable {lib : StandardLibrary} {settings : Settings} {validation : ValidationLibrary}
  {principal : Principal} {values : List (Str × Str)} {search : MemorySearchParams}

/-- The parameter is left out, or is given without anything to trim. -/
def TrimmedParameter (validation : ValidationLibrary) (values : List (Str × Str))
    (name : String) : Prop :=
  ∀ value, values.lookup (lit name) = some value → Trimmed validation value

/-- A search looks under the subject it names when that is trimmed. -/
theorem subject_iff (accepted : subjectParameter validation values = .ok search.subjectId) :
    (search.subjectId : Str) = (values.lookup (lit "subject_id")).getD [] ↔
      TrimmedParameter validation values "subject_id" := by
  cases given : values.lookup (lit "subject_id") with
  | none =>
    rw [subjectParameter, constrainedText, given] at accepted
    cases accepted
  | some value =>
    obtain ⟨trimmed, -⟩ := (constrainedText_ok_iff given _).mp accepted
    simp only [Option.getD_some, ← trimmed, trim_eq_self_iff, TrimmedParameter, given,
      Option.some.injEq, forall_eq']

/-- A search looks under the namespace it names when that is trimmed; the default one
is not trimmed at all. -/
theorem namespace_iff (accepted : namespaceParameter validation values = .ok search.namespaceName) :
    (search.namespaceName : Str) = (values.lookup (lit "namespace")).getD (lit "default") ↔
      TrimmedParameter validation values "namespace" := by
  cases given : values.lookup (lit "namespace") with
  | none =>
    rw [namespaceParameter, constrainedText, given] at accepted
    rw [← Except.ok.inj accepted]
    simp [TrimmedParameter, given]
  | some value =>
    obtain ⟨trimmed, -⟩ := (constrainedText_ok_iff given _).mp accepted
    simp only [Option.getD_some, ← trimmed, trim_eq_self_iff, TrimmedParameter, given,
      Option.some.injEq, forall_eq']

/-- A tenant that passes the scope check is the principal's. -/
theorem tenant_of_accepted (accepted : tenantParameter values = search.tenantId)
    (inScope : enforceScope principal search.tenantId (some search.subjectId) = .ok ()) :
    (values.lookup (lit "tenant_id")).getD principal.tenantId = principal.tenantId := by
  cases given : values.lookup (lit "tenant_id") with
  | none => rfl
  | some value =>
    have same : search.tenantId = some value := accepted.symm.trans given
    exact (matches_of_enforceScope inScope).1 value same _ rfl

/-- An accepted search looks in the scope it names if and only if there is nothing to
trim. -/
theorem scope_of_accepted_iff
    (valid : memorySearchParams validation values = .ok search)
    (inScope : enforceScope principal search.tenantId (some search.subjectId) = .ok ()) :
    (Api.searchArguments principal search).scope = namedScope principal values ↔
      TrimmedParameter validation values "subject_id" ∧
        TrimmedParameter validation values "namespace" := by
  obtain ⟨tenant, subject, named, -, -⟩ := (memorySearchParams_ok_iff search).mp valid
  rw [← subject_iff subject, ← namespace_iff named, namedScope, tenant_of_accepted tenant inScope]
  simp [SearchArguments.scope, Api.searchArguments]

end Accepted

/-! ## Searches for the strings of a stored memory -/

section Found

variable {lib : StandardLibrary} {settings : Settings} {validation : ValidationLibrary}
  {principal : Principal} {subjectId namespaceName fresh : Str} {request : SearchRequest}

/-- A search for an admitted subject and namespace passes the scope check. -/
theorem SearchesFor.inScope
    (searches : SearchesFor lib settings validation principal subjectId namespaceName request)
    (admitted : Admitted principal subjectId namespaceName) :
    enforceScope principal (tenantParameter request.queryParams) (some subjectId) = .ok () := by
  have tenantPasses := searches.tenantId
  rw [enforceScope_eq] at tenantPasses ⊢
  cases checked : enforceOne (tenantParameter request.queryParams) (some principal.tenantId)
      "tenant_mismatch" with
  | error fault =>
    rw [checked] at tenantPasses
    cases tenantPasses
  | ok passed => exact admitted.inScope

/-- From a mapping, an admitted subject and namespace without anything to trim are
searched as they are. -/
theorem SearchesFor.looksIn
    (searches : SearchesFor lib settings validation principal subjectId namespaceName request)
    (admitted : Admitted principal subjectId namespaceName)
    (mapping : validation.isMapping = true) (subject : Trimmed validation subjectId)
    (named : Trimmed validation namespaceName) :
    LooksIn lib settings validation fresh principal request
      ⟨principal.tenantId, subjectId, namespaceName⟩ := by
  obtain ⟨q, query⟩ := searches.q
  obtain ⟨limit, limited⟩ := searches.limit
  have read : memorySearchParams validation request.queryParams =
      .ok ⟨tenantParameter request.queryParams, ⟨subjectId, admitted.subject_length⟩,
        ⟨namespaceName, admitted.namespace_length⟩, q, limit⟩ := by
    refine (memorySearchParams_ok_iff _).mpr ⟨rfl, ?_, ?_, query, limited⟩
    · exact (constrainedText_ok_iff searches.subjectId _).mpr
        ⟨(trim_eq_self_iff _ _).mpr subject, admitted.subject_unicode⟩
    · exact (constrainedText_ok_iff searches.namespaceName _).mpr
        ⟨(trim_eq_self_iff _ _).mpr named, admitted.namespace_unicode⟩
  exact ⟨_, Api.searchGate_ok_iff.mpr
    ⟨searches.authenticated, mapping, read, searches.inScope admitted⟩, rfl⟩

/-- A search that looks under its own strings was given in a mapping, with nothing to
trim. -/
theorem SearchesFor.trimmed
    (searches : SearchesFor lib settings validation principal subjectId namespaceName request)
    (looks : LooksIn lib settings validation fresh principal request
      ⟨principal.tenantId, subjectId, namespaceName⟩) :
    validation.isMapping = true ∧ Trimmed validation subjectId ∧
      Trimmed validation namespaceName := by
  obtain ⟨search, passed, scope⟩ := looks
  obtain ⟨-, mapping, valid, inScope⟩ := Api.searchGate_ok_iff.mp passed
  obtain ⟨tenant, -⟩ := (memorySearchParams_ok_iff search).mp valid
  have own : namedScope principal request.queryParams =
      ⟨principal.tenantId, subjectId, namespaceName⟩ := by
    simp only [namedScope, tenant_of_accepted tenant inScope, searches.subjectId,
      searches.namespaceName, Option.getD_some]
  obtain ⟨subject, named⟩ := (scope_of_accepted_iff valid inScope).mp (scope.trans own.symm)
  exact ⟨mapping, subject subjectId searches.subjectId,
    named namespaceName searches.namespaceName⟩

end Found

/-- A search for the strings of a stored memory is accepted and looks where the memory
is if and only if its parameters are a mapping and both strings are trimmed. An
accepted search looks in the scope it names if and only if what it gives of subject
and namespace is trimmed. -/
theorem search_scope_iff (lib : StandardLibrary) (settings : Settings)
    (validation : ValidationLibrary) (principal : Principal) :
    (∀ subjectId namespaceName item,
      Stored lib settings principal subjectId namespaceName item → ∀ fresh request,
        SearchesFor lib settings validation principal subjectId namespaceName request →
          (LooksIn lib settings validation fresh principal request item.scope ↔
            validation.isMapping = true ∧ Trimmed validation subjectId ∧
              Trimmed validation namespaceName)) ∧
    ∀ fresh request search,
      Api.searchGate lib settings fresh validation request = .ok (.ok (principal, search)) →
        ((Api.searchArguments principal search).scope =
            namedScope principal request.queryParams ↔
          TrimmedParameter validation request.queryParams "subject_id" ∧
            TrimmedParameter validation request.queryParams "namespace") := by
  constructor
  · intro subjectId namespaceName item stored fresh request searches
    obtain ⟨placed, admitted⟩ := stored.spec
    rw [placed]
    constructor
    · exact searches.trimmed
    · rintro ⟨mapping, subject, named⟩
      exact searches.looksIn admitted mapping subject named
  · intro fresh request search passed
    obtain ⟨-, -, valid, inScope⟩ := Api.searchGate_ok_iff.mp passed
    exact scope_of_accepted_iff valid inScope

/-! ## Two stored memories -/

/-- A deployment whose embeddings are all the same, of this dimension. -/
def flatBackend (dimension : Nat) : MemoryBackend where
  provider := fun _ => .ok [List.replicate dimension (.finite 1)]
  distance := fun _ _ => 0
  hits := fun _ _ => false
  textRank := fun _ _ => 0
  toReal := id
  timestamptz := fun _ => none

def smallBackend : MemoryBackend := flatBackend 8

theorem user_bounded : 1 ≤ (lit "user").length ∧ (lit "user").length ≤ 256 := by
  decide

/-- A fact about a subject. -/
def smallFact (subjectId : BoundedText 256) : WriteMemory where
  tenantId := none
  subjectId := subjectId
  namespaceName := ⟨lit "default", default_bounded⟩
  kind := .fact
  content := ⟨lit "1 2", by decide⟩
  metadata := []
  importance := .finite (1 / 2)
  expiresAt := none
  importance_bounds := by
    rintro value same
    cases same
    decide +kernel

def smallWrite (subjectId : BoundedText 256) : WriteRequest where
  headers := [(lit "Authorization", lit "Bearer secret")]
  body := .ok (smallFact subjectId)

/-- The principal of the small deployment's key. -/
def smallPrincipal : Principal := ⟨lit "acme", none, lit "client"⟩

/-- The memories in the small deployment's empty store after the request. -/
def smallMemories (subjectId : BoundedText 256) : Option (List MemoryRow) :=
  ((Api.writeMemory smallLibrary smallSettings [] smallBackend (lit "m") (smallWrite subjectId)
    (some Table.empty)).toOption.bind Prod.snd).map Table.rows

/-- The small deployment stores it. -/
theorem stored_small {subjectId : BoundedText 256} {row : MemoryRow}
    (there : smallMemories subjectId = some [row]) :
    Stored smallLibrary smallSettings smallPrincipal subjectId (lit "default")
      row.toMemoryItem := by
  obtain ⟨table, stored, rows⟩ := Option.map_eq_some_iff.mp there
  obtain ⟨⟨answer, store⟩, wrote, rfl⟩ := Option.bind_eq_some_iff.mp stored
  have authenticated : authenticate smallLibrary (smallWrite subjectId).headers
      smallSettings.apiKeys = .ok smallPrincipal := by rfl
  exact .written authenticated rfl rfl rfl (toOption_eq_some.mp wrote)
    (rows ▸ List.mem_singleton_self row) List.not_mem_nil

/-- A search with the key of the small deployment. -/
def smallSearch (subjectId namespaceName : Str) : SearchRequest where
  headers := [(lit "Authorization", lit "Bearer secret")]
  queryParams := [(lit "subject_id", subjectId), (lit "namespace", namespaceName),
    (lit "q", lit "a")]

/-- The small deployment is sent a search for these strings. -/
theorem searchesFor_small (isMapping : Bool) (subjectId namespaceName : Str) :
    SearchesFor smallLibrary smallSettings { smallValidation with isMapping } smallPrincipal
      subjectId namespaceName (smallSearch subjectId namespaceName) := by
  exact ⟨rfl, rfl, rfl, rfl, ⟨⟨lit "a", by decide⟩, rfl⟩, ⟨_, rfl⟩⟩

/-- A memory about an ordinary subject is searched for where it is. -/
theorem search_scope_small : ∃ row, smallMemories ⟨lit "user", by decide⟩ = some [row] ∧
    LooksIn smallLibrary smallSettings smallValidation [] smallPrincipal
      (smallSearch (lit "user") (lit "default")) row.toMemoryItem.scope := by
  have one : (smallMemories ⟨lit "user", by decide⟩).map List.length = some 1 := by
    decide +kernel
  obtain ⟨rows, there, single⟩ := Option.map_eq_some_iff.mp one
  obtain ⟨row, rfl⟩ := List.length_eq_one_iff.mp single
  have trimmed :
      Trimmed smallValidation (lit "user") ∧ Trimmed smallValidation (lit "default") := by
    simp only [← trim_eq_self_iff]
    decide
  exact ⟨row, there, ((search_scope_iff _ _ _ _).1 _ _ _ (stored_small there) [] _
    (searchesFor_small true _ _)).mpr ⟨rfl, trimmed⟩⟩

/-- Every search for the strings of a stored memory is accepted and looks where the
memory is. -/
def SearchedWhereStored (lib : StandardLibrary) (settings : Settings)
    (validation : ValidationLibrary) : Prop :=
  ∀ principal subjectId namespaceName item,
    Stored lib settings principal subjectId namespaceName item → ∀ fresh request,
      SearchesFor lib settings validation principal subjectId namespaceName request →
        LooksIn lib settings validation fresh principal request item.scope

/-- A memory about the subject ` user` is stored, and a search for this subject does
not look for it, whether or not the validator takes its parameters for a mapping. -/
theorem spaced_subject_lost :
    ¬ SearchedWhereStored smallLibrary smallSettings { smallValidation with isMapping := true } ∧
      ¬ SearchedWhereStored smallLibrary smallSettings
        { smallValidation with isMapping := false } := by
  have one : (smallMemories ⟨lit " user", by decide⟩).map List.length = some 1 := by
    decide +kernel
  obtain ⟨rows, there, single⟩ := Option.map_eq_some_iff.mp one
  obtain ⟨row, rfl⟩ := List.length_eq_one_iff.mp single
  have stored := stored_small there
  constructor
  · intro always
    have searches := searchesFor_small true (lit " user") (lit "default")
    have looks := always _ _ _ _ stored [] _ searches
    rw [stored.spec.1] at looks
    obtain ⟨-, trimmed, -⟩ := searches.trimmed looks
    rw [← trim_eq_self_iff] at trimmed
    exact absurd trimmed (by decide)
  · intro always
    have searches := searchesFor_small false (lit " user") (lit "default")
    have looks := always _ _ _ _ stored [] _ searches
    rw [stored.spec.1] at looks
    obtain ⟨mapping, -⟩ := searches.trimmed looks
    cases mapping

end RlmApi
