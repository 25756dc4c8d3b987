import RlmApi.SearchScope

/-!
# Credentials that are bound to a subject

A credential object may name a `subject_id`, and its key is then meant for that
subject alone. `Confined` is what this promises of the four handlers: whatever they
create, return or search for on behalf of the key is the subject's.

The key file's reader keeps a `subject_id` only if it is a JSON string. Every other
value is dropped, and a credential without a subject is valid for all of them: its key
can write a memory about any subject. It cannot only where its tenant is no text that
PostgreSQL stores, and then its searches still pass, if the validator can read them.
-/

namespace RlmApi

open RunStore

/-- Everything that requests with a token create, return or search for belongs to an
allowed subject. -/
structure Confined (lib : StandardLibrary) (settings : Settings) (validation : ValidationLibrary)
    (token : Str) (allowed : Str → Prop) : Prop where
  creates : ∀ {now fresh runId request db answer db'}, Supplies lib request.headers token →
    createRun lib settings now fresh runId request (some db) = .ok (answer, some db') →
    ∀ row ∈ db'.table.rows, row ∉ db.table.rows → allowed row.subjectId
  returns : ∀ {fresh reading request db answer}, Supplies lib request.headers token →
    Api.getRun lib settings fresh reading request (some db) = .ok answer →
    answer.statusCode = 200 → ∃ row ∈ db.table.rows, ∃ run, runObject reading row = .ok run ∧
      answer.body = .obj run ∧ allowed row.subjectId
  writes : ∀ {fresh backend memoryId request table answer table'},
    Supplies lib request.headers token →
    Api.writeMemory lib settings fresh backend memoryId request (some table) =
      .ok (answer, some table') →
    ∀ row ∈ table'.rows, row ∉ table.rows → allowed row.subjectId
  searches : ∀ {fresh request principal search}, Supplies lib request.headers token →
    Api.searchGate lib settings fresh validation request = .ok (.ok (principal, search)) →
    allowed (Api.searchArguments principal search).subjectId ∧
      ∀ backend now embedding table,
        ∀ result ∈ searchMemories backend now (Api.searchArguments principal search) embedding
          table, allowed result.1.subjectId

/-- The subject that a member `subject_id` names. -/
def Names (subject : Json) (text : Str) : Prop := ∃ raw, subject = .str raw ∧ text = strip raw

section Binding

variable {lib : StandardLibrary} {settings : Settings} {validation : ValidationLibrary}
  {raw token : Str} {credential : Credential}

/-- Every principal the token authenticates is bound to an allowed subject. -/
def Bound (lib : StandardLibrary) (settings : Settings) (token : Str) (allowed : Str → Prop) :
    Prop :=
  ∀ headers principal, Supplies lib headers token →
    authenticate lib headers settings.apiKeys = .ok principal →
    ∃ own, principal.subjectId = some own ∧ allowed own

/-- What passes the scope check of a bound principal names an allowed subject. -/
theorem Bound.allows {allowed : Str → Prop} (bound : Bound lib settings token allowed)
    {headers : Headers} {principal : Principal} {tenantId : Option Str} {subject : Str}
    (supplies : Supplies lib headers token)
    (authenticated : authenticate lib headers settings.apiKeys = .ok principal)
    (inScope : enforceScope principal tenantId (some subject) = .ok ()) : allowed subject := by
  obtain ⟨own, isOwn, allows⟩ := bound headers principal supplies authenticated
  have same : subject = own := (matches_of_enforceScope inScope).2 subject rfl own isOwn
  exact same ▸ allows

/-- A token whose principals are bound is confined. -/
theorem Bound.confined {allowed : Str → Prop} (bound : Bound lib settings token allowed) :
    Confined lib settings validation token allowed := by
  constructor
  · intro now fresh runId request db answer db' supplies created row there added
    obtain same | ⟨_, _, principal, payload, enqueued, stored, stored', authenticated, inScope,
        performed⟩ := createRun_stored created
    · cases same
      exact absurd there added
    · cases stored
      cases stored'
      obtain ⟨-, unused, table, -⟩ := stored_of_enqueue performed
      rw [table] at there
      rcases (Table.mem_put_fresh unused).mp there with old | rfl
      · exact absurd old added
      · exact bound.allows supplies authenticated inScope
  · intro fresh reading request db answer supplies read found
    obtain ⟨_, principal, run, stored, authenticated, fetched, inScope, body⟩ :=
      Api.getRun_found read found
    cases stored
    obtain ⟨id, row, -, -, selected, -, built⟩ := get_eq_some_iff.mp fetched
    have subject : Api.getRun.subjectMember run = row.subjectId := by
      simp only [Api.getRun.subjectMember, (runObject_ok built).2.2]
    rw [subject] at inScope
    exact ⟨row, Table.find?_mem selected, run, built, body,
      bound.allows supplies authenticated inScope⟩
  · intro fresh backend memoryId request table answer table' supplies written row there added
    obtain same | ⟨_, _, principal, payload, id, stored, stored', passed, wrote⟩ :=
      Api.writeMemory_stored written
    · cases same
      exact absurd there added
    · cases stored
      cases stored'
      obtain ⟨authenticated, -, inScope⟩ := gated_ok_iff.mp passed
      rw [(MemoryStore.write_adds wrote there added).subjectId]
      exact bound.allows supplies authenticated inScope
  · intro fresh request principal search supplies passed
    obtain ⟨authenticated, -, -, inScope⟩ := Api.searchGate_ok_iff.mp passed
    have named : allowed (Api.searchArguments principal search).subjectId :=
      bound.allows supplies authenticated inScope
    refine ⟨named, fun backend now embedding table result member => ?_⟩
    rw [inScope_subject (mem_searchMemories member).2]
    exact named

/-- A token is confined when every principal's tenant is refused by PostgreSQL and no
search gets past the validator. -/
theorem confined_of_unstorable {allowed : Str → Prop}
    (refused : ∀ headers principal, Supplies lib headers token →
      authenticate lib headers settings.apiKeys = .ok principal →
      storableText principal.tenantId = false)
    (unread : validation.isMapping = false) :
    Confined lib settings validation token allowed := by
  constructor
  · intro now fresh runId request db answer db' supplies created row there added
    obtain same | ⟨_, _, principal, payload, enqueued, stored, stored', authenticated, inScope,
        performed⟩ := createRun_stored created
    · cases same
      exact absurd there added
    · have storable := (stored_of_enqueue performed).1
      simp only [EnqueueArguments.storable, enqueueArguments, refused _ _ supplies authenticated,
        Bool.false_and, Bool.false_eq_true] at storable
  · intro fresh reading request db answer supplies read found
    obtain ⟨_, principal, run, stored, authenticated, fetched, -⟩ := Api.getRun_found read found
    obtain ⟨id, row, -, storable, -⟩ := get_eq_some_iff.mp fetched
    rw [refused _ _ supplies authenticated] at storable
    cases storable
  · intro fresh backend memoryId request table answer table' supplies written row there added
    obtain same | ⟨_, _, principal, payload, id, stored, stored', passed, wrote⟩ :=
      Api.writeMemory_stored written
    · cases same
      exact absurd there added
    · cases stored
      cases stored'
      obtain ⟨authenticated, -⟩ := gated_ok_iff.mp passed
      have storable := (MemoryStore.write_adds wrote there added).storable
      simp only [MemoryStore.WriteArguments.storable, Api.writeArguments,
        refused _ _ supplies authenticated, Bool.false_and, Bool.false_eq_true] at storable
  · intro fresh request principal search supplies passed
    obtain ⟨-, mapping, -⟩ := Api.searchGate_ok_iff.mp passed
    rw [unread] at mapping
    cases mapping

/-! ## Requests that a key can always send -/

/-- The headers of a client that sends the token. -/
def bearerHeaders (token : Str) : Headers :=
  [(lit "authorization", lit "bearer" ++ codePoint 32 :: token)]

/-- They supply the token. -/
theorem supplies_bearerHeaders (header : lib.lower (lit "authorization") = lit "authorization")
    (scheme : lib.lower (lit "bearer") = lit "bearer") (trimmed : strip token = token) :
    Supplies lib (bearerHeaders token) token := by
  refine ⟨(lit "authorization", lit "bearer" ++ codePoint 32 :: token), lit "bearer", token, ?_,
    rfl, by decide, scheme, trimmed⟩
  simp [bearerHeaders, header]

/-- They authenticate as the token's credential. -/
theorem authenticate_bearerHeaders (parsed : Config.parseApiKeys lib raw = .ok settings.apiKeys)
    (member : (token, credential) ∈ settings.apiKeys)
    (comparable : ∀ entry ∈ settings.apiKeys, Comparable token entry.1)
    (supplies : Supplies lib (bearerHeaders token) token) :
    authenticate lib (bearerHeaders token) settings.apiKeys = .ok credential.principal := by
  obtain ⟨fields, -, entry, -, computed⟩ := Config.entry_of_parseApiKeys parsed member
  obtain ⟨-, blank, -⟩ := Config.keyEntry_ok computed
  have found : supplied lib (bearerHeaders token) = some token := (supplies_iff blank).mp supplies
  have decided : TokenComparable lib settings.apiKeys (bearerHeaders token) := by
    intro other same
    obtain rfl := Option.some.inj (found.symm.trans same)
    exact comparable
  exact (((authenticatesExactly_iff parsed _).mpr decided).1 _).mpr ⟨_, member, supplies, rfl⟩

/-- A principal without a subject is in the scope of its own tenant. -/
theorem enforceScope_unbound (unbound : credential.subjectId = none) (subject : Str) :
    enforceScope credential.principal none (some subject) = .ok () := by
  obtain ⟨tenantId, subjectId, role⟩ := credential
  cases unbound
  rw [enforceScope_eq]
  rfl

/-- A memory about the subject `a`. -/
def writeAboutA (token : Str) : WriteRequest where
  headers := bearerHeaders token
  body := .ok (smallFact ⟨lit "a", by decide⟩)

/-- A search for the subject `a`. -/
def searchForA (token : Str) : SearchRequest where
  headers := bearerHeaders token
  queryParams := [(lit "subject_id", lit "a"), (lit "q", lit "a")]

/-- Embeddings of ones are a `vector` parameter. -/
theorem vectorParameter_ones (dimension : Nat) :
    ∃ components, MemoryStore.vectorParameter (List.replicate dimension (.finite 1)) =
      .ok components := by
  have read : (List.replicate dimension (PyFloat.finite 1)).mapM PyFloat.rational? =
      some (List.replicate dimension 1) := by
    induction dimension with
    | zero => rfl
    | succ dimension inductionHypothesis =>
      simp [List.replicate_succ, PyFloat.rational?, inductionHypothesis]
  have fits : (List.replicate dimension (1 : ℚ)).all MemoryStore.fitsFloat4 = true := by
    have one : MemoryStore.fitsFloat4 1 = true := by rfl
    simp [one]
  refine ⟨List.replicate dimension 1, ?_⟩
  simp only [MemoryStore.vectorParameter, read, fits, if_true]

/-- An empty store with flat embeddings takes an ordinary memory. -/
theorem write_flat {dimension : Int} (positive : 0 < dimension) (memoryId : Str)
    {arguments : MemoryStore.WriteArguments} (direct : arguments.sourceRunId = none)
    (lasting : arguments.expiresAt = none) (half : arguments.importance = .finite (1 / 2))
    (storable : arguments.storable = true) :
    ∃ table row, MemoryStore.write (flatBackend dimension.toNat) dimension memoryId arguments
        Table.empty = .ok (memoryId, table) ∧ row ∈ table.rows ∧
      row.subjectId = arguments.subjectId := by
  have length : ((dimension.toNat : Nat) : Int) = dimension := Int.toNat_of_nonneg positive.le
  obtain ⟨components, ones⟩ := vectorParameter_ones dimension.toNat
  have embedding : MemoryStore.embedded (flatBackend dimension.toNat) dimension
      arguments.content = .ok components := by
    simp [MemoryStore.embedded, MemoryStore.embed, flatBackend, length, ones, bind, Except.bind,
      pure, Except.pure]
  have importance : MemoryStore.storedImportance (flatBackend dimension.toNat)
      arguments.importance = .ok (1 / 2) := by
    have bounds : (0 : ℚ) ≤ 1 / 2 ∧ (1 / 2 : ℚ) ≤ 1 := by decide +kernel
    rw [half]
    exact if_pos bounds
  have inserted : MemoryStore.insertion (flatBackend dimension.toNat) dimension memoryId
      arguments = .ok (MemoryStore.proposed memoryId arguments components (1 / 2) none) := by
    simp [MemoryStore.insertion, embedding, MemoryStore.storedExpiry, lasting, importance,
      storable, bind, Except.bind, pure, Except.pure]
  refine ⟨Table.empty.put (MemoryStore.proposed memoryId arguments components (1 / 2) none), _,
    ?_, (Table.mem_put_fresh rfl).mpr (Or.inr rfl), rfl⟩
  have fresh : MemoryStore.conflicting (MemoryStore.proposed memoryId arguments components
      (1 / 2) none) Table.empty = none := rfl
  have unused : (Table.empty : MemoryTable).find? memoryId = none := rfl
  simp only [MemoryStore.write, direct, Option.isSome_none, Bool.false_and, Bool.false_eq_true,
    ↓reduceIte, inserted, fresh, unused]

/-- A credential without a subject lets its key write about any. -/
theorem writes_of_unbound
    (authenticated : authenticate lib (bearerHeaders token) settings.apiKeys =
      .ok credential.principal)
    (unbound : credential.subjectId = none) (storable : storableText credential.tenantId = true)
    (dimension : 0 < settings.embeddingDim) :
    ∃ answer table', Api.writeMemory lib settings [] (flatBackend settings.embeddingDim.toNat)
        (lit "m") (writeAboutA token) (some Table.empty) = .ok (answer, some table') ∧
      ∃ row ∈ table'.rows, row.subjectId = lit "a" := by
  have passed : Api.writeGate lib settings [] (writeAboutA token) =
      .ok (.ok (credential.principal, smallFact ⟨lit "a", by decide⟩)) := by
    rw [Api.writeGate, gated_ok_iff]
    exact ⟨authenticated, rfl, enforceScope_unbound unbound (lit "a")⟩
  have fits : (Api.writeArguments credential.principal
      (smallFact ⟨lit "a", by decide⟩)).storable = true := by
    have texts : storableText credential.principal.tenantId = true := storable
    simp only [MemoryStore.WriteArguments.storable, Api.writeArguments, texts]
    decide
  obtain ⟨table, row, wrote, there, subject⟩ := write_flat dimension (lit "m") rfl rfl rfl fits
  have answered : ∃ answer, Api.writeMemory lib settings []
      (flatBackend settings.embeddingDim.toNat) (lit "m") (writeAboutA token) (some Table.empty) =
        .ok (answer, some table) := by
    simp only [Api.writeMemory, passed, wrote]
    exact ⟨_, rfl⟩
  obtain ⟨answer, written⟩ := answered
  exact ⟨answer, table, written, row, there, subject⟩

/-- Where its parameters are a mapping, the validator accepts the search. -/
theorem memorySearchParams_searchForA (token : Str)
    (visible : validation.isWhitespace (codePoint 97) = false) :
    ∃ search, memorySearchParams validation (searchForA token).queryParams = .ok search ∧
      search.tenantId = none := by
  have trimmed : validation.trim (lit "a") = lit "a" := by
    have single : lit "a" = [codePoint 97] := rfl
    simp [ValidationLibrary.trim, single, visible, List.rdropWhile]
  refine ⟨⟨none, ⟨lit "a", by decide⟩, ⟨lit "default", by decide⟩, ⟨lit "a", by decide⟩,
    ⟨8, by decide⟩⟩, ?_, rfl⟩
  rw [memorySearchParams_ok_iff]
  refine ⟨rfl, ?_, rfl, ?_, rfl⟩
  · exact (constrainedText_ok_iff (show _ = some (lit "a") from rfl) _).mpr ⟨trimmed, by decide⟩
  · exact (constrainedText_ok_iff (show _ = some (lit "a") from rfl) _).mpr ⟨trimmed, by decide⟩

/-- A credential without a subject lets its key search for any. -/
theorem searches_of_unbound
    (authenticated : authenticate lib (bearerHeaders token) settings.apiKeys =
      .ok credential.principal)
    (unbound : credential.subjectId = none) (mapping : validation.isMapping = true)
    (visible : validation.isWhitespace (codePoint 97) = false) :
    ∃ principal search,
      Api.searchGate lib settings [] validation (searchForA token) =
        .ok (.ok (principal, search)) := by
  obtain ⟨search, valid, tenant⟩ := memorySearchParams_searchForA token visible
  refine ⟨credential.principal, search, Api.searchGate_ok_iff.mpr
    ⟨authenticated, mapping, valid, ?_⟩⟩
  rw [tenant]
  exact enforceScope_unbound unbound _

/-! ## Which credentials confine -/

/-- The credential object names a tenant that PostgreSQL refuses as a text. -/
def UnstorableTenant (fields : List (Str × Json)) : Prop :=
  ∃ tenant, fields.lookup (lit "tenant_id") = some (.str tenant) ∧
    storableText (strip tenant) = false

/-- The tenant that a credential object names. -/
theorem storable_tenant_iff {fields : List (Str × Json)}
    (read : Config.credential (.obj fields) = .ok credential)
    (nonempty : credential.tenantId.isEmpty = false) :
    storableText credential.tenantId = false ↔ UnstorableTenant fields := by
  simp only [Config.credential, Except.ok.injEq] at read
  subst read
  cases given : fields.lookup (lit "tenant_id") with
  | none => simp [given] at nonempty
  | some value =>
    cases value with
    | str tenant => simp [UnstorableTenant, given, Config.stripped?]
    | null | bool | int | float | arr | obj => simp [given, Config.stripped?] at nonempty

/-- A key that authenticates without a subject is not confined, unless PostgreSQL
refuses its tenant and the validator its searches. -/
theorem not_confined_of_unbound {subject : Json} (other : ¬ ∃ text, subject = .str text)
    (supplies : Supplies lib (bearerHeaders token) token)
    (authenticated : authenticate lib (bearerHeaders token) settings.apiKeys =
      .ok credential.principal)
    (unbound : credential.subjectId = none) (dimension : 0 < settings.embeddingDim)
    (visible : validation.isWhitespace (codePoint 97) = false)
    (confined : Confined lib settings validation token (Names subject)) :
    validation.isMapping = false ∧ storableText credential.tenantId = false := by
  constructor
  · by_contra read
    obtain ⟨principal, search, passed⟩ :=
      searches_of_unbound authenticated unbound (Bool.not_eq_false _ ▸ read) visible
    obtain ⟨text, same, -⟩ := (confined.searches supplies passed).1
    exact other ⟨text, same⟩
  · by_contra storable
    obtain ⟨answer, table', wrote, row, there, -⟩ :=
      writes_of_unbound authenticated unbound (Bool.not_eq_false _ ▸ storable) dimension
    obtain ⟨text, same, -⟩ := confined.writes supplies wrote row there List.not_mem_nil
    exact other ⟨text, same⟩

/-- The key of a credential object with a `subject_id` is confined to the subject it
names if and only if the member is a string, or no request authenticates with the key
because it cannot be compared with every configured one, or none of its requests gets
to a row: PostgreSQL refuses the tenant, and the validator every search. -/
theorem confined_iff {entries fields : List (Str × Json)} {subject : Json}
    (parsed : Config.parseApiKeys lib raw = .ok settings.apiKeys)
    (loaded : lib.loads raw = some (.obj entries)) (distinct : (entries.map Prod.fst).Nodup)
    (member : (token, Json.obj fields) ∈ entries)
    (named : fields.lookup (lit "subject_id") = some subject)
    (header : lib.lower (lit "authorization") = lit "authorization")
    (scheme : lib.lower (lit "bearer") = lit "bearer")
    (dimension : 0 < settings.embeddingDim)
    (visible : validation.isWhitespace (codePoint 97) = false) :
    Confined lib settings validation token (Names subject) ↔
      (∃ text, subject = .str text) ∨
        (¬ ∀ entry ∈ settings.apiKeys, Comparable token entry.1) ∨
        validation.isMapping = false ∧ UnstorableTenant fields := by
  obtain ⟨keys, -⟩ := Config.keys_of_parseApiKeys parsed
  obtain ⟨⟨key, credential⟩, listed, computed⟩ :=
    Config.credential_of_parseApiKeys parsed loaded distinct member
  obtain ⟨same, blank, trimmed, read, nonempty⟩ := Config.keyEntry_ok computed
  have isToken : token = key := same.symm
  subst isToken
  have bound : credential.subjectId = Config.stripped? subject := by
    cases read
    simp [named]
  have supplies := supplies_bearerHeaders header scheme trimmed
  rw [← storable_tenant_iff read nonempty]
  constructor
  · intro confined
    by_contra neither
    obtain ⟨other, comparable, exposed⟩ := by simpa only [not_or, not_not] using neither
    have unbound : credential.subjectId = none := by
      rw [bound]
      cases subject with
      | str text => exact absurd ⟨text, rfl⟩ other
      | null | bool | int | float | arr | obj => rfl
    have authenticated := authenticate_bearerHeaders parsed listed comparable supplies
    exact exposed (not_confined_of_unbound other supplies authenticated unbound dimension visible
      confined)
  · have owned : ∀ headers principal, Supplies lib headers token →
        authenticate lib headers settings.apiKeys = .ok principal →
        principal = credential.principal := by
      intro headers principal supplied authenticated
      exact principal_of_supplied ((supplies_iff blank).mp supplied) keys listed authenticated
    rintro (⟨text, rfl⟩ | incomparable | ⟨unread, refused⟩)
    · refine Bound.confined (fun headers principal supplied authenticated => ?_)
      obtain rfl := owned headers principal supplied authenticated
      exact ⟨strip text, bound, text, rfl, rfl⟩
    · refine Bound.confined (fun headers principal supplied authenticated => ?_)
      have comparable := comparable_of_authenticate ((supplies_iff blank).mp supplied) authenticated
      exact absurd comparable incomparable
    · refine confined_of_unstorable (fun headers principal supplied authenticated => ?_) unread
      obtain rfl := owned headers principal supplied authenticated
      exact refused

end Binding

/-! ## Two key files -/

/-- The text of a key file with one credential object. -/
def keyFileText (subject : String) : Str :=
  lit ("\x7b\"secret\": \x7b\"tenant_id\": \"acme\", \"subject_id\": " ++ subject ++ "\x7d\x7d")

/-- What is read from it. -/
def keyFile (subject : Json) : List (Str × Json) :=
  [(lit "secret", .obj (jsonFields [("tenant_id", .str (lit "acme")), ("subject_id", subject)]))]

/-- The parsers on ASCII input and this key file. -/
def keyFileLibrary (text : String) (subject : Json) : StandardLibrary :=
  { smallLibrary with
    loads := fun raw => if raw = keyFileText text then some (.obj (keyFile subject)) else none }

/-- The small deployment with its key bound to a subject, or to none. -/
def keyFileSettings (subjectId : Option Str) : Settings :=
  { smallSettings with apiKeys := [(lit "secret", ⟨lit "acme", subjectId, lit "client"⟩)] }

/-- A `subject_id` that is a string, which is kept without its blanks. -/
theorem parseApiKeys_text :
    Config.parseApiKeys (keyFileLibrary "\" user \"" (.str (lit " user ")))
      (keyFileText "\" user \"") = .ok (keyFileSettings (some (lit "user"))).apiKeys := by
  rfl

/-- A `subject_id` that is a number, which is dropped. -/
theorem parseApiKeys_number :
    Config.parseApiKeys (keyFileLibrary "123" (.int 123)) (keyFileText "123") =
      .ok (keyFileSettings none).apiKeys := by
  rfl

/-- A key whose `subject_id` is a string is confined to it. -/
theorem confined_text :
    Confined (keyFileLibrary "\" user \"" (.str (lit " user ")))
      (keyFileSettings (some (lit "user"))) smallValidation (lit "secret")
      (Names (.str (lit " user "))) := by
  have member : (lit "secret", Json.obj (jsonFields [("tenant_id", .str (lit "acme")),
      ("subject_id", .str (lit " user "))])) ∈ keyFile (.str (lit " user ")) :=
    List.mem_singleton_self _
  exact (confined_iff parseApiKeys_text (by rfl) (by decide) member (by rfl) (by decide)
    (by decide) (by decide) (by decide)).mpr (Or.inl ⟨_, rfl⟩)

/-- A key whose `subject_id` is a number writes memories about every subject of its
tenant. -/
theorem number_unconfined :
    ¬ ∀ (lib : StandardLibrary) (settings : Settings) (validation : ValidationLibrary)
      (raw token : Str) (entries fields : List (Str × Json)) (subject : Json),
      Config.parseApiKeys lib raw = .ok settings.apiKeys → lib.loads raw = some (.obj entries) →
      (entries.map Prod.fst).Nodup → (token, Json.obj fields) ∈ entries →
      fields.lookup (lit "subject_id") = some subject → subject ≠ .null →
      Confined lib settings validation token (Names subject) := by
  intro always
  have confined := always (keyFileLibrary "123" (.int 123)) (keyFileSettings none) smallValidation
    (keyFileText "123") (lit "secret") (keyFile (.int 123)) _ (.int 123) parseApiKeys_number
    (by rfl) (by decide) (List.mem_singleton_self _) (by rfl) (by simp)
  have supplies : Supplies (keyFileLibrary "123" (.int 123)) (bearerHeaders (lit "secret"))
      (lit "secret") := supplies_bearerHeaders (by decide) (by decide) (by decide)
  have authenticated := authenticate_bearerHeaders parseApiKeys_number
    (List.mem_singleton_self _) (by decide) supplies
  obtain ⟨answer, table', wrote, row, there, -⟩ :=
    writes_of_unbound authenticated rfl (by decide) (by decide)
  obtain ⟨text, impossible, -⟩ := confined.writes supplies wrote row there List.not_mem_nil
  cases impossible

end RlmApi
