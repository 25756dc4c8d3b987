import RlmApi.Configuration

/-!
# Bearer authentication and scope

`authenticate` finds the credential of a bearer token and `enforceScope` compares
the identifiers of a request with it. Both compare with `hmac.compare_digest`,
which accepts two strings only when they are ASCII and raises `TypeError`
otherwise; that error is none of those the handlers catch.
-/

namespace RlmApi

/-- What authentication and scope checks raise. -/
inductive AuthFault where
  | authentication (code : String)
  | permission (code : String)
  | typeError (message : String)
deriving DecidableEq, Repr

structure Principal where
  tenantId : Str
  subjectId : Option Str
  role : Str
deriving DecidableEq

/-- Request headers in order, with names as the client spelled them. -/
abbrev Headers := List (Str × Str)

def isAscii (text : Str) : Bool := text.all (fun c => decide (c.val < 128))

/-- `hmac.compare_digest` on two strings. -/
def compareDigest (supplied configured : Str) : Except AuthFault Bool :=
  if isAscii supplied && isAscii configured then .ok (supplied == configured)
  else .error (.typeError "comparing strings with non-ASCII characters is not supported")

/-- `_header`. -/
def header (lib : StandardLibrary) (headers : Headers) (name : Str) : Str :=
  ((headers.find? (fun field => decide (lib.lower field.1 = name))).map Prod.snd).getD []

/-- The loop over the configured keys, without a short circuit: the last match wins. -/
def matchCredential (supplied : Str) (credentials : List (Str × Credential))
    (initial : Option Credential) : Except AuthFault (Option Credential) :=
  credentials.foldlM (fun matched entry => do
    if ← compareDigest supplied entry.1 then pure (some entry.2) else pure matched) initial

def authenticate (lib : StandardLibrary) (headers : Headers)
    (credentials : List (Str × Credential)) : Except AuthFault Principal := do
  let value := header lib headers (lit "authorization")
  let scheme := value.takeWhile (fun c => c.val != 32)
  match value.dropWhile (fun c => c.val != 32) with
  | [] => throw (.authentication "missing_bearer_token")
  | _ :: token =>
    if lib.lower scheme ≠ lit "bearer" || isBlank token then
      throw (.authentication "missing_bearer_token")
    match ← matchCredential (strip token) credentials none with
    | none => throw (.authentication "invalid_bearer_token")
    | some matched => pure ⟨matched.tenantId, matched.subjectId, matched.role⟩

/-- `enforce_scope`. -/
def enforceScope (principal : Principal) (tenantId subjectId : Option Str) :
    Except AuthFault Unit := do
  match tenantId with
  | some tenant =>
    if !(← compareDigest tenant principal.tenantId) then throw (.permission "tenant_mismatch")
  | none => pure ()
  match principal.subjectId, subjectId with
  | some bound, some subject =>
    if !(← compareDigest subject bound) then throw (.permission "subject_mismatch")
  | _, _ => pure ()

/-- A matched credential is one of the configured ones. -/
theorem mem_of_matchCredential {supplied : Str} {credentials : List (Str × Credential)}
    {initial : Option Credential} {matched : Credential}
    (found : matchCredential supplied credentials initial = .ok (some matched)) :
    initial = some matched ∨ ∃ entry ∈ credentials, entry.2 = matched := by
  induction credentials generalizing initial with
  | nil => exact Or.inl (Except.ok.inj found)
  | cons entry rest ih =>
    obtain ⟨next, computed, continued⟩ := except_bind_ok_iff.mp found
    rcases ih continued with chosen | ⟨later, member, same⟩
    · obtain ⟨equal, -, computed⟩ := except_bind_ok_iff.mp computed
      cases equal with
      | true =>
        cases computed
        exact Or.inr ⟨entry, List.mem_cons_self, Option.some.inj chosen⟩
      | false =>
        cases computed
        exact Or.inl chosen
    · exact Or.inr ⟨later, List.mem_cons_of_mem entry member, same⟩

/-- An authenticated principal carries the tenant and subject of a configured key. -/
theorem authenticate_configured {lib : StandardLibrary} {headers : Headers}
    {credentials : List (Str × Credential)} {principal : Principal}
    (accepted : authenticate lib headers credentials = .ok principal) :
    ∃ entry ∈ credentials, principal.tenantId = entry.2.tenantId ∧
      principal.subjectId = entry.2.subjectId := by
  simp only [authenticate] at accepted
  split at accepted
  · cases accepted
  · split at accepted
    · cases accepted
    · obtain ⟨matched, found, accepted⟩ := except_bind_ok_iff.mp accepted
      cases matched with
      | none => cases accepted
      | some credential =>
        cases accepted
        rcases mem_of_matchCredential found with impossible | ⟨entry, member, rfl⟩
        · cases impossible
        · exact ⟨entry, member, rfl, rfl⟩

end RlmApi
