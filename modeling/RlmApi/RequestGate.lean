import RlmApi.RunSubmission

/-!
# The gate of every request

Each handler first finds the request's principal and then compares the tenant and
subject of the request with it. `supplied` says which token a request carries,
`Principal.Matches` which identifiers a principal may name, and the gate is exact
when it lets pass what these allow and answers everything else with its own error.

The comparison underneath is partial: it raises `TypeError` unless both strings are
ASCII, and no handler catches that. `TokenComparable` and `ScopeComparable` say for
which requests it does not matter.
-/

namespace RlmApi

/-! ## The two steps of a handler -/

/-- `_principal`: the principal, or the response that refuses the request. -/
def principalOf (lib : StandardLibrary) (credentials : List (Str × Credential))
    (headers : Headers) (requestId : Str) : Except AuthFault (Except Response Principal) :=
  match authenticate lib headers credentials with
  | .ok principal => .ok (.ok principal)
  | .error (.authentication code) => .ok (.error (response 401 (errorBody code) requestId []))
  | .error fault => .error fault

/-- `enforce_scope` under the handlers' `except PermissionError`: nothing, or the
response that refuses the request. -/
def scopeRefusal (principal : Principal) (tenantId subjectId : Option Str) (requestId : Str) :
    Except AuthFault (Option Response) :=
  match enforceScope principal tenantId subjectId with
  | .ok () => .ok none
  | .error (.permission code) => .ok (some (response 403 (errorBody code) requestId []))
  | .error fault => .error fault

/-! ## What they should decide -/

def Credential.principal (credential : Credential) : Principal :=
  ⟨credential.tenantId, credential.subjectId, credential.role⟩

/-- The first header named `authorization` splits at its first space into the scheme
`bearer` and a rest whose trimmed text is the token. -/
def Supplies (lib : StandardLibrary) (headers : Headers) (token : Str) : Prop :=
  ∃ field scheme rest,
    headers.find? (fun field => decide (lib.lower field.1 = lit "authorization")) = some field ∧
      field.2 = scheme ++ codePoint 32 :: rest ∧ codePoint 32 ∉ scheme ∧
      lib.lower scheme = lit "bearer" ∧ strip rest = token

/-- Two identifiers are the same, if both are there. -/
def Agrees (given own : Option Str) : Prop := ∀ a ∈ given, ∀ b ∈ own, a = b

/-- Each given identifier is the principal's own; an unbound subject is any. -/
def Principal.Matches (principal : Principal) (tenantId subjectId : Option Str) : Prop :=
  Agrees tenantId (some principal.tenantId) ∧ Agrees subjectId principal.subjectId

/-- `authenticate` returns the principals of the supplied keys, and otherwise raises
`AuthenticationError`. -/
def AuthenticatesExactly (lib : StandardLibrary) (credentials : List (Str × Credential))
    (headers : Headers) : Prop :=
  (∀ principal, authenticate lib headers credentials = .ok principal ↔
    ∃ entry ∈ credentials, Supplies lib headers entry.1 ∧ principal = entry.2.principal) ∧
  ((∀ entry ∈ credentials, ¬ Supplies lib headers entry.1) →
    ∃ code, authenticate lib headers credentials = .error (.authentication code))

/-- `enforce_scope` returns on a match, and otherwise raises `PermissionError`. -/
def EnforcesExactly (principal : Principal) (tenantId subjectId : Option Str) : Prop :=
  (enforceScope principal tenantId subjectId = .ok () ↔ principal.Matches tenantId subjectId) ∧
  (¬ principal.Matches tenantId subjectId →
    ∃ code, enforceScope principal tenantId subjectId = .error (.permission code))

/-! ## Comparable strings -/

/-- `hmac.compare_digest` accepts the pair. -/
def Comparable (a b : Str) : Prop := isAscii a = true ∧ isAscii b = true

instance (a b : Str) : Decidable (Comparable a b) := inferInstanceAs (Decidable (_ ∧ _))

theorem compareDigest_of_comparable {a b : Str} (comparable : Comparable a b) :
    compareDigest a b = .ok (a == b) := by
  simp only [compareDigest, comparable.1, comparable.2, Bool.and_self, ↓reduceIte]

theorem compareDigest_of_not_comparable {a b : Str} (incomparable : ¬ Comparable a b) :
    compareDigest a b =
      .error (.typeError "comparing strings with non-ASCII characters is not supported") := by
  have either : (isAscii a && isAscii b) = false := by
    rw [Bool.eq_false_iff, ne_eq, Bool.and_eq_true]
    exact incomparable
  simp only [compareDigest, either, Bool.false_eq_true, ↓reduceIte]

/-! ## Authentication -/

/-- The token of a request with a well-formed bearer header. -/
def supplied (lib : StandardLibrary) (headers : Headers) : Option Str :=
  let value := header lib headers (lit "authorization")
  match value.dropWhile (fun c => c.val != 32) with
  | [] => none
  | _ :: token =>
    if lib.lower (value.takeWhile (fun c => c.val != 32)) ≠ lit "bearer" || isBlank token then none
    else some (strip token)

/-- Authentication first finds the token and then compares it with every key. -/
theorem authenticate_eq (lib : StandardLibrary) (headers : Headers)
    (credentials : List (Str × Credential)) :
    authenticate lib headers credentials =
      match supplied lib headers with
      | none => .error (.authentication "missing_bearer_token")
      | some token =>
        (matchCredential token credentials none).bind (fun matched =>
          (matched.map (fun credential => Except.ok credential.principal)).getD
            (.error (.authentication "invalid_bearer_token"))) := by
  simp only [authenticate, supplied]
  cases (header lib headers (lit "authorization")).dropWhile (fun c => c.val != 32) with
  | nil => rfl
  | cons space token =>
    dsimp only
    split
    · rfl
    · dsimp only
      cases matchCredential (strip token) credentials none with
      | error fault => rfl
      | ok matched => cases matched <;> rfl

/-- Splitting at the first space. -/
theorem split_at_space (value : Str) :
    (∀ scheme rest, value = scheme ++ codePoint 32 :: rest → codePoint 32 ∉ scheme →
      value.takeWhile (fun c => c.val != 32) = scheme ∧
        value.dropWhile (fun c => c.val != 32) = codePoint 32 :: rest) ∧
    ∀ space rest, value.dropWhile (fun c => c.val != 32) = space :: rest →
      value = value.takeWhile (fun c => c.val != 32) ++ codePoint 32 :: rest ∧
        codePoint 32 ∉ value.takeWhile (fun c => c.val != 32) := by
  constructor
  · rintro scheme rest rfl absent
    have outside : ∀ c ∈ scheme, (c.val != 32) = true := by
      intro c member
      rw [bne_iff_ne]
      intro same
      have equal : c = codePoint 32 := Fin.ext same
      exact absent (equal ▸ member)
    rw [List.takeWhile_append_of_pos outside, List.dropWhile_append_of_pos outside]
    exact ⟨List.append_nil scheme, rfl⟩
  · intro space rest dropped
    have nonempty : value.dropWhile (fun c => c.val != 32) ≠ [] := dropped ▸ List.cons_ne_nil _ _
    have stops := List.head_dropWhile_not (fun c : CodePoint => c.val != 32) nonempty
    simp only [dropped, List.head_cons, bne_eq_false_iff_eq] at stops
    obtain rfl : space = codePoint 32 := Fin.ext stops
    refine ⟨?_, fun member => ?_⟩
    · rw [← dropped, List.takeWhile_append_dropWhile]
    · have visible := List.mem_takeWhile_imp member
      exact absurd visible (by decide)

/-- A visible token is supplied exactly when the parsed header yields it. -/
theorem supplies_iff {lib : StandardLibrary} {headers : Headers} {token : Str}
    (visible : isBlank token = false) :
    Supplies lib headers token ↔ supplied lib headers = some token := by
  simp only [supplied]
  constructor
  · rintro ⟨field, scheme, rest, first, value, absent, bearer, rfl⟩
    have found : header lib headers (lit "authorization") = field.2 := by simp [header, first]
    obtain ⟨early, late⟩ := (split_at_space field.2).1 scheme rest value absent
    have nonblank : isBlank rest = false := by
      by_contra blank
      rw [Bool.not_eq_false, isBlank, List.isEmpty_iff] at blank
      rw [blank] at visible
      exact absurd visible (by decide)
    rw [found, early, late]
    simp [bearer, nonblank]
  · intro parsed
    cases dropped : (header lib headers (lit "authorization")).dropWhile
        (fun c => c.val != 32) with
    | nil =>
      rw [dropped] at parsed
      cases parsed
    | cons space rest =>
      rw [dropped] at parsed
      dsimp only at parsed
      split at parsed
      · cases parsed
      · next fits =>
        simp only [Bool.or_eq_true, decide_eq_true_eq, not_or, ne_eq, not_not] at fits
        obtain ⟨value, absent⟩ := (split_at_space _).2 space rest dropped
        cases found : headers.find?
            (fun field => decide (lib.lower field.1 = lit "authorization")) with
        | none => simp [header, found] at dropped
        | some field =>
          have read : header lib headers (lit "authorization") = field.2 := by simp [header, found]
          rw [read] at value absent fits
          exact ⟨field, _, rest, found, value, absent, fits.1, Option.some.inj parsed⟩

section Matching

variable {token : Str} {credentials : List (Str × Credential)} {initial : Option Credential}

/-- Comparing a token with one more key. -/
theorem matchCredential_cons (entry : Str × Credential) (rest : List (Str × Credential)) :
    matchCredential token (entry :: rest) initial =
      (compareDigest token entry.1).bind (fun equal =>
        matchCredential token rest (if equal then some entry.2 else initial)) := by
  cases compared : compareDigest token entry.1 with
  | error fault => simp [matchCredential, compared, bind, Except.bind]
  | ok equal =>
    cases equal <;> simp [matchCredential, compared, bind, Except.bind, pure, Except.pure]

/-- A token that equals no key leaves what was matched before. -/
theorem matchCredential_absent
    (comparable : ∀ entry ∈ credentials, Comparable token entry.1)
    (absent : ∀ entry ∈ credentials, entry.1 ≠ token) :
    matchCredential token credentials initial = .ok initial := by
  induction credentials with
  | nil => rfl
  | cons entry rest ih =>
    have other : (token == entry.1) = false := by
      rw [beq_eq_false_iff_ne]
      exact Ne.symm (absent entry List.mem_cons_self)
    rw [matchCredential_cons, compareDigest_of_comparable (comparable entry List.mem_cons_self),
      other]
    exact ih (fun later member => comparable later (List.mem_cons_of_mem entry member))
      (fun later member => absent later (List.mem_cons_of_mem entry member))

/-- A token that equals a key matches its credential: no later key is the same. -/
theorem matchCredential_present
    (comparable : ∀ entry ∈ credentials, Comparable token entry.1)
    (distinct : (credentials.map Prod.fst).Nodup) {credential : Credential}
    (member : (token, credential) ∈ credentials) :
    matchCredential token credentials initial = .ok (some credential) := by
  induction credentials generalizing initial with
  | nil => cases member
  | cons entry rest ih =>
    obtain ⟨fresh, distinctRest⟩ := List.nodup_cons.mp distinct
    have later : ∀ entry ∈ rest, Comparable token entry.1 := fun other inRest =>
      comparable other (List.mem_cons_of_mem entry inRest)
    rw [matchCredential_cons, compareDigest_of_comparable (comparable entry List.mem_cons_self)]
    rcases List.mem_cons.mp member with rfl | inRest
    · have same : (token == token) = true := beq_self_eq_true token
      rw [same]
      refine matchCredential_absent later (fun other inRest equal => fresh ?_)
      exact List.mem_map.mpr ⟨other, inRest, equal⟩
    · exact ih later distinctRest inRest

/-- One key that cannot be compared makes the loop raise, wherever it stands. -/
theorem matchCredential_raises
    (incomparable : ∃ entry ∈ credentials, ¬ Comparable token entry.1) :
    ∃ message, matchCredential token credentials initial = .error (.typeError message) := by
  induction credentials generalizing initial with
  | nil =>
    obtain ⟨entry, absurd, -⟩ := incomparable
    cases absurd
  | cons entry rest ih =>
    rw [matchCredential_cons]
    by_cases comparable : Comparable token entry.1
    · rw [compareDigest_of_comparable comparable]
      apply ih
      obtain ⟨other, member, failing⟩ := incomparable
      rcases List.mem_cons.mp member with rfl | inRest
      · exact absurd comparable failing
      · exact ⟨other, inRest, failing⟩
    · rw [compareDigest_of_not_comparable comparable]
      exact ⟨_, rfl⟩

end Matching

/-- The supplied token, if there is one, can be compared with every key. -/
def TokenComparable (lib : StandardLibrary) (credentials : List (Str × Credential))
    (headers : Headers) : Prop :=
  ∀ token ∈ supplied lib headers, ∀ entry ∈ credentials, Comparable token entry.1

section Exactness

variable {lib : StandardLibrary} {credentials : List (Str × Credential)} {headers : Headers}
  {token : Str}

/-- What a token that was found leads to. -/
theorem authenticate_of_supplied (found : supplied lib headers = some token) :
    authenticate lib headers credentials =
      (matchCredential token credentials none).bind (fun matched =>
        (matched.map (fun credential => Except.ok credential.principal)).getD
          (.error (.authentication "invalid_bearer_token"))) := by
  rw [authenticate_eq, found]

/-- A token that authenticates was compared with every key. -/
theorem comparable_of_authenticate {principal : Principal}
    (found : supplied lib headers = some token)
    (accepted : authenticate lib headers credentials = .ok principal) :
    ∀ entry ∈ credentials, Comparable token entry.1 := by
  rw [authenticate_of_supplied found] at accepted
  by_contra failing
  simp only [not_forall] at failing
  obtain ⟨entry, listed, incomparable⟩ := failing
  obtain ⟨message, raised⟩ : ∃ message,
      matchCredential token credentials none = .error (.typeError message) :=
    matchCredential_raises ⟨entry, listed, incomparable⟩
  rw [raised] at accepted
  cases accepted

/-- A request that authenticates has the credential of the key it supplies. -/
theorem principal_of_supplied {principal : Principal} {credential : Credential}
    (found : supplied lib headers = some token) (distinct : (credentials.map Prod.fst).Nodup)
    (member : (token, credential) ∈ credentials)
    (accepted : authenticate lib headers credentials = .ok principal) :
    principal = credential.principal := by
  have comparable := comparable_of_authenticate found accepted
  rw [authenticate_of_supplied found,
    matchCredential_present comparable distinct member] at accepted
  exact (Except.ok.inj accepted).symm

/-- Without a token every key is refused. -/
theorem authenticatesExactly_of_missing
    (supplies : ∀ entry ∈ credentials, ¬ Supplies lib headers entry.1)
    (missing : supplied lib headers = none) : AuthenticatesExactly lib credentials headers := by
  have refused : authenticate lib headers credentials =
      .error (.authentication "missing_bearer_token") := by
    rw [authenticate_eq, missing]
  refine ⟨fun principal => ?_, fun _ => ⟨_, refused⟩⟩
  rw [refused]
  refine iff_of_false (by simp) ?_
  rintro ⟨entry, member, supplies', -⟩
  exact supplies entry member supplies'

/-- A token that can be compared with every key finds the key it equals. -/
theorem authenticatesExactly_of_comparable (distinct : (credentials.map Prod.fst).Nodup)
    (supplies : ∀ entry ∈ credentials, (Supplies lib headers entry.1 ↔ entry.1 = token))
    (found : supplied lib headers = some token)
    (comparable : ∀ entry ∈ credentials, Comparable token entry.1) :
    AuthenticatesExactly lib credentials headers := by
  by_cases known : ∃ entry ∈ credentials, entry.1 = token
  · obtain ⟨⟨key, credential⟩, member, rfl⟩ := known
    have accepted : authenticate lib headers credentials = .ok credential.principal := by
      rw [authenticate_of_supplied found, matchCredential_present comparable distinct member]
      rfl
    have own : Supplies lib headers key := (supplies _ member).mpr rfl
    refine ⟨fun principal => ?_, fun nobody => absurd own (nobody _ member)⟩
    rw [accepted, Except.ok.injEq]
    constructor
    · rintro rfl
      exact ⟨_, member, own, rfl⟩
    · rintro ⟨other, member', supplies', rfl⟩
      have same : other = (key, credential) :=
        List.inj_on_of_nodup_map distinct member' member ((supplies other member').mp supplies')
      rw [same]
  · have refused : authenticate lib headers credentials =
        .error (.authentication "invalid_bearer_token") := by
      rw [authenticate_of_supplied found, matchCredential_absent comparable
        (fun entry member equal => known ⟨entry, member, equal⟩)]
      rfl
    refine ⟨fun principal => ?_, fun _ => ⟨_, refused⟩⟩
    rw [refused]
    refine iff_of_false (by simp) ?_
    rintro ⟨entry, member, supplies', -⟩
    exact known ⟨entry, member, (supplies entry member).mp supplies'⟩

/-- A token that cannot be compared with some key is answered by neither outcome. -/
theorem not_authenticatesExactly (found : supplied lib headers = some token)
    (incomparable : ∃ entry ∈ credentials, ¬ Comparable token entry.1) :
    ¬ AuthenticatesExactly lib credentials headers := by
  obtain ⟨message, raised⟩ : ∃ message,
      matchCredential token credentials none = .error (.typeError message) :=
    matchCredential_raises incomparable
  have fault : authenticate lib headers credentials = .error (.typeError message) := by
    rw [authenticate_of_supplied found, raised]
    rfl
  rintro ⟨accepts, refuses⟩
  by_cases known : ∃ entry ∈ credentials, Supplies lib headers entry.1
  · obtain ⟨entry, member, supplies⟩ := known
    have accepted := (accepts entry.2.principal).mpr ⟨entry, member, supplies, rfl⟩
    rw [fault] at accepted
    cases accepted
  · obtain ⟨code, refused⟩ := refuses (fun entry member supplies =>
      known ⟨entry, member, supplies⟩)
    rw [fault] at refused
    cases refused

end Exactness

/-- Authentication is exact if and only if the comparisons it makes are defined. -/
theorem authenticatesExactly_iff {lib : StandardLibrary} {raw : Str}
    {credentials : List (Str × Credential)}
    (parsed : Config.parseApiKeys lib raw = .ok credentials) (headers : Headers) :
    AuthenticatesExactly lib credentials headers ↔ TokenComparable lib credentials headers := by
  obtain ⟨distinct, -⟩ := Config.keys_of_parseApiKeys parsed
  have supplies : ∀ entry ∈ credentials,
      (Supplies lib headers entry.1 ↔ supplied lib headers = some entry.1) := by
    intro entry member
    obtain ⟨-, -, source, -, computed⟩ := Config.entry_of_parseApiKeys parsed member
    exact supplies_iff (Config.keyEntry_ok computed).2.1
  cases found : supplied lib headers with
  | none =>
    refine iff_of_true (authenticatesExactly_of_missing (fun entry member => ?_) found)
      (by simp [TokenComparable, found])
    rw [supplies entry member, found]
    simp
  | some token =>
    have comparisons : TokenComparable lib credentials headers ↔
        ∀ entry ∈ credentials, Comparable token entry.1 := by
      simp [TokenComparable, found]
    rw [comparisons]
    constructor
    · intro exact
      by_contra incomparable
      simp only [not_forall] at incomparable
      obtain ⟨entry, member, failing⟩ := incomparable
      exact not_authenticatesExactly found ⟨entry, member, failing⟩ exact
    · refine authenticatesExactly_of_comparable distinct (fun entry member => ?_) found
      rw [supplies entry member, found, Option.some.injEq, eq_comm]

/-! ## Scope -/

/-- Two identifiers can be compared, if both are there. -/
def AgreementDecided (given own : Option Str) : Prop := ∀ a ∈ given, ∀ b ∈ own, Comparable a b

/-- Each comparison that `enforce_scope` reaches is defined: the tenant's, and unless
that refuses the request, the subject's. -/
def ScopeComparable (principal : Principal) (tenantId subjectId : Option Str) : Prop :=
  AgreementDecided tenantId (some principal.tenantId) ∧
    (Agrees tenantId (some principal.tenantId) → AgreementDecided subjectId principal.subjectId)

/-- One check of `enforce_scope`: nothing to compare, or a comparison. -/
def enforceOne (given own : Option Str) (code : String) : Except AuthFault Unit :=
  match given, own with
  | some given, some own =>
    (compareDigest given own).bind (fun equal =>
      if equal then .ok () else .error (.permission code))
  | _, _ => .ok ()

/-- Without a tenant only the subject is checked. -/
theorem enforceScope_subject (principal : Principal) (subjectId : Option Str) :
    enforceScope principal none subjectId =
      enforceOne subjectId principal.subjectId "subject_mismatch" := by
  obtain ⟨own, bound, role⟩ := principal
  cases bound with
  | none => cases subjectId <;> rfl
  | some bound =>
    cases subjectId with
    | none => rfl
    | some subject =>
      simp only [enforceScope, enforceOne]
      cases compareDigest subject bound with
      | error fault => rfl
      | ok equal => cases equal <;> rfl

/-- `enforce_scope` checks the tenant and then the subject. -/
theorem enforceScope_eq (principal : Principal) (tenantId subjectId : Option Str) :
    enforceScope principal tenantId subjectId =
      (enforceOne tenantId (some principal.tenantId) "tenant_mismatch").bind (fun _ =>
        enforceOne subjectId principal.subjectId "subject_mismatch") := by
  rw [← enforceScope_subject]
  cases tenantId with
  | none => rfl
  | some tenant =>
    simp only [enforceScope, enforceOne]
    cases compareDigest tenant principal.tenantId with
    | error fault => rfl
    | ok equal => cases equal <;> rfl

/-- The three outcomes of one check. -/
theorem enforceOne_cases (given own : Option Str) (code : String) :
    (AgreementDecided given own ∧ Agrees given own ∧ enforceOne given own code = .ok ()) ∨
    (AgreementDecided given own ∧ ¬ Agrees given own ∧
      enforceOne given own code = .error (.permission code)) ∨
    (¬ AgreementDecided given own ∧
      ∃ message, enforceOne given own code = .error (.typeError message)) := by
  cases given with
  | none => exact Or.inl ⟨by simp [AgreementDecided], by simp [Agrees], rfl⟩
  | some given =>
    cases own with
    | none => exact Or.inl ⟨by simp [AgreementDecided], by simp [Agrees], rfl⟩
    | some own =>
      have decided : AgreementDecided (some given) (some own) ↔ Comparable given own := by
        simp [AgreementDecided]
      have agrees : Agrees (some given) (some own) ↔ given = own := by simp [Agrees]
      rw [decided, agrees, enforceOne]
      by_cases comparable : Comparable given own
      · rw [compareDigest_of_comparable comparable]
        by_cases same : given = own
        · refine Or.inl ⟨comparable, same, ?_⟩
          simp [same, Except.bind]
        · refine Or.inr (Or.inl ⟨comparable, same, ?_⟩)
          simp [same, Except.bind]
      · rw [compareDigest_of_not_comparable comparable]
        exact Or.inr (Or.inr ⟨comparable, _, rfl⟩)

/-- The scope check is exact if and only if the comparisons it reaches are defined. -/
theorem enforcesExactly_iff (principal : Principal) (tenantId subjectId : Option Str) :
    EnforcesExactly principal tenantId subjectId ↔
      ScopeComparable principal tenantId subjectId := by
  simp only [EnforcesExactly, ScopeComparable, Principal.Matches, enforceScope_eq]
  rcases enforceOne_cases tenantId (some principal.tenantId) "tenant_mismatch" with
    ⟨decided, agrees, first⟩ | ⟨decided, differs, first⟩ | ⟨undecided, message, first⟩
  · rcases enforceOne_cases subjectId principal.subjectId "subject_mismatch" with
      ⟨decided', agrees', second⟩ | ⟨decided', differs', second⟩ | ⟨undecided', message, second⟩
    · simp [first, second, decided, agrees, decided', agrees', Except.bind]
    · simp [first, second, decided, agrees, decided', differs', Except.bind]
    · simp [first, second, decided, agrees, undecided', Except.bind]
  · simp [first, decided, differs, Except.bind]
  · simp [first, undecided, Except.bind]

/-! ## The gate -/

/-- Both decisions are exact, and so every request passes the gate or is answered
with `401` or `403`. -/
structure GateExact (lib : StandardLibrary) (credentials : List (Str × Credential))
    (headers : Headers) (principal : Principal) (tenantId subjectId : Option Str) : Prop where
  authentication : AuthenticatesExactly lib credentials headers
  scopes : EnforcesExactly principal tenantId subjectId
  answered : ∀ requestId,
    (∃ outcome, principalOf lib credentials headers requestId = .ok outcome ∧
      ∀ refusal, outcome = .error refusal → refusal.statusCode = 401) ∧
    ∃ outcome, scopeRefusal principal tenantId subjectId requestId = .ok outcome ∧
      ∀ refusal ∈ outcome, refusal.statusCode = 403

/-- An exact authentication answers the request. -/
theorem principalOf_answers {lib : StandardLibrary} {credentials : List (Str × Credential)}
    {headers : Headers} (exact : AuthenticatesExactly lib credentials headers) (requestId : Str) :
    ∃ outcome, principalOf lib credentials headers requestId = .ok outcome ∧
      ∀ refusal, outcome = .error refusal → refusal.statusCode = 401 := by
  by_cases known : ∃ entry ∈ credentials, Supplies lib headers entry.1
  · obtain ⟨entry, member, supplies⟩ := known
    have accepted := (exact.1 entry.2.principal).mpr ⟨entry, member, supplies, rfl⟩
    refine ⟨.ok entry.2.principal, by simp only [principalOf, accepted], ?_⟩
    intro refusal impossible
    cases impossible
  · obtain ⟨code, refused⟩ := exact.2 (fun entry member supplies => known ⟨entry, member, supplies⟩)
    refine ⟨.error (response 401 (errorBody code) requestId []),
      by simp only [principalOf, refused], ?_⟩
    rintro refusal same
    cases same
    rfl

/-- An exact scope check answers the request. -/
theorem scopeRefusal_answers {principal : Principal} {tenantId subjectId : Option Str}
    (exact : EnforcesExactly principal tenantId subjectId) (requestId : Str) :
    ∃ outcome, scopeRefusal principal tenantId subjectId requestId = .ok outcome ∧
      ∀ refusal ∈ outcome, refusal.statusCode = 403 := by
  by_cases own : principal.Matches tenantId subjectId
  · refine ⟨none, by simp only [scopeRefusal, exact.1.mpr own], ?_⟩
    intro refusal impossible
    cases impossible
  · obtain ⟨code, refused⟩ := exact.2 own
    refine ⟨some (response 403 (errorBody code) requestId []),
      by simp only [scopeRefusal, refused], ?_⟩
    rintro refusal same
    cases same
    rfl

/-- The gate is exact and total if and only if every comparison it makes is one that
`hmac.compare_digest` defines: the token of a well-formed bearer header and every
configured key are ASCII, and so are the identifiers that the scope check reaches. -/
theorem gate_exact_iff {lib : StandardLibrary} {raw : Str} {credentials : List (Str × Credential)}
    (parsed : Config.parseApiKeys lib raw = .ok credentials) (headers : Headers)
    (principal : Principal) (tenantId subjectId : Option Str) :
    GateExact lib credentials headers principal tenantId subjectId ↔
      TokenComparable lib credentials headers ∧ ScopeComparable principal tenantId subjectId := by
  rw [← authenticatesExactly_iff parsed headers, ← enforcesExactly_iff]
  constructor
  · rintro ⟨authentication, scopes, -⟩
    exact ⟨authentication, scopes⟩
  · rintro ⟨authentication, scopes⟩
    exact ⟨authentication, scopes, fun requestId =>
      ⟨principalOf_answers authentication requestId, scopeRefusal_answers scopes requestId⟩⟩

/-- The small deployment's key file. -/
theorem parseApiKeys_small :
    Config.parseApiKeys smallLibrary (lit "\x7b\"secret\": \"acme\"\x7d") =
      .ok smallSettings.apiKeys := by
  rfl

/-- A request with an ASCII key passes the gate exactly. -/
theorem gate_exact_small :
    GateExact smallLibrary smallSettings.apiKeys [(lit "Authorization", lit "Bearer secret")]
        ⟨lit "acme", none, lit "client"⟩ (some (lit "acme")) (some (lit "user")) ↔
      TokenComparable smallLibrary smallSettings.apiKeys
          [(lit "Authorization", lit "Bearer secret")] ∧
        ScopeComparable ⟨lit "acme", none, lit "client"⟩ (some (lit "acme"))
          (some (lit "user")) :=
  gate_exact_iff parseApiKeys_small _ _ _ _

/-- A key with one letter outside ASCII is answered by neither outcome: the handler
raises `TypeError`. -/
theorem accented_token_escapes :
    ¬ ∀ (lib : StandardLibrary) (raw : Str) (credentials : List (Str × Credential))
      (headers : Headers) (principal : Principal) (tenantId subjectId : Option Str),
      Config.parseApiKeys lib raw = .ok credentials →
        GateExact lib credentials headers principal tenantId subjectId := by
  intro always
  have exact := always smallLibrary _ _ [(lit "Authorization", lit "Bearer clé")]
    ⟨lit "acme", none, lit "client"⟩ none none parseApiKeys_small
  obtain ⟨outcome, answered, -⟩ := (exact.answered []).1
  have raised : principalOf smallLibrary smallSettings.apiKeys
      [(lit "Authorization", lit "Bearer clé")] [] = .error
        (.typeError "comparing strings with non-ASCII characters is not supported") := by
    rfl
  rw [raised] at answered
  cases answered

end RlmApi
