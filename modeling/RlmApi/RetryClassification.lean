import RlmApi.FailureClassification
import RlmApi.JsonDumps

/-!
# Failures on both sides of the pipe

The child process classifies the exception that ends it, because the parent never sees
that exception: it receives a dictionary with the name of the class and the verdict, and
raises a `RemoteRLMError` made of the two. The parent has a classification of its own for
what is raised on its side. One asks for four built-in classes and seven names, the other
for eleven names.

The parent also receives whatever else is sent. Here a payload is any object, and `str()`
of a key or of a member may raise; `decodePayload_raw` says that the decoder is the one
of `ModelRuntime` where it does not. Python's recursion limit is not modelled.
-/

namespace RlmApi

/-! ## The two classifications -/

/-- `NONRETRYABLE_CHILD_EXCEPTIONS`. -/
def nonretryableChildExceptions : List Str :=
  [lit "authenticationerror", lit "badrequesterror", lit "contextpolicyerror",
    lit "contextwindowexceedederror", lit "contentpolicyviolationerror", lit "keyerror",
    lit "permissiondeniederror", lit "permissionerror", lit "typeerror",
    lit "unprocessableentityerror", lit "valueerror"]

/-- `child_exception_is_retryable`; `lower` is `str.lower`. -/
def childExceptionIsRetryable (lower : Str → Str) (error : Raised) : Bool :=
  !error.mro.any (fun errorType => decide (lower errorType.name ∈ nonretryableChildExceptions))

/-- The payload that `_rlm_subprocess_entrypoint` sends. -/
def rlmSubprocessEntrypoint (lower : Str → Str) : Except Raised PyObject → PyObject
  | .ok payload => payload
  | .error error =>
    .dict [(.text (lit "ok"), .bool false),
      (.text (lit "exception_type"), .str error.typeName),
      (.text (lit "retryable"), .bool (childExceptionIsRetryable lower error))]

/-- The four built-in classes that the parent asks for. -/
def localClasses : List PyClass := [.keyError, .permissionError, .typeError, .valueError]

/-- Their names in lower case. -/
def localNames : List Str :=
  [lit "keyerror", lit "permissionerror", lit "typeerror", lit "valueerror"]

/-- An ASCII code point in lower case. -/
def asciiLower (c : CodePoint) : CodePoint :=
  if 65 ≤ c.val && c.val ≤ 90 then codePoint (c.val + 32) else c

/-- What `str.lower` is known to do: ASCII strings are lower-cased letter by letter. -/
def LowersAscii (lower : Str → Str) : Prop :=
  ∀ s : Str, (∀ c ∈ s, c.val < 128) → lower s = s.map asciiLower

/-- No other class has a name that lower-cases to one of the four. -/
def NamesReserved (lower : Str → Str) (mro : List PyClass) : Prop :=
  ∀ errorType ∈ mro, lower errorType.name ∈ localNames → errorType ∈ localClasses

section Classification

variable {lower : Str → Str} {mro : List PyClass}

/-- The longer list has the names of the shorter one and those of the four classes. -/
theorem mem_nonretryableChildExceptions (name : Str) :
    name ∈ nonretryableChildExceptions ↔
      name ∈ nonretryableExceptionNames ∨ name ∈ localNames := by
  simp only [nonretryableChildExceptions, nonretryableExceptionNames, localNames, List.mem_cons,
    List.not_mem_nil, false_or, or_assoc, or_left_comm, or_comm]

theorem lower_localClass (ascii : LowersAscii lower) {errorType : PyClass}
    (builtin : errorType ∈ localClasses) : lower errorType.name ∈ localNames := by
  have lowered : ∀ {name : Str}, name.all (fun c => c.val < 128) = true →
      lower name = name.map asciiLower := by
    intro name letters
    exact ascii name (fun c member => of_decide_eq_true (List.all_eq_true.mp letters c member))
  simp only [localClasses, List.mem_cons, List.not_mem_nil, or_false] at builtin
  rcases builtin with rfl | rfl | rfl | rfl
  · have named : lower PyClass.keyError.name = lit "keyerror" := lowered (by rfl)
    simp [localNames, named]
  · have named : lower PyClass.permissionError.name = lit "permissionerror" := lowered (by rfl)
    simp [localNames, named]
  · have named : lower PyClass.typeError.name = lit "typeerror" := lowered (by rfl)
    simp [localNames, named]
  · have named : lower PyClass.valueError.name = lit "valueerror" := lowered (by rfl)
    simp [localNames, named]

theorem isInstance_plain_iff (mro : List PyClass) (errorType : PyClass) :
    Raised.isInstance (.plain mro) errorType = true ↔ errorType ∈ mro :=
  decide_eq_true_iff

/-- The parent asks for an instance of one of the four classes. -/
theorem isRetryableFailure_plain_iff (lower : Str → Str) (mro : List PyClass) :
    isRetryableFailure lower (.plain mro) = true ↔
      (∀ errorType ∈ mro, errorType ∉ localClasses) ∧
        ∀ errorType ∈ mro, lower errorType.name ∉ nonretryableExceptionNames := by
  have instances : (Raised.isInstance (.plain mro) .keyError ||
      Raised.isInstance (.plain mro) .permissionError ||
      Raised.isInstance (.plain mro) .typeError ||
      Raised.isInstance (.plain mro) .valueError) = true ↔
        ∃ errorType ∈ mro, errorType ∈ localClasses := by
    simp only [Bool.or_eq_true, isInstance_plain_iff, localClasses, List.mem_cons,
      List.not_mem_nil, or_false, and_or_left, exists_or, exists_eq_right, or_assoc]
  simp only [isRetryableFailure]
  by_cases known : ∃ errorType ∈ mro, errorType ∈ localClasses
  · rw [if_pos (instances.mpr known)]
    obtain ⟨errorType, member, builtin⟩ := known
    simp only [Bool.false_eq_true, false_iff, not_and]
    intro none
    exact absurd builtin (none errorType member)
  · rw [if_neg (mt instances.mp known)]
    simp only [not_exists, not_and] at known
    simp only [Bool.not_eq_true', List.any_eq_false, decide_eq_true_eq]
    exact (and_iff_right known).symm

/-- The child asks for a name. -/
theorem childExceptionIsRetryable_plain_iff (lower : Str → Str) (mro : List PyClass) :
    childExceptionIsRetryable lower (.plain mro) = true ↔
      ∀ errorType ∈ mro, lower errorType.name ∉ nonretryableExceptionNames ∧
        lower errorType.name ∉ localNames := by
  simp [childExceptionIsRetryable, Raised.mro, mem_nonretryableChildExceptions, not_or]

/-- Where the names of the four classes are theirs alone, it makes no difference on which
side the exception is raised. -/
theorem isRetryableFailure_eq_child (ascii : LowersAscii lower)
    (reserved : NamesReserved lower mro) :
    isRetryableFailure lower (.plain mro) = childExceptionIsRetryable lower (.plain mro) := by
  rw [Bool.eq_iff_iff, isRetryableFailure_plain_iff, childExceptionIsRetryable_plain_iff]
  constructor
  · rintro ⟨foreign, unlisted⟩ errorType member
    exact ⟨unlisted errorType member,
      fun named => foreign errorType member (reserved errorType member named)⟩
  · intro unnamed
    exact ⟨fun errorType member builtin =>
        (unnamed errorType member).2 (lower_localClass ascii builtin),
      fun errorType member => (unnamed errorType member).1⟩

/-- The parent raises the name and the verdict of the child. -/
theorem decode_entrypoint_error (lower : Str → Str) (error : Raised) :
    decodeSubprocessPayload (rlmSubprocessEntrypoint lower (.error error)) =
      .error ⟨error.typeName, childExceptionIsRetryable lower error⟩ := by
  rfl

end Classification

/-! ## Payloads of any kind -/

/-- A key of a dictionary whose `str()` may raise. -/
inductive RawKey where
  | text (name : Str)
  | int (value : Int)
  | other (rendering : Except Raised Str)

/-- A Python object whose `str()` may raise. -/
inductive RawObject where
  | none
  | bool (value : Bool)
  | int (value : Int)
  | float (value : PyFloat)
  | str (value : Str)
  | list (items : List RawObject)
  /-- A `Sequence` that is neither a list nor a string. -/
  | sequence (items : List RawObject)
  | dict (entries : List (RawKey × RawObject))
  | other (rendering : Except Raised Str)

/-- `str(key)`; an integer of more than 4300 digits has none. -/
def RawKey.str : RawKey → Except Raised Str
  | .text name => .ok name
  | .int value =>
    if value.natAbs < 10 ^ intMaxStrDigits then .ok (lit (toString value))
    else .error (.builtin [.valueError])
  | .other rendering => rendering

mutual
/-- `_json_value` of the model runtime. -/
def RawObject.jsonValue : RawObject → Except Raised Json
  | .none => .ok .null
  | .bool value => .ok (.bool value)
  | .int value => .ok (.int value)
  | .float value => .ok (.float value)
  | .str value => .ok (.str value)
  | .list items => (rawItems items).map .arr
  | .sequence items => (rawItems items).map .arr
  | .dict entries => (rawEntries entries).map (fun fields => .obj (mergeFields [] fields))
  | .other rendering => rendering.map .str

def rawItems : List RawObject → Except Raised (List Json)
  | [] => .ok []
  | item :: rest => do
    let value ← item.jsonValue
    let values ← rawItems rest
    pure (value :: values)

def rawEntries : List (RawKey × RawObject) → Except Raised (List (Str × Json))
  | [] => .ok []
  | (key, item) :: rest => do
    let name ← key.str
    let value ← item.jsonValue
    let fields ← rawEntries rest
    pure ((name, value) :: fields)
end

/-- The object when it is a string. -/
def RawObject.text? : RawObject → Option Str
  | .str value => some value
  | _ => Option.none

/-- `payload.get(name)`. -/
def rawEntry (entries : List (RawKey × RawObject)) (name : String) : RawObject :=
  match entries.find? (fun entry =>
    match entry.1 with
    | .text key => key = lit name
    | .int _ | .other _ => false) with
  | some entry => entry.2
  | Option.none => .none

/-- The error that a payload reports. -/
def rawError (entries : List (RawKey × RawObject)) : RemoteRLMError :=
  match rawEntry entries "exception_type", rawEntry entries "retryable" with
  | .str exceptionType, .bool retryable => ⟨exceptionType, retryable⟩
  | _, _ => invalidChildPayload

/-- The result that a payload reports. -/
def rawResult (entries : List (RawKey × RawObject)) : Except Raised RLMSubprocessResult :=
  match rawEntry entries "answer", rawEntry entries "evidence" with
  | .str answer, .list evidence =>
    match evidence.mapM RawObject.text? with
    | some texts => (rawEntry entries "trajectory").jsonValue.map (⟨answer, texts, ·⟩)
    | Option.none => .error (.remote invalidChildResult)
  | _, _ => .error (.remote invalidChildResult)

/-- `decode_subprocess_payload`. -/
def decodePayload : RawObject → Except Raised RLMSubprocessResult
  | .dict entries =>
    match rawEntry entries "ok" with
    | .bool false => .error (.remote (rawError entries))
    | _ => rawResult entries
  | _ => .error (.remote invalidChildPayload)

/-! ## Objects whose texts exist -/

/-- A key whose `str()` is known. -/
def PyKey.raw : PyKey → RawKey
  | .text name => .text name
  | .other rendering => .other (.ok rendering)

mutual
/-- An object whose `str()` is known; a `Mapping` that is not a dictionary is any object
here. -/
def PyObject.raw : PyObject → RawObject
  | .none => .none
  | .bool value => .bool value
  | .int value => .int value
  | .float value => .float value
  | .str value => .str value
  | .list items => .list (itemsRaw items)
  | .sequence items => .sequence (itemsRaw items)
  | .dict entries => .dict (entriesRaw entries)
  | .mapping _ rendering => .other (.ok rendering)
  | .other rendering => .other (.ok rendering)

def itemsRaw : List PyObject → List RawObject
  | [] => []
  | item :: rest => item.raw :: itemsRaw rest

def entriesRaw : List (PyKey × PyObject) → List (RawKey × RawObject)
  | [] => []
  | (key, value) :: rest => (key.raw, value.raw) :: entriesRaw rest
end

theorem PyKey.str_raw (key : PyKey) : key.raw.str = .ok key.str := by
  cases key <;> rfl

mutual
/-- Such an object is converted as before. -/
theorem PyObject.jsonValue_raw : (value : PyObject) → value.raw.jsonValue = .ok value.jsonValue
  | .none | .bool _ | .int _ | .float _ | .str _ | .mapping _ _ | .other _ => rfl
  | .list items | .sequence items => by
    simp only [PyObject.raw, RawObject.jsonValue, rawItems_raw items, PyObject.jsonValue,
      PyObject.normalised, Except.map]
  | .dict entries => by
    simp only [PyObject.raw, RawObject.jsonValue, rawEntries_raw entries, PyObject.jsonValue,
      PyObject.normalised, Except.map]

theorem rawItems_raw :
    (items : List PyObject) → rawItems (itemsRaw items) = .ok (normalisedItems false items)
  | [] => rfl
  | item :: rest => by
    simp only [itemsRaw, rawItems, item.jsonValue_raw, rawItems_raw rest]
    rfl

theorem rawEntries_raw : (entries : List (PyKey × PyObject)) →
    rawEntries (entriesRaw entries) = .ok (normalisedEntries false entries)
  | [] => rfl
  | (key, value) :: rest => by
    simp only [entriesRaw, rawEntries, key.str_raw, value.jsonValue_raw, rawEntries_raw rest]
    rfl
end

theorem rawEntry_raw (entries : List (PyKey × PyObject)) (name : String) :
    rawEntry (entriesRaw entries) name = (getEntry entries name).raw := by
  induction entries with
  | nil => rfl
  | cons entry rest inductionHypothesis =>
    obtain ⟨key, value⟩ := entry
    cases key with
    | text key =>
      by_cases same : key = lit name
      · simp [rawEntry, getEntry, entriesRaw, PyKey.raw, same]
      · simpa [rawEntry, getEntry, entriesRaw, PyKey.raw, same] using inductionHypothesis
    | other rendering =>
      simpa [rawEntry, getEntry, entriesRaw, PyKey.raw] using inductionHypothesis

theorem mapM_text_raw (items : List PyObject) :
    (itemsRaw items).mapM RawObject.text? = items.mapM PyObject.text? := by
  induction items with
  | nil => rfl
  | cons item rest inductionHypothesis =>
    have text : item.raw.text? = item.text? := by
      cases item <;> rfl
    simp only [itemsRaw, List.mapM_cons, text, inductionHypothesis]

theorem rawError_raw (entries : List (PyKey × PyObject)) :
    rawError (entriesRaw entries) = reportedError entries := by
  simp only [rawError, reportedError, rawEntry_raw]
  cases getEntry entries "exception_type" with
  | str exceptionType => cases getEntry entries "retryable" <;> rfl
  | _ => rfl

theorem rawResult_raw (entries : List (PyKey × PyObject)) :
    rawResult (entriesRaw entries) = (reportedResult entries).mapError .remote := by
  simp only [rawResult, reportedResult, rawEntry_raw]
  cases getEntry entries "answer" with
  | str answer =>
    cases getEntry entries "evidence" with
    | list evidence =>
      simp only [PyObject.raw, mapM_text_raw, PyObject.jsonValue_raw]
      cases evidence.mapM PyObject.text? <;> rfl
    | _ => rfl
  | _ => rfl

/-- On such a payload the decoder is the one of the model runtime. -/
theorem decodePayload_raw (payload : PyObject) :
    decodePayload payload.raw = (decodeSubprocessPayload payload).mapError .remote := by
  cases payload with
  | dict entries =>
    simp only [PyObject.raw, decodePayload, decodeSubprocessPayload, rawEntry_raw]
    cases getEntry entries "ok" with
    | bool ok =>
      cases ok with
      | false =>
        simp only [PyObject.raw, rawError_raw]
        rfl
      | true => exact rawResult_raw entries
    | _ => exact rawResult_raw entries
  | _ => rfl

/-! ## What the parent makes of a payload -/

/-- The result has the answer and the evidence of the payload, which are a string and a
list of strings. -/
def Reports (payload : RawObject) (result : RLMSubprocessResult) : Prop :=
  ∃ entries, payload = .dict entries ∧ rawEntry entries "answer" = .str result.answer ∧
    ∃ evidence, rawEntry entries "evidence" = .list evidence ∧
      evidence.mapM RawObject.text? = some result.evidence

/-- The trajectory of the payload cannot be converted to JSON. -/
def Unconvertible (payload : RawObject) (error : Raised) : Prop :=
  ∃ entries, payload = .dict entries ∧ (rawEntry entries "trajectory").jsonValue = .error error

theorem rawResult_cases (entries : List (RawKey × RawObject)) :
    (∃ result, rawResult entries = .ok result ∧ Reports (.dict entries) result) ∨
    (∃ remote, rawResult entries = .error (.remote remote)) ∨
    ∃ error, rawResult entries = .error error ∧ Unconvertible (.dict entries) error := by
  unfold rawResult
  split
  · next answer evidence answered evidenced =>
    cases texts : evidence.mapM RawObject.text? with
    | none => exact Or.inr (Or.inl ⟨_, rfl⟩)
    | some texts =>
      cases converted : (rawEntry entries "trajectory").jsonValue with
      | ok trajectory =>
        exact Or.inl ⟨_, rfl, entries, rfl, answered, evidence, evidenced, ‹_›⟩
      | error error => exact Or.inr (Or.inr ⟨error, rfl, entries, rfl, converted⟩)
  · exact Or.inr (Or.inl ⟨_, rfl⟩)

/-- A payload is decoded to a typed result, or raises a `RemoteRLMError`, or its
trajectory cannot be converted. -/
theorem decodePayload_cases (payload : RawObject) :
    (∃ result, decodePayload payload = .ok result ∧ Reports payload result) ∨
    (∃ remote, decodePayload payload = .error (.remote remote)) ∨
    ∃ error, decodePayload payload = .error error ∧ Unconvertible payload error := by
  cases payload with
  | dict entries =>
    simp only [decodePayload]
    split
    · exact Or.inr (Or.inl ⟨_, rfl⟩)
    · exact rawResult_cases entries
  | _ => exact Or.inr (Or.inl ⟨_, rfl⟩)

/-- What the child sends for an exception makes the parent raise it as a
`RemoteRLMError`. -/
theorem decodePayload_entrypoint (lower : Str → Str) (error : Raised) :
    decodePayload (rlmSubprocessEntrypoint lower (.error error)).raw =
      .error (.remote ⟨error.typeName, childExceptionIsRetryable lower error⟩) := by
  rw [decodePayload_raw, decode_entrypoint_error]
  rfl

/-- It makes no difference in which process an exception is raised, and no payload for an
exception passes as a result. Of the payloads at large only those fail otherwise whose
trajectory cannot be converted to JSON. -/
theorem classification_agrees {lower : Str → Str} (ascii : LowersAscii lower) :
    (∀ mro, NamesReserved lower mro →
      isRetryableFailure lower (.plain mro) = childExceptionIsRetryable lower (.plain mro) ∧
      ∃ remote, decodePayload (rlmSubprocessEntrypoint lower (.error (.plain mro))).raw =
          .error (.remote remote) ∧
        remote.exceptionType = Raised.typeName (.plain mro) ∧
        isRetryableFailure lower (.remote remote) = isRetryableFailure lower (.plain mro)) ∧
    (∀ payload,
      (∃ result, decodePayload payload = .ok result ∧ Reports payload result) ∨
      (∃ remote, decodePayload payload = .error (.remote remote)) ∨
      ∃ error, decodePayload payload = .error error ∧ Unconvertible payload error) ∧
    ∀ error result, decodePayload (rlmSubprocessEntrypoint lower (.error error)).raw ≠
      .ok result := by
  refine ⟨fun mro reserved => ?_, decodePayload_cases, fun error result passes => ?_⟩
  · have agrees := isRetryableFailure_eq_child ascii reserved
    exact ⟨agrees, _, decodePayload_entrypoint lower (.plain mro), rfl, agrees.symm⟩
  · rw [decodePayload_entrypoint] at passes
    cases passes

/-- A provider refuses a request. -/
def badRequest : List PyClass :=
  [.other (lit "BadRequestError"), .exception, .other (lit "object")]

/-- The refusal is permanent on either side. -/
theorem classification_agrees_badRequest :
    NamesReserved (List.map asciiLower) badRequest ∧
      isRetryableFailure (List.map asciiLower) (.plain badRequest) =
        childExceptionIsRetryable (List.map asciiLower) (.plain badRequest) := by
  have reserved : NamesReserved (List.map asciiLower) badRequest := by
    intro errorType member
    simp only [badRequest, List.mem_cons, List.not_mem_nil, or_false] at member
    rcases member with rfl | rfl | rfl
    · decide
    · decide
    · decide
  exact ⟨reserved, ((classification_agrees fun _ _ => rfl).1 badRequest reserved).1⟩

theorem ten_pow_natAbs (digits : Nat) : 10 ^ digits ≤ ((10 : Int) ^ digits).natAbs :=
  (Int.natAbs_pow 10 digits).ge

/-- An integer of too many digits is no key. -/
theorem RawKey.str_huge {value : Int} (huge : 10 ^ intMaxStrDigits ≤ value.natAbs) :
    RawKey.str (.int value) = .error (.builtin [.valueError]) := by
  rw [RawKey.str, if_neg (Nat.not_lt_of_le huge)]

/-- A well-typed result whose trajectory has an integer of 4301 digits as a key. -/
def hugeKeyPayload : RawObject :=
  .dict [(.text (lit "ok"), .bool true), (.text (lit "answer"), .str (lit "a")),
    (.text (lit "evidence"), .list []),
    (.text (lit "trajectory"), .dict [(.int (10 ^ intMaxStrDigits), .none)])]

/-- It is neither decoded nor rejected with a `RemoteRLMError`. -/
theorem hugeKey_raises : ∃ error, decodePayload hugeKeyPayload = .error error ∧
    ∀ remote, error ≠ .remote remote := by
  have unprintable : RawKey.str (.int (10 ^ intMaxStrDigits)) = .error (.builtin [.valueError]) :=
    RawKey.str_huge (ten_pow_natAbs intMaxStrDigits)
  have converted : RawObject.jsonValue (.dict [(.int (10 ^ intMaxStrDigits), .none)]) =
      .error (.builtin [.valueError]) := by
    simp only [RawObject.jsonValue, rawEntries, unprintable]
    rfl
  refine ⟨.builtin [.valueError], ?_, ?_⟩
  · have read : decodePayload hugeKeyPayload =
        (RawObject.jsonValue (.dict [(.int (10 ^ intMaxStrDigits), .none)])).map
          (⟨lit "a", [], ·⟩) := by
      rfl
    rw [read, converted]
    rfl
  · rintro remote ⟨⟩

end RlmApi
