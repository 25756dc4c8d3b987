import RlmApi.PollCadence

/-!
# Pools over the life of a process

Both processes open a pool for the queue and one for the memories, compare the dimension
of the embeddings with the column that stores them, let a worker run and close the pools
again. Every call may raise, and be cancelled, so the handlers between them decide what is
left open. Which errors `Pool.close` raises only after it has terminated the pool is a
parameter: for asyncpg these are every `Exception` and a cancellation.

A worker process ends with its `main`, the API with `on_shutdown`.
-/

namespace RlmApi

open Coroutine

/-- The pools of `RunStore` and `MemoryStore`. -/
inductive StorePool where
  | queue
  | memory
deriving DecidableEq

/-- The arguments of `asyncpg.create_pool`. -/
structure PoolOptions where
  dsn : Str
  minSize : Int
  maxSize : Int
  commandTimeout : Int
  applicationName : Str

inductive StopSignal where
  | sigint
  | sigterm

/-- What a process calls beside its own code. `declaredType` is the query of
`validate_database_dimension`, `workerLoop` the loop that `main` awaits, and the embedded
loop is a task that `on_startup` starts and `on_shutdown` awaits. -/
inductive ServiceCall where
  | createPool (pool : StorePool) (options : PoolOptions)
  | createEmbedder (modelId : Str)
  | declaredType
  | addSignalHandler (signal : StopSignal)
  | workerLoop
  | startEmbedded
  | awaitEmbedded
  | closePool (pool : StorePool)

def ServiceCall.Answer : ServiceCall → Type
  | .declaredType => Option Str
  | _ => Unit

/-- The calls that let a worker run. -/
def ServiceCall.startsLoop : ServiceCall → Bool
  | .workerLoop | .startEmbedded => true
  | _ => false

abbrev ServiceCoroutine (α : Type) := Coroutine ServiceCall ServiceCall.Answer Raised α

abbrev ServiceObservation := Observation ServiceCall ServiceCall.Answer Raised

namespace Service

/-- One call. -/
def ask (request : ServiceCall) : ServiceCoroutine request.Answer := invoke request

def runtimeError : Raised := .builtin [.other (lit "RuntimeError")]

def notImplementedError : PyClass := .other (lit "NotImplementedError")

/-- The group of `re.fullmatch(r"vector\((\d+)\)", text)`, with the decimals of Unicode. -/
def vectorDigits (decimal : CodePoint → Bool) (text : Str) : Option Str :=
  let digits := (text.drop 7).dropLast
  if text = lit "vector(" ++ digits ++ lit ")" ∧ digits ≠ [] ∧ digits.all decimal then some digits
  else none

theorem vectorDigits_eq_some_iff {decimal : CodePoint → Bool} {text digits : Str} :
    vectorDigits decimal text = some digits ↔
      text = lit "vector(" ++ digits ++ lit ")" ∧ digits ≠ [] ∧ digits.all decimal = true := by
  have inner (group : Str) : ((lit "vector(" ++ group ++ lit ")").drop 7).dropLast = group := by
    have opening : (lit "vector(").length = 7 := by decide
    rw [List.append_assoc, ← opening, List.drop_left]
    exact List.dropLast_concat
  unfold vectorDigits
  constructor
  · intro read
    simp only [Option.ite_none_right_eq_some, Option.some.injEq] at read
    obtain ⟨matched, rfl⟩ := read
    exact matched
  · rintro ⟨rfl, present, decimals⟩
    simp only [inner]
    exact if_pos ⟨trivial, present, decimals⟩

/-- The dimension of the column, from its declared type. -/
def databaseDimension (lib : StandardLibrary) (decimal : CodePoint → Bool)
    (declaredType : Option Str) : Except Raised Int :=
  match vectorDigits decimal (declaredType.getD []) with
  | none => .error runtimeError
  | some digits =>
    match lib.int digits with
    | none => .error (.builtin [.valueError])
    | some dimension => .ok dimension

section Processes

variable (lib : StandardLibrary) (decimal : CodePoint → Bool) (settings : Settings)

/-- `validate_database_dimension`. -/
def validateDatabaseDimension : ServiceCoroutine Unit := do
  let declaredType ← ask .declaredType
  match databaseDimension lib decimal declaredType with
  | .error error => raise error
  | .ok dimension => if dimension = settings.embeddingDim then pure () else raise runtimeError

/-- `except Exception`, which closes a pool and raises again. -/
def closingOnException (pool : StorePool) (body : ServiceCoroutine Unit) : ServiceCoroutine Unit :=
  tryExcept body (fun error =>
    if error.isInstance .exception then do
      ask (.closePool pool)
      raise error
    else raise error)

def poolOptions (applicationName : String) : PoolOptions :=
  ⟨settings.databaseUrl, 1, settings.dbPoolSize, 30, lit applicationName⟩

/-- `RunStore.create`. -/
def createRunStore (applicationName : String) : ServiceCoroutine Unit :=
  ask (.createPool .queue (poolOptions settings applicationName))

/-- `MemoryStore.create`. -/
def createMemoryStore (applicationName : String) : ServiceCoroutine Unit := do
  ask (.createPool .memory (poolOptions settings applicationName))
  closingOnException .memory (validateDatabaseDimension lib decimal settings)

/-- Both stores, as `main` and `on_startup` create them. -/
def createStores (queueName memoryName : String) : ServiceCoroutine Unit := do
  createRunStore settings queueName
  closingOnException .queue (do
    ask (.createEmbedder settings.embeddingModel)
    createMemoryStore lib decimal settings memoryName)

/-- `contextlib.suppress(NotImplementedError)` around `add_signal_handler`. -/
def stopOn (signal : StopSignal) : ServiceCoroutine Unit :=
  tryExcept (ask (.addSignalHandler signal)) (fun error =>
    if error.isInstance notImplementedError then pure () else raise error)

/-- `main` of the worker. -/
def main : ServiceCoroutine Unit := do
  createStores lib decimal settings "rlm-worker-queue" "rlm-worker-memory"
  stopOn .sigint
  stopOn .sigterm
  tryFinally (ask .workerLoop) (do
    ask (.closePool .memory)
    ask (.closePool .queue))

/-- The globals of the API that are not `None`; `embedded_stop` and `embedded_task` are set
together. -/
structure Globals where
  runStore : Bool
  memoryStore : Bool
  embedded : Bool

/-- `on_startup`. The globals are set once both stores are there. -/
def onStartup : ServiceCoroutine Globals := do
  createStores lib decimal settings "rlm-api-queue" "rlm-api-memory"
  if settings.embeddedWorker then
    -- `create_task` only schedules, and has no failure to go on from.
    (ask .startEmbedded).andThen (fun _ => pure ⟨true, true, true⟩)
  else pure ⟨true, true, false⟩

/-- `on_shutdown`. -/
def onShutdown (globals : Globals) : ServiceCoroutine Unit := do
  if globals.embedded then ask .awaitEmbedded else pure ()
  if globals.memoryStore then ask (.closePool .memory) else pure ()
  if globals.runStore then ask (.closePool .queue) else pure ()

/-- The handlers of the API. After a failed start no global is set, and there is nothing
that `on_shutdown` would close. -/
def api : ServiceCoroutine Unit := do
  let globals ← onStartup lib decimal settings
  onShutdown globals

end Processes

end Service

/-- The two programs. -/
inductive ServiceProcess where
  | worker
  | api

def ServiceProcess.program (lib : StandardLibrary) (decimal : CodePoint → Bool)
    (settings : Settings) : ServiceProcess → ServiceCoroutine Unit
  | .worker => Service.main lib decimal settings
  | .api => Service.api lib decimal settings

/-! ## What a trace leaves open -/

/-- What is held after some calls: which pools are open, whether the column was found to
have the configured dimension, whether the embedded loop runs, and whether a call ended in
a way that strands a pool. -/
structure Holdings where
  queue : Bool
  memory : Bool
  agreed : Bool
  looping : Bool
  stranded : Bool
deriving DecidableEq

namespace Holdings

/-- Nothing is held. -/
def nothing : Holdings := ⟨false, false, false, false, false⟩

/-- Both pools are open, and a worker may run. -/
def ready (looping : Bool) : Holdings := ⟨true, true, true, looping, false⟩

def isOpen (holdings : Holdings) : StorePool → Bool
  | .queue => holdings.queue
  | .memory => holdings.memory

def set (holdings : Holdings) (pool : StorePool) (opened : Bool) : Holdings :=
  match pool with
  | .queue => { holdings with queue := opened }
  | .memory => { holdings with memory := opened }

@[simp] theorem set_stranded (holdings : Holdings) (pool : StorePool) (opened : Bool) :
    (holdings.set pool opened).stranded = holdings.stranded := by
  cases pool <;> rfl

@[simp] theorem set_agreed (holdings : Holdings) (pool : StorePool) (opened : Bool) :
    (holdings.set pool opened).agreed = holdings.agreed := by
  cases pool <;> rfl

/-- The ends of calls after which a pool stays open. Nothing terminates a pool whose close
raises what `terminates` does not list, and no handler closes what is open after: the
close of the memory store, once the column has been compared, or with what is no
`Exception`; what is no `Exception` while the memory store is created; a signal handler
that cannot be added; an interrupt of the wait for the embedded loop. -/
def strands (terminates : Raised → Bool) (holdings : Holdings) : ServiceObservation → Bool
  | ⟨.closePool .queue, .error error⟩ => !terminates error
  | ⟨.closePool .memory, .error error⟩ =>
    holdings.agreed || !error.isInstance .exception || !terminates error
  | ⟨.createPool .memory _, .error error⟩ => !error.isInstance .exception
  | ⟨.createEmbedder _, .error error⟩ => !error.isInstance .exception
  | ⟨.declaredType, .error error⟩ => !error.isInstance .exception
  | ⟨.addSignalHandler _, .error error⟩ => !error.isInstance Service.notImplementedError
  | ⟨.awaitEmbedded, .error _⟩ => true
  | _ => false

/-- The declared type is that of vectors of the configured dimension. -/
def agrees (lib : StandardLibrary) (decimal : CodePoint → Bool) (embeddingDim : Int)
    (declaredType : Option Str) : Bool :=
  match Service.databaseDimension lib decimal declaredType with
  | .ok dimension => dimension = embeddingDim
  | .error _ => false

/-- The type is `vector(n)`, where `n` is read as that dimension. -/
theorem agrees_iff {lib : StandardLibrary} {decimal : CodePoint → Bool} {embeddingDim : Int}
    {declaredType : Option Str} : agrees lib decimal embeddingDim declaredType = true ↔
      ∃ digits, declaredType = some (lit "vector(" ++ digits ++ lit ")") ∧ digits ≠ [] ∧
        digits.all decimal = true ∧ lib.int digits = some embeddingDim := by
  constructor
  · intro agreed
    unfold agrees Service.databaseDimension at agreed
    cases group : Service.vectorDigits decimal (declaredType.getD []) with
    | none =>
      rw [group] at agreed
      cases agreed
    | some digits =>
      rw [group] at agreed
      obtain ⟨text, present, decimals⟩ := Service.vectorDigits_eq_some_iff.mp group
      cases number : lib.int digits with
      | none => simp [number] at agreed
      | some dimension =>
        have same : dimension = embeddingDim := by simpa [number] using agreed
        refine ⟨digits, ?_, present, decimals, same ▸ number⟩
        cases declaredType with
        | none => exact absurd (congrArg List.length text) (by simp [lit])
        | some declared => exact congrArg some text
  · rintro ⟨digits, rfl, present, decimals, number⟩
    have group := Service.vectorDigits_eq_some_iff.mpr ⟨rfl, present, decimals⟩
    unfold agrees Service.databaseDimension
    rw [Option.getD_some, group]
    simp [number]

/-- What is held once a call has ended. -/
def observe (terminates : Raised → Bool) (agrees : Option Str → Bool) (holdings : Holdings)
    (observation : ServiceObservation) : Holdings :=
  let noted := { holdings with
    stranded := holdings.stranded || strands terminates holdings observation }
  match observation with
  | ⟨.createPool pool _, .ok _⟩ => noted.set pool true
  | ⟨.closePool pool, .ok _⟩ => noted.set pool false
  | ⟨.closePool pool, .error error⟩ => noted.set pool (noted.isOpen pool && !terminates error)
  | ⟨.declaredType, .ok declaredType⟩ => { noted with agreed := agrees declaredType }
  | ⟨.startEmbedded, _⟩ => { noted with looping := true }
  | ⟨.awaitEmbedded, .ok _⟩ => { noted with looping := false }
  | _ => noted

/-- The calls that make sense: no pool is opened twice, a loop finds both pools and
vectors of the right dimension, and a pool that is closed is open and in no loop's use. -/
def Permits (holdings : Holdings) : ServiceCall → Prop
  | .createPool pool _ => holdings.isOpen pool = false
  | .workerLoop | .startEmbedded =>
    holdings.queue = true ∧ holdings.memory = true ∧ holdings.agreed = true
  | .closePool pool => holdings.isOpen pool = true ∧ holdings.looping = false
  | .createEmbedder _ | .declaredType | .addSignalHandler _ | .awaitEmbedded => True

/-- A pool is open if and only if one is stranded. -/
def Accounted (holdings : Holdings) : Prop :=
  (holdings.queue || holdings.memory) = holdings.stranded

theorem Accounted.isOpen_iff {holdings : Holdings} (accounted : holdings.Accounted) :
    (∃ pool, holdings.isOpen pool = true) ↔ holdings.stranded = true := by
  rw [← accounted, Bool.or_eq_true]
  constructor
  · rintro ⟨pool, opened⟩
    cases pool with
    | queue => exact Or.inl opened
    | memory => exact Or.inr opened
  · rintro (opened | opened)
    · exact ⟨.queue, opened⟩
    · exact ⟨.memory, opened⟩

end Holdings

namespace Service

open Holdings

section Specifications

variable {lib : StandardLibrary} {decimal : CodePoint → Bool} {settings : Settings}
  {terminates : Raised → Bool} {α : Type} {holdings : Holdings}
  {post : Holdings → Except Raised α → Prop}

/-- Calls that make sense, observed for one configuration. -/
abbrev pools (lib : StandardLibrary) (decimal : CodePoint → Bool) (settings : Settings)
    (terminates : Raised → Bool) : CallSpec ServiceCall ServiceCall.Answer Raised Holdings :=
  observing Permits (observe terminates (agrees lib decimal settings.embeddingDim))

/-- What is held once a call has ended. -/
abbrev held (lib : StandardLibrary) (decimal : CodePoint → Bool) (settings : Settings)
    (terminates : Raised → Bool) (holdings : Holdings) (observation : ServiceObservation) :
    Holdings :=
  holdings.observe terminates (agrees lib decimal settings.embeddingDim) observation

/-- One call, and then the rest. -/
theorem meets_ask {request : ServiceCall} {next : request.Answer → ServiceCoroutine α}
    (permitted : holdings.Permits request)
    (raised : ∀ error,
      post (held lib decimal settings terminates holdings ⟨request, .error error⟩) (.error error))
    (returned : ∀ answer, (next answer).Meets (pools lib decimal settings terminates) post
      (held lib decimal settings terminates holdings ⟨request, .ok answer⟩)) :
    (ask request >>= next).Meets (pools lib decimal settings terminates) post holdings := by
  refine meets_call permitted (fun error after ended => ?_) (fun answer after ended => ?_)
  · subst ended
    exact raised error
  · subst ended
    exact returned answer

/-- A pool is closed where the body raises an `Exception`. -/
theorem meets_closingOnException {pool : StorePool} {body : ServiceCoroutine Unit}
    {mid post : Holdings → Except Raised Unit → Prop}
    (met : body.Meets (pools lib decimal settings terminates) mid holdings)
    (returned : ∀ after, mid after (.ok ()) → post after (.ok ()))
    (passed : ∀ after error, mid after (.error error) → error.isInstance .exception = false →
      post after (.error error))
    (closes : ∀ after error, mid after (.error error) → error.isInstance .exception = true →
      after.Permits (.closePool pool) ∧
      (∀ another,
        post (held lib decimal settings terminates after ⟨.closePool pool, .error another⟩)
          (.error another)) ∧
      post (held lib decimal settings terminates after ⟨.closePool pool, .ok ()⟩) (.error error)) :
    (closingOnException pool body).Meets (pools lib decimal settings terminates) post holdings := by
  refine meets_tryExcept met (fun after value => returned after) (fun after error mid => ?_)
  split
  · next caught =>
    obtain ⟨permitted, unclosed, closed⟩ := closes after error mid caught
    exact meets_ask permitted unclosed (fun _ => closed)
  · next uncaught => exact passed after error mid (Bool.eq_false_iff.mpr uncaught)

/-- How the query of the column and its comparison may end. -/
def Compared (holdings : Holdings) : Except Raised Unit → Prop
  | .ok () => holdings = .ready false
  | .error error => holdings = ⟨true, true, false, false, !error.isInstance .exception⟩

/-- How the creation of the memory store may end, once there is a pool for the queue. -/
def Prepared (holdings : Holdings) : Except Raised Unit → Prop
  | .ok () => holdings = .ready false
  | .error error => holdings.queue = true ∧ holdings.looping = false ∧
      if error.isInstance .exception then holdings.memory = holdings.stranded
      else holdings.stranded = true

/-- What is raised for a type that is none of vectors is an `Exception`. -/
theorem isInstance_of_databaseDimension {declaredType : Option Str} {error : Raised}
    (failed : databaseDimension lib decimal declaredType = .error error) :
    error.isInstance .exception = true := by
  unfold databaseDimension at failed
  split at failed
  · cases failed
    decide
  · split at failed
    · cases failed
      decide
    · cases failed

theorem meets_validateDatabaseDimension :
    (validateDatabaseDimension lib decimal settings).Meets
      (pools lib decimal settings terminates) Compared ⟨true, true, false, false, false⟩ := by
  refine meets_ask trivial (fun error => rfl) (fun declaredType => ?_)
  have noted : held lib decimal settings terminates ⟨true, true, false, false, false⟩
      ⟨.declaredType, .ok declaredType⟩ =
      ⟨true, true, agrees lib decimal settings.embeddingDim declaredType, false, false⟩ := rfl
  rw [noted]
  cases compared : databaseDimension lib decimal declaredType with
  | error error =>
    have caught := isInstance_of_databaseDimension compared
    have differs : agrees lib decimal settings.embeddingDim declaredType = false := by
      unfold agrees
      rw [compared]
    rw [differs]
    exact congrArg (Holdings.mk true true false false) (by rw [caught]; rfl)
  | ok dimension =>
    have agreed : agrees lib decimal settings.embeddingDim declaredType =
        decide (dimension = settings.embeddingDim) := by
      unfold agrees
      rw [compared]
    rw [agreed]
    by_cases same : dimension = settings.embeddingDim
    · rw [decide_eq_true same]
      simp only [if_pos same]
      rfl
    · simp only [if_neg same]
      have caught : runtimeError.isInstance .exception = true := by decide
      rw [decide_eq_false same]
      exact congrArg (Holdings.mk true true false false) (by rw [caught]; rfl)

theorem meets_createMemoryStore (applicationName : String) :
    (createMemoryStore lib decimal settings applicationName).Meets
      (pools lib decimal settings terminates) Prepared ⟨true, false, false, false, false⟩ := by
  refine meets_ask rfl (fun error => ⟨rfl, rfl, ?_⟩) (fun _ => ?_)
  · cases caught : error.isInstance .exception <;> simp [held, observe, strands, caught]
  · refine meets_closingOnException meets_validateDatabaseDimension (fun after same => same) ?_ ?_
    · rintro _ error rfl uncaught
      refine ⟨rfl, rfl, ?_⟩
      rw [uncaught]
      rfl
    · rintro _ error rfl caught
      rw [caught]
      refine ⟨⟨rfl, rfl⟩, fun another => ⟨rfl, rfl, ?_⟩, rfl, rfl, ?_⟩
      · cases handled : another.isInstance .exception <;>
          simp [held, observe, strands, Holdings.set, isOpen, handled]
      · simp [held, observe, strands, Holdings.set, caught]

/-- How the creation of both stores may end. -/
def Started (holdings : Holdings) : Except Raised Unit → Prop
  | .ok () => holdings = .ready false
  | .error _ => holdings.Accounted

theorem meets_createStores (queueName memoryName : String) :
    (createStores lib decimal settings queueName memoryName).Meets
      (pools lib decimal settings terminates) Started .nothing := by
  refine meets_ask rfl (fun error => rfl) (fun _ => ?_)
  change Meets (pools lib decimal settings terminates) Started _ ⟨true, false, false, false, false⟩
  refine @meets_closingOnException _ _ _ _ _ _ _ Prepared _ ?_ (fun after same => same) ?_ ?_
  · refine meets_ask trivial (fun error => ⟨rfl, rfl, ?_⟩) (fun _ => ?_)
    · cases caught : error.isInstance .exception <;> simp [held, observe, strands, caught]
    · exact meets_createMemoryStore memoryName
  · rintro after error ⟨queue, -, open_⟩ uncaught
    rw [uncaught] at open_
    simpa [Started, Accounted, queue] using open_.symm
  · rintro after error ⟨queue, looping, open_⟩ caught
    rw [if_pos caught] at open_
    refine ⟨⟨queue, looping⟩, fun another => ?_, ?_⟩
    · simp [Started, Accounted, held, observe, strands, Holdings.set, isOpen, queue, open_,
        Bool.or_comm]
    · simp [Started, Accounted, held, observe, strands, Holdings.set, open_]

/-- One call at the end. -/
theorem meets_observed {request : ServiceCall} (permitted : holdings.Permits request) :
    (ask request).Meets (pools lib decimal settings terminates)
      (fun after outcome =>
        after = held lib decimal settings terminates holdings ⟨request, outcome⟩)
      holdings :=
  ⟨permitted, fun _ _ ended => ended⟩

theorem meets_stopOn (signal : StopSignal) :
    (stopOn signal).Meets (pools lib decimal settings terminates) Started (.ready false) := by
  refine meets_tryExcept (meets_observed trivial) ?_ ?_
  · rintro _ ⟨⟩ rfl
    rfl
  · rintro _ error rfl
    change Meets _ Started _ ⟨true, true, true, false, !error.isInstance notImplementedError⟩
    cases suppressed : error.isInstance notImplementedError with
    | true => exact rfl
    | false => exact rfl

/-- How a process may end: nothing is open but what is stranded, and nothing is stranded
where it returns. -/
def Ended (holdings : Holdings) (outcome : Except Raised Unit) : Prop :=
  holdings.Accounted ∧ (outcome = .ok () → holdings.stranded = false)

theorem Ended.raised {error : Raised} (accounted : holdings.Accounted) :
    Ended holdings (.error error) :=
  ⟨accounted, fun impossible => by cases impossible⟩

/-- The pools are closed one after the other. -/
theorem meets_closing :
    (do
      ask (.closePool .memory)
      ask (.closePool .queue) : ServiceCoroutine Unit).Meets
      (pools lib decimal settings terminates) Ended (.ready false) := by
  refine meets_ask ⟨rfl, rfl⟩ (fun error => .raised rfl) (fun _ => ?_)
  refine Meets.mono (meets_observed ⟨rfl, rfl⟩) ?_
  rintro _ outcome rfl
  cases outcome with
  | ok done => exact ⟨rfl, fun _ => rfl⟩
  | error error => exact .raised (by
      simp [Accounted, held, observe, strands, Holdings.set, isOpen, ready])

theorem meets_main :
    (main lib decimal settings).Meets (pools lib decimal settings terminates) Ended .nothing := by
  refine meets_bind (meets_createStores _ _) (fun after error => .raised) ?_
  rintro _ ⟨⟩ rfl
  refine meets_bind (meets_stopOn .sigint) (fun after error => .raised) ?_
  rintro _ ⟨⟩ rfl
  refine meets_bind (meets_stopOn .sigterm) (fun after error => .raised) ?_
  rintro _ ⟨⟩ rfl
  refine meets_tryFinally (meets_observed ⟨rfl, rfl, rfl⟩) ?_
  rintro _ outcome rfl
  -- Whatever the loop ended with, the pools are closed.
  have unchanged : held lib decimal settings terminates (.ready false) ⟨.workerLoop, outcome⟩ =
      .ready false := by
    cases outcome <;> rfl
  rw [unchanged]
  refine meets_closing.mono (fun later ended closed => ?_)
  cases ended with
  | error error => exact closed
  | ok done => exact ⟨closed.1, fun _ => closed.2 rfl⟩

/-- The pools are closed once the embedded loop has ended. -/
theorem meets_onShutdown (embedded : Bool) :
    (onShutdown ⟨true, true, embedded⟩).Meets (pools lib decimal settings terminates) Ended
      (.ready embedded) := by
  cases embedded with
  | false => exact meets_closing
  | true => exact meets_ask trivial (fun error => .raised rfl) (fun _ => meets_closing)

/-- How `on_startup` may end. -/
def Began (holdings : Holdings) : Except Raised Globals → Prop
  | .ok globals => ∃ embedded, globals = ⟨true, true, embedded⟩ ∧
      holdings = .ready embedded
  | .error _ => holdings.Accounted

theorem meets_onStartup :
    (onStartup lib decimal settings).Meets
      (pools lib decimal settings terminates) Began .nothing := by
  refine meets_bind (meets_createStores _ _) (fun after error accounted => accounted) ?_
  rintro _ ⟨⟩ rfl
  split
  · refine (meets_andThen_iff _ _ _).mpr (Meets.mono (meets_observed ⟨rfl, rfl, rfl⟩) ?_)
    rintro _ outcome rfl
    exact ⟨true, rfl, rfl⟩
  · exact ⟨false, rfl, rfl⟩

theorem meets_api :
    (api lib decimal settings).Meets (pools lib decimal settings terminates) Ended .nothing := by
  refine meets_bind meets_onStartup (fun after error => .raised) ?_
  rintro _ _ ⟨embedded, rfl, rfl⟩
  exact meets_onShutdown embedded

theorem meets_program (process : ServiceProcess) :
    (process.program lib decimal settings).Meets
      (pools lib decimal settings terminates) Ended .nothing := by
  cases process with
  | worker => exact meets_main
  | api => exact meets_api

end Specifications

/-! ## Executions -/

section Executions

variable (lib : StandardLibrary) (decimal : CodePoint → Bool) (settings : Settings)
  (terminates : Raised → Bool)

/-- What is held after a trace. -/
def heldAfter (trace : List ServiceObservation) : Holdings :=
  trace.foldl (held lib decimal settings terminates) .nothing

/-- A call of the trace ended so that a pool stays open. -/
def Stranding (trace : List ServiceObservation) : Prop :=
  ∃ before observation after, trace = before ++ observation :: after ∧
    strands terminates (heldAfter lib decimal settings terminates before) observation = true

/-- The column was found to hold vectors of the configured dimension. -/
def FoundDimension (trace : List ServiceObservation) : Prop :=
  ∃ digits, ⟨.declaredType, .ok (some (lit "vector(" ++ digits ++ lit ")"))⟩ ∈ trace ∧
    digits ≠ [] ∧ digits.all decimal = true ∧ lib.int digits = some settings.embeddingDim

variable {lib decimal settings terminates}

theorem heldAfter_concat (trace : List ServiceObservation) (observation : ServiceObservation) :
    heldAfter lib decimal settings terminates (trace ++ [observation]) =
      held lib decimal settings terminates (heldAfter lib decimal settings terminates trace)
        observation := by
  rw [heldAfter, List.foldl_concat]
  rfl

theorem stranded_observe (agrees : Option Str → Bool) (holdings : Holdings)
    (observation : ServiceObservation) :
    (holdings.observe terminates agrees observation).stranded =
      (holdings.stranded || strands terminates holdings observation) := by
  unfold observe
  split
  · exact set_stranded ..
  · exact set_stranded ..
  · exact set_stranded ..
  · rfl
  · rfl
  · rfl
  · rfl

/-- Only the query of the column finds that the dimensions agree. -/
theorem agreed_observe {agrees : Option Str → Bool} {holdings : Holdings}
    {observation : ServiceObservation}
    (agreed : (holdings.observe terminates agrees observation).agreed = true) :
    holdings.agreed = true ∨ ∃ declaredType,
      observation = ⟨.declaredType, .ok declaredType⟩ ∧ agrees declaredType = true := by
  unfold observe at agreed
  split at agreed
  · exact Or.inl (by simpa only [set_agreed] using agreed)
  · exact Or.inl (by simpa only [set_agreed] using agreed)
  · exact Or.inl (by simpa only [set_agreed] using agreed)
  · exact Or.inr ⟨_, rfl, agreed⟩
  · exact Or.inl agreed
  · exact Or.inl agreed
  · exact Or.inl agreed

/-- A pool is noted as stranded if and only if a call of the trace stranded one. -/
theorem stranded_iff (trace : List ServiceObservation) :
    (heldAfter lib decimal settings terminates trace).stranded = true ↔
      Stranding lib decimal settings terminates trace := by
  induction trace using List.reverseRecOn with
  | nil => simp [heldAfter, nothing, Stranding]
  | append_singleton trace observation inductionHypothesis =>
    rw [heldAfter_concat, stranded_observe, Bool.or_eq_true, inductionHypothesis]
    constructor
    · rintro (⟨before, stranding, after, rfl, strands⟩ | strands)
      · exact ⟨before, stranding, after ++ [observation], by simp, strands⟩
      · exact ⟨trace, observation, [], rfl, strands⟩
    · rintro ⟨before, stranding, after, split, strands⟩
      rcases List.eq_nil_or_concat after with rfl | ⟨rest, last, rfl⟩
      · obtain ⟨rfl, same⟩ := List.append_inj' split rfl
        exact Or.inr ((List.singleton_inj.mp same) ▸ strands)
      · rw [List.concat_eq_append, ← List.cons_append, ← List.append_assoc] at split
        obtain ⟨rfl, -⟩ := List.append_inj' split rfl
        exact Or.inl ⟨before, stranding, rest, rfl, strands⟩

/-- Where the dimensions agree, the column was queried and found so. -/
theorem foundDimension_of_agreed {trace : List ServiceObservation}
    (agreed : (heldAfter lib decimal settings terminates trace).agreed = true) :
    FoundDimension lib decimal settings trace := by
  induction trace using List.reverseRecOn with
  | nil => cases agreed
  | append_singleton trace observation inductionHypothesis =>
    rw [heldAfter_concat] at agreed
    rcases agreed_observe agreed with before | ⟨declaredType, rfl, agrees⟩
    · obtain ⟨digits, queried, decimals⟩ := inductionHypothesis before
      exact ⟨digits, List.mem_append_left _ queried, decimals⟩
    · obtain ⟨digits, rfl, decimals⟩ := agrees_iff.mp agrees
      exact ⟨digits, List.mem_append_right _ List.mem_cons_self, decimals⟩

/-- Whatever the calls of a process end with, no pool is opened twice, a loop starts only
with both pools and a column of the configured dimension, and a pool is closed only if it
is open and the embedded loop has ended. At the end a pool is open if and only if a call
ended so that it strands one, and none is open where the process returns. -/
theorem pools_accounted (process : ServiceProcess) (trace : List ServiceObservation) :
    (∀ request resume, Leaves (process.program lib decimal settings) trace (.call request resume) →
      (heldAfter lib decimal settings terminates trace).Permits request ∧
      (request.startsLoop = true → FoundDimension lib decimal settings trace)) ∧
    (∀ outcome, Completes (process.program lib decimal settings) trace outcome →
      ((∃ pool, (heldAfter lib decimal settings terminates trace).isOpen pool = true) ↔
        Stranding lib decimal settings terminates trace) ∧
      (outcome = .ok () →
        ∀ pool, (heldAfter lib decimal settings terminates trace).isOpen pool = false)) := by
  have met := @meets_program lib decimal settings terminates process
  refine ⟨fun request resume leaves => ?_, fun outcome completes => ?_⟩
  · have permitted := (met.leaves leaves).1
    refine ⟨permitted, fun starts => ?_⟩
    cases request with
    | workerLoop => exact foundDimension_of_agreed permitted.2.2
    | startEmbedded => exact foundDimension_of_agreed permitted.2.2
    | createPool | createEmbedder | declaredType | addSignalHandler | awaitEmbedded
    | closePool => cases starts
  · obtain ⟨accounted, returned⟩ := met.leaves completes
    refine ⟨accounted.isOpen_iff.trans (stranded_iff trace), fun ended pool => ?_⟩
    refine Bool.eq_false_iff.mpr (fun opened => ?_)
    have stranded := accounted.isOpen_iff.mp ⟨pool, opened⟩
    rw [returned ended] at stranded
    cases stranded

/-- The calls of a worker whose loop returns, up to the close of the memory store. -/
def stoppedCalls : List ServiceObservation :=
  [⟨.createPool .queue (poolOptions PollState.smallSettings "rlm-worker-queue"), .ok ()⟩,
    ⟨.createEmbedder (lit "embed"), .ok ()⟩,
    ⟨.createPool .memory (poolOptions PollState.smallSettings "rlm-worker-memory"), .ok ()⟩,
    ⟨.declaredType, .ok (some (lit "vector(8)"))⟩, ⟨.addSignalHandler .sigint, .ok ()⟩,
    ⟨.addSignalHandler .sigterm, .ok ()⟩, ⟨.workerLoop, .ok ()⟩]

/-- A library that reads one number. -/
def eightLibrary : StandardLibrary :=
  ⟨fun text => if text = lit "8" then some 8 else none, fun _ => none, fun _ => none, id⟩

/-- What asyncpg terminates a pool for. -/
def poolTerminates (error : Raised) : Bool :=
  error.isInstance .exception || error.isInstance .cancelledError

/-- A cancelled close of the memory store terminates its pool, but the pool of the queue
stays open: its close is never called. -/
theorem pools_accounted_unclosed : ∃ trace : List ServiceObservation,
    Completes (ServiceProcess.program eightLibrary (fun _ => true) PollState.smallSettings .worker)
      trace (.error .cancelled) ∧
    ∃ pool, (heldAfter eightLibrary (fun _ => true) PollState.smallSettings poolTerminates
      trace).isOpen pool = true := by
  let trace := stoppedCalls ++ [⟨.closePool .memory, .error .cancelled⟩]
  have completes : Completes
      (ServiceProcess.program eightLibrary (fun _ => true) PollState.smallSettings .worker) trace
      (.error .cancelled) :=
    .observed (.observed (.observed (.observed (.observed (.observed (.observed
      (.observed (.nothing _))))))))
  refine ⟨trace, completes, ?_⟩
  refine ((pools_accounted .worker trace).2 _ completes).1.mpr ?_
  exact ⟨stoppedCalls, ⟨.closePool .memory, .error .cancelled⟩, [], rfl, rfl⟩

end Executions

end Service

end RlmApi
