import RlmApi.CallSpecs

/-!
# Traces of coroutines

What a coroutine has done so far is the list of its calls, each with how it ended. The
calls of a sequence are those of its first part, which then ended, and those of the
second; so a completed execution is taken apart along the source.

A record that is kept of the trace makes a specification, and a coroutine that meets it
makes no call that the record forbids.
-/

namespace RlmApi

namespace Coroutine

variable {κ : Type} {β : κ → Type} {ε α γ : Type}

/-- A call with how it ended. -/
abbrev Observation (κ : Type) (β : κ → Type) (ε : Type) : Type :=
  (request : κ) × Except ε (β request)

/-- After calls that ended so, the rest of the coroutine is left. -/
inductive Leaves : Coroutine κ β ε α → List (Observation κ β ε) → Coroutine κ β ε α → Prop
  | nothing (body : Coroutine κ β ε α) : Leaves body [] body
  | observed {request : κ} {resume : Except ε (β request) → Coroutine κ β ε α}
      {outcome : Except ε (β request)} {trace : List (Observation κ β ε)}
      {rest : Coroutine κ β ε α} (tail : Leaves (resume outcome) trace rest) :
      Leaves (.call request resume) (⟨request, outcome⟩ :: trace) rest

/-- Calls that ended so, and the outcome. -/
def Completes (body : Coroutine κ β ε α) (trace : List (Observation κ β ε))
    (outcome : Except ε α) : Prop :=
  Leaves body trace (.done outcome)

/-- One more call ends. -/
theorem Leaves.concat {body : Coroutine κ β ε α} {trace : List (Observation κ β ε)} {request : κ}
    {resume : Except ε (β request) → Coroutine κ β ε α}
    (leaves : Leaves body trace (.call request resume)) (outcome : Except ε (β request)) :
    Leaves body (trace ++ [⟨request, outcome⟩]) (resume outcome) := by
  generalize standing : Coroutine.call request resume = rest at leaves
  induction leaves with
  | nothing body =>
    subst standing
    exact .observed (.nothing _)
  | observed tail inductionHypothesis => exact .observed (inductionHypothesis standing)

/-! ## Taking executions apart -/

theorem completes_done_iff {outcome result : Except ε α} {trace : List (Observation κ β ε)} :
    Completes (.done outcome : Coroutine κ β ε α) trace result ↔ trace = [] ∧ outcome = result := by
  constructor
  · intro completes
    cases completes
    exact ⟨rfl, rfl⟩
  · rintro ⟨rfl, rfl⟩
    exact .nothing _

/-- A sequence completes once its first part has, and then the second. -/
theorem Completes.andThen {body : Coroutine κ β ε α} {next : Except ε α → Coroutine κ β ε γ}
    {trace : List (Observation κ β ε)} {result : Except ε γ}
    (completes : Completes (body.andThen next) trace result) :
    ∃ before after outcome, trace = before ++ after ∧ Completes body before outcome ∧
      Completes (next outcome) after result := by
  induction body generalizing trace with
  | done outcome => exact ⟨[], trace, outcome, rfl, .nothing _, completes⟩
  | call request resume inductionHypothesis =>
    cases completes with
    | observed tail =>
      obtain ⟨before, after, outcome, rfl, first, second⟩ := inductionHypothesis _ tail
      exact ⟨_ :: before, after, outcome, rfl, .observed first, second⟩

section Returned

variable {trace : List (Observation κ β ε)} {value : α} {result : γ}

/-- A sequence that returns goes through what its first part returns. -/
theorem Completes.bind {body : Coroutine κ β ε α} {next : α → Coroutine κ β ε γ}
    (completes : Completes (body >>= next) trace (.ok result)) :
    ∃ before after value, trace = before ++ after ∧ Completes body before (.ok value) ∧
      Completes (next value) after (.ok result) := by
  obtain ⟨before, after, outcome, split, first, second⟩ := Completes.andThen completes
  cases outcome with
  | ok value => exact ⟨before, after, value, split, first, second⟩
  | error error => cases (completes_done_iff.mp second).2

/-- A call that is made first has returned, if the sequence does. -/
theorem Completes.call {request : κ} {next : β request → Coroutine κ β ε γ}
    (completes : Completes (invoke request >>= next) trace (.ok result)) :
    ∃ answer after, trace = ⟨request, .ok answer⟩ :: after ∧
      Completes (next answer) after (.ok result) := by
  obtain ⟨before, after, answer, rfl, first, second⟩ := completes.bind
  cases first with
  | observed tail =>
    obtain ⟨rfl, rfl⟩ := completes_done_iff.mp tail
    exact ⟨answer, after, rfl, second⟩

theorem completes_pure_iff {returned : α} :
    Completes (pure value : Coroutine κ β ε α) trace (.ok returned) ↔
      trace = [] ∧ value = returned := by
  refine completes_done_iff.trans (and_congr_right fun _ => ?_)
  rw [Except.ok.injEq]

end Returned

/-! ## The calls of a coroutine -/

/-- Whatever its calls end with, a coroutine makes wanted calls only. -/
def Calls (wanted : κ → Prop) : Coroutine κ β ε α → Prop
  | .done _ => True
  | .call request resume => wanted request ∧ ∀ outcome, (resume outcome).Calls wanted

variable {wanted : κ → Prop}

theorem calls_done (outcome : Except ε α) :
    (.done outcome : Coroutine κ β ε α).Calls wanted := trivial

theorem calls_invoke {request : κ} (fits : wanted request) :
    (invoke request : Coroutine κ β ε (β request)).Calls wanted :=
  ⟨fits, fun _ => trivial⟩

theorem calls_andThen {body : Coroutine κ β ε α} {next : Except ε α → Coroutine κ β ε γ}
    (first : body.Calls wanted) (second : ∀ outcome, (next outcome).Calls wanted) :
    (body.andThen next).Calls wanted := by
  induction body with
  | done outcome => exact second outcome
  | call request resume inductionHypothesis =>
    exact ⟨first.1, fun outcome => inductionHypothesis outcome (first.2 outcome)⟩

theorem calls_bind {body : Coroutine κ β ε α} {next : α → Coroutine κ β ε γ}
    (first : body.Calls wanted) (second : ∀ value, (next value).Calls wanted) :
    (body >>= next).Calls wanted := by
  refine calls_andThen first (fun outcome => ?_)
  cases outcome with
  | ok value => exact second value
  | error error => trivial

theorem calls_tryExcept {body : Coroutine κ β ε α} {handler : ε → Coroutine κ β ε α}
    (first : body.Calls wanted) (handles : ∀ error, (handler error).Calls wanted) :
    (tryExcept body handler).Calls wanted := by
  refine calls_andThen first (fun outcome => ?_)
  cases outcome with
  | ok value => trivial
  | error error => exact handles error

theorem calls_tryFinally {body : Coroutine κ β ε α} {cleanup : Coroutine κ β ε Unit}
    (first : body.Calls wanted) (cleans : cleanup.Calls wanted) :
    (tryFinally body cleanup).Calls wanted := by
  refine calls_andThen first (fun outcome => calls_andThen cleans (fun ended => ?_))
  cases ended with
  | ok done => trivial
  | error error => trivial

/-- The calls of a trace are calls of the coroutine. -/
theorem Calls.leaves {body rest : Coroutine κ β ε α} {trace : List (Observation κ β ε)}
    (calls : body.Calls wanted) (leaves : Leaves body trace rest) :
    ∀ observation ∈ trace, wanted observation.1 := by
  induction leaves with
  | nothing => exact fun _ member => absurd member List.not_mem_nil
  | observed tail inductionHypothesis =>
    exact List.forall_mem_cons.mpr ⟨calls.1, inductionHypothesis (calls.2 _)⟩

/-! ## Records of a trace -/

/-- The specification of a record that observes how each call ends. -/
def observing {ρ : Type} (requires : ρ → κ → Prop) (observe : ρ → Observation κ β ε → ρ) :
    CallSpec κ β ε ρ where
  requires := requires
  begins record _ := record
  ends record request outcome after := after = observe record ⟨request, outcome⟩

/-- What is left of a coroutine after a trace meets the specification with the record
of the trace. -/
theorem Meets.leaves {ρ : Type} {requires : ρ → κ → Prop} {observe : ρ → Observation κ β ε → ρ}
    {post : ρ → Except ε α → Prop} {body rest : Coroutine κ β ε α} {record : ρ}
    {trace : List (Observation κ β ε)} (met : body.Meets (observing requires observe) post record)
    (leaves : Leaves body trace rest) :
    rest.Meets (observing requires observe) post (trace.foldl observe record) := by
  induction leaves generalizing record with
  | nothing => exact met
  | observed tail inductionHypothesis => exact inductionHypothesis (met.2 _ _ rfl)

end Coroutine

end RlmApi
