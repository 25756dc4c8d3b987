import RlmApi.Coroutines

/-!
# Specifications of calls

A coroutine runs among other tasks, which change what it can observe while a call is
under way. A specification says when a call may be made, what making it changes, and
what may be observed once it has ended in one way or another. A coroutine meets a
specification if it makes its calls only when it may and ends as a postcondition asks,
whatever the calls end with.

`Meets` is computed by recursion on the tree and composed along `andThen`. Between the
calls `Stands` is what a scheduler carries along: it survives whatever the others do, as
long as the specification admits for less what it admits for more.
-/

namespace RlmApi

namespace Coroutine

variable {κ : Type} {β : κ → Type} {ε α γ ρ : Type}

/-- When a call may be made, what making it changes, and how it may end. -/
structure CallSpec (κ : Type) (β : κ → Type) (ε ρ : Type) where
  requires : ρ → κ → Prop
  begins : ρ → κ → ρ
  ends : ρ → (request : κ) → Except ε (β request) → ρ → Prop

variable {spec : CallSpec κ β ε ρ}

/-- Every call may be made where it is made, and the outcome satisfies the
postcondition, as long as every call ends as the specification says. -/
def Meets (spec : CallSpec κ β ε ρ) (post : ρ → Except ε α → Prop) :
    Coroutine κ β ε α → ρ → Prop
  | .done outcome, record => post record outcome
  | .call request resume, record => spec.requires record request ∧
      ∀ outcome after, spec.ends (spec.begins record request) request outcome after →
        (resume outcome).Meets spec post after

theorem Meets.mono {post weaker : ρ → Except ε α → Prop} {body : Coroutine κ β ε α} {record : ρ}
    (met : body.Meets spec post record)
    (implied : ∀ after outcome, post after outcome → weaker after outcome) :
    body.Meets spec weaker record := by
  induction body generalizing record with
  | done outcome => exact implied record outcome met
  | call request resume ih =>
    exact ⟨met.1, fun outcome after ended => ih outcome (met.2 outcome after ended)⟩

/-- A sequence meets what its first part meets the second to meet. -/
theorem meets_andThen_iff {post : ρ → Except ε γ → Prop} (body : Coroutine κ β ε α)
    (next : Except ε α → Coroutine κ β ε γ) (record : ρ) :
    (body.andThen next).Meets spec post record ↔
      body.Meets spec (fun after outcome => (next outcome).Meets spec post after) record := by
  induction body generalizing record with
  | done outcome => exact Iff.rfl
  | call request resume ih => simp only [andThen, Meets, ih]

/-- One call, and then the rest if the call returns. -/
theorem meets_call {post : ρ → Except ε γ → Prop} {request : κ}
    {next : β request → Coroutine κ β ε γ} {record : ρ} (required : spec.requires record request)
    (raised : ∀ error after,
      spec.ends (spec.begins record request) request (.error error) after →
        post after (.error error))
    (returned : ∀ value after, spec.ends (spec.begins record request) request (.ok value) after →
      (next value).Meets spec post after) :
    (invoke request >>= next).Meets spec post record := by
  refine ⟨required, fun outcome after ended => ?_⟩
  cases outcome with
  | ok value => exact returned value after ended
  | error error => exact raised error after ended

/-- A sequence meets what its second part meets after each value of the first. -/
theorem meets_bind {mid : ρ → Except ε α → Prop} {post : ρ → Except ε γ → Prop}
    {body : Coroutine κ β ε α} {next : α → Coroutine κ β ε γ} {record : ρ}
    (met : body.Meets spec mid record)
    (raised : ∀ after error, mid after (.error error) → post after (.error error))
    (returned : ∀ after value, mid after (.ok value) → (next value).Meets spec post after) :
    (body >>= next).Meets spec post record := by
  refine (meets_andThen_iff _ _ _).mpr (met.mono (fun after outcome holds => ?_))
  cases outcome with
  | ok value => exact returned after value holds
  | error error => exact raised after error holds

/-- A handler takes over where the body raises. -/
theorem meets_tryExcept {mid post : ρ → Except ε α → Prop} {body : Coroutine κ β ε α}
    {handler : ε → Coroutine κ β ε α} {record : ρ} (met : body.Meets spec mid record)
    (returned : ∀ after value, mid after (.ok value) → post after (.ok value))
    (handles : ∀ after error, mid after (.error error) →
      (handler error).Meets spec post after) :
    (tryExcept body handler).Meets spec post record := by
  refine (meets_andThen_iff _ _ _).mpr (met.mono (fun after outcome holds => ?_))
  cases outcome with
  | ok value => exact returned after value holds
  | error error => exact handles after error holds

/-- A cleanup runs after every outcome, and replaces it where it raises. -/
theorem meets_tryFinally {mid post : ρ → Except ε α → Prop} {body : Coroutine κ β ε α}
    {cleanup : Coroutine κ β ε Unit} {record : ρ} (met : body.Meets spec mid record)
    (cleans : ∀ after outcome, mid after outcome →
      cleanup.Meets spec (fun later ended => post later (ended.bind (fun _ => outcome))) after) :
    (tryFinally body cleanup).Meets spec post record := by
  refine (meets_andThen_iff _ _ _).mpr (met.mono (fun after outcome holds => ?_))
  have cleaned := cleans after outcome holds
  refine (meets_andThen_iff _ _ _).mpr (cleaned.mono (fun later ended ends => ?_))
  cases ended with
  | ok done => exact ends
  | error error => exact ends

/-! ## While a call is under way -/

/-- A coroutine that has ended, or whose call under way may end in every way that the
specification admits by now. -/
def Stands (spec : CallSpec κ β ε ρ) (post : ρ → Except ε α → Prop)
    (program : Coroutine κ β ε α) (record : ρ) : Prop :=
  match program with
  | .done outcome => post record outcome
  | .call request resume => ∀ outcome after, spec.ends record request outcome after →
      (resume outcome).Meets spec post after

/-- What the others change is admitted if no new ends come with it. -/
theorem Stands.later {post : ρ → Except ε α → Prop} {program : Coroutine κ β ε α}
    {record later : ρ} (stands : program.Stands spec post record)
    (fewer : ∀ request outcome after, spec.ends later request outcome after →
      spec.ends record request outcome after)
    (kept : ∀ outcome, post record outcome → post later outcome) :
    program.Stands spec post later := by
  cases program with
  | done outcome => exact kept outcome stands
  | call request resume =>
    exact fun outcome after ended => stands outcome after (fewer request outcome after ended)

end Coroutine

end RlmApi
