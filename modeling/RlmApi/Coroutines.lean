import Mathlib.Init

/-!
# Coroutines

A coroutine is a tree of calls. A node is one call, and its branches are the
continuations for the ways in which the call may end: with an answer, or with
something raised. What makes the calls, and when, is left to a scheduler; it
interrupts a coroutine by ending the call at which the coroutine stands.

`Ensures` and `Interrupted` are computed by recursion on the tree. `Ensures` says what
a coroutine does from here on, as long as its calls end in a possible way.
`Interrupted` says what it does after an interrupt, wherever that arrives. Both are
composed along `andThen`, of which sequencing, handlers and cleanups are instances.
A record of the calls made so far is carried along, as far as a contract tracks it.

Calls, answers, what is raised and the record are parameters.
-/

namespace RlmApi

/-- A tree of calls `κ` with answers `β`, raising `ε` and returning `α`. -/
inductive Coroutine (κ : Type) (β : κ → Type) (ε α : Type) : Type where
  | done (outcome : Except ε α)
  | call (request : κ) (resume : Except ε (β request) → Coroutine κ β ε α)

namespace Coroutine

variable {κ : Type} {β : κ → Type} {ε α γ ρ : Type}

/-- Go on with the outcome, whether something was returned or raised. -/
def andThen : Coroutine κ β ε α → (Except ε α → Coroutine κ β ε γ) → Coroutine κ β ε γ
  | .done outcome, next => next outcome
  | .call request resume, next => .call request (fun outcome => (resume outcome).andThen next)

/-- One call. -/
def invoke (request : κ) : Coroutine κ β ε (β request) := .call request .done

def raise (error : ε) : Coroutine κ β ε α := .done (.error error)

/-- Go on with what was returned. -/
def afterReturn (next : α → Coroutine κ β ε γ) : Except ε α → Coroutine κ β ε γ
  | .ok value => next value
  | .error error => raise error

instance : Monad (Coroutine κ β ε) where
  pure value := .done (.ok value)
  bind body next := body.andThen (afterReturn next)

/-- What `except` does with an outcome. -/
def handled (handler : ε → Coroutine κ β ε α) : Except ε α → Coroutine κ β ε α
  | .ok value => pure value
  | .error error => handler error

/-- `try` with a handler. -/
def tryExcept (body : Coroutine κ β ε α) (handler : ε → Coroutine κ β ε α) : Coroutine κ β ε α :=
  body.andThen (handled handler)

/-- `try` with a cleanup; what the cleanup raises replaces the outcome. -/
def tryFinally (body : Coroutine κ β ε α) (cleanup : Coroutine κ β ε Unit) : Coroutine κ β ε α :=
  body.andThen (fun outcome => cleanup.andThen (afterReturn (fun _ => .done outcome)))

/-! ## Contracts -/

/-- What is recorded of the calls, how a call may end once it is recorded, and which
calls are wanted. -/
structure Contract (κ : Type) (β : κ → Type) (ε ρ : Type) where
  track : ρ → κ → ρ
  possible : ρ → (request : κ) → Except ε (β request) → Prop
  wanted : κ → Prop

variable {contract : Contract κ β ε ρ}

/-- All calls are wanted and the outcome satisfies the postcondition, as long as every
call ends in a possible way. -/
def Ensures (contract : Contract κ β ε ρ) (post : ρ → Except ε α → Prop) :
    Coroutine κ β ε α → ρ → Prop
  | .done outcome, record => post record outcome
  | .call request resume, record => contract.wanted request ∧
      ∀ outcome, contract.possible (contract.track record request) request outcome →
        (resume outcome).Ensures contract post (contract.track record request)

/-- A sequence ensures what its first part ensures the second to ensure. -/
theorem ensures_andThen_iff {post : ρ → Except ε γ → Prop} (body : Coroutine κ β ε α)
    (next : Except ε α → Coroutine κ β ε γ) (record : ρ) :
    (body.andThen next).Ensures contract post record ↔
      body.Ensures contract (fun after outcome => (next outcome).Ensures contract post after)
        record := by
  induction body generalizing record with
  | done outcome => exact Iff.rfl
  | call request resume ih => simp only [andThen, Ensures, ih]

theorem Ensures.mono {post weaker : ρ → Except ε α → Prop} {body : Coroutine κ β ε α} {record : ρ}
    (ensured : body.Ensures contract post record)
    (implied : ∀ after outcome, post after outcome → weaker after outcome) :
    body.Ensures contract weaker record := by
  induction body generalizing record with
  | done outcome => exact implied record outcome ensured
  | call request resume ih =>
    exact ⟨ensured.1, fun outcome possible => ih outcome (ensured.2 outcome possible)⟩

/-- Where no wanted call is tracked, the record at the end is the one at the start. -/
theorem Ensures.unchanged {post : ρ → Except ε α → Prop} {body : Coroutine κ β ε α} {record : ρ}
    (untracked : ∀ request, contract.wanted request →
      ∀ record, contract.track record request = record)
    (ensured : body.Ensures contract post record) :
    body.Ensures contract (fun after outcome => after = record ∧ post after outcome) record := by
  induction body with
  | done outcome => exact ⟨rfl, ensured⟩
  | call request resume ih =>
    have same := untracked request ensured.1 record
    refine ⟨ensured.1, fun outcome possible => ?_⟩
    have rest := ensured.2 outcome possible
    rw [same] at rest ⊢
    exact ih outcome rest

/-- The contract that every coroutine meets. -/
def free (track : ρ → κ → ρ) : Contract κ β ε ρ := ⟨track, fun _ _ _ => True, fun _ => True⟩

theorem ensures_free {track : ρ → κ → ρ} {post : ρ → Except ε α → Prop}
    (always : ∀ after outcome, post after outcome) (body : Coroutine κ β ε α) (record : ρ) :
    body.Ensures (free track) post record := by
  induction body generalizing record with
  | done outcome => exact always record outcome
  | call request resume ih => exact ⟨trivial, fun outcome _ => ih outcome _⟩

/-! ## Interrupts -/

section Interrupts

variable (interrupt : ε) (awaits : κ → Prop) (track : ρ → κ → ρ)

/-- An interrupt at any of the calls that can be interrupted leaves a coroutine for
which `after` holds. -/
def Interrupted (after : ρ → Coroutine κ β ε α → Prop) : Coroutine κ β ε α → ρ → Prop
  | .done _, _ => True
  | .call request resume, record =>
      (awaits request → after (track record request) (resume (.error interrupt))) ∧
        ∀ outcome, (resume outcome).Interrupted after (track record request)

/-- No call is tracked. -/
def Untracked : Coroutine κ β ε α → Prop
  | .done _ => True
  | .call request resume => (∀ record, track record request = record) ∧
      ∀ outcome, (resume outcome).Untracked

/-- No call is tracked, and an interrupt is raised at once, wherever it arrives. -/
def Transparent : Coroutine κ β ε α → Prop
  | .done _ => True
  | .call request resume => (∀ record, track record request = record) ∧
      (awaits request → resume (.error interrupt) = raise interrupt) ∧
        ∀ outcome, (resume outcome).Transparent

end Interrupts

variable {interrupt : ε} {awaits : κ → Prop} {track : ρ → κ → ρ}

/-- An interrupt of a sequence arrives in its first part, which then goes on with the
second, or in the second. -/
theorem interrupted_andThen {after : ρ → Coroutine κ β ε γ → Prop} {body : Coroutine κ β ε α}
    {next : Except ε α → Coroutine κ β ε γ} {record : ρ}
    (first : body.Interrupted interrupt awaits track
      (fun record rest => after record (rest.andThen next)) record)
    (second : body.Ensures (free track)
      (fun record outcome => (next outcome).Interrupted interrupt awaits track after record)
      record) :
    (body.andThen next).Interrupted interrupt awaits track after record := by
  induction body generalizing record with
  | done outcome => exact second
  | call request resume ih =>
    exact ⟨first.1, fun outcome => ih outcome (first.2 outcome) (second.2 outcome trivial)⟩

theorem Interrupted.mono {after weaker : ρ → Coroutine κ β ε α → Prop} {body : Coroutine κ β ε α}
    {record : ρ} (interrupted : body.Interrupted interrupt awaits track after record)
    (implied : ∀ record rest, after record rest → weaker record rest) :
    body.Interrupted interrupt awaits track weaker record := by
  induction body generalizing record with
  | done outcome => trivial
  | call request resume ih =>
    exact ⟨fun waits => implied _ _ (interrupted.1 waits),
      fun outcome => ih outcome (interrupted.2 outcome)⟩

/-- In an untracked coroutine every interrupt finds the record of its beginning. -/
theorem Interrupted.unchanged {after : ρ → Coroutine κ β ε α → Prop} {body : Coroutine κ β ε α}
    {record : ρ} (untracked : body.Untracked track)
    (interrupted : body.Interrupted interrupt awaits track after record) :
    body.Interrupted interrupt awaits track (fun found rest => found = record ∧ after found rest)
      record := by
  induction body with
  | done outcome => trivial
  | call request resume ih =>
    have same := untracked.1 record
    refine ⟨fun waits => ⟨same, interrupted.1 waits⟩, fun outcome => ?_⟩
    have rest := interrupted.2 outcome
    rw [same] at rest ⊢
    exact ih outcome (untracked.2 outcome) rest

theorem Untracked.ensures_free {post : ρ → Except ε α → Prop} {body : Coroutine κ β ε α}
    {record : ρ} (untracked : body.Untracked track) (always : ∀ outcome, post record outcome) :
    body.Ensures (free track) post record := by
  induction body with
  | done outcome => exact always outcome
  | call request resume ih =>
    refine ⟨trivial, fun outcome _ => ?_⟩
    rw [show (free track : Contract κ β ε ρ).track record request = record from untracked.1 record]
    exact ih outcome (untracked.2 outcome)

theorem untracked_andThen {body : Coroutine κ β ε α} {next : Except ε α → Coroutine κ β ε γ}
    (first : body.Untracked track) (second : ∀ outcome, (next outcome).Untracked track) :
    (body.andThen next).Untracked track := by
  induction body with
  | done outcome => exact second outcome
  | call request resume ih => exact ⟨first.1, fun outcome => ih outcome (first.2 outcome)⟩

theorem untracked_bind {body : Coroutine κ β ε α} {next : α → Coroutine κ β ε γ}
    (first : body.Untracked track) (rest : ∀ value, (next value).Untracked track) :
    (body >>= next).Untracked track := by
  refine untracked_andThen first (fun outcome => ?_)
  cases outcome with
  | ok value => exact rest value
  | error error => trivial

/-! ### Transparent coroutines -/

theorem Transparent.untracked {body : Coroutine κ β ε α}
    (transparent : body.Transparent interrupt awaits track) : body.Untracked track := by
  induction body with
  | done outcome => trivial
  | call request resume ih =>
    exact ⟨transparent.1, fun outcome => ih outcome (transparent.2.2 outcome)⟩

theorem Transparent.interrupted {after : ρ → Coroutine κ β ε α → Prop} {body : Coroutine κ β ε α}
    {record : ρ} (transparent : body.Transparent interrupt awaits track)
    (raised : after record (raise interrupt)) :
    body.Interrupted interrupt awaits track after record := by
  induction body with
  | done outcome => trivial
  | call request resume ih =>
    have same := transparent.1 record
    refine ⟨fun waits => ?_, fun outcome => ?_⟩
    · rw [same, transparent.2.1 waits]
      exact raised
    · rw [same]
      exact ih outcome (transparent.2.2 outcome)

theorem transparent_done (outcome : Except ε α) :
    (done outcome : Coroutine κ β ε α).Transparent interrupt awaits track := trivial

theorem transparent_invoke {request : κ} (untracked : ∀ record, track record request = record) :
    (invoke request : Coroutine κ β ε (β request)).Transparent interrupt awaits track :=
  ⟨untracked, fun _ => rfl, fun _ => trivial⟩

theorem transparent_andThen {body : Coroutine κ β ε α} {next : Except ε α → Coroutine κ β ε γ}
    (first : body.Transparent interrupt awaits track)
    (reraised : next (.error interrupt) = raise interrupt)
    (second : ∀ outcome, (next outcome).Transparent interrupt awaits track) :
    (body.andThen next).Transparent interrupt awaits track := by
  induction body with
  | done outcome => exact second outcome
  | call request resume ih =>
    refine ⟨first.1, fun waits => ?_, fun outcome => ih outcome (first.2.2 outcome)⟩
    change (resume (.error interrupt)).andThen next = raise interrupt
    rw [first.2.1 waits]
    exact reraised

/-- An interrupt of the transparent first part of a sequence is raised. -/
theorem interrupted_bind {after : ρ → Coroutine κ β ε γ → Prop} {body : Coroutine κ β ε α}
    {next : α → Coroutine κ β ε γ} {record : ρ}
    (transparent : body.Transparent interrupt awaits track)
    (raised : after record (raise interrupt))
    (rest : ∀ value, (next value).Interrupted interrupt awaits track after record) :
    (body >>= next).Interrupted interrupt awaits track after record := by
  refine interrupted_andThen (transparent.interrupted raised)
    (transparent.untracked.ensures_free (fun outcome => ?_))
  cases outcome with
  | ok value => exact rest value
  | error error => trivial

theorem transparent_afterReturn {next : α → Coroutine κ β ε γ}
    (rest : ∀ value, (next value).Transparent interrupt awaits track) (outcome : Except ε α) :
    (afterReturn next outcome).Transparent interrupt awaits track := by
  cases outcome with
  | ok value => exact rest value
  | error error => exact transparent_done _

theorem transparent_bind {body : Coroutine κ β ε α} {next : α → Coroutine κ β ε γ}
    (first : body.Transparent interrupt awaits track)
    (rest : ∀ value, (next value).Transparent interrupt awaits track) :
    (body >>= next).Transparent interrupt awaits track :=
  transparent_andThen first rfl (transparent_afterReturn rest)

/-- A handler that raises the interrupt again keeps a coroutine transparent. -/
theorem transparent_tryExcept {body : Coroutine κ β ε α} {handler : ε → Coroutine κ β ε α}
    (first : body.Transparent interrupt awaits track)
    (reraised : handler interrupt = raise interrupt)
    (handles : ∀ error, (handler error).Transparent interrupt awaits track) :
    (tryExcept body handler).Transparent interrupt awaits track := by
  refine transparent_andThen first reraised (fun outcome => ?_)
  cases outcome with
  | ok value => exact transparent_done _
  | error error => exact handles error

end Coroutine

end RlmApi
