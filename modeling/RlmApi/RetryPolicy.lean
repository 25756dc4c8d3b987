import Mathlib.Tactic.Positivity
import RlmApi.PythonValues

/-!
# Run status after a failed attempt

`retryDelaySeconds` and `failureStatus` are the two arithmetic rules of the run
queue. Both raise on counters they consider invalid; the laws below say exactly on
which, and bound the delays they return.
-/

namespace RlmApi

/-- The four values of `rlm_runs.status`. -/
inductive RunStatus where
  | queued
  | running
  | succeeded
  | failed
deriving DecidableEq, Repr

/-- The default of `cap_seconds`. -/
def runRetryCapSeconds : Int := 300

/-- Bounded exponential retry delay after a failed claimed attempt. -/
def retryDelaySeconds (attempts capSeconds : Int) : Except PyError Int :=
  if attempts < 1 then .error (.valueError "attempts must be at least 1")
  else .ok (min capSeconds (2 ^ (min (attempts - 1) 20).toNat))

def summaryRetryDelaySeconds (attempts : Int) : Except PyError Int :=
  retryDelaySeconds attempts 900

def failureStatus (attempts maxAttempts : Int) (retryable : Bool) : Except PyError RunStatus :=
  if attempts < 1 ∨ maxAttempts < 1 ∨ attempts > maxAttempts then
    .error (.valueError "attempt counters are invalid")
  else if !retryable then .ok .failed
  else .ok (if attempts < maxAttempts then .queued else .failed)

/-- The delay exists exactly for positive counters. -/
theorem retryDelaySeconds_ok_iff (attempts capSeconds : Int) :
    (∃ delay, retryDelaySeconds attempts capSeconds = .ok delay) ↔ 1 ≤ attempts := by
  by_cases low : attempts < 1
  · simp [retryDelaySeconds, low]
  · simp [retryDelaySeconds, low, Int.not_lt.mp low]

/-- A delay lies between one second and the cap. -/
theorem retryDelaySeconds_bounds {attempts capSeconds delay : Int} (positive : 1 ≤ capSeconds)
    (computed : retryDelaySeconds attempts capSeconds = .ok delay) :
    1 ≤ delay ∧ delay ≤ capSeconds := by
  by_cases low : attempts < 1
  · simp [retryDelaySeconds, low] at computed
  · simp only [retryDelaySeconds, low, ↓reduceIte, Except.ok.injEq] at computed
    have power : (0 : Int) < 2 ^ (min (attempts - 1) 20).toNat := by positivity
    omega

/-- The clamp of the exponent never shows under a cap that the clamp exceeds. -/
theorem retryDelaySeconds_eq {attempts capSeconds : Int} (claimed : 1 ≤ attempts)
    (capped : capSeconds ≤ 2 ^ 20) :
    retryDelaySeconds attempts capSeconds =
      .ok (min capSeconds (2 ^ (attempts - 1).toNat)) := by
  have counted : ¬ attempts < 1 := Int.not_lt.mpr claimed
  simp only [retryDelaySeconds, counted, ↓reduceIte, Except.ok.injEq]
  by_cases low : attempts - 1 ≤ 20
  · rw [min_eq_left low]
  · have high : 20 ≤ (attempts - 1).toNat := by omega
    have grows : (2 : Int) ^ 20 ≤ 2 ^ (attempts - 1).toNat :=
      pow_le_pow_right₀ (by decide) high
    have clamped : min (attempts - 1) 20 = 20 := by omega
    rw [clamped, min_eq_left (capped.trans grows)]
    exact min_eq_left capped

/-- A status exists exactly for counters with `1 ≤ attempts ≤ maxAttempts`. -/
theorem failureStatus_ok_iff (attempts maxAttempts : Int) (retryable : Bool) :
    (∃ status, failureStatus attempts maxAttempts retryable = .ok status) ↔
      1 ≤ attempts ∧ attempts ≤ maxAttempts := by
  by_cases invalid : attempts < 1 ∨ maxAttempts < 1 ∨ attempts > maxAttempts
  · simp only [failureStatus, invalid, ↓reduceIte, reduceCtorEq, exists_false, false_iff]
    omega
  · have valid : 1 ≤ attempts ∧ attempts ≤ maxAttempts := by omega
    cases retryable <;> simp [failureStatus, invalid, valid]

/-- A retryable failure requeues before the last attempt and ends the run on it. -/
theorem failureStatus_retryable {attempts maxAttempts : Int}
    (counters : 1 ≤ attempts ∧ attempts ≤ maxAttempts) :
    failureStatus attempts maxAttempts true =
      .ok (if attempts < maxAttempts then .queued else .failed) := by
  have valid : ¬ (attempts < 1 ∨ maxAttempts < 1 ∨ attempts > maxAttempts) := by omega
  simp only [failureStatus, valid, ↓reduceIte, Bool.not_true, Bool.false_eq_true]

/-- Only a retryable failure before the last attempt requeues; every other
failure is final. -/
theorem failureStatus_cases {attempts maxAttempts : Int} {retryable : Bool} {status : RunStatus}
    (computed : failureStatus attempts maxAttempts retryable = .ok status) :
    (status = .queued ∧ attempts < maxAttempts) ∨ status = .failed := by
  by_cases invalid : attempts < 1 ∨ maxAttempts < 1 ∨ attempts > maxAttempts
  · simp [failureStatus, invalid] at computed
  · cases retryable with
    | false =>
      simp only [failureStatus, invalid, ↓reduceIte, Bool.not_false, Except.ok.injEq] at computed
      exact Or.inr computed.symm
    | true =>
      simp only [failureStatus, invalid, ↓reduceIte, Bool.not_true, Bool.false_eq_true,
        Except.ok.injEq] at computed
      by_cases before : attempts < maxAttempts
      · simp only [before, ↓reduceIte] at computed
        exact Or.inl ⟨computed.symm, before⟩
      · simp only [before, ↓reduceIte] at computed
        exact Or.inr computed.symm

example : [1, 2, 3, 4, 50].map (fun attempt => retryDelaySeconds attempt runRetryCapSeconds) =
    [.ok 1, .ok 2, .ok 4, .ok 8, .ok 300] := by decide

end RlmApi
