import Mathlib.Data.Seq.Basic
import Mathlib.Order.Bounds.Basic
import RlmApi.ShutdownPolling

/-!
# The worker loop

`run_worker_loop` polls until the stop event is set, and gives up when too many cycles
in succession have failed. What it carries from one cycle to the next is the time of the
last recovery and the number of failures since the last success.

The number carried is the length of the streak of failures that ends with the last cycle.
A streak reaches a length for the first time at the end of the first window of that many
failures, which is where the loop raises.
-/

namespace RlmApi

/-! ## Streaks -/

/-- How many of the positions just before `n` hold in succession. -/
def streak (holds : Nat → Bool) : Nat → Nat
  | 0 => 0
  | n + 1 => if holds n then streak holds n + 1 else 0

/-- A streak of length `m` is a window of `m` positions that all hold. -/
theorem le_streak_iff {holds : Nat → Bool} (m n : Nat) :
    m ≤ streak holds n ↔ m ≤ n ∧ ∀ k, n < k + m + 1 → k < n → holds k = true := by
  induction n generalizing m with
  | zero =>
    simp only [streak, Nat.not_lt_zero, false_implies, implies_true, and_true]
  | succ n inductionHypothesis =>
    cases m with
    | zero =>
      have empty : ∀ k, n + 1 < k + 0 + 1 → k < n + 1 → holds k = true := by
        intro k late early
        omega
      simp only [Nat.zero_le, true_and, true_iff]
      exact empty
    | succ m =>
      by_cases last : holds n = true
      · simp only [streak, last, if_true, Nat.add_le_add_iff_right, inductionHypothesis]
        constructor
        · rintro ⟨fits, before⟩
          refine ⟨fits, fun k late early => ?_⟩
          rcases Nat.lt_succ_iff_lt_or_eq.mp early with older | rfl
          · exact before k (by omega) older
          · exact last
        · rintro ⟨fits, all⟩
          exact ⟨fits, fun k late early => all k (by omega) (by omega)⟩
      · have broken : streak holds (n + 1) = 0 := if_neg last
        rw [broken]
        constructor
        · intro impossible
          omega
        · rintro ⟨-, all⟩
          exact absurd (all n (by omega) (by omega)) last

/-! ## The loop -/

/-- `PollFailureThresholdExceeded`. -/
def pollFailureThresholdExceeded : Raised :=
  .builtin [.other (lit "PollFailureThresholdExceeded"), .other (lit "RuntimeError")]

/-- `next_poll_failure_count`. -/
def nextPollFailureCount (current maxFailures : Int) : Except Raised Int :=
  let updated := current + 1
  if updated ≥ maxFailures then .error pollFailureThresholdExceeded else .ok updated

/-- The variables that `run_worker_loop` carries from one turn to the next. -/
structure Carried where
  lastRecovery : ℚ
  consecutiveFailures : Int
deriving DecidableEq

/-- What a turn of the loop meets: the stop event at its head, the outcome of
`_poll_cycle_or_stop`, and that of the wait, which an expired timeout ends with a
`TimeoutError`. -/
structure Round where
  stopSet : Bool
  cycle : Except Raised (Option (ℚ × Nat))
  wait : Except Raised Unit

/-- What becomes of the loop in a turn. -/
inductive Turn where
  | leaves (result : Except Raised Unit)
  | goesOn (waits : Bool) (carried : Carried)

def Turn.carried? : Turn → Option Carried
  | .leaves _ => none
  | .goesOn _ carried => some carried

/-- The end of a turn, where `processed` decides about the wait. -/
def waitIfIdle (processed : Nat) (wait : Except Raised Unit) (carried : Carried) : Turn :=
  if processed = 0 then
    match wait with
    | .ok () => .goesOn true carried
    | .error error =>
      -- `contextlib.suppress(TimeoutError)`
      if error.isInstance .timeoutError then .goesOn true carried else .leaves (.error error)
  else .goesOn false carried

/-- One turn of `run_worker_loop`. -/
def loopTurn (maxPollFailures : Int) (round : Round) (carried : Carried) : Turn :=
  if round.stopSet then .leaves (.ok ())
  else
    match round.cycle with
    | .ok none => .leaves (.ok ())
    | .ok (some (lastRecovery, processed)) => waitIfIdle processed round.wait ⟨lastRecovery, 0⟩
    | .error error =>
      if error.isInstance .cancelledError then .leaves (.error error)
      else if error.isInstance .exception then
        match nextPollFailureCount carried.consecutiveFailures maxPollFailures with
        | .ok count => waitIfIdle 0 round.wait { carried with consecutiveFailures := count }
        | .error threshold => .leaves (.error threshold)
      else .leaves (.error error)

/-- What is carried into turn `i`, if the loop gets there. The cycle of that turn is
called with its `lastRecovery`. -/
def loopAt (settings : Settings) (rounds : Stream'.Seq Round) : Nat → Option Carried
  | 0 => some ⟨0, 0⟩
  | i + 1 => do
    let carried ← loopAt settings rounds i
    let round ← rounds.get? i
    (loopTurn settings.workerMaxPollFailures round carried).carried?

/-- The loop raises `PollFailureThresholdExceeded` at cycle `i`. -/
def GivesUpAt (settings : Settings) (rounds : Stream'.Seq Round) (i : Nat) : Prop :=
  ∃ carried round, loopAt settings rounds i = some carried ∧ rounds.get? i = some round ∧
    loopTurn settings.workerMaxPollFailures round carried =
      .leaves (.error pollFailureThresholdExceeded)

/-! ## Cycles while the stop event is unset -/

/-- Before the stop event is set the cycle is watched, until it has an outcome. -/
def PollState.Uninterrupted (state : PollState) : Prop :=
  state.stopSet = false → state.watch = .watching ∨
    ∃ outcome, state.watch = .returned (Except.map some outcome)

theorem PollState.Uninterrupted.step {before after : PollState} (kept : before.Uninterrupted)
    (step : PollState.Step before after) : after.Uninterrupted := by
  obtain ⟨act, taken⟩ := step
  cases act with
  | cycle act =>
    obtain ⟨cycle, -, rfl⟩ := Option.map_eq_some_iff.mp taken
    exact kept
  | stop =>
    simp only [PollState.next, Option.ite_none_right_eq_some, Option.some.injEq] at taken
    obtain ⟨-, rfl⟩ := taken
    intro unset
    cases unset
  | cancelCycle =>
    simp only [PollState.next] at taken
    split at taken
    · simp only [Option.ite_none_right_eq_some, Option.some.injEq, Bool.and_eq_true] at taken
      obtain ⟨⟨-, stopped⟩, rfl⟩ := taken
      intro unset
      rw [show before.stopSet = false from unset] at stopped
      cases stopped
    · cases taken
  | cycleDone =>
    simp only [PollState.next] at taken
    split at taken
    · next outcome _ _ =>
      cases taken
      exact fun _ => Or.inr ⟨outcome, rfl⟩
    · next stopping =>
      cases taken
      intro unset
      rcases kept unset with watching | ⟨_, done⟩
      · rw [stopping] at watching
        cases watching
      · rw [stopping] at done
        cases done
    · cases taken

/-- `_poll_cycle_or_stop` returns `None` only after the stop event is set. -/
theorem returned_of_unset {lower : Str → Str} {settings : Settings} {workerId : Str}
    {lastRecovery : ℚ} {state : PollState}
    (run : Runs PollState.Step (.initial lower settings workerId lastRecovery) state)
    (unset : state.stopSet = false) {result : Except Raised (Option (ℚ × Nat))}
    (returned : state.watch = .returned result) :
    ∃ outcome, result = Except.map some outcome := by
  have kept : state.Uninterrupted :=
    Runs.keeps run (fun _ _ kept step => kept.step step) (fun _ => Or.inl rfl)
  rcases kept unset with watching | ⟨outcome, done⟩
  · rw [returned] at watching
    cases watching
  · rw [returned] at done
    cases done
    exact ⟨outcome, rfl⟩

/-- An `Exception` other than a cancellation. -/
abbrev PollFailure := { error : Raised //
  error.isInstance .exception = true ∧ error.isInstance .cancelledError = false }

/-- A cycle that is not stopped: the recovery time and the count it returns, or what it
raises. -/
abbrev CycleOutcome := Except PollFailure (ℚ × Nat)

/-- The turn of a cycle while the stop event is unset: a wait runs into its timeout. -/
def CycleOutcome.round (outcome : CycleOutcome) : Round where
  stopSet := false
  cycle :=
    match outcome with
    | .ok result => .ok (some result)
    | .error failure => .error failure.val
  wait := .error (.builtin [.timeoutError, .other (lit "OSError")])

/-- Cycle `k` takes place and fails. -/
def failedAt (cycles : Stream'.Seq CycleOutcome) (k : Nat) : Bool :=
  match cycles.get? k with
  | some (.error _) => true
  | _ => false

/-- Cycles `i - m + 1` to `i` all failed. -/
def FailedWindow (m : Int) (cycles : Stream'.Seq CycleOutcome) (i : Nat) : Prop :=
  m ≤ i + 1 ∧ ∀ k : Nat, (i : Int) - m + 1 ≤ k → k ≤ i → failedAt cycles k = true

/-- What the latest successful cycle before cycle `i` returned, or the initial 0. -/
def LatestRecovery (cycles : Stream'.Seq CycleOutcome) (i : Nat) (recovery : ℚ) : Prop :=
  (∃ j processed, j < i ∧ cycles.get? j = some (.ok (recovery, processed)) ∧
    ∀ k, j < k → k < i → failedAt cycles k = true) ∨
  (recovery = 0 ∧ ∀ k, k < i → failedAt cycles k = true)

theorem Turn.carried?_eq_some_iff (turn : Turn) (after : Carried) :
    turn.carried? = some after ↔ ∃ waits, turn = .goesOn waits after := by
  cases turn <;> simp [Turn.carried?]

theorem waitIfIdle_timeout (processed : Nat) (carried : Carried) :
    waitIfIdle processed (.error (.builtin [.timeoutError, .other (lit "OSError")])) carried =
      .goesOn (decide (processed = 0)) carried := by
  have expired : Raised.isInstance (.builtin [.timeoutError, .other (lit "OSError")])
      .timeoutError = true := by decide
  by_cases idle : processed = 0
  · simp only [waitIfIdle, idle, if_true, expired, decide_true]
  · simp only [waitIfIdle, idle, if_false, decide_false]

/-- The turn of a successful cycle. -/
theorem loopTurn_ok (m : Int) (recovery : ℚ) (processed : Nat) (carried : Carried) :
    loopTurn m (CycleOutcome.round (.ok (recovery, processed))) carried =
      .goesOn (decide (processed = 0)) ⟨recovery, 0⟩ := by
  simp only [loopTurn, CycleOutcome.round, Bool.false_eq_true, if_false, waitIfIdle_timeout]

/-- The turn of a failed cycle. -/
theorem loopTurn_error (m : Int) (failure : PollFailure) (carried : Carried) :
    loopTurn m (CycleOutcome.round (.error failure)) carried =
      if m ≤ carried.consecutiveFailures + 1 then .leaves (.error pollFailureThresholdExceeded)
      else .goesOn true { carried with
        consecutiveFailures := carried.consecutiveFailures + 1 } := by
  obtain ⟨error, caught, uncancelled⟩ := failure
  by_cases reached : m ≤ carried.consecutiveFailures + 1
  · simp only [loopTurn, CycleOutcome.round, Bool.false_eq_true, if_false, uncancelled, caught,
      if_true, nextPollFailureCount, ge_iff_le, reached]
  · simp only [loopTurn, CycleOutcome.round, Bool.false_eq_true, if_false, uncancelled, caught,
      if_true, nextPollFailureCount, ge_iff_le, reached, waitIfIdle_timeout, decide_true]

/-- The recovery time carried into turn `i`. -/
def recoveryBefore (cycles : Stream'.Seq CycleOutcome) : Nat → ℚ
  | 0 => 0
  | i + 1 =>
    match cycles.get? i with
    | some (.ok (recovery, _)) => recovery
    | _ => recoveryBefore cycles i

section Cycles

variable {settings : Settings} {cycles : Stream'.Seq CycleOutcome} {i : Nat}

theorem streak_of_ok {result : ℚ × Nat} (observed : cycles.get? i = some (.ok result)) :
    streak (failedAt cycles) (i + 1) = 0 := by
  simp only [streak, failedAt, observed, Bool.false_eq_true, if_false]

theorem streak_of_error {failure : PollFailure} (observed : cycles.get? i = some (.error failure)) :
    streak (failedAt cycles) (i + 1) = streak (failedAt cycles) i + 1 := by
  simp only [streak, failedAt, observed, if_true]

/-- The streak has length `m` where the window of `m` cycles has failed. -/
theorem failedWindow_iff (m : Int) (positive : 1 ≤ m) :
    FailedWindow m cycles i ↔ m ≤ streak (failedAt cycles) (i + 1) := by
  obtain ⟨n, rfl⟩ := Int.eq_ofNat_of_zero_le (by omega : 0 ≤ m)
  rw [Int.ofNat_le, le_streak_iff, FailedWindow]
  constructor
  · rintro ⟨fits, all⟩
    exact ⟨by omega, fun k late early => all k (by omega) (by omega)⟩
  · rintro ⟨fits, all⟩
    exact ⟨by omega, fun k late early => all k (by omega) (by omega)⟩

/-- The loop gets to a turn through the turn before it. -/
theorem loopAt_succ_iff (after : Carried) :
    loopAt settings (cycles.map CycleOutcome.round) (i + 1) = some after ↔
      ∃ carried outcome waits, loopAt settings (cycles.map CycleOutcome.round) i = some carried ∧
        cycles.get? i = some outcome ∧
        loopTurn settings.workerMaxPollFailures outcome.round carried = .goesOn waits after := by
  simp only [loopAt, Stream'.Seq.map_get?, Option.bind_eq_bind, Option.bind_eq_some_iff,
    Option.map_eq_some_iff, Turn.carried?_eq_some_iff]
  constructor
  · rintro ⟨carried, arrived, _, ⟨outcome, observed, rfl⟩, waits, turned⟩
    exact ⟨carried, outcome, waits, arrived, observed, turned⟩
  · rintro ⟨carried, outcome, waits, arrived, observed, turned⟩
    exact ⟨carried, arrived, _, ⟨outcome, observed, rfl⟩, waits, turned⟩

/-- The loop gets to turn `i` exactly when the cycles before it are over and no streak
has reached the threshold; it then carries the streak and the latest recovery time. -/
theorem loopAt_iff (positive : 1 ≤ settings.workerMaxPollFailures) (carried : Carried) :
    loopAt settings (cycles.map CycleOutcome.round) i = some carried ↔
      (∀ j, j < i → (cycles.get? j).isSome) ∧
      (∀ j, j < i → ¬ FailedWindow settings.workerMaxPollFailures cycles j) ∧
      carried = ⟨recoveryBefore cycles i, streak (failedAt cycles) i⟩ := by
  induction i generalizing carried with
  | zero =>
    constructor
    · intro initially
      exact ⟨fun j early => absurd early (Nat.not_lt_zero j),
        fun j early => absurd early (Nat.not_lt_zero j), (Option.some.inj initially).symm⟩
    · rintro ⟨-, -, rfl⟩
      rfl
  | succ i inductionHypothesis =>
    rw [loopAt_succ_iff]
    simp only [inductionHypothesis, Nat.lt_succ_iff_lt_or_eq, or_imp, forall_and, forall_eq,
      failedWindow_iff _ positive]
    constructor
    · rintro ⟨_, outcome, waits, ⟨elapsed, below, rfl⟩, observed, turned⟩
      cases outcome with
      | ok result =>
        obtain ⟨recovery, processed⟩ := result
        rw [loopTurn_ok] at turned
        cases turned
        have broken := streak_of_ok observed
        refine ⟨⟨elapsed, by simp [observed]⟩, ⟨below, by omega⟩, ?_⟩
        rw [broken]
        simp only [recoveryBefore, observed, Nat.cast_zero]
      | error failure =>
        rw [loopTurn_error] at turned
        have longer := streak_of_error observed
        split at turned
        · cases turned
        · next short =>
          cases turned
          refine ⟨⟨elapsed, by simp [observed]⟩, ⟨below, by push_cast [longer]; exact short⟩, ?_⟩
          rw [longer]
          simp only [recoveryBefore, observed, Nat.cast_succ]
    · rintro ⟨⟨elapsed, present⟩, ⟨below, short⟩, rfl⟩
      obtain ⟨outcome, observed⟩ := Option.isSome_iff_exists.mp present
      cases outcome with
      | ok result =>
        obtain ⟨recovery, processed⟩ := result
        refine ⟨_, _, decide (processed = 0), ⟨elapsed, below, rfl⟩, observed, ?_⟩
        rw [loopTurn_ok]
        simp only [recoveryBefore, observed, streak_of_ok observed, Nat.cast_zero]
      | error failure =>
        have longer := streak_of_error observed
        refine ⟨_, _, true, ⟨elapsed, below, rfl⟩, observed, ?_⟩
        rw [longer] at short ⊢
        rw [loopTurn_error, if_neg (by push_cast at short; exact short)]
        simp only [recoveryBefore, observed, Nat.cast_succ]

/-- The recovery time carried into a turn is the latest one. -/
theorem latestRecovery_before (elapsed : ∀ j, j < i → (cycles.get? j).isSome) :
    LatestRecovery cycles i (recoveryBefore cycles i) := by
  induction i with
  | zero => exact Or.inr ⟨rfl, fun k early => absurd early (Nat.not_lt_zero k)⟩
  | succ i inductionHypothesis =>
    obtain ⟨outcome, observed⟩ := Option.isSome_iff_exists.mp (elapsed i (Nat.lt_succ_self i))
    cases outcome with
    | ok result =>
      obtain ⟨recovery, processed⟩ := result
      refine Or.inl ⟨i, processed, Nat.lt_succ_self i, ?_, fun k late early => by omega⟩
      simp only [recoveryBefore, observed]
    | error failure =>
      have failed : failedAt cycles i = true := by
        simp only [failedAt, observed]
      have kept : recoveryBefore cycles (i + 1) = recoveryBefore cycles i := by
        simp only [recoveryBefore, observed]
      have shorter : ∀ k, k < i + 1 → k ≠ i → k < i := by
        intro k early apart
        omega
      rw [kept]
      rcases inductionHypothesis (fun j early => elapsed j (Nat.lt_succ_of_lt early)) with
        ⟨j, processed, early, success, failures⟩ | ⟨initially, failures⟩
      · refine Or.inl ⟨j, processed, Nat.lt_succ_of_lt early, success, fun k late before => ?_⟩
        by_cases last : k = i
        · exact last ▸ failed
        · exact failures k late (shorter k before last)
      · refine Or.inr ⟨initially, fun k before => ?_⟩
        by_cases last : k = i
        · exact last ▸ failed
        · exact failures k (shorter k before last)

/-- A turn goes on unless the window of failures that ends with it is full. -/
theorem loopTurn_carried (positive : 1 ≤ settings.workerMaxPollFailures) {outcome : CycleOutcome}
    (observed : cycles.get? i = some outcome) (recovery : ℚ) :
    (FailedWindow settings.workerMaxPollFailures cycles i ∧
      loopTurn settings.workerMaxPollFailures outcome.round
        ⟨recovery, streak (failedAt cycles) i⟩ = .leaves (.error pollFailureThresholdExceeded)) ∨
    (¬ FailedWindow settings.workerMaxPollFailures cycles i ∧ ∃ waits after,
      loopTurn settings.workerMaxPollFailures outcome.round
        ⟨recovery, streak (failedAt cycles) i⟩ = .goesOn waits after ∧
      (waits = true ↔ (∃ failure, outcome = .error failure) ∨
        ∃ returned, outcome = .ok (returned, 0)) ∧
      ((∃ result, outcome = .ok result) → after.consecutiveFailures = 0)) := by
  rw [failedWindow_iff _ positive]
  cases outcome with
  | ok result =>
    obtain ⟨returned, processed⟩ := result
    have broken := streak_of_ok observed
    refine Or.inr ⟨by omega, decide (processed = 0), _, loopTurn_ok _ _ _ _, ?_, fun _ => rfl⟩
    simp
  | error failure =>
    rw [streak_of_error observed, loopTurn_error, Nat.cast_succ]
    by_cases reached : settings.workerMaxPollFailures ≤ streak (failedAt cycles) i + 1
    · exact Or.inl ⟨reached, if_pos reached⟩
    · refine Or.inr ⟨reached, true, _, if_neg reached, ?_, ?_⟩
      · simp
      · rintro ⟨result, ⟨⟩⟩

/-- The loop gives up at the first failed window, and nowhere else. -/
theorem givesUpAt_iff_isLeast (positive : 1 ≤ settings.workerMaxPollFailures) :
    GivesUpAt settings (cycles.map CycleOutcome.round) i ↔
      IsLeast {j | FailedWindow settings.workerMaxPollFailures cycles j} i := by
  constructor
  · rintro ⟨carried, round, arrived, observed, raises⟩
    obtain ⟨elapsed, below, rfl⟩ := (loopAt_iff positive carried).mp arrived
    rw [Stream'.Seq.map_get?] at observed
    obtain ⟨outcome, present, rfl⟩ := Option.map_eq_some_iff.mp observed
    rcases loopTurn_carried positive present (recoveryBefore cycles i) with
      ⟨full, -⟩ | ⟨-, waits, after, goes, -⟩
    · refine ⟨full, fun j other => ?_⟩
      by_contra earlier
      exact below j (Nat.lt_of_not_le earlier) other
    · rw [goes] at raises
      cases raises
  · rintro ⟨full, least⟩
    have failed : failedAt cycles i = true := full.2 i (by omega) (Nat.le_refl i)
    have present : (cycles.get? i).isSome := by
      unfold failedAt at failed
      split at failed
      · next observed => exact Option.isSome_of_eq_some observed
      · cases failed
    obtain ⟨outcome, observed⟩ := Option.isSome_iff_exists.mp present
    have elapsed : ∀ j, j < i → (cycles.get? j).isSome := by
      intro j early
      obtain ⟨earlier, found⟩ := Stream'.Seq.ge_stable cycles (Nat.le_of_lt early) observed
      exact Option.isSome_of_eq_some found
    have below : ∀ j, j < i → ¬ FailedWindow settings.workerMaxPollFailures cycles j :=
      fun j early other => absurd (least other) (Nat.not_le_of_lt early)
    refine ⟨_, outcome.round, (loopAt_iff positive _).mpr ⟨elapsed, below, rfl⟩, ?_, ?_⟩
    · rw [Stream'.Seq.map_get?, observed]
      rfl
    · rcases loopTurn_carried positive observed (recoveryBefore cycles i) with
        ⟨-, raises⟩ | ⟨short, -⟩
      · exact raises
      · exact absurd full short

/-- The worker gives up at the first cycle that ends a window of
`worker_max_poll_failures` failures, and at no other. Up to there every cycle takes
place, with the latest recovery time, and is followed by a wait when it failed or
processed nothing; a success resets the count. -/
theorem gives_up_at_first_window (positive : 1 ≤ settings.workerMaxPollFailures)
    (cycles : Stream'.Seq CycleOutcome) (i : Nat) :
    (GivesUpAt settings (cycles.map CycleOutcome.round) i ↔
      IsLeast {j | FailedWindow settings.workerMaxPollFailures cycles j} i) ∧
    ((loopAt settings (cycles.map CycleOutcome.round) i).isSome ↔
      (∀ j, j < i → (cycles.get? j).isSome) ∧
        ∀ j, j < i → ¬ FailedWindow settings.workerMaxPollFailures cycles j) ∧
    ∀ carried, loopAt settings (cycles.map CycleOutcome.round) i = some carried →
      LatestRecovery cycles i carried.lastRecovery ∧
      ∀ outcome, cycles.get? i = some outcome →
        ¬ FailedWindow settings.workerMaxPollFailures cycles i → ∃ waits after,
          loopTurn settings.workerMaxPollFailures outcome.round carried = .goesOn waits after ∧
          (waits = true ↔ (∃ failure, outcome = .error failure) ∨
            ∃ recovery, outcome = .ok (recovery, 0)) ∧
          ((∃ result, outcome = .ok result) → after.consecutiveFailures = 0) := by
  refine ⟨givesUpAt_iff_isLeast positive, ?_, ?_⟩
  · rw [Option.isSome_iff_exists]
    simp only [loopAt_iff positive, exists_and_left, exists_eq, and_true]
  · intro carried arrived
    obtain ⟨elapsed, -, rfl⟩ := (loopAt_iff positive carried).mp arrived
    refine ⟨latestRecovery_before elapsed, fun outcome observed short => ?_⟩
    rcases loopTurn_carried positive observed (recoveryBefore cycles i) with
      ⟨full, -⟩ | ⟨-, goes⟩
    · exact absurd full short
    · exact goes

/-- Two failures in a row after a success. -/
def failingCycles : Stream'.Seq CycleOutcome :=
  let failure : PollFailure := ⟨.builtin [.other (lit "OSError")], by decide, by decide⟩
  .ofList [.error failure, .ok (12, 0), .error failure, .error failure]

/-- A worker that tolerates one failure gives up on the second in a row. -/
theorem gives_up_at_first_window_fourth :
    IsLeast {j | FailedWindow 2 failingCycles j} 3 ∧
      GivesUpAt { PollState.smallSettings with workerMaxPollFailures := 2 }
        (failingCycles.map CycleOutcome.round) 3 := by
  have raised : GivesUpAt { PollState.smallSettings with workerMaxPollFailures := 2 }
      (failingCycles.map CycleOutcome.round) 3 := ⟨⟨12, 1⟩, _, by rfl, rfl, by rfl⟩
  exact ⟨(gives_up_at_first_window (by decide) failingCycles 3).1.mp raised, raised⟩

end Cycles

end RlmApi
