import Mathlib.Algebra.Order.Field.Rat
import Mathlib.Algebra.Order.Archimedean.Basic
import Mathlib.Data.Int.Cast.Lemmas
import Mathlib.Tactic.Linarith
import Mathlib.Tactic.NormNum
import Mathlib.Tactic.Ring

/-!
# The heartbeat loop

`_heartbeat_loop` sleeps for an interval, asks the store for a heartbeat, and
either goes on or gives the lease up, which cancels the execution. Time is
rational and the calls take none, so the loop is a function of the answers.

A lease must be given up before recovery may hand it to somebody else. The loop
compares against its threshold only when it wakes, so whether it gives up in time
depends on whether a tick falls between the threshold and the deadline.
-/

namespace RlmApi

/-- How an awaited `store.heartbeat` ends. -/
inductive Heartbeat where
  | answered (owned : Bool)
  | raised
deriving DecidableEq

/-- `max(1.0, min(30.0, stale_seconds / 3))`, the interval `process_claim` passes. -/
def heartbeatInterval (staleSeconds : Int) : ℚ := max 1 (min 30 (staleSeconds / 3))

/-- What the loop makes of a heartbeat: the last confirmation it goes on with, or
none when it gives the lease up. -/
def confirmedAfter (staleSeconds : Int) (now lastConfirmed : ℚ) : Heartbeat → Option ℚ
  | .answered true => some now
  | .answered false => none
  | .raised => if now - lastConfirmed < staleSeconds * (9 / 10) then some lastConfirmed else none

/-- The loop before its next sleep, or ended by `execution_task.cancel()`. -/
inductive HeartbeatLoop where
  | waiting (now lastConfirmed : ℚ)
  | cancelled (time : ℚ)

namespace HeartbeatLoop

/-- One turn of the loop. -/
def turn (interval : ℚ) (staleSeconds : Int) (heartbeat : Heartbeat) :
    HeartbeatLoop → HeartbeatLoop
  | .waiting now lastConfirmed =>
    match confirmedAfter staleSeconds (now + interval) lastConfirmed heartbeat with
    | some confirmed => .waiting (now + interval) confirmed
    | none => .cancelled (now + interval)
  | .cancelled time => .cancelled time

/-- The loop of `process_claim` after so many turns. -/
def after (staleSeconds : Int) (heartbeats : Nat → Heartbeat) : Nat → HeartbeatLoop
  | 0 => .waiting 0 0
  | n + 1 => (after staleSeconds heartbeats n).turn (heartbeatInterval staleSeconds) staleSeconds
      (heartbeats n)

variable {staleSeconds : Int} {heartbeats : Nat → Heartbeat} {k : Nat} {t : ℚ}

theorem interval_pos (staleSeconds : Int) : 0 < heartbeatInterval staleSeconds :=
  lt_of_lt_of_le one_pos (le_max_left 1 _)

/-- A cancelled loop stays as it is. -/
theorem after_of_cancelled {n later : Nat} {time : ℚ}
    (cancelled : after staleSeconds heartbeats n = .cancelled time) (le : n ≤ later) :
    after staleSeconds heartbeats later = .cancelled time := by
  induction later, le using Nat.le_induction with
  | base => exact cancelled
  | succ later _ ih => rw [after, ih, turn]

/-- The loop gives the lease up at the `m`-th heartbeat from turn `k` on, confirmed
last right before it: the store refuses it, or it raises past the threshold. -/
def GivesUp (staleSeconds : Int) (heartbeats : Nat → Heartbeat) (k m : Nat) : Prop :=
  heartbeats (k + m) = .answered false ∨
    staleSeconds * (9 / 10) ≤ (m + 1) * heartbeatInterval staleSeconds

/-- No heartbeat from turn `k` on is confirmed, and turn `k` begins at the time `t`
of the last confirmation. -/
structure Silent (staleSeconds : Int) (heartbeats : Nat → Heartbeat) (k : Nat) (t : ℚ) : Prop where
  confirmed : after staleSeconds heartbeats k = .waiting t t
  silent : ∀ later, k ≤ later → heartbeats later ≠ .answered true

/-- What a silent heartbeat does to the loop. -/
theorem Silent.confirmedAfter_eq (silence : Silent staleSeconds heartbeats k t) (m : Nat) (now : ℚ)
    (elapsed : now - t = (m + 1) * heartbeatInterval staleSeconds) :
    (GivesUp staleSeconds heartbeats k m → confirmedAfter staleSeconds now t (heartbeats (k + m)) =
        none) ∧
      (¬ GivesUp staleSeconds heartbeats k m →
        confirmedAfter staleSeconds now t (heartbeats (k + m)) = some t) := by
  cases answer : heartbeats (k + m) with
  | answered owned =>
    cases owned with
    | true => exact absurd answer (silence.silent (k + m) (Nat.le_add_right k m))
    | false => simp [GivesUp, answer, confirmedAfter]
  | raised => simp [GivesUp, answer, confirmedAfter, elapsed]

/-- Before it gives up, a silent loop wakes once every interval. -/
theorem Silent.waiting (silence : Silent staleSeconds heartbeats k t) (m : Nat)
    (goesOn : ∀ earlier < m, ¬ GivesUp staleSeconds heartbeats k earlier) :
    after staleSeconds heartbeats (k + m) =
      .waiting (t + m * heartbeatInterval staleSeconds) t := by
  induction m with
  | zero => simpa using silence.confirmed
  | succ m ih =>
    have before := ih (fun earlier lt => goesOn earlier (Nat.lt_succ_of_lt lt))
    have elapsed : t + m * heartbeatInterval staleSeconds + heartbeatInterval staleSeconds - t =
        (m + 1) * heartbeatInterval staleSeconds := by ring
    have kept := (silence.confirmedAfter_eq m _ elapsed).2 (goesOn m (Nat.lt_succ_self m))
    rw [← Nat.add_assoc, after, before, turn, kept]
    simp only [Nat.cast_succ, HeartbeatLoop.waiting.injEq, and_true]
    ring

/-- The first heartbeat at which it gives up cancels the execution. -/
theorem Silent.cancelled (silence : Silent staleSeconds heartbeats k t) {m : Nat}
    (goesOn : ∀ earlier < m, ¬ GivesUp staleSeconds heartbeats k earlier)
    (givesUp : GivesUp staleSeconds heartbeats k m) :
    after staleSeconds heartbeats (k + m + 1) =
      .cancelled (t + (m + 1) * heartbeatInterval staleSeconds) := by
  have elapsed : t + m * heartbeatInterval staleSeconds + heartbeatInterval staleSeconds - t =
      (m + 1) * heartbeatInterval staleSeconds := by ring
  have none := (silence.confirmedAfter_eq m _ elapsed).1 givesUp
  rw [after, silence.waiting m goesOn, turn, none]
  simp only [HeartbeatLoop.cancelled.injEq]
  ring

/-- A silent loop gives up in the end: its ticks pass the threshold. -/
theorem exists_givesUp (staleSeconds : Int) (heartbeats : Nat → Heartbeat) (k : Nat) :
    ∃ m, GivesUp staleSeconds heartbeats k m := by
  obtain ⟨m, above⟩ := Archimedean.arch ((staleSeconds : ℚ) * (9 / 10)) (interval_pos staleSeconds)
  refine ⟨m, Or.inr (above.trans ?_)⟩
  rw [nsmul_eq_mul]
  have := interval_pos staleSeconds
  linarith

/-- A silent loop cancels the execution by a deadline exactly when it gives up at a
heartbeat no later than that. -/
theorem Silent.cancels_by_iff (silence : Silent staleSeconds heartbeats k t) (deadline : ℚ) :
    (∃ n time, after staleSeconds heartbeats n = .cancelled time ∧ time ≤ t + deadline) ↔
      ∃ m, GivesUp staleSeconds heartbeats k m ∧
        (m + 1) * heartbeatInterval staleSeconds ≤ deadline := by
  classical
  have ends := exists_givesUp staleSeconds heartbeats k
  have cancelled := silence.cancelled (fun _ lt => Nat.find_min ends lt) (Nat.find_spec ends)
  constructor
  · rintro ⟨n, time, given, inTime⟩
    have first := after_of_cancelled given (Nat.le_max_left n (k + Nat.find ends + 1))
    rw [after_of_cancelled cancelled (Nat.le_max_right _ _), HeartbeatLoop.cancelled.injEq] at first
    exact ⟨Nat.find ends, Nat.find_spec ends, by linarith⟩
  · rintro ⟨m, givesUp, inTime⟩
    refine ⟨_, _, cancelled, ?_⟩
    have least : (Nat.find ends : ℚ) ≤ m := Nat.cast_le.mpr (Nat.find_min' ends givesUp)
    have := mul_le_mul_of_nonneg_right least (interval_pos staleSeconds).le
    linarith

/-! ## The threshold and the deadline -/

/-- The interval is a third of the deadline or 30 seconds, and one second for the
smallest deadlines. -/
theorem interval_eq (staleSeconds : Int) :
    (staleSeconds ≤ 3 ∧ heartbeatInterval staleSeconds = 1) ∨
      (staleSeconds ≤ 90 ∧ heartbeatInterval staleSeconds = staleSeconds / 3) ∨
      (90 < staleSeconds ∧ heartbeatInterval staleSeconds = 30) := by
  rcases le_or_gt staleSeconds 3 with short | long
  · have bound : (staleSeconds : ℚ) ≤ 3 := by exact_mod_cast short
    refine Or.inl ⟨short, max_eq_left (min_le_of_right_le ?_)⟩
    linarith
  have above : (3 : ℚ) < staleSeconds := by exact_mod_cast long
  rcases le_or_gt staleSeconds 90 with middle | longer
  · have bound : (staleSeconds : ℚ) ≤ 90 := by exact_mod_cast middle
    refine Or.inr (Or.inl ⟨middle, ?_⟩)
    rw [heartbeatInterval, min_eq_right (by linarith), max_eq_right (by linarith)]
  · have bound : (90 : ℚ) < staleSeconds := by exact_mod_cast longer
    refine Or.inr (Or.inr ⟨longer, ?_⟩)
    rw [heartbeatInterval, min_eq_left (by linarith), max_eq_right (by norm_num)]

/-- A multiple of the interval lies between the threshold and the deadline. -/
def TickBeforeDeadline (staleSeconds : Int) : Prop :=
  staleSeconds ≤ 90 ∨ 9 * staleSeconds ≤ 10 * (30 * (staleSeconds / 30))

instance (staleSeconds : Int) : Decidable (TickBeforeDeadline staleSeconds) := instDecidableOr

/-- Up to 90 seconds the deadline itself is a tick. Beyond, the ticks are 30 seconds
apart and the last one before the deadline has to be past the threshold. -/
theorem tickBeforeDeadline_iff (positive : 1 ≤ staleSeconds) :
    (∃ m : Nat, staleSeconds * (9 / 10) ≤ (m + 1) * heartbeatInterval staleSeconds ∧
      (m + 1) * heartbeatInterval staleSeconds ≤ staleSeconds) ↔
        TickBeforeDeadline staleSeconds := by
  have first : (1 : ℚ) ≤ staleSeconds := by exact_mod_cast positive
  rcases interval_eq staleSeconds with ⟨short, interval⟩ | ⟨middle, interval⟩ | ⟨long, interval⟩
  · refine iff_of_true ⟨(staleSeconds - 1).toNat, ?_⟩ (Or.inl (by omega))
    have counted : (((staleSeconds - 1).toNat : Nat) : ℚ) + 1 = staleSeconds := by
      have exact : (((staleSeconds - 1).toNat : Nat) : Int) + 1 = staleSeconds := by omega
      exact_mod_cast exact
    rw [counted, interval]
    constructor <;> linarith
  · refine iff_of_true ⟨2, ?_⟩ (Or.inl middle)
    rw [interval]
    constructor <;> push_cast <;> linarith
  · rw [interval]
    constructor
    · rintro ⟨m, past, inTime⟩
      have past' : 9 * staleSeconds ≤ 10 * (30 * ((m : Int) + 1)) := by
        have scaled : (9 : ℚ) * staleSeconds ≤ 10 * (30 * ((m : Int) + 1)) := by
          push_cast
          linarith
        exact_mod_cast scaled
      have inTime' : ((m : Int) + 1) * 30 ≤ staleSeconds := by exact_mod_cast inTime
      have last : (m : Int) + 1 ≤ staleSeconds / 30 := by omega
      exact Or.inr (by omega)
    · rintro (short | multiple)
      · omega
      · refine ⟨(staleSeconds / 30 - 1).toNat, ?_⟩
        have counted : (((staleSeconds / 30 - 1).toNat : Nat) : ℚ) + 1 =
            ((staleSeconds / 30 : Int) : ℚ) := by
          have exact : (((staleSeconds / 30 - 1).toNat : Nat) : Int) + 1 = staleSeconds / 30 := by
            omega
          exact_mod_cast exact
        have below : staleSeconds / 30 * 30 ≤ staleSeconds := by omega
        have past : (9 : ℚ) * staleSeconds ≤ 10 * (30 * ((staleSeconds / 30 : Int) : ℚ)) := by
          exact_mod_cast multiple
        rw [counted]
        refine ⟨by linarith, ?_⟩
        exact_mod_cast below

/-- A silent lease is given up before recovery may take it exactly when a tick lies
between the threshold and the deadline, or the store refuses a heartbeat in time. -/
theorem cancels_in_time_iff (positive : 1 ≤ staleSeconds)
    (silence : Silent staleSeconds heartbeats k t) :
    (∃ n time, after staleSeconds heartbeats n = .cancelled time ∧ time ≤ t + staleSeconds) ↔
      TickBeforeDeadline staleSeconds ∨
        ∃ m : Nat, heartbeats (k + m) = .answered false ∧
          (m + 1) * heartbeatInterval staleSeconds ≤ staleSeconds := by
  rw [silence.cancels_by_iff, ← tickBeforeDeadline_iff positive, ← exists_or]
  refine exists_congr (fun m => ?_)
  rw [GivesUp, or_and_right]
  exact or_comm

/-- With a deadline of two minutes the fourth tick is the deadline. -/
theorem cancels_in_time_two_minutes :
    ∃ n time, after 120 (fun _ => .raised) n = .cancelled time ∧ time ≤ 0 + (120 : Int) := by
  have silence : Silent 120 (fun _ => .raised) 0 0 := ⟨rfl, by simp⟩
  exact (cancels_in_time_iff (by decide) silence).mpr (Or.inl (by decide))

/-- With a deadline of 101 seconds an outage of the database leaves the execution
running until 120 seconds after its last heartbeat. -/
theorem cancelled_late :
    Silent 101 (fun _ => .raised) 0 0 ∧ after 101 (fun _ => .raised) 4 = .cancelled 120 ∧
      ¬ ∃ n time, after 101 (fun _ => .raised) n = .cancelled time ∧ time ≤ 0 + (101 : Int) := by
  have silence : Silent 101 (fun _ => .raised) 0 0 := ⟨rfl, by simp⟩
  have ended : after 101 (fun _ => .raised) 4 = .cancelled 120 := by
    norm_num [after, turn, confirmedAfter, heartbeatInterval]
  refine ⟨silence, ended, ?_⟩
  rintro ⟨n, time, given, inTime⟩
  have late := after_of_cancelled ended (Nat.le_max_left 4 n)
  rw [after_of_cancelled given (Nat.le_max_right 4 n), HeartbeatLoop.cancelled.injEq] at late
  norm_num [late] at inTime

end HeartbeatLoop

end RlmApi
