import RlmApi.DeliveryInvariant
import RlmApi.LeadsTo
import RlmApi.OrderedBatches

/-!
# No summary starves

A pending summary waits in the outbox until a worker claims it, and a delivery that
fails puts it back with a later place in the order. `Fair` is what this owes to its
environment: the clock goes on, for every summary a claim comes again that does not
skip its row, and no summary stays leased forever. Then a summary is claimed again
and again until it is completed, whatever becomes of the others.

The last assumption is needed. A lease that its worker leaves behind keeps the
summary at its old place in front of the others, where every claim that finds it
stale takes it again.
-/

namespace RlmApi

open RunStore

/-- The database time of the statement that an act executes, if that reads the clock. -/
def DeliveryAct.time : DeliveryAct → Option Timestamp
  | .call now _ _ | .claim _ now _ _ | .quarantine _ now | .mismatch _ now | .complete _ now _
  | .retry _ now | .expire now => some now
  | .write _ _ _ | .writeRaises _ | .completeRaises _ | .abandon _ | .remember _ => none

/-- One statement on one summary, at the time `now`. -/
inductive SummaryChange (now : Timestamp) : Option OutboxRow → OutboxRow → Prop
  | proposed {row : OutboxRow} (availableAt : row.availableAt = now)
      (unclaimed : row.claimedAt = none) : SummaryChange now none row
  | claimed {row : OutboxRow} {workerId : Str} (pending : row.completedAt = none) :
      SummaryChange now (some row) (claimedSummary now workerId row)
  | completed {row version : OutboxRow} (pending : row.completedAt = none)
      (held : row.claimedBy.isSome) (ends : version.completedAt = some now)
      (unclaimed : version.claimedAt = none) (counted : version.attempts = row.attempts) :
      SummaryChange now (some row) version
  | released {row : OutboxRow} {delay : Int} {publicError : Str}
      (pending : row.completedAt = none) (held : row.claimedBy.isSome) (positive : 1 ≤ delay) :
      SummaryChange now (some row) (retriedSummary now delay publicError row)

/-- A worker holds the summary. -/
def OutboxRow.held (row : OutboxRow) : Prop := row.completedAt = none ∧ row.claimedBy.isSome

/-- Nobody holds the summary, and it is not completed. -/
def OutboxRow.free (row : OutboxRow) : Prop := row.completedAt = none ∧ row.claimedBy = none

/-- The summary is not completed. -/
def isPending (row : OutboxRow) : Bool := row.completedAt.isNone

/-- A summary that becomes available later comes later. -/
theorem summaryOrder_later {row other : OutboxRow} (later : row.availableAt < other.availableAt) :
    summaryOrder other row = false := by
  have notBefore : ¬ other.availableAt < row.availableAt := lt_asymm later
  have notTied : ¬ other.availableAt = row.availableAt := ne_of_gt later
  simp [summaryOrder, notBefore, notTied]

namespace SummaryChange

variable {now : Timestamp} {row version : OutboxRow}

/-- A completed summary is not changed. -/
theorem pending (change : SummaryChange now (some row) version) : row.completedAt = none := by
  cases change with
  | claimed pending | completed pending | released pending => exact pending

/-- A free summary is only ever claimed. -/
theorem of_free (change : SummaryChange now (some row) version) (free : row.free) :
    ∃ workerId, version = claimedSummary now workerId row := by
  cases change with
  | claimed => exact ⟨_, rfl⟩
  | completed pending held => simp [free.2] at held
  | released pending held => simp [free.2] at held

/-- A summary that nobody holds after a statement has no time of a claim. -/
theorem unclaimed {before : Option OutboxRow} (change : SummaryChange now before version)
    (unheld : version.claimedBy = none) : version.claimedAt = none := by
  cases change with
  | proposed _ unclaimed => exact unclaimed
  | claimed => cases unheld
  | completed _ _ _ unclaimed => exact unclaimed
  | released => rfl

/-- No statement lowers the count of claims. -/
theorem attempts_le (change : SummaryChange now (some row) version) :
    row.attempts ≤ version.attempts := by
  cases change with
  | claimed => exact Int.le_add_of_nonneg_right (by decide)
  | completed _ _ _ _ counted => exact le_of_eq counted.symm
  | released => exact le_refl _

/-- A summary that is pending after a statement was claimed by it, keeps its place in
the order, or gets a place at the time of the statement or later. -/
theorem places {before : Option OutboxRow} (change : SummaryChange now before version)
    (waits : version.completedAt = none) :
    (∃ row workerId, before = some row ∧ row.completedAt = none ∧
      version = claimedSummary now workerId row) ∨ now ≤ version.availableAt := by
  cases change with
  | proposed availableAt => exact Or.inr (le_of_eq availableAt.symm)
  | claimed pending => exact Or.inl ⟨_, _, rfl, pending, rfl⟩
  | completed _ _ ends => cases waits.symm.trans ends
  | released pending held positive =>
    refine Or.inr (Int.le_add_of_nonneg_right ?_)
    simp only [seconds]
    omega

end SummaryChange

namespace Delivery

variable {embedding : Str → Str × Int} {state state' : Delivery}

/-! ## What an act does to a summary -/

/-- An update under the guard of a lease changes the one summary, or nothing. -/
theorem find?_leasedUpdate (outbox : Outbox) (runId workerId : Str)
    (version : OutboxRow → OutboxRow) (keeps : ∀ row, (version row).runId = row.runId) (id : Str) :
    (outbox.update runId (summaryLeasedBy workerId) version).2.find? id = outbox.find? id ∨
      ∃ row, outbox.find? id = some row ∧ row.held ∧
        (outbox.update runId (summaryLeasedBy workerId) version).2.find? id =
          some (version row) := by
  rw [Table.find?_update outbox runId id keeps]
  cases found : outbox.find? id with
  | none => exact Or.inl rfl
  | some row =>
    by_cases changed : id = runId ∧ summaryLeasedBy workerId row = true
    · refine Or.inr ⟨row, rfl, ?_, by simp only [Option.map_some, if_pos changed]⟩
      have leased := changed.2
      simp only [summaryLeasedBy, Bool.and_eq_true, Option.isNone_iff_eq_none,
        decide_eq_true_eq] at leased
      exact ⟨leased.1, by simp [leased.2]⟩
    · exact Or.inl (by simp only [Option.map_some, if_neg changed])

/-- `retry_summary` releases the one summary it holds, or changes nothing. -/
theorem find?_reschedule (state : Delivery) (now : Timestamp) (item : SummaryOutboxItem)
    (publicError id : Str) :
    (state.reschedule now item publicError).outbox.find? id = state.outbox.find? id ∨
      ∃ version, (state.reschedule now item publicError).outbox.find? id = some version ∧
        SummaryChange now (state.outbox.find? id) version := by
  unfold reschedule
  split
  · next answered outbox rescheduled =>
    simp only [retrySummary, except_bind_ok_iff, pure, Except.pure, Except.ok.injEq,
      Prod.mk.injEq] at rescheduled
    obtain ⟨delay, delayed, -, rfl⟩ := rescheduled
    have positive := (retryDelaySeconds_bounds (by decide) delayed).1
    rcases find?_leasedUpdate state.outbox item.runId item.workerId
        (retriedSummary now delay publicError) (fun _ => rfl) id with
      same | ⟨row, found, held, written⟩
    · exact Or.inl same
    · refine Or.inr ⟨_, written, ?_⟩
      rw [found]
      exact .released held.1 held.2 positive
  · exact Or.inl rfl

/-- An act leaves a summary alone or is one of the statements on it. -/
theorem summaryChange_of_next (sound : state.Sound) {act : DeliveryAct}
    (taken : next embedding act state = some state') (id : Str) :
    state'.outbox.find? id = state.outbox.find? id ∨
      ∃ now version, act.time = some now ∧ state'.outbox.find? id = some version ∧
        SummaryChange now (state.outbox.find? id) version := by
  cases taken_of_next taken with
  | @call now locked operation answer db received performed =>
    have effect := perform_effect sound.queue.linked performed
    rcases effect.completion with ⟨same, -⟩ | ⟨run, arguments, rfl, rfl, -⟩
    · exact Or.inl (congrArg (fun outbox : Outbox => outbox.find? id) same)
    · obtain ⟨embedding, row, -, -, -, unsummarized, after⟩ := sound.summarized effect
      by_cases own : id = run.id
      · refine Or.inr ⟨now, _, rfl, (after id).trans (if_pos own), ?_⟩
        rw [own, unsummarized]
        exact .proposed rfl rfl
      · exact Or.inl ((after id).trans (if_neg own))
  | @claimed workerId now locked staleSeconds row outbox item selected decoded
  | @poisoned workerId now locked staleSeconds row outbox error selected undecoded =>
    obtain ⟨candidate, found, wanted, rfl, rfl⟩ := claimSummaryRow_spec selected
    by_cases own : candidate.runId = id
    · refine Or.inr ⟨now, claimedSummary now workerId candidate, rfl, ?_, ?_⟩
      · exact (Table.find?_put _ _ _).trans (if_pos own)
      · rw [← own, found]
        exact .claimed ((summaryClaimable_iff _ _ _).mp wanted).1
    · exact Or.inl (Table.find?_put_ne _ own)
  | @quarantine workerId runId now phase =>
    rcases find?_leasedUpdate state.outbox runId workerId (quarantinedSummary now)
        (fun _ => rfl) id with same | ⟨row, found, held, written⟩
    · exact Or.inl same
    · refine Or.inr ⟨now, _, rfl, written, ?_⟩
      rw [found]
      exact .completed held.1 held.2 rfl rfl rfl
  | @complete workerId now delivered item phase =>
    rcases find?_leasedUpdate state.outbox item.runId item.workerId
        (completedSummary now) (fun _ => rfl) id with same | ⟨row, found, held, written⟩
    · exact Or.inl same
    · refine Or.inr ⟨now, _, rfl, written, ?_⟩
      rw [found]
      exact .completed held.1 held.2 rfl rfl rfl
  | @mismatch workerId now item phase differs =>
    exact (find?_reschedule state now item _ id).imp_right (fun ⟨version, written, change⟩ =>
      ⟨now, version, rfl, written, change⟩)
  | @retry workerId now item phase =>
    exact (find?_reschedule state now item _ id).imp_right (fun ⟨version, written, change⟩ =>
      ⟨now, version, rfl, written, change⟩)
  | write | writeRaises | completeRaises | abandon | remember | expire => exact Or.inl rfl

/-! ## Unending histories -/

/-- The states of an unending history of acts. An act that cannot be taken, or whose
statement raises, leaves the state as it was. -/
def stateAt (embedding : Str → Str × Int) (acts : Nat → DeliveryAct) : Nat → Delivery
  | 0 => initial
  | n + 1 => (next embedding (acts n) (stateAt embedding acts n)).getD (stateAt embedding acts n)

/-- An idle worker polls the outbox at this moment, and does not skip the summary. -/
def ClaimsPast (embedding : Str → Str × Int) (acts : Nat → DeliveryAct) (id : Str) (n : Nat) :
    Prop :=
  ∃ workerId now locked staleSeconds, acts n = .claim workerId now locked staleSeconds ∧
    (stateAt embedding acts n).phases workerId = .idle ∧ locked id = false

/-- What the environment of the outbox owes its summaries. -/
structure Fair (embedding : Str → Str × Int) (acts : Nat → DeliveryAct) : Prop where
  clock : ∀ time, ∃ start, ∀ n ≥ start, ∀ now, (acts n).time = some now → time < now
  claims : ∀ id, Recurs (ClaimsPast embedding acts id)
  settles : ∀ id, Recurs (fun n => ∀ row,
    (stateAt embedding acts n).outbox.find? id = some row → ¬ row.held)

section Histories

variable {acts : Nat → DeliveryAct}

theorem sound_stateAt (embedding : Str → Str × Int) (acts : Nat → DeliveryAct) (n : Nat) :
    (stateAt embedding acts n).Sound := by
  induction n with
  | zero => exact Sound.initial
  | succ n inductionHypothesis =>
    rw [stateAt]
    cases taken : next embedding (acts n) (stateAt embedding acts n) with
    | none => exact inductionHypothesis
    | some after => exact (inductionHypothesis.step taken).sound

/-- What one moment does to a summary. -/
theorem moment (embedding : Str → Str × Int) (acts : Nat → DeliveryAct) (n : Nat) (id : Str) :
    (stateAt embedding acts (n + 1)).outbox.find? id =
        (stateAt embedding acts n).outbox.find? id ∨
      ∃ now version, (acts n).time = some now ∧
        (stateAt embedding acts (n + 1)).outbox.find? id = some version ∧
        SummaryChange now ((stateAt embedding acts n).outbox.find? id) version := by
  rw [stateAt]
  cases taken : next embedding (acts n) (stateAt embedding acts n) with
  | none => exact Or.inl rfl
  | some after => exact summaryChange_of_next (sound_stateAt embedding acts n) taken id

/-- A summary that nobody holds has no time of a claim. -/
theorem unclaimed_stateAt {n : Nat} {id : Str} {row : OutboxRow}
    (found : (stateAt embedding acts n).outbox.find? id = some row)
    (unheld : row.claimedBy = none) : row.claimedAt = none := by
  induction n generalizing row with
  | zero => cases found
  | succ n inductionHypothesis =>
    rcases moment embedding acts n id with same | ⟨now, version, -, written, change⟩
    · exact inductionHypothesis (same ▸ found) unheld
    · obtain rfl : row = version := Option.some.inj (found.symm.trans written)
      exact change.unclaimed unheld

/-- A stored summary stays stored, completed summaries stay as they are, and the
count of claims does not fall. -/
theorem later_stateAt {n later : Nat} (after : n ≤ later) {id : Str} {row : OutboxRow}
    (found : (stateAt embedding acts n).outbox.find? id = some row) :
    ∃ version, (stateAt embedding acts later).outbox.find? id = some version ∧
      row.attempts ≤ version.attempts ∧ (row.completedAt ≠ none → version = row) := by
  induction later, after using Nat.le_induction with
  | base => exact ⟨row, found, le_refl _, fun _ => rfl⟩
  | succ later _ inductionHypothesis =>
    obtain ⟨middle, between, counted, final⟩ := inductionHypothesis
    rcases moment embedding acts later id with same | ⟨now, version, -, written, change⟩
    · exact ⟨middle, same.trans between, counted, final⟩
    · rw [between] at change
      refine ⟨version, written, le_trans counted change.attempts_le, fun completed => ?_⟩
      exact absurd (final completed ▸ change.pending) completed

/-! ## A free summary is claimed -/

/-- A free summary was claimed. -/
def ClaimedFrom (embedding : Str → Str × Int) (acts : Nat → DeliveryAct) (row : OutboxRow)
    (n : Nat) : Prop :=
  ∃ now workerId,
    (stateAt embedding acts n).outbox.find? row.runId = some (claimedSummary now workerId row)

/-- A free summary keeps its row until it is claimed. -/
theorem free_moment {row : OutboxRow} (free : row.free) {n : Nat}
    (found : (stateAt embedding acts n).outbox.find? row.runId = some row) :
    ClaimedFrom embedding acts row (n + 1) ∨
      (stateAt embedding acts (n + 1)).outbox.find? row.runId = some row := by
  rcases moment embedding acts n row.runId with same | ⟨now, version, -, written, change⟩
  · exact Or.inr (same.trans found)
  · rw [found] at change
    obtain ⟨workerId, rfl⟩ := change.of_free free
    exact Or.inl ⟨now, workerId, written⟩

/-- The pending summaries that come no later than a summary. -/
abbrev upTo (embedding : Str → Str × Int) (acts : Nat → DeliveryAct) (row : OutboxRow)
    (n : Nat) : Finset Str :=
  (stateAt embedding acts n).outbox.upTo isPending summaryOrder row

/-- Once the clock has passed the place of a summary, no summary enters before it. -/
theorem upTo_moment {row : OutboxRow} {n : Nat}
    (passed : ∀ now, (acts n).time = some now → row.availableAt < now) :
    upTo embedding acts row (n + 1) ⊆ upTo embedding acts row n := by
  intro id member
  obtain ⟨other, found, waits, early⟩ := Table.mem_upTo.mp member
  rcases moment embedding acts n id with same | ⟨now, version, timed, written, change⟩
  · exact Table.mem_upTo.mpr ⟨other, same ▸ found, waits, early⟩
  · obtain rfl : other = version := Option.some.inj (found.symm.trans written)
    rcases change.places (Option.isNone_iff_eq_none.mp waits) with
      ⟨before, workerId, stored, pending, rfl⟩ | late
    · exact Table.mem_upTo.mpr ⟨before, stored, Option.isNone_iff_eq_none.mpr pending, early⟩
    · rw [summaryOrder_later (lt_of_lt_of_le (passed now timed) late)] at early
      cases early

theorem upTo_later {row : OutboxRow} {n later : Nat} (after : n ≤ later)
    (passed : ∀ m ≥ n, ∀ now, (acts m).time = some now → row.availableAt < now) :
    upTo embedding acts row later ⊆ upTo embedding acts row n := by
  induction later, after using Nat.le_induction with
  | base => exact Finset.Subset.refl _
  | succ later beyond inductionHypothesis =>
    exact (upTo_moment (passed later beyond)).trans inductionHypothesis

/-- A held summary that is no longer held has left its place for good. -/
theorem upTo_settled {row held : OutboxRow} {n later : Nat} (after : n ≤ later)
    (passed : ∀ m ≥ n, ∀ now, (acts m).time = some now → row.availableAt < now) {id : Str}
    (found : (stateAt embedding acts n).outbox.find? id = some held) (leased : held.held) :
    (∃ version, (stateAt embedding acts later).outbox.find? id = some version ∧ version.held) ∨
      id ∉ upTo embedding acts row later := by
  induction later, after using Nat.le_induction with
  | base => exact Or.inl ⟨held, found, leased⟩
  | succ later beyond inductionHypothesis =>
    have subset : upTo embedding acts row (later + 1) ⊆ upTo embedding acts row later :=
      upTo_moment (passed later beyond)
    rcases inductionHypothesis with ⟨middle, between, still⟩ | gone
    · rcases moment embedding acts later id with same | ⟨now, version, timed, written, change⟩
      · exact Or.inl ⟨middle, same.trans between, still⟩
      · by_cases waits : version.completedAt = none
        · rcases change.places waits with ⟨before, workerId, -, -, rfl⟩ | late
          · exact Or.inl ⟨_, written, waits, rfl⟩
          · refine Or.inr (fun member => ?_)
            obtain ⟨other, found', -, early⟩ := Table.mem_upTo.mp member
            obtain rfl : other = version := Option.some.inj (found'.symm.trans written)
            rw [summaryOrder_later (lt_of_lt_of_le (passed later beyond now timed) late)] at early
            cases early
        · refine Or.inr (fun member => ?_)
          obtain ⟨other, found', pending, -⟩ := Table.mem_upTo.mp member
          obtain rfl : other = version := Option.some.inj (found'.symm.trans written)
          exact waits (Option.isNone_iff_eq_none.mp pending)
    · exact Or.inr (fun member => gone (subset member))

/-- A poll that does not skip a free summary claims some summary at its place or
before it. -/
theorem claims_first {row : OutboxRow} (free : row.free) {n : Nat}
    (found : (stateAt embedding acts n).outbox.find? row.runId = some row)
    (passed : ∀ now, (acts n).time = some now → row.availableAt < now)
    (polls : ClaimsPast embedding acts row.runId n) :
    ∃ candidate now workerId, candidate.runId ∈ upTo embedding acts row n ∧
      (stateAt embedding acts n).outbox.find? candidate.runId = some candidate ∧
      (stateAt embedding acts (n + 1)).outbox.find? candidate.runId =
        some (claimedSummary now workerId candidate) ∧ candidate.completedAt = none := by
  obtain ⟨workerId, now, locked, staleSeconds, called, idle, skips⟩ := polls
  have claimable : summaryClaimable now staleSeconds row = true := by
    refine (summaryClaimable_iff _ _ _).mpr ⟨free.1, ?_, fun claimedAt held => ?_⟩
    · exact le_of_lt (passed now (by rw [called]; rfl))
    · cases (unclaimed_stateAt found free.2).symm.trans held
  obtain ⟨candidate, stored, wanted, early, selected⟩ :=
    claimSummaryRow_first workerId found claimable skips
  have pending := ((summaryClaimable_iff _ _ _).mp wanted).1
  have claimed : (stateAt embedding acts (n + 1)).outbox =
      (stateAt embedding acts n).outbox.put (claimedSummary now workerId candidate) := by
    rw [stateAt, called]
    simp only [next, idle, selected]
    split <;> rfl
  refine ⟨candidate, now, workerId,
    Table.mem_upTo.mpr ⟨candidate, stored, Option.isNone_iff_eq_none.mpr pending, early⟩, stored,
    ?_, pending⟩
  rw [claimed]
  exact Table.find?_put_self _ _

/-- How many pending summaries come no later than a summary. -/
def ahead (embedding : Str → Str × Int) (acts : Nat → DeliveryAct) (row : OutboxRow)
    (n : Nat) : Nat :=
  (upTo embedding acts row n).card

/-- From a moment on, a summary still waits. -/
def WaitsFrom (embedding : Str → Str × Int) (acts : Nat → DeliveryAct) (row : OutboxRow)
    (start n : Nat) : Prop :=
  start ≤ n ∧ (stateAt embedding acts n).outbox.find? row.runId = some row

/-- A waiting summary is claimed, or waits on behind no more summaries than before. -/
theorem waits_moment (embedding : Str → Str × Int) {row : OutboxRow} (free : row.free)
    {start : Nat}
    (passed : ∀ m ≥ start, ∀ now, (acts m).time = some now → row.availableAt < now) (n : Nat)
    (waits : WaitsFrom embedding acts row start n) :
    ClaimedFrom embedding acts row (n + 1) ∨ WaitsFrom embedding acts row start (n + 1) ∧
      ahead embedding acts row (n + 1) ≤ ahead embedding acts row n :=
  (free_moment free waits.2).imp_right (fun next => ⟨⟨Nat.le_succ_of_le waits.1, next⟩,
    Finset.card_le_card (upTo_moment (passed n waits.1))⟩)

/-- No summary starves: a free summary is claimed. The measure is how many summaries
come no later; a poll claims one of them, and when that is settled it comes later
or is done. -/
theorem free_leadsTo (fair : Fair embedding acts) {row : OutboxRow} (free : row.free) :
    LeadsTo (fun n => (stateAt embedding acts n).outbox.find? row.runId = some row)
      (ClaimedFrom embedding acts row) := by
  obtain ⟨start, passed⟩ := fair.clock row.availableAt
  refine LeadsTo.of_settled start (fun n found => free_moment free found) ?_
  change LeadsTo (WaitsFrom embedding acts row start) _
  have kept := waits_moment embedding free passed
  refine LeadsTo.of_measure (ahead embedding acts row) (fun n waits => ?_)
  obtain ⟨poll, after, polls⟩ := fair.claims row.runId n
  rcases LeadsTo.kept_until (ahead embedding acts row) kept waits after with
    ⟨reached, beyond, -, claimed⟩ | ⟨⟨late, same⟩, fewer⟩
  · exact ⟨reached, beyond, Or.inl claimed⟩
  obtain ⟨candidate, now, workerId, member, stored, claimed, pending⟩ :=
    claims_first free same (passed poll late) polls
  rcases kept poll ⟨late, same⟩ with own | ⟨next, fewerStill⟩
  · exact ⟨poll + 1, Nat.le_succ_of_le after, Or.inl own⟩
  obtain ⟨settled, beyond, unheld⟩ := fair.settles candidate.runId (poll + 1)
  have soFar : n ≤ settled := le_trans (Nat.le_succ_of_le after) beyond
  rcases LeadsTo.kept_until (ahead embedding acts row) kept next beyond with
    ⟨reached, more, -, ends⟩ | ⟨still, -⟩
  · exact ⟨reached, le_trans (Nat.le_succ_of_le after) more, Or.inl ends⟩
  have subset : upTo embedding acts row settled ⊆ upTo embedding acts row poll :=
    upTo_later (Nat.le_of_succ_le beyond) (fun m from_ => passed m (le_trans late from_))
  have gone : candidate.runId ∉ upTo embedding acts row settled := by
    have laterOn : ∀ m ≥ poll + 1, ∀ now, (acts m).time = some now → row.availableAt < now :=
      fun m from_ => passed m (le_trans next.1 from_)
    rcases upTo_settled beyond laterOn claimed ⟨pending, rfl⟩ with ⟨version, found, held⟩ | gone
    · exact absurd held (unheld version found)
    · exact gone
  have smaller : ahead embedding acts row settled < ahead embedding acts row poll :=
    Finset.card_lt_card ⟨subset, fun same => gone (same member)⟩
  exact ⟨settled, soFar, Or.inr ⟨still, lt_of_lt_of_le smaller fewer⟩⟩

/-! ## Every summary is claimed until it is completed -/

/-- The summary is completed, for good, and remembered or found undeliverable. -/
def Completed (embedding : Str → Str × Int) (acts : Nat → DeliveryAct) (id : Str)
    (start : Nat) : Prop :=
  ∃ last, last.completedAt ≠ none ∧
    ∀ later ≥ start, (stateAt embedding acts later).outbox.find? id = some last ∧
      (Delivered (stateAt embedding acts later).memory last ∨
        last.lastError = some invalidConfiguration ∧ ¬ last.Deliverable)

theorem completed_of_completedAt {n : Nat} {id : Str} {row : OutboxRow}
    (found : (stateAt embedding acts n).outbox.find? id = some row)
    (completed : row.completedAt ≠ none) : Completed embedding acts id n := by
  refine ⟨row, completed, fun later after => ?_⟩
  obtain ⟨version, stored, -, final⟩ := later_stateAt after found
  obtain rfl := final completed
  have settled := (sound_stateAt embedding acts later).settled id version stored
  rcases settled.completed with pending | delivered | rejected
  · exact absurd pending completed
  · exact ⟨stored, Or.inl delivered⟩
  · exact ⟨stored, Or.inr ⟨rejected, settled.rejected rejected⟩⟩

/-- A summary that is never completed is claimed once more. -/
theorem claimed_again (fair : Fair embedding acts) {n : Nat} {id : Str} {row : OutboxRow}
    (found : (stateAt embedding acts n).outbox.find? id = some row)
    (never : ∀ later ≥ n, ¬ Completed embedding acts id later) :
    ∃ later ≥ n, ∃ version, (stateAt embedding acts later).outbox.find? id = some version ∧
      row.attempts < version.attempts := by
  obtain ⟨settled, after, unheld⟩ := fair.settles id n
  obtain ⟨middle, between, counted, -⟩ := later_stateAt after found
  have pending : middle.completedAt = none := by
    by_contra completed
    exact never settled after (completed_of_completedAt between completed)
  have released : middle.claimedBy = none := by
    by_contra held
    exact unheld middle between ⟨pending, Option.isSome_iff_ne_none.mpr held⟩
  obtain rfl : middle.runId = id := Table.find?_key between
  obtain ⟨claimed, beyond, now, workerId, stored⟩ :=
    free_leadsTo fair ⟨pending, released⟩ settled between
  exact ⟨claimed, le_trans after beyond, _, stored, Int.lt_add_one_of_le counted⟩

/-- In every unending history with a fair environment, a summary is completed for
good or claimed as often as the column can count. -/
theorem no_summary_starves (fair : Fair embedding acts) {n : Nat} {id : Str} {row : OutboxRow}
    (found : (stateAt embedding acts n).outbox.find? id = some row) :
    (∃ start ≥ n, Completed embedding acts id start) ∨
      ∀ bound : Nat, row.attempts + bound ≤ 2147483647 → ∃ later ≥ n, ∃ version,
        (stateAt embedding acts later).outbox.find? id = some version ∧
          row.attempts + bound ≤ version.attempts := by
  by_cases completes : ∃ start ≥ n, Completed embedding acts id start
  · exact Or.inl completes
  · refine Or.inr (fun bound fits => ?_)
    induction bound with
    | zero => exact ⟨n, le_refl n, row, found, by simp⟩
    | succ bound inductionHypothesis =>
      obtain ⟨middle, after, version, between, counted⟩ :=
        inductionHypothesis (by push_cast at fits; omega)
      have never : ∀ later ≥ middle, ¬ Completed embedding acts id later :=
        fun later beyond completed => completes ⟨later, le_trans after beyond, completed⟩
      obtain ⟨later, beyond, last, stored, more⟩ := claimed_again fair between never
      exact ⟨later, le_trans after beyond, last, stored, by push_cast; omega⟩

end Histories

/-- A summary is proposed, claimed, written and completed, and the worker polls on. -/
def deliveredActs : Nat → DeliveryAct
  | 0 => .call 0 (fun _ => false) (.enqueue smallId (smallRequest 2))
  | 1 => .call (seconds 1) (fun _ => false) (.claim (lit "v") 10)
  | 2 => .call (seconds 2) (fun _ => false) (.succeed (smallClaim (lit "v") 1 2) smallSuccess)
  | 3 => .claim (lit "w") (seconds 3) (fun _ => false) 60
  | 4 => .write (lit "w") (lit "memory") true
  | 5 => .complete (lit "w") (seconds 5) true
  | n + 6 => .claim (lit "w") (seconds (n + 6)) (fun _ => false) 60

/-- With every summary completed there is nothing to claim. -/
theorem claimSummaryRow_completed {outbox : Outbox}
    (completed : outbox.rows.all (fun row => row.completedAt.isSome) = true) (now : Timestamp)
    (locked : Str → Bool) (workerId : Str) (staleSeconds : Int) :
    claimSummaryRow now locked workerId staleSeconds outbox = none := by
  have none : outbox.rows.filter (summaryCandidate now locked staleSeconds) = [] := by
    refine List.filter_eq_nil_iff.mpr (fun row member wanted => ?_)
    have ended := List.all_eq_true.mp completed row member
    have pending := ((summaryClaimable_iff _ _ _).mp (Bool.and_eq_true_iff.mp wanted).1).1
    simp [pending] at ended
  simp only [claimSummaryRow, Table.select, none]
  rfl

/-- After the delivery the state stands still. -/
theorem stateAt_deliveredActs (n : Nat) :
    stateAt (fun _ => (lit "embed", 8)) deliveredActs (n + 6) =
      stateAt (fun _ => (lit "embed", 8)) deliveredActs 6 := by
  induction n with
  | zero => rfl
  | succ n inductionHypothesis =>
    have completed : (stateAt (fun _ => (lit "embed", 8)) deliveredActs 6).outbox.rows.all
        (fun row => row.completedAt.isSome) = true := by rfl
    have idle : (stateAt (fun _ => (lit "embed", 8)) deliveredActs 6).phases (lit "w") = .idle := by
      rfl
    rw [show n + 1 + 6 = n + 6 + 1 from rfl, stateAt, inductionHypothesis]
    simp only [deliveredActs, next, idle, claimSummaryRow_completed completed, Option.getD_none]

/-- That history is fair. -/
theorem fair_deliveredActs : Fair (fun _ => (lit "embed", 8)) deliveredActs where
  clock := by
    intro (time : Int)
    refine ⟨time.toNat + 7, fun n after now timed => ?_⟩
    obtain ⟨later, rfl⟩ : ∃ later, n = later + 6 := ⟨n - 6, by omega⟩
    obtain rfl : seconds ((later : Int) + 6) = now := Option.some.inj timed
    have passed : time < ((later : Int) + 6) * 1000000 := by omega
    exact passed
  claims := by
    refine fun id n => ⟨n + 6, Nat.le_add_right n 6, lit "w", _, _, _, rfl, ?_, rfl⟩
    rw [stateAt_deliveredActs]
    rfl
  settles := by
    refine fun id n => ⟨n + 6, Nat.le_add_right n 6, fun row found held => ?_⟩
    rw [stateAt_deliveredActs] at found
    have completed : (stateAt (fun _ => (lit "embed", 8)) deliveredActs 6).outbox.rows.all
        (fun row => row.completedAt.isSome) = true := by rfl
    have ended := List.all_eq_true.mp completed row (Table.find?_mem found)
    simp [held.1] at ended

/-- Its summary is completed for good or claimed as often as the column can count. -/
theorem no_summary_starves_delivered : ∃ row,
    (stateAt (fun _ => (lit "embed", 8)) deliveredActs 3).outbox.find? smallId.text = some row ∧
    ((∃ start ≥ 3, Completed (fun _ => (lit "embed", 8)) deliveredActs smallId.text start) ∨
      ∀ bound : Nat, row.attempts + bound ≤ 2147483647 → ∃ later ≥ 3, ∃ version,
        (stateAt (fun _ => (lit "embed", 8)) deliveredActs later).outbox.find? smallId.text =
          some version ∧ row.attempts + bound ≤ version.attempts) := by
  have proposed : ((stateAt (fun _ => (lit "embed", 8)) deliveredActs 3).outbox.find?
      smallId.text).isSome = true := by rfl
  obtain ⟨row, found⟩ := Option.isSome_iff_exists.mp proposed
  exact ⟨row, found, no_summary_starves fair_deliveredActs found⟩

end Delivery

end RlmApi
