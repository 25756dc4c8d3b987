import RlmApi.Footprints
import RlmApi.TransitionSystems

/-!
# Interleaved transactions

Any number of sessions run transactions against one store, one statement at a
time, at the isolation level READ COMMITTED. A statement sees the committed rows
and its own session's writes, a row that a statement writes or selects for update
stays locked until the session ends, and other sessions see the writes when the
session commits. A statement that needs a lock another session holds has no step
until that session ends; a session may roll back at any time.

The result is that such a run is serial for whoever looks only at the committed
store: `World.Reachable.commits` turns it into a sequence of commits, each with a
footprint that satisfies the rule `Transaction.Ensures` computes for its
transaction and that leads from the store right before the commit to the store
right after it. What makes it so is that a session's footprint holds exactly the
keys the session has locked, and that nobody else can change those.
-/

namespace RlmApi

variable {κ ρ β σ δ α ω τ : Type}

/-- A transaction in progress: the statements still to come, the keys it has
locked, and its uncommitted row versions, log entries and side table change. -/
structure Session (κ ρ β σ δ α ω : Type) where
  call : ω
  program : Transaction κ ρ β σ δ α
  locks : List κ
  versions : List ρ
  entries : List (LogEntry κ β)
  side : σ → σ

/-- A session that has just begun. -/
def Session.opened (call : ω) (program : Transaction κ ρ β σ δ α) :
    Session κ ρ β σ δ α ω :=
  ⟨call, program, [], [], [], id⟩

namespace Session

variable [DecidableEq κ] {key : ρ → κ}

/-- What the session's next statement sees. -/
def view (session : Session κ ρ β σ δ α ω) (committed : Store key β σ) : Store key β σ where
  table := session.versions.foldl Table.put committed.table
  log := committed.log ++ session.entries
  side := session.side committed.side

/-- One statement of a session, while the keys in `held` are locked by others. -/
inductive Advance (committed : Store key β σ) (held : κ → Prop) :
    Session κ ρ β σ δ α ω → Session κ ρ β σ δ α ω → Prop
  | insert {session : Session κ ρ β σ δ α ω} {row : ρ} {next : Transaction κ ρ β σ δ α}
      (statement : session.program = .insert row next) (free : ¬ held (key row))
      (fresh : (session.view committed).table.find? (key row) = none) :
      Advance committed held session
        { session with
          program := next
          locks := key row :: session.locks
          versions := session.versions ++ [row] }
  | locked {session : Session κ ρ β σ δ α ω} {k : κ} {row : ρ}
      {next : Transaction κ ρ β σ δ α}
      (statement : session.program = .lock k next) (free : ¬ held k)
      (found : (session.view committed).table.find? k = some row) :
      Advance committed held session
        { session with program := next, locks := k :: session.locks }
  | missing {session : Session κ ρ β σ δ α ω} {k : κ} {next : Transaction κ ρ β σ δ α}
      (statement : session.program = .lock k next)
      (missing : (session.view committed).table.find? k = none) :
      Advance committed held session { session with program := next }
  | append {session : Session κ ρ β σ δ α ω} {k : κ} {body : β}
      {next : Transaction κ ρ β σ δ α}
      (statement : session.program = .append k body next)
      (owner : ((session.view committed).table.find? k).isSome = true) :
      Advance committed held session
        { session with
          program := next
          entries := session.entries ++
            [⟨k, LogEntry.nextSequence (LogEntry.ofOwner k (session.view committed).log), body⟩] }
  | matched {session : Session κ ρ β σ δ α ω} {k : κ} {guard : ρ → Bool} {change : ρ → ρ}
      {next : Option ρ → Transaction κ ρ β σ δ α} {row : ρ}
      (statement : session.program = .update k guard change next) (free : ¬ held k)
      (found : (session.view committed).table.find? k = some row) (passes : guard row = true) :
      Advance committed held session
        { session with
          program := next (some (change row))
          locks := k :: session.locks
          versions := session.versions ++ [change row] }
  -- A row that fails the filter is not waited for, so it may be locked.
  | unmatched {session : Session κ ρ β σ δ α ω} {k : κ} {guard : ρ → Bool} {change : ρ → ρ}
      {next : Option ρ → Transaction κ ρ β σ δ α}
      (statement : session.program = .update k guard change next)
      (unmatched : ((session.view committed).table.find? k).filter guard = none) :
      Advance committed held session { session with program := next none }
  | pick {session : Session κ ρ β σ δ α ω} {wanted : ρ → Bool} {before : ρ → ρ → Bool}
      {limit : Nat} {next : List ρ → Transaction κ ρ β σ δ α} {skips : κ → Bool} {rows : List ρ}
      (statement : session.program = .pick wanted before limit next)
      (skipped : ∀ k, skips k = true ↔ held k)
      (selected : rows = (session.view committed).table.select
        (fun row => wanted row && !skips (key row)) before limit) :
      Advance committed held session
        { session with program := next rows, locks := rows.map key ++ session.locks }
  | adjust {session : Session κ ρ β σ δ α ω} {change : σ → σ} {next : Transaction κ ρ β σ δ α}
      (statement : session.program = .adjust change next) :
      Advance committed held session
        { session with program := next, side := change ∘ session.side }

/-- Under each key the view is the session's last version over the committed row. -/
theorem find?_view (session : Session κ ρ β σ δ α ω) (committed : Store key β σ) (k : κ) :
    (session.view committed).table.find? k =
      ((session.versions.filter (fun row => decide (key row = k))).getLast?).or
        (committed.table.find? k) :=
  Table.find?_foldl_put session.versions committed.table k

/-- Under each key the view has the session's entries after the committed ones. -/
theorem ofOwner_view (session : Session κ ρ β σ δ α ω) (committed : Store key β σ) (k : κ) :
    LogEntry.ofOwner k (session.view committed).log =
      LogEntry.ofOwner k committed.log ++ LogEntry.ofOwner k session.entries :=
  LogEntry.ofOwner_append k committed.log session.entries

/-- Keys under which two stores agree look alike to the same session. -/
theorem dossier?_view_congr {session : Session κ ρ β σ δ α ω} {committed committed' : Store key β σ}
    {k : κ} (row : committed'.table.find? k = committed.table.find? k)
    (entries : LogEntry.ofOwner k committed'.log = LogEntry.ofOwner k committed.log) :
    (session.view committed').dossier? k = (session.view committed).dossier? k := by
  simp only [Store.dossier?, find?_view, ofOwner_view, row, entries]

/-- A key the session has not written looks as it is committed. -/
theorem dossier?_view_of_unwritten {session : Session κ ρ β σ δ α ω} {committed : Store key β σ}
    {k : κ} (unversioned : ∀ row ∈ session.versions, key row ≠ k)
    (unlogged : ∀ entry ∈ session.entries, entry.owner ≠ k) :
    (session.view committed).table.find? k = committed.table.find? k ∧
      LogEntry.ofOwner k (session.view committed).log = LogEntry.ofOwner k committed.log := by
  have rows : session.versions.filter (fun row => decide (key row = k)) = [] :=
    List.filter_eq_nil_iff.mpr (fun row member => by simpa using unversioned row member)
  have entries : LogEntry.ofOwner k session.entries = [] :=
    List.filter_eq_nil_iff.mpr (fun entry member => by simpa using unlogged entry member)
  rw [find?_view, ofOwner_view, rows, entries]
  simp

end Session

/-! ## Sessions with their footprints -/

/-- What may be called, and the rule of every call. `provides` names rows that
exist once a call has committed with an answer, `known` the rows a call relies on. -/
structure Protocol {κ ρ : Type} [DecidableEq κ] (key : ρ → κ) (β σ δ α ω : Type) where
  program : ω → Transaction κ ρ β σ δ α
  known : ω → κ → Prop
  provides : ω → α → κ → Prop
  post : ω → α → Footprint κ ρ β σ → Prop
  ensured : ∀ call, (program call).Ensures key (known call) (post call) Footprint.untouched
  provided : ∀ call answer footprint k, post call answer footprint → provides call answer k →
    (footprint.touched k).isSome = true
  /-- Who may begin which call, given the answers committed so far. -/
  starts : List (ω × α) → ω → Prop
  promised : ∀ answers call k, starts answers call → known call k →
    ∃ earlier ∈ answers, provides earlier.1 earlier.2 k

section Tracking

variable [DecidableEq κ] {key : ρ → κ} {protocol : Protocol key β σ δ α ω}
  {committed committed' : Store key β σ}

/-- The session's statements so far have this footprint. It holds exactly the
locked keys, and the session wrote under no other. -/
structure Session.Tracked (protocol : Protocol key β σ δ α ω) (committed : Store key β σ)
    (session : Session κ ρ β σ δ α ω) (footprint : Footprint κ ρ β σ) : Prop where
  ensured : session.program.Ensures key (protocol.known session.call) (protocol.post session.call)
    footprint
  leads : footprint.Leads committed (session.view committed)
  holds : ∀ k, (footprint.touched k).isSome = true ↔ k ∈ session.locks
  versioned : ∀ row ∈ session.versions, key row ∈ session.locks
  logged : ∀ entry ∈ session.entries, entry.owner ∈ session.locks
  side : session.side = footprint.side
  promised : ∀ k, protocol.known session.call k → (committed.table.find? k).isSome = true

namespace Session.Tracked

variable {session session' : Session κ ρ β σ δ α ω} {footprint : Footprint κ ρ β σ}
  {held : κ → Prop}

/-- A session that has just begun has touched nothing. -/
theorem opened {call : ω} (linked : committed.Linked)
    (promised : ∀ k, protocol.known call k → (committed.table.find? k).isSome = true) :
    (Session.opened call (protocol.program call)).Tracked protocol committed
      Footprint.untouched where
  ensured := protocol.ensured call
  leads := by
    have viewed : (Session.opened call (protocol.program call)).view committed = committed := by
      simp [Session.opened, Session.view]
    rw [viewed]
    exact Footprint.Leads.refl linked
  holds k := by simp [Session.opened]
  versioned row member := by simp [Session.opened] at member
  logged entry member := by simp [Session.opened] at member
  side := rfl
  promised := promised

/-- An unlocked key is untouched and looks as it is committed. -/
theorem unlocked (tracked : session.Tracked protocol committed footprint) {k : κ}
    (free : k ∉ session.locks) (store : Store key β σ) :
    footprint.touched k = none ∧ (session.view store).table.find? k = store.table.find? k ∧
      LogEntry.ofOwner k (session.view store).log = LogEntry.ofOwner k store.log := by
  refine ⟨?_, dossier?_view_of_unwritten ?_ ?_⟩
  · rw [← Option.not_isSome_iff_eq_none, tracked.holds k]
    exact free
  · rintro row member rfl
    exact free (tracked.versioned row member)
  · rintro entry member rfl
    exact free (tracked.logged entry member)

/-- Another session's commit leaves a session's footprint valid, as long as the
committed store stayed as it was under the keys the session has locked. -/
theorem transfer (tracked : session.Tracked protocol committed footprint)
    (linked : committed'.Linked)
    (stable : ∀ k ∈ session.locks, committed'.table.find? k = committed.table.find? k ∧
      LogEntry.ofOwner k committed'.log = LogEntry.ofOwner k committed.log)
    (kept : ∀ k, (committed.table.find? k).isSome = true →
      (committed'.table.find? k).isSome = true) :
    session.Tracked protocol committed' footprint where
  ensured := tracked.ensured
  leads := by
    refine ⟨fun k absent => ?_, fun k touched found => ?_, ?_, fun k absent => ?_⟩
    · have free : k ∉ session.locks := by
        rw [← tracked.holds k, absent]
        simp
      obtain ⟨-, row, entries⟩ := tracked.unlocked free committed'
      simp only [Store.dossier?, row, entries]
    · have locked : k ∈ session.locks := (tracked.holds k).mp (by rw [found]; rfl)
      obtain ⟨row, entries⟩ := stable k locked
      obtain ⟨before, after⟩ := tracked.leads.touched k touched found
      rw [dossier?_view_congr row entries, after]
      exact ⟨by simp only [before, Store.dossier?, row, entries], rfl⟩
    · exact congrFun tracked.side committed'.side
    · by_cases locked : k ∈ session.locks
      · obtain ⟨row, entries⟩ := stable k locked
        rw [find?_view, row, ← find?_view] at absent
        rw [ofOwner_view, entries, ← ofOwner_view]
        exact tracked.leads.linked k absent
      · obtain ⟨-, row, entries⟩ := tracked.unlocked locked committed'
        rw [entries]
        exact linked k (row ▸ absent)
  holds := tracked.holds
  versioned := tracked.versioned
  logged := tracked.logged
  side := tracked.side
  promised k known := kept k (tracked.promised k known)

/-- Recording one more key records one more lock. -/
theorem holds_set (tracked : session.Tracked protocol committed footprint) (k : κ)
    (touched : Touched κ ρ β) (other : κ) :
    ((footprint.set k touched).touched other).isSome = true ↔ other ∈ k :: session.locks := by
  rw [Footprint.touched_set, List.mem_cons, ← tracked.holds other]
  by_cases same : other = k <;> simp [same]

/-- Recording a key the session had locked before records no further lock. -/
theorem holds_reset (tracked : session.Tracked protocol committed footprint) {k : κ}
    (locked : k ∈ session.locks) (touched : Touched κ ρ β) (other : κ) :
    ((footprint.set k touched).touched other).isSome = true ↔ other ∈ session.locks := by
  rw [tracked.holds_set k touched other, List.mem_cons, or_iff_right_iff_imp]
  rintro rfl
  exact locked

/-- Picked rows are held as well. -/
theorem holds_lockRows (tracked : session.Tracked protocol committed footprint) (rows : List ρ)
    (entriesOf : κ → List (LogEntry κ β)) (k : κ) :
    ((footprint.lockRows key rows entriesOf).touched k).isSome = true ↔
      k ∈ rows.map key ++ session.locks := by
  rw [List.mem_append, ← tracked.holds k, Footprint.lockRows]
  simp only [Option.isSome_or, Option.isSome_map, Bool.or_eq_true, List.find?_isSome,
    decide_eq_true_eq, List.mem_map]
  exact or_comm

/-- Every statement keeps the footprint exact. The rule of the statement's
transaction says what the footprint has become; what is left is that it still
holds exactly the locked keys. -/
theorem advance (tracked : session.Tracked protocol committed footprint)
    (advanced : Advance committed held session session') :
    ∃ footprint', session'.Tracked protocol committed footprint' := by
  obtain ⟨ensured, leads, holds, versioned, logged, side, promised⟩ := tracked
  have tracked : session.Tracked protocol committed footprint :=
    ⟨ensured, leads, holds, versioned, logged, side, promised⟩
  cases advanced with
  | @insert row next statement free fresh =>
    rw [statement] at ensured
    obtain ⟨untouched, inserted⟩ := leads.insert fresh
    refine ⟨_, ensured untouched, ?_, tracked.holds_set _ _, ?_,
      fun entry member => List.mem_cons_of_mem _ (logged entry member), side, promised⟩
    · simpa only [view, List.foldl_append, List.foldl_cons, List.foldl_nil] using inserted
    · intro version member
      rcases List.mem_append.mp member with early | last
      · exact List.mem_cons_of_mem _ (versioned version early)
      · rw [List.mem_singleton.mp last]
        exact List.mem_cons_self
  | @locked k row next statement free found =>
    rw [statement] at ensured
    obtain ⟨touched, continued, led⟩ := ensured.lock_found leads found
    exact ⟨_, continued, led, tracked.holds_set _ _,
      fun row member => List.mem_cons_of_mem _ (versioned row member),
      fun entry member => List.mem_cons_of_mem _ (logged entry member), side, promised⟩
  | missing statement missing =>
    rw [statement] at ensured
    exact ⟨footprint, ensured.lock_missing leads promised missing, leads, holds, versioned, logged,
      side, promised⟩
  | @append k body next statement owner =>
    rw [statement] at ensured
    cases found : footprint.touched k with
    | none => simp [Transaction.Ensures, found] at ensured
    | some touched =>
      have locked : k ∈ session.locks := (holds k).mp (by rw [found]; rfl)
      simp only [Transaction.Ensures, found] at ensured
      have appended := leads.append found body
      refine ⟨_, ensured, ?_, tracked.holds_reset locked _, versioned, ?_, side, promised⟩
      · simpa only [view, LogEntry.extend, List.append_assoc] using appended
      · intro entry member
        rcases List.mem_append.mp member with early | last
        · exact logged entry early
        · rw [List.mem_singleton.mp last]
          exact locked
  | @matched k guard change next row statement free found passes =>
    rw [statement] at ensured
    have keyed : key (change row) = k := by
      simp only [Transaction.Ensures] at ensured
      exact (ensured.1 row).trans (Table.find?_key found)
    obtain ⟨touched, continued, led⟩ := ensured.update_matched leads found passes
    refine ⟨_, continued, ?_, tracked.holds_set _ _, ?_,
      fun entry member => List.mem_cons_of_mem _ (logged entry member), side, promised⟩
    · simpa only [view, List.foldl_append, List.foldl_cons, List.foldl_nil] using led
    · intro version member
      rcases List.mem_append.mp member with early | last
      · exact List.mem_cons_of_mem _ (versioned version early)
      · rw [List.mem_singleton.mp last, keyed]
        exact List.mem_cons_self
  | unmatched statement unmatched =>
    rw [statement] at ensured
    exact ⟨footprint, ensured.update_unmatched leads unmatched, leads, holds, versioned, logged,
      side, promised⟩
  | @pick wanted before limit next skips rows statement skipped selected =>
    rw [statement] at ensured
    have stored : ∀ row ∈ rows, (session.view committed).table.find? (key row) = some row ∧
        wanted row = true := by
      intro row member
      rw [selected] at member
      obtain ⟨inTable, passes⟩ := Table.mem_select member
      exact ⟨Table.find?_of_mem inTable, (Bool.and_eq_true_iff.mp passes).1⟩
    have distinct : (rows.map key).Nodup := selected ▸ Table.select_distinct _ _ _ _
    have bounded : rows.length ≤ limit := selected ▸ Table.select_length_le _ _ _ _
    have continued := ensured.picked leads distinct bounded
      (fun row member => (stored row member).2) (fun row member => (stored row member).1)
    exact ⟨_, continued, leads.lockRows (fun row member => (stored row member).1),
      tracked.holds_lockRows rows _,
      fun row member => List.mem_append_right _ (versioned row member),
      fun entry member => List.mem_append_right _ (logged entry member), side, promised⟩
  | @adjust change next statement =>
    rw [statement] at ensured
    exact ⟨_, ensured, leads.adjust change, holds, versioned, logged,
      congrArg (change ∘ ·) side, promised⟩

end Session.Tracked

/-- A statement locks no key that another session holds. -/
theorem Session.Advance.locks {session session' : Session κ ρ β σ δ α ω} {held : κ → Prop}
    (advanced : Advance committed held session session') :
    ∀ k ∈ session'.locks, k ∈ session.locks ∨ ¬ held k := by
  intro k member
  cases advanced with
  | insert statement free | locked statement free | matched statement free =>
    rcases List.mem_cons.mp member with rfl | early
    · exact Or.inr free
    · exact Or.inl early
  | missing | append | unmatched | adjust => exact Or.inl member
  | @pick wanted before limit next skips rows statement skipped selected =>
    rcases List.mem_append.mp member with picked | early
    · obtain ⟨row, inRows, rfl⟩ := List.mem_map.mp picked
      rw [selected] at inRows
      have passes := (Bool.and_eq_true_iff.mp (Table.mem_select inRows).2).2
      refine Or.inr (fun taken => ?_)
      rw [(skipped (key row)).mpr taken] at passes
      exact Bool.noConfusion passes
    · exact Or.inl early

end Tracking

/-! ## Worlds -/

/-- The committed store, the open session of every client, and the calls that have
committed so far with their answers, in commit order. -/
structure World {κ ρ : Type} (key : ρ → κ) (β σ δ α ω τ : Type) where
  committed : Store key β σ
  sessions : τ → Option (Session κ ρ β σ δ α ω)
  answers : List (ω × α)

namespace World

variable {key : ρ → κ}

/-- No client has called anything yet. -/
def initial (store : Store key β σ) : World key β σ δ α ω τ := ⟨store, fun _ => none, []⟩

/-- A key locked by a session other than the client's own. -/
def Held (world : World key β σ δ α ω τ) (client : τ) (k : κ) : Prop :=
  ∃ other session, other ≠ client ∧ world.sessions other = some session ∧ k ∈ session.locks

variable [DecidableEq τ]

/-- Open, replace or close one client's session. -/
def assign (world : World key β σ δ α ω τ) (client : τ)
    (session : Option (Session κ ρ β σ δ α ω)) : World key β σ δ α ω τ :=
  { world with sessions := Function.update world.sessions client session }

/-- An open session was assigned, or belongs to another client. -/
theorem sessions_assign {world : World key β σ δ α ω τ} {client other : τ}
    {session : Option (Session κ ρ β σ δ α ω)} {opened : Session κ ρ β σ δ α ω}
    (found : (world.assign client session).sessions other = some opened) :
    other = client ∧ session = some opened ∨
      other ≠ client ∧ world.sessions other = some opened := by
  by_cases same : other = client
  · subst same
    exact Or.inl ⟨rfl, by simpa [assign] using found⟩
  · exact Or.inr ⟨same, by simpa [assign, same] using found⟩

/-- A world in which no other client has an open session. -/
def alone (committed : Store key β σ) (answers : List (ω × α)) (client : τ)
    (session : Option (Session κ ρ β σ δ α ω)) : World key β σ δ α ω τ :=
  assign ⟨committed, fun _ => none, answers⟩ client session

section Alone

variable {committed : Store key β σ} {answers : List (ω × α)} {client : τ}

theorem assign_alone (first second : Option (Session κ ρ β σ δ α ω)) :
    (alone committed answers client first).assign client second =
      alone committed answers client second := by
  simp [alone, assign]

theorem alone_none :
    (alone committed answers client none : World key β σ δ α ω τ) =
      ⟨committed, fun _ => none, answers⟩ := by
  simp [alone, assign]

theorem sessions_alone (session : Option (Session κ ρ β σ δ α ω)) :
    (alone committed answers client session).sessions client = session := by
  simp [alone, assign]

theorem held_alone (session : Option (Session κ ρ β σ δ α ω)) :
    (alone committed answers client session).Held client = fun _ => False := by
  funext k
  refine propext ⟨?_, False.elim⟩
  rintro ⟨other, _, distinct, found, -⟩
  rcases sessions_assign found with ⟨same, -⟩ | ⟨-, none⟩
  · exact distinct same
  · cases none

end Alone

variable [DecidableEq κ]

/-- One step of one client. -/
inductive Step (protocol : Protocol key β σ δ α ω) :
    World key β σ δ α ω τ → World key β σ δ α ω τ → Prop
  | begin {world : World key β σ δ α ω τ} {client : τ} {call : ω}
      (idle : world.sessions client = none) (starts : protocol.starts world.answers call) :
      Step protocol world
        (world.assign client (some (Session.opened call (protocol.program call))))
  | advance {world : World key β σ δ α ω τ} {client : τ}
      {session session' : Session κ ρ β σ δ α ω}
      (opened : world.sessions client = some session)
      (advanced : Session.Advance world.committed (world.Held client) session session') :
      Step protocol world (world.assign client (some session'))
  | commit {world : World key β σ δ α ω τ} {client : τ} {session : Session κ ρ β σ δ α ω}
      {answer : α} (opened : world.sessions client = some session)
      (finished : session.program = .done answer) :
      Step protocol world
        { world.assign client none with
          committed := session.view world.committed
          answers := world.answers ++ [(session.call, answer)] }
  | rollback {world : World key β σ δ α ω τ} {client : τ} {session : Session κ ρ β σ δ α ω}
      (opened : world.sessions client = some session) :
      Step protocol world (world.assign client none)

/-- Reachable from a store nobody is using. -/
def Reachable (protocol : Protocol key β σ δ α ω) (store : Store key β σ)
    (world : World key β σ δ α ω τ) : Prop :=
  Runs (Step protocol) (initial store) world

/-- What holds in every reachable world: each open session's footprint is exact,
no two sessions hold one key, and the rows that answers promise exist. -/
structure Sound (protocol : Protocol key β σ δ α ω) (world : World key β σ δ α ω τ) : Prop where
  linked : world.committed.Linked
  tracked : ∀ client session, world.sessions client = some session →
    ∃ footprint, session.Tracked protocol world.committed footprint
  exclusive : ∀ client other session session' k, world.sessions client = some session →
    world.sessions other = some session' → k ∈ session.locks → k ∈ session'.locks →
      client = other
  provided : ∀ earlier ∈ world.answers, ∀ k, protocol.provides earlier.1 earlier.2 k →
    (world.committed.table.find? k).isSome = true

/-- One commit, as seen by whoever looks only at the committed store. -/
def Commits (protocol : Protocol key β σ δ α ω) (store store' : Store key β σ) : Prop :=
  ∃ call answer footprint, protocol.post call answer footprint ∧ footprint.Leads store store'

/-- One commit with its call and its answer, for whoever sees the answers as well. -/
def Serial (protocol : Protocol key β σ δ α ω)
    (state state' : Store key β σ × List (ω × α)) : Prop :=
  ∃ call answer footprint, protocol.post call answer footprint ∧ footprint.Leads state.1 state'.1 ∧
    state'.2 = state.2 ++ [(call, answer)]

/-- What is committed, with the answers. -/
def outcome (world : World key β σ δ α ω τ) : Store key β σ × List (ω × α) :=
  (world.committed, world.answers)

variable {protocol : Protocol key β σ δ α ω} {world world' : World key β σ δ α ω τ}

omit [DecidableEq τ] in
theorem Sound.initial {store : Store key β σ} (linked : store.Linked) :
    (World.initial store : World key β σ δ α ω τ).Sound protocol where
  linked := linked
  tracked _ _ opened := by cases opened
  exclusive _ _ _ _ _ opened := by cases opened
  provided _ member := by cases member

/-- Assigning a session that holds no key of the others. -/
theorem Sound.assign (sound : world.Sound protocol) {client : τ}
    {session : Option (Session κ ρ β σ δ α ω)}
    (tracked : ∀ opened, session = some opened →
      ∃ footprint, opened.Tracked protocol world.committed footprint)
    (apart : ∀ opened, session = some opened → ∀ k ∈ opened.locks, ¬ world.Held client k) :
    (world.assign client session).Sound protocol where
  linked := sound.linked
  tracked other opened found := by
    rcases sessions_assign found with ⟨rfl, assigned⟩ | ⟨-, found⟩
    · exact tracked opened assigned
    · exact sound.tracked other opened found
  exclusive first second opened opened' k found found' locked locked' := by
    rcases sessions_assign found with ⟨mine, assigned⟩ | ⟨distinct, was⟩ <;>
      rcases sessions_assign found' with ⟨mine', assigned'⟩ | ⟨distinct', was'⟩
    · exact mine.trans mine'.symm
    · subst mine
      exact absurd ⟨second, opened', distinct', was', locked'⟩ (apart opened assigned k locked)
    · subst mine'
      exact absurd ⟨first, opened, distinct, was, locked⟩ (apart opened' assigned' k locked')
    · exact sound.exclusive first second opened opened' k was was' locked locked'
  provided := sound.provided

omit [DecidableEq τ] in
/-- A key the client has locked is not held by another. -/
theorem Sound.not_held (sound : world.Sound protocol) {client : τ}
    {session : Session κ ρ β σ δ α ω} (opened : world.sessions client = some session) :
    ∀ k ∈ session.locks, ¬ world.Held client k := by
  rintro k locked ⟨other, session', distinct, found, locked'⟩
  exact distinct (sound.exclusive other client session' session k found opened locked' locked)

/-- A commit keeps the world sound. It changes the committed store only under the
keys its session has locked, which no other session relies on, and removes no row. -/
theorem Sound.commit (sound : world.Sound protocol) {client : τ} {answer : α}
    {session : Session κ ρ β σ δ α ω} {footprint : Footprint κ ρ β σ}
    (opened : world.sessions client = some session)
    (tracked : session.Tracked protocol world.committed footprint)
    (post : protocol.post session.call answer footprint) :
    Sound protocol
      { world.assign client none with
        committed := session.view world.committed
        answers := world.answers ++ [(session.call, answer)] } := by
  have kept : ∀ k, (world.committed.table.find? k).isSome = true →
      ((session.view world.committed).table.find? k).isSome = true := by
    intro k present
    rw [Session.find?_view, Option.isSome_or, present, Bool.or_true]
  refine ⟨tracked.leads.linked, ?_, ?_, ?_⟩
  · intro other session' found
    obtain ⟨-, ⟨⟩⟩ | ⟨distinct, found⟩ := sessions_assign found
    obtain ⟨footprint', tracked'⟩ := sound.tracked other session' found
    refine ⟨footprint', tracked'.transfer tracked.leads.linked (fun k locked => ?_) kept⟩
    have free : k ∉ session.locks := fun mine =>
      distinct (sound.exclusive other client session' session k found opened locked mine)
    exact (tracked.unlocked free _).2
  · intro first second session' session'' k found found' locked locked'
    obtain ⟨-, ⟨⟩⟩ | ⟨-, found⟩ := sessions_assign found
    obtain ⟨-, ⟨⟩⟩ | ⟨-, found'⟩ := sessions_assign found'
    exact sound.exclusive first second session' session'' k found found' locked locked'
  · intro earlier answered k provides
    rcases List.mem_append.mp answered with before | last
    · exact kept k (sound.provided earlier before k provides)
    · rw [List.mem_singleton.mp last] at provides
      obtain ⟨touched, found⟩ :=
        Option.isSome_iff_exists.mp (protocol.provided _ _ _ k post provides)
      rw [(Store.dossier?_eq_some.mp (tracked.leads.touched k touched found).2).1]
      rfl

/-- Every step keeps the world sound, and either leaves what is committed alone or is
one commit. -/
theorem Sound.step (sound : world.Sound protocol) (taken : Step protocol world world') :
    world'.Sound protocol ∧
      (world'.outcome = world.outcome ∨ Serial protocol world.outcome world'.outcome) := by
  cases taken with
  | @begin client call idle starts =>
    refine ⟨sound.assign ?_ ?_, Or.inl rfl⟩
    · rintro opened ⟨⟩
      refine ⟨Footprint.untouched, Session.Tracked.opened sound.linked (fun k known => ?_)⟩
      obtain ⟨earlier, answered, provides⟩ := protocol.promised _ _ k starts known
      exact sound.provided earlier answered k provides
    · rintro opened ⟨⟩ k locked
      simp [Session.opened] at locked
  | @advance client session session' opened advanced =>
    refine ⟨sound.assign ?_ ?_, Or.inl rfl⟩
    · rintro _ ⟨⟩
      obtain ⟨footprint, tracked⟩ := sound.tracked client session opened
      exact tracked.advance advanced
    · rintro _ ⟨⟩ k locked
      rcases advanced.locks k locked with early | free
      · exact sound.not_held opened k early
      · exact free
  | @commit client session answer opened finished =>
    obtain ⟨footprint, tracked⟩ := sound.tracked client session opened
    have post : protocol.post session.call answer footprint := by
      have ensured := tracked.ensured
      rw [finished] at ensured
      exact ensured
    exact ⟨sound.commit opened tracked post, Or.inr ⟨_, _, footprint, post, tracked.leads, rfl⟩⟩
  | rollback opened =>
    exact ⟨sound.assign (fun _ => nofun) (fun _ => nofun), Or.inl rfl⟩

/-- The steps of a sound world are a serial sequence of commits, for whoever sees only
the committed store and the answers. -/
theorem Sound.serial (sound : world.Sound protocol) (run : Runs (Step protocol) world world') :
    world'.Sound protocol ∧ Runs (Serial protocol) world.outcome world'.outcome := by
  induction run with
  | refl => exact ⟨sound, .refl⟩
  | tail _ taken ih =>
    obtain ⟨middle, commits⟩ := ih
    obtain ⟨sound', same | committed⟩ := middle.step taken
    · exact ⟨sound', same ▸ commits⟩
    · exact ⟨sound', commits.tail committed⟩

/-- An interleaved run is a serial sequence of commits, for the committed store. -/
theorem Reachable.commits {store : Store key β σ} (reachable : world.Reachable protocol store)
    (linked : store.Linked) : Runs (Commits protocol) store world.committed := by
  have serial := ((Sound.initial linked).serial reachable).2
  refine serial.lift Prod.fst (fun before after commit => ?_)
  obtain ⟨call, answer, footprint, post, leads, -⟩ := commit
  exact ⟨call, answer, footprint, post, leads⟩

end World

/-! ## One session at a time -/

section Serial

variable [DecidableEq κ] {key : ρ → κ}

/-- The session can run on alone until it is ready to commit, with this answer and
this view. -/
def Session.Finishes (committed : Store key β σ) (session : Session κ ρ β σ δ α ω) (answer : α)
    (store : Store key β σ) : Prop :=
  ∃ session' : Session κ ρ β σ δ α ω,
    Runs (Session.Advance committed (fun _ => False)) session session' ∧
      session'.program = .done answer ∧ session'.view committed = store ∧
      session'.call = session.call

theorem Session.Finishes.after {committed store : Store key β σ} {answer : α}
    {session middle : Session κ ρ β σ δ α ω}
    (advanced : Session.Advance committed (fun _ => False) session middle)
    (finishes : middle.Finishes committed answer store) (same : middle.call = session.call) :
    session.Finishes committed answer store := by
  obtain ⟨last, run, finished, viewed, called⟩ := finishes
  exact ⟨last, run.head advanced, finished, viewed, called.trans same⟩

/-- Atomic execution is what the statements do while nobody else holds a lock.
Induction on the tree, carrying the session that has executed the statements so
far. -/
theorem Session.finishes_of_execute {committed store : Store key β σ}
    {session : Session κ ρ β σ δ α ω} {program : Transaction κ ρ β σ δ α} {answer : α}
    (statement : session.program = program)
    (executed : program.execute (fun _ => false) (session.view committed) = .ok (answer, store)) :
    session.Finishes committed answer store := by
  induction program generalizing session with
  | done result =>
    simp only [Transaction.execute, Except.ok.injEq, Prod.mk.injEq] at executed
    exact ⟨session, .refl, executed.1 ▸ statement, executed.2, rfl⟩
  | raised error => simp [Transaction.execute] at executed
  | insert row next ih =>
    simp only [Transaction.execute] at executed
    split at executed
    · cases executed
    · next fresh =>
      refine .after (.insert statement not_false (Option.not_isSome_iff_eq_none.mp fresh))
        (ih rfl ?_) rfl
      simpa only [view, List.foldl_append, List.foldl_cons, List.foldl_nil] using executed
  | lock k next ih =>
    cases found : (session.view committed).table.find? k with
    | some row => exact .after (.locked statement not_false found) (ih rfl executed) rfl
    | none => exact .after (.missing statement found) (ih rfl executed) rfl
  | append k body next ih =>
    simp only [Transaction.execute] at executed
    split at executed
    · next owner =>
      refine .after (.append statement owner) (ih rfl ?_) rfl
      simpa only [view, LogEntry.extend, List.append_assoc] using executed
    · cases executed
  | update k guard change next ih =>
    simp only [Transaction.execute] at executed
    split at executed
    · next row matched =>
      obtain ⟨found, passes⟩ := Option.filter_eq_some_iff.mp matched
      refine .after (.matched statement not_false found passes) (ih _ rfl ?_) rfl
      simpa only [view, List.foldl_append, List.foldl_cons, List.foldl_nil] using executed
    · next unmatched => exact .after (.unmatched statement unmatched) (ih _ rfl executed) rfl
  | pick wanted before limit next ih =>
    have skipped : ∀ k : κ, (fun _ => false) k = true ↔ False := by simp
    exact .after (.pick statement skipped rfl) (ih _ rfl executed) rfl
  | adjust change next ih => exact .after (.adjust statement) (ih rfl executed) rfl

namespace World

variable [DecidableEq τ] {protocol : Protocol key β σ δ α ω}

section Alone

variable {committed : Store key β σ} {answers : List (ω × α)} {client : τ}

/-- A session's run is a run of the world it is alone in. -/
theorem runs_alone {session session' : Session κ ρ β σ δ α ω}
    (run : Runs (Session.Advance committed (fun _ => False)) session session') :
    Runs (Step protocol) (alone committed answers client (some session))
      (alone committed answers client (some session')) := by
  induction run with
  | refl => exact .refl
  | @tail middle last earlier advanced ih =>
    refine ih.tail ?_
    rw [← assign_alone (some middle) (some last)]
    exact .advance (sessions_alone (some middle)) (by rwa [held_alone])

end Alone

/-- A call that executes atomically can be made, run and committed while nobody
else has a session open. -/
theorem runs_of_execute {committed store : Store key β σ} {answers : List (ω × α)} {call : ω}
    {answer : α} (client : τ) (starts : protocol.starts answers call)
    (executed : (protocol.program call).execute (fun _ => false) committed =
      .ok (answer, store)) :
    Runs (Step protocol) (⟨committed, fun _ => none, answers⟩ : World key β σ δ α ω τ)
      ⟨store, fun _ => none, answers ++ [(call, answer)]⟩ := by
  have viewed : (Session.opened call (protocol.program call)).view committed = committed := by
    simp [Session.opened, Session.view]
  have finishes : (Session.opened call (protocol.program call)).Finishes committed answer store :=
    Session.finishes_of_execute rfl (viewed.symm ▸ executed)
  obtain ⟨last, run, finished, rfl, called⟩ := finishes
  have began : Step protocol _ (alone committed answers client _) := .begin rfl starts
  have committed' : Step protocol (alone committed answers client (some last)) _ :=
    .commit (sessions_alone (some last)) finished
  refine ((runs_alone run).head began).tail ?_
  rw [assign_alone, alone_none, called] at committed'
  exact committed'

end World

end Serial

end RlmApi
