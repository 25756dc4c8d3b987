import Mathlib.Data.List.Range

/-!
# A log with one sequence per owner

Entries of many owners share one append-only list. Each owner's entries carry a
sequence number, computed for a new entry as one more than the largest the owner
already has. An owner's entries are consecutive when they read `1, …, n` in
storage order.

The number is computed from the entries that happen to be visible, so
consecutiveness is a property to be preserved and not part of the type: two
writers that cannot see each other's entries may choose the same number.
-/

namespace RlmApi

/-- One entry of the log. -/
structure LogEntry (κ β : Type) where
  owner : κ
  sequence : Nat
  body : β
deriving DecidableEq

namespace LogEntry

variable {κ β : Type}

/-- One more than the largest sequence among the entries, and one for none. -/
def nextSequence (entries : List (LogEntry κ β)) : Nat :=
  (entries.map sequence).foldr max 0 + 1

/-- The sequences read `1, …, n` in storage order. -/
def Consecutive (entries : List (LogEntry κ β)) : Prop :=
  entries.map sequence = List.range' 1 entries.length

/-- The largest of `start, …, start + n` is the last one. -/
theorem foldr_max_range' (n start : Nat) :
    (List.range' start (n + 1)).foldr max 0 = start + n := by
  induction n generalizing start with
  | zero => simp
  | succ n ih =>
    rw [List.range'_succ, List.foldr_cons, ih]
    omega

/-- After consecutive entries the next number is the length plus one. -/
theorem nextSequence_of_consecutive {entries : List (LogEntry κ β)}
    (consecutive : Consecutive entries) : nextSequence entries = entries.length + 1 := by
  rw [nextSequence, consecutive]
  cases entries with
  | nil => rfl
  | cons first rest =>
    rw [List.length_cons, foldr_max_range']
    omega

/-- Appending the next number keeps the entries consecutive. -/
theorem Consecutive.append {entries : List (LogEntry κ β)} (consecutive : Consecutive entries)
    (k : κ) (body : β) : Consecutive (entries ++ [⟨k, nextSequence entries, body⟩]) := by
  rw [nextSequence_of_consecutive consecutive]
  simp only [Consecutive, List.map_append, List.map_cons, List.map_nil, List.length_append,
    List.length_cons, List.length_nil]
  rw [show entries.map sequence = _ from consecutive, List.range'_concat, Nat.add_comm]
  simp

section Owner
variable [DecidableEq κ]

/-- The entries of one owner, in storage order. -/
def ofOwner (k : κ) (log : List (LogEntry κ β)) : List (LogEntry κ β) :=
  log.filter (fun entry => decide (entry.owner = k))

/-- Append an entry under the owner's next sequence number. -/
def extend (log : List (LogEntry κ β)) (k : κ) (body : β) : List (LogEntry κ β) :=
  log ++ [⟨k, nextSequence (ofOwner k log), body⟩]

@[simp] theorem ofOwner_append (k : κ) (first second : List (LogEntry κ β)) :
    ofOwner k (first ++ second) = ofOwner k first ++ ofOwner k second := by
  simp [ofOwner]

/-- An extension adds exactly one entry to its own owner. -/
theorem ofOwner_extend_self (log : List (LogEntry κ β)) (k : κ) (body : β) :
    ofOwner k (extend log k body) =
      ofOwner k log ++ [⟨k, nextSequence (ofOwner k log), body⟩] := by
  rw [extend, ofOwner_append]
  simp [ofOwner]

/-- An extension leaves every other owner's entries as they were. -/
theorem ofOwner_extend_ne (log : List (LogEntry κ β)) {k other : κ} (body : β)
    (distinct : k ≠ other) : ofOwner other (extend log k body) = ofOwner other log := by
  rw [extend, ofOwner_append]
  simp [ofOwner, distinct]

end Owner

end LogEntry

end RlmApi
