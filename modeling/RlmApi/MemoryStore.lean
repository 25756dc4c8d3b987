import RlmApi.Schema

/-!
# The memory store

The part of `memory_items` that a write touches. A memory with a source run is
unique in its scope for that run, and any other memory is unique by its id, so the
table is keyed by the slot a memory occupies.

The embedding is computed by an external provider before the statement; a write
that fails there has no statement.
-/

namespace RlmApi

inductive MemoryKind where
  | fact
  | preference
  | decision
  | episode
  | runSummary
  | feedback
deriving DecidableEq, Repr

/-- A row of `memory_items`. -/
structure MemoryItem where
  id : Str
  tenantId : Str
  subjectId : Str
  namespaceName : Str
  kind : MemoryKind
  content : Str
  metadata : Json
  expiresAt : Option Timestamp
  sourceRunId : Option Str

/-- What makes a memory unique: `(tenant_id, subject_id, namespace, source_run_id)`
when it has a source run, and its id otherwise. -/
inductive MemorySlot where
  | own (id : Str)
  | summary (tenantId subjectId namespaceName sourceRunId : Str)
deriving DecidableEq

def MemoryItem.slot (item : MemoryItem) : MemorySlot :=
  match item.sourceRunId with
  | some sourceRunId => .summary item.tenantId item.subjectId item.namespaceName sourceRunId
  | none => .own item.id

abbrev MemoryItems := Table MemoryItem.slot

/-- The statement of `write`: a memory whose slot is taken leaves the stored one as
it is. `gen_random_uuid` never repeats, so only a run summary conflicts. -/
def insertMemory (item : MemoryItem) (items : MemoryItems) : MemoryItems :=
  match items.find? item.slot with
  | some _ => items
  | none => items.put item

/-- `write`, once the embedding is there. -/
def writeMemory (item : MemoryItem) (items : MemoryItems) : Except PyError MemoryItems :=
  if item.sourceRunId.isSome && item.kind ≠ .runSummary then
    .error (.valueError "source_run_id is only valid for run summaries")
  else .ok (insertMemory item items)

/-- A written memory's slot is taken, and no other slot has changed. -/
theorem find?_insertMemory (item : MemoryItem) (items : MemoryItems) (slot : MemorySlot) :
    (insertMemory item items).find? slot =
      if slot = item.slot then some ((items.find? item.slot).getD item) else items.find? slot := by
  unfold insertMemory
  cases found : items.find? item.slot with
  | some stored =>
    by_cases same : slot = item.slot
    · simp [same, found]
    · simp [same]
  | none =>
    rw [Table.find?_put]
    by_cases same : slot = item.slot
    · simp [same]
    · simp [same, Ne.symm same]

/-- A write adds no memory but the written one, and that one where its slot is free. -/
theorem mem_insertMemory {item stored : MemoryItem} {items : MemoryItems}
    (member : stored ∈ (insertMemory item items).rows) :
    (stored = item ∧ items.find? item.slot = none) ∨ stored ∈ items.rows := by
  unfold insertMemory at member
  split at member
  · exact Or.inr member
  · next free => exact (Table.mem_putRow member).imp_left (fun same => ⟨same, free⟩)

/-- A write that does not raise inserts. -/
theorem writeMemory_ok {item : MemoryItem} {items items' : MemoryItems}
    (wrote : writeMemory item items = .ok items') : items' = insertMemory item items := by
  unfold writeMemory at wrote
  split at wrote
  · cases wrote
  · cases wrote
    rfl

end RlmApi
