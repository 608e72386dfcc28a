import Vibemux.Store.Workflows

/-!
# Slots and leases

A lease reserves a slot and a worktree for one task, under the next generation of the slot. Whether
the attempts of a lease have settled is read from the dispatch table, never taken from the caller.
-/

namespace Vibemux

open Checked

/-- The request for a lease. -/
structure LeaseRequest where
  leaseId : Uuid
  workflowId : Uuid
  taskKey : SpecIdentifier
  slotId : SpecIdentifier
  worktreeKey : Sha256Digest
  heartbeatDeadlineMs : Nat
  timestamp : Timestamp
deriving DecidableEq

/-- A stored change of a lease. -/
structure LeaseCommit where
  lease : LeaseRecord
  event : Option Event
deriving DecidableEq

/-- What recovery did to the leases. -/
structure WorkflowRecovery where
  quarantinedLeases : List Uuid
  releasedLeases : List Uuid
deriving DecidableEq

/-- The key of the event of an acquisition. -/
def leaseAcquiredKey (leaseId : Uuid) : List Char :=
  "workflow_lease:".toList ++ leaseId.hyphenated ++ ":acquired".toList

/-- The key of the event of a lease change. -/
def leaseChangedKey (lease : LeaseRecord) (reasonCode : List Char) : List Char :=
  "workflow_lease:".toList ++ lease.leaseId.hyphenated ++ ':' :: lease.state.asStr ++
    ':' :: decimal lease.heartbeatDeadlineMs ++ ':' :: reasonCode

/-- The lease a request asks for, under `generation`. -/
def LeaseRequest.lease (request : LeaseRequest) (generation : Nat) : LeaseRecord where
  schemaVersion := workflowStoreRecordSchemaVersion
  leaseId := request.leaseId
  workflowId := request.workflowId
  taskKey := request.taskKey
  slotId := request.slotId
  worktreeKey := request.worktreeKey
  generation := generation
  state := .active
  heartbeatDeadlineMs := request.heartbeatDeadlineMs
  endReason := none
  createdAtMs := millis request.timestamp
  updatedAtMs := millis request.timestamp

/-- The lease after an event of the reducer. -/
def LeaseRecord.withView (lease : LeaseRecord) (view : LeaseView) (reasonCode : List Char)
    (nowMs : Nat) : LeaseRecord :=
  { lease with
    state := view.state
    heartbeatDeadlineMs := view.heartbeatDeadlineMs
    updatedAtMs := max nowMs lease.updatedAtMs
    endReason := if view.state.holdsReservation then lease.endReason else some reasonCode }

namespace Store

variable (s : Store)

/-- Records the latest observation of a slot; a known slot keeps its last generation. -/
def upsertWorkflowSlot (digests : StoreDigests) (slot : SlotFacts) :
    Except StoreError (Option Event × Store) := do
  ensure (slot.leasedGeneration = none) (.workflow "store_workflow_slot_lease_not_settable")
  let existing := s.loadSlot slot.slotId
  if (existing.any fun row => row.facts = slot) = true then
    return (none, s)
  else
    let key := "workflow_slot:".toList ++ slot.slotId.text ++ ':' :: (digests.slot slot).toHex
    let (_, s) ← s.append key
    let generation := (existing.map SlotRow.lastGeneration).getD 0
    return (some ⟨key⟩, { s with slots := Table.upsert SlotRow.slotId s.slots ⟨slot, generation⟩ })

/-- `bump_slot_generation`. -/
def bumpSlotGeneration (slotId : SpecIdentifier) (previous next : Nat) : Except StoreError Store := do
  let row ← require ((s.loadSlot slotId).filter fun row => row.lastGeneration = previous)
    (.workflow "store_workflow_version_conflict")
  return { s with slots := Table.put SlotRow.slotId s.slots { row with lastGeneration := next } }

/-- The part of `acquire_workflow_lease` that writes a new lease. -/
def insertAcquired (request : LeaseRequest) : Except StoreError (LeaseCommit × Store) := do
  let workflow ← s.loadExistingWorkflow request.workflowId
  ensure (workflow.record.phase.admitsWork = true) (.workflow "store_workflow_not_running")
  let task ← require (workflow.record.task request.taskKey) (.workflow "workflow_unknown_task")
  ensure (task.progress ≠ .accepted) (.workflow "store_workflow_task_settled")
  let slot ← require (s.loadSlot request.slotId) (.workflow "store_workflow_unknown_slot")
  ensure ((s.holdingLeases.any fun lease => lease.slotId = request.slotId) = false)
    (.workflow "store_workflow_slot_busy")
  ensure ((s.holdingLeases.any fun lease => lease.worktreeKey = request.worktreeKey) = false)
    (.workflow "store_workflow_worktree_reserved")
  let generation ← require (checkedSucc u64Max slot.lastGeneration)
    (.workflow "store_workflow_version_conflict")
  let lease := request.lease generation
  let (_, s) ← s.append (leaseAcquiredKey request.leaseId)
  let s ← s.bumpSlotGeneration request.slotId slot.lastGeneration generation
  let s ← s.insertLease lease
  return (⟨lease, some ⟨leaseAcquiredKey request.leaseId⟩⟩, s)

/-- Reserves a slot and a worktree under the next generation of the slot. -/
def acquireWorkflowLease (request : LeaseRequest) : Except StoreError (LeaseCommit × Store) :=
  match s.loadLease request.leaseId with
  | some existing => do
    ensure (existing.workflowId = request.workflowId ∧ existing.taskKey = request.taskKey ∧
      existing.slotId = request.slotId ∧ existing.worktreeKey = request.worktreeKey)
      (.workflow "store_workflow_lease_conflict")
    return (⟨existing, none⟩, s)
  | none => s.insertAcquired request

/-- Whether every attempt in the list has reached a terminal dispatch phase. -/
def allSettled : List WorkflowAttemptRecord → Except StoreError Bool
  | [] => .ok true
  | attempt :: rest => do
    let phase ← require (s.dispatchPhase attempt.requestId)
      (.workflow "store_workflow_projection_mismatch")
    return dispatchTerminal phase && (← allSettled rest)

/-- The event the reducer is given: a revocation carries what the store knows, and an event that ends
the lease is refused while an attempt is unsettled. -/
def leaseEventFor (settled : Bool) : LeaseEvent → Except StoreError LeaseEvent
  | .revoke generation _ => .ok (.revoke generation settled)
  | .attemptSettled generation => do
    ensure (settled = true) (.workflow "workflow_lease_attempt_unsettled")
    return .attemptSettled generation
  | .reconciled generation true => do
    ensure (settled = true) (.workflow "workflow_lease_attempt_unsettled")
    return .reconciled generation true
  | event => .ok event

/-- Applies a lease event through the reducer. -/
def changeWorkflowLease (leaseId : Uuid) (event : LeaseEvent) (heartbeatMs : Nat)
    (reasonCode : List Char) (timestamp : Timestamp) : Except StoreError (LeaseCommit × Store) := do
  let lease ← require (s.loadLease leaseId) (.workflow "store_workflow_unknown_lease")
  let attempts := (s.attemptsForLease leaseId).filter fun attempt =>
    attempt.leaseGeneration = lease.generation
  let settled ← s.allSettled attempts
  let event ← leaseEventFor settled event
  let view ← (lease.view.apply event heartbeatMs).mapError fun error => .workflow error.code
  if view = lease.view then
    return (⟨lease, none⟩, s)
  else
    let next := lease.withView view reasonCode (millis timestamp)
    let (_, s) ← s.append (leaseChangedKey next reasonCode)
    let s ← s.updateLease next lease.state
    return (⟨next, some ⟨leaseChangedKey next reasonCode⟩⟩, s)

/-- The attempts of a lease under its current generation. -/
def currentAttempts (lease : LeaseRecord) : List WorkflowAttemptRecord :=
  (s.attemptsForLease lease.leaseId).filter fun attempt => attempt.leaseGeneration = lease.generation

/-- Whether the dispatch of an attempt has ended. -/
def isSettled (requestId : Uuid) : Bool := (s.dispatchPhase requestId).any dispatchTerminal

/-- The loop of `recover_workflows` over the remaining active leases. -/
def recoverLeases (timestamp : Timestamp) :
    List LeaseRecord → WorkflowRecovery → Store → Except StoreError WorkflowRecovery × Store
  | [], recovery, s => (.ok recovery, s)
  | lease :: rest, recovery, s =>
    let current := s.currentAttempts lease
    if current.any (fun attempt => !s.isSettled attempt.requestId) then
      match s.changeWorkflowLease lease.leaseId
          (.heartbeatMissed (saturatingAdd lease.heartbeatDeadlineMs 1)) 0 "daemon_restart".toList
          timestamp with
      | .error error => (.error error, s)
      | .ok (_, s') => recoverLeases timestamp rest
          { recovery with quarantinedLeases := recovery.quarantinedLeases ++ [lease.leaseId] } s'
    else if current = [] then
      match s.changeWorkflowLease lease.leaseId (.attemptSettled lease.generation) 0
          "recovered_without_attempt".toList timestamp with
      | .error error => (.error error, s)
      | .ok (_, s') => recoverLeases timestamp rest
          { recovery with releasedLeases := recovery.releasedLeases ++ [lease.leaseId] } s'
    else recoverLeases timestamp rest recovery s

/-- Startup reconciliation, after the recovery of dispatches: a lease with an unsettled attempt is
quarantined, one that never admitted an attempt is released. -/
def recoverWorkflows (timestamp : Timestamp) : Except StoreError WorkflowRecovery × Store :=
  recoverLeases timestamp (s.holdingLeases.filter fun lease => lease.state = .active) ⟨[], []⟩ s

end Store

/-- The operations on slots and leases. -/
inductive LeaseOp where
  | upsertSlot (slot : SlotFacts)
  | acquire (request : LeaseRequest)
  | change (leaseId : Uuid) (event : LeaseEvent) (heartbeatMs : Nat) (reasonCode : List Char)
      (timestamp : Timestamp)
  | recover (timestamp : Timestamp)
deriving DecidableEq

/-- What an operation on leases returns. -/
inductive LeaseResponse where
  | slot (event : Option Event)
  | lease (commit : LeaseCommit)
  /-- Recovery commits lease by lease, so its response carries its error. -/
  | recovery (result : Except StoreError WorkflowRecovery)

def Store.leaseStep (s : Store) (digests : StoreDigests) :
    LeaseOp → Except StoreError (LeaseResponse × Store)
  | .upsertSlot slot => do
    let (event, s) ← s.upsertWorkflowSlot digests slot
    return (.slot event, s)
  | .acquire request => do
    let (commit, s) ← s.acquireWorkflowLease request
    return (.lease commit, s)
  | .change leaseId event heartbeatMs reasonCode timestamp => do
    let (commit, s) ← s.changeWorkflowLease leaseId event heartbeatMs reasonCode timestamp
    return (.lease commit, s)
  | .recover timestamp => .ok (.recovery (s.recoverWorkflows timestamp).1, (s.recoverWorkflows timestamp).2)

end Vibemux
