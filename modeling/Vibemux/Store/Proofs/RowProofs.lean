import Vibemux.Lib.Frame
import Vibemux.Store.Leases
import Vibemux.Workflow.Proofs.RecordProofs

/-!
# The tables of the store and their row functions

Every operation is a chain of row functions. Each row function is inverted once here: what it checked,
and the store it leaves, with the tables it writes.
-/

namespace Vibemux

open Checked List Option Table

variable {artifact : ContractArtifact} {previousState : LeaseState} {record : WorkflowRecord}

/-- The tables of the store. -/
inductive StoreTable where
  | events
  | tasks
  | runs
  | detected
  | dispatches
  | executions
  | actions
  | callOwners
  | calls
  | workflows
  | contracts
  | authorities
  | slots
  | leases
  | attempts
  | receipts
  | messages
deriving DecidableEq

/-- The rows of each table. -/
def storeLayout : Layout Store StoreTable where
  Value
    | .events => List Event
    | .tasks => List Task
    | .runs => List Run
    | .detected => List AgentKind
    | .dispatches => List DispatchRow
    | .executions => List ExecutionRow
    | .actions => List ActionRow
    | .callOwners => List CallOwner
    | .calls => List ModelCallRecord
    | .workflows => List WorkflowRow
    | .contracts => List ContractArtifact
    | .authorities => List AuthorityRow
    | .slots => List SlotRow
    | .leases => List LeaseRecord
    | .attempts => List WorkflowAttemptRecord
    | .receipts => List ReceiptRow
    | .messages => List MessageRecord
  part
    | .events => fun s => s.events
    | .tasks => fun s => s.tasks
    | .runs => fun s => s.runs
    | .detected => fun s => s.detected
    | .dispatches => fun s => s.dispatches
    | .executions => fun s => s.executions
    | .actions => fun s => s.actions
    | .callOwners => fun s => s.callOwners
    | .calls => fun s => s.calls
    | .workflows => fun s => s.workflows
    | .contracts => fun s => s.contracts
    | .authorities => fun s => s.authorities
    | .slots => fun s => s.slots
    | .leases => fun s => s.leases
    | .attempts => fun s => s.attempts
    | .receipts => fun s => s.receipts
    | .messages => fun s => s.messages

namespace Store

variable {row : WorkflowRow} {lease : LeaseRecord} {key : List Char} {workflowId : Uuid}
  {previousVersion sequence : Nat}

/-- The step writes at most the listed tables. -/
abbrev Writes (written : List StoreTable) (s s' : Store) : Prop := storeLayout.Writes written s s'

variable {s s' : Store} {digests : StoreDigests}

/-! ## Row functions -/

theorem append_eq_ok :
    s.append key = .ok (sequence, s') ↔
      ∃ events, insertEvent s.events key = .ok (sequence, events) ∧ { s with events } = s' := by
  simp only [append, eq_ok]
  constructor
  · rintro ⟨_, events, hinsert, rfl, rfl⟩
    exact ⟨events, hinsert, rfl⟩
  · rintro ⟨events, hinsert, rfl⟩
    exact ⟨sequence, events, hinsert, rfl, rfl⟩

theorem checkWorkflow_eq_ok {row row' : WorkflowRow} :
    checkWorkflow row = .ok row' ↔ row.record.validate = .ok () ∧ row = row' := by
  simp only [checkWorkflow, eq_ok]

theorem loadExistingWorkflow_eq_ok :
    s.loadExistingWorkflow workflowId = .ok row ↔
      lookup WorkflowRow.workflowId s.workflows workflowId = some row ∧
        row.record.validate = .ok () := by
  simp only [loadExistingWorkflow, loadWorkflow, eq_ok]
  cases hrow : lookup WorkflowRow.workflowId s.workflows workflowId with
  | none => simp [pure, Except.pure]
  | some found =>
    simp only [mapM_some, map_eq_ok, checkWorkflow_eq_ok]
    constructor
    · rintro ⟨_, ⟨_, ⟨hvalid, rfl⟩, rfl⟩, hrow⟩
      exact ⟨hrow, some.inj hrow ▸ hvalid⟩
    · rintro ⟨hrow, hvalid⟩
      obtain rfl := some.inj hrow
      exact ⟨_, ⟨_, ⟨hvalid, rfl⟩, rfl⟩, rfl⟩

theorem loadExistingWorkflow_id (h : s.loadExistingWorkflow workflowId = .ok row) :
    row.record.workflowId = workflowId := by
  have hkey : row.workflowId = workflowId := key_of_lookup (loadExistingWorkflow_eq_ok.1 h).1
  exact hkey

theorem insertWorkflow_eq_ok :
    s.insertWorkflow row = .ok s' ↔
      (∀ other ∈ s.workflows, other.workflowId ≠ row.workflowId ∧ other.requestKey ≠ row.requestKey) ∧
        { s with workflows := s.workflows ++ [row] } = s' := by
  simp [insertWorkflow]

/-- An update replaces the record of a row whose version is the expected one. -/
theorem updateWorkflow_eq_ok :
    s.updateWorkflow record previousVersion sequence = .ok s' ↔
      record.validate = .ok () ∧ ∃ row,
        lookup WorkflowRow.workflowId s.workflows record.workflowId = some row ∧
        row.record.version = previousVersion ∧
        { s with
          workflows := put WorkflowRow.workflowId s.workflows
            { row with record, updatedSequence := sequence } } = s' := by
  simp only [updateWorkflow, eq_ok]

/-- One workflow row was loaded and got its next record; the other rows stay. -/
structure Updated (s s' : Store) (stored : WorkflowRow) (next : WorkflowRecord) : Prop where
  loaded : Table.lookup WorkflowRow.workflowId s.workflows stored.workflowId = some stored
  valid : stored.record.validate = .ok ()
  sameId : next.workflowId = stored.workflowId
  written : ∃ sequence, s'.workflows = Table.put WorkflowRow.workflowId s.workflows
    { stored with record := next, updatedSequence := sequence }

/-- An update of a row that the transaction loaded, with the table as it was loaded. -/
theorem Updated.of_updateWorkflow {s₁ : Store} {stored : WorkflowRow} {next : WorkflowRecord}
    (hload : s.loadExistingWorkflow workflowId = .ok stored)
    (h : s₁.updateWorkflow next previousVersion sequence = .ok s')
    (hsame : next.workflowId = stored.record.workflowId) (htable : s₁.workflows = s.workflows) :
    Updated s s' stored next := by
  obtain ⟨hrow, hvalid⟩ := loadExistingWorkflow_eq_ok.1 hload
  have hid : stored.workflowId = workflowId := key_of_lookup hrow
  obtain ⟨-, row, hfound, -, rfl⟩ := updateWorkflow_eq_ok.1 h
  have hnext : next.workflowId = workflowId := hsame.trans hid
  rw [htable, hnext] at hfound
  obtain rfl : row = stored := some.inj (hfound.symm.trans hrow)
  exact ⟨by rw [hid]; exact hrow, hvalid, hsame, sequence, by rw [htable]⟩

theorem insertContractIfAbsent_eq_ok :
    s.insertContractIfAbsent artifact = .ok s' ↔
      (s.loadContract artifact.contractId = some artifact ∧ s = s') ∨
        (s.loadContract artifact.contractId = none ∧
          { s with contracts := s.contracts ++ [artifact] } = s') := by
  unfold insertContractIfAbsent
  cases hfound : s.loadContract artifact.contractId with
  | none => simp
  | some existing => simp

theorem insertLease_eq_ok :
    s.insertLease lease = .ok s' ↔
      (s.loadLease lease.leaseId = none ∧ leaseAllowed s.leases lease = true) ∧
        { s with leases := s.leases ++ [lease] } = s' := by
  simp only [insertLease, eq_ok]

theorem updateLease_eq_ok :
    s.updateLease lease previousState = .ok s' ↔
      ((s.loadLease lease.leaseId).any fun old =>
        old.state = previousState && old.generation = lease.generation) = true ∧
        leaseAllowed s.leases lease = true ∧
        { s with leases := put LeaseRecord.leaseId s.leases lease } = s' := by
  simp only [updateLease, eq_ok]

theorem insertReceipt_eq_ok {row : ReceiptRow} :
    s.insertReceipt row = .ok s' ↔
      s.loadReceipt row.receiptId = none ∧ { s with receipts := s.receipts ++ [row] } = s' := by
  simp only [insertReceipt, eq_ok]

/-! ## What the row functions write -/

theorem append_writes (h : s.append key = .ok (sequence, s')) :
    Writes [.events] s s' := by
  obtain ⟨events, -, rfl⟩ := append_eq_ok.1 h
  intro table htable
  cases table with
  | events => exact absurd (mem_singleton_self _) htable
  | _ => rfl

/-- Appending several events writes the log alone. -/
theorem appendAll_writes {keys : List (List Char)} (h : appendAll keys s = .ok s') :
    Writes [.events] s s' := by
  induction keys generalizing s with
  | nil =>
    cases h
    exact .refl _ _
  | cons key rest ih =>
    simp only [appendAll, bind_eq_ok, Prod.exists] at h
    obtain ⟨sequence, s₁, happend, hrest⟩ := h
    exact (append_writes happend).trans (ih hrest)

theorem insertWorkflow_writes (h : s.insertWorkflow row = .ok s') :
    Writes [.workflows] s s' := by
  obtain ⟨-, rfl⟩ := insertWorkflow_eq_ok.1 h
  intro table htable
  cases table with
  | workflows => exact absurd (mem_singleton_self _) htable
  | _ => rfl

theorem updateWorkflow_writes (h : s.updateWorkflow record previousVersion sequence = .ok s') :
    Writes [.workflows] s s' := by
  obtain ⟨-, row, -, -, rfl⟩ := updateWorkflow_eq_ok.1 h
  intro table htable
  cases table with
  | workflows => exact absurd (mem_singleton_self _) htable
  | _ => rfl

theorem insertContractIfAbsent_writes (h : s.insertContractIfAbsent artifact = .ok s') :
    Writes [.contracts] s s' := by
  rcases insertContractIfAbsent_eq_ok.1 h with ⟨-, rfl⟩ | ⟨-, rfl⟩
  · exact .refl _ _
  · intro table htable
    cases table with
    | contracts => exact absurd (mem_singleton_self _) htable
    | _ => rfl

theorem insertContracts_writes {contracts : List ContractArtifact}
    (h : insertContracts contracts s = .ok s') : Writes [.contracts] s s' := by
  induction contracts generalizing s with
  | nil =>
    cases h
    exact .refl _ _
  | cons artifact rest ih =>
    simp only [insertContracts, bind_eq_ok] at h
    obtain ⟨s₁, hinsert, hrest⟩ := h
    exact (insertContractIfAbsent_writes hinsert).trans (ih hrest)

theorem insertReceipt_writes {row : ReceiptRow} (h : s.insertReceipt row = .ok s') :
    Writes [.receipts] s s' := by
  obtain ⟨-, rfl⟩ := insertReceipt_eq_ok.1 h
  intro table htable
  cases table with
  | receipts => exact absurd (mem_singleton_self _) htable
  | _ => rfl

theorem insertLease_writes (h : s.insertLease lease = .ok s') :
    Writes [.leases] s s' := by
  obtain ⟨-, rfl⟩ := insertLease_eq_ok.1 h
  intro table htable
  cases table with
  | leases => exact absurd (mem_singleton_self _) htable
  | _ => rfl

theorem updateLease_writes (h : s.updateLease lease previousState = .ok s') :
    Writes [.leases] s s' := by
  obtain ⟨-, -, rfl⟩ := updateLease_eq_ok.1 h
  intro table htable
  cases table with
  | leases => exact absurd (mem_singleton_self _) htable
  | _ => rfl

theorem bumpSlotGeneration_writes {slotId : SpecIdentifier} {previous next : Nat}
    (h : s.bumpSlotGeneration slotId previous next = .ok s') : Writes [.slots] s s' := by
  simp only [bumpSlotGeneration, eq_ok] at h
  obtain ⟨row, -, rfl⟩ := h
  intro table htable
  cases table with
  | slots => exact absurd (mem_singleton_self _) htable
  | _ => rfl

theorem persistCall_writes {record : ModelCallRecord} (h : s.persistCall record = .ok s') :
    Writes [.events, .calls] s s' := by
  simp only [persistCall, eq_ok] at h
  obtain ⟨sequence, s₁, happend, rfl⟩ := h
  obtain ⟨events, -, rfl⟩ := append_eq_ok.1 happend
  intro table htable
  cases table with
  | events | calls => exact absurd (by decide) htable
  | _ => rfl

end Store

end Vibemux
