import Vibemux.Store.ModelCalls

/-!
# Admission and phases of workflows

A workflow is admitted in phase `prepared` with one contract for each of its tasks. Every later change
of its record goes through a compare-and-set on the version.
-/

namespace Vibemux

open Checked

/-- A stored change of a workflow. -/
structure WorkflowCommit where
  record : WorkflowRecord
  /-- The event this call appended; `none` for a repeat that wrote nothing. -/
  event : Option Event
  sequence : Nat
deriving DecidableEq

/-- Whether the contracts hold exactly one artifact for the task, of its version and base. -/
def contractMatches (record : WorkflowRecord) (contracts : List ContractArtifact)
    (task : WorkflowTask) : Bool :=
  match contracts.filter fun contract => contract.contractId = task.contractId with
  | [contract] =>
    contract.taskKey == task.taskKey.text && contract.workflowKey == record.workflowKey.text &&
      contract.contractVersion == task.contractVersion && contract.baseCommit == record.baseCommit
  | _ => false

namespace Store

/-- Registers the tools of the specification a stored contract was made from. Until then no attempt
under the contract is admitted. -/
def bindWorkflowContractAuthority (s : Store) (digests : StoreDigests) (contractId : Sha256Digest)
    (spec : TaskSpec) : Except StoreError Store := do
  spec.validateStructure.mapError fun _ => .workflow "store_workflow_authority_invalid"
  let authority ← (ExecutionAuthority.fromSpec digests.taskSpec spec).mapError
    fun _ => .workflow "store_workflow_authority_invalid"
  let contract ← require (s.loadContract contractId) (.workflow "store_workflow_stale_contract")
  ensure (contract.taskSpecDigest = authority.taskSpecDigest ∧ contract.taskKey = spec.taskKey.text ∧
    contract.workflowKey = spec.workflowKey.text ∧ contract.contractVersion = spec.contractVersion ∧
    contract.baseCommit = spec.baseCommit) (.workflow "store_workflow_authority_mismatch")
  match s.loadContractAuthority contractId with
  | some existing =>
    ensure (existing = authority) (.workflow "store_workflow_authority_conflict")
    return s
  | none =>
    let (_, s) ← s.append ("workflow_contract_authority:".toList ++ contractId.toHex)
    return { s with authorities := s.authorities ++ [⟨contractId, authority⟩] }

/-- Inserts the contracts of an admission, in order. -/
def insertContracts : List ContractArtifact → Store → Except StoreError Store
  | [], s => .ok s
  | artifact :: rest, s => s.insertContractIfAbsent artifact >>= insertContracts rest

/-- The key of the event of an admission. -/
def preparedKey (workflowId : Uuid) : List Char :=
  "workflow_prepared:".toList ++ workflowId.hyphenated

/-- The association of a compiler call that the admission charged. -/
def associateCharged (s : Store) : Option PreparedCompilerAssociation → Except StoreError Store
  | some association => s.associatePreparedCompiler association
  | none => .ok s

/-- The part of `prepare_workflow` that writes a new workflow. -/
def insertPrepared (s : Store) (digests : StoreDigests) (record : WorkflowRecord)
    (contracts : List ContractArtifact) (fingerprint : Sha256Digest) :
    Except StoreError (WorkflowCommit × Store) := do
  let (admitted, association) ← s.chargeCompilerForPrepare digests record
  let (sequence, s) ← s.append (preparedKey record.workflowId)
  let s ← insertContracts contracts s
  let s ← s.insertWorkflow ⟨admitted, fingerprint, sequence⟩
  let s ← s.associateCharged association
  return (⟨admitted, some ⟨preparedKey record.workflowId⟩, sequence⟩, s)

/-- Admits a prepared workflow and its contracts. A repeated request key with the same admission
fingerprint returns the stored workflow and writes nothing. -/
def prepareWorkflow (s : Store) (digests : StoreDigests) (record : WorkflowRecord)
    (contracts : List ContractArtifact) : Except StoreError (WorkflowCommit × Store) := do
  record.validate.mapError recordError
  ensure (record.phase = .prepared ∧ record.version = 1) (.workflow "store_workflow_invalid_admission")
  ensure (record.tasks.all (contractMatches record contracts) = true ∧
    contracts.length = record.tasks.length) (.workflow "store_workflow_contract_mismatch")
  let fingerprint ← (digests.admission record.admissionFacts).mapError
    fun error => .workflow error.code
  match ← s.loadWorkflowByRequest record.requestKey with
  | some existing =>
    ensure (existing.fingerprint = fingerprint) (.workflow "store_workflow_request_conflict")
    return (⟨existing.record, none, existing.updatedSequence⟩, s)
  | none => s.insertPrepared digests record contracts fingerprint

/-- The reason a phase change records. -/
def phaseReason (phase : WorkflowPhase) (reasonCode : Option (List Char)) : Option (List Char) :=
  match phase with
  | .blocked => some (reasonCode.getD "blocked".toList)
  | .failed => some (reasonCode.getD "failed".toList)
  | _ => none

/-- The key of the event of a phase change. -/
def phaseKey (workflowId : Uuid) (version : Nat) : List Char :=
  "workflow_phase:".toList ++ workflowId.hyphenated ++ ':' :: decimal version

/-- Moves a workflow between phases. Acceptance is not reachable here, and cancellation completes only
when no lease still holds a reservation. -/
def transitionWorkflow (s : Store) (workflowId : Uuid) (expectedVersion : Nat) (phase : WorkflowPhase)
    (reasonCode : Option (List Char)) (timestamp : Timestamp) :
    Except StoreError (WorkflowCommit × Store) := do
  ensure (phase ≠ .accepted) (.workflow "store_workflow_acceptance_requires_gate")
  let stored ← s.loadExistingWorkflow workflowId
  ensure (stored.record.version = expectedVersion) (.workflow "store_workflow_version_conflict")
  ensure (phase = .cancelled →
    ((s.leasesFor workflowId).any fun lease => lease.state.holdsReservation) = false)
    (.workflow "store_workflow_attempts_unsettled")
  let moved ← (stored.record.withPhase phase (millis timestamp)).mapError recordError
  let next := { moved with blockedReason := phaseReason phase reasonCode }
  let (sequence, s) ← s.append (phaseKey workflowId next.version)
  let s ← s.updateWorkflow next stored.record.version sequence
  return (⟨next, some ⟨phaseKey workflowId next.version⟩, sequence⟩, s)

/-- The task under a new generation of its contract. -/
def nextGeneration (artifact : ContractArtifact) (task : WorkflowTask) : WorkflowTask :=
  { task with
    contractId := artifact.contractId
    contractVersion := artifact.contractVersion
    progress := .pending
    acceptedCandidate := none
    failureCode := none }

/-- Whether an artifact is the next generation of a task's contract. -/
def isSuccessor (record : WorkflowRecord) (task : WorkflowTask) (artifact : ContractArtifact) : Bool :=
  artifact.previousContractId == some task.contractId &&
    checkedSucc u32Max task.contractVersion == some artifact.contractVersion &&
    (artifact.semanticDiff.any fun diff => !diff.isEmpty) &&
    artifact.workflowKey == record.workflowKey.text

/-- The key of the event of a new contract generation. -/
def generationKey (workflowId : Uuid) (contractId : Sha256Digest) : List Char :=
  "workflow_generation:".toList ++ workflowId.hyphenated ++ ':' :: contractId.toHex

/-- Records a new contract generation of one task, which returns to `pending`. The older contract and
what is bound to it stay as they are. -/
def addContractGeneration (s : Store) (workflowId : Uuid) (expectedVersion : Nat)
    (artifact : ContractArtifact) (timestamp : Timestamp) :
    Except StoreError (WorkflowCommit × Store) := do
  let stored ← s.loadExistingWorkflow workflowId
  ensure (stored.record.version = expectedVersion) (.workflow "store_workflow_version_conflict")
  ensure (stored.record.phase.isTerminal = false) (.workflow "workflow_invalid_transition")
  let taskKey ← (SpecIdentifier.new artifact.taskKey).mapError
    fun _ => .workflow "workflow_invalid_identifier"
  let task ← require (stored.record.task taskKey) (.workflow "workflow_unknown_task")
  ensure (isSuccessor stored.record task artifact = true) (.workflow "store_workflow_invalid_generation")
  let changed ← (stored.record.taskMut taskKey (nextGeneration artifact)).mapError recordError
  let next ← (changed.bumped (millis timestamp)).mapError recordError
  let (sequence, s) ← s.append (generationKey workflowId artifact.contractId)
  let s ← s.insertContractIfAbsent artifact
  let s ← s.updateWorkflow next stored.record.version sequence
  return (⟨next, some ⟨generationKey workflowId artifact.contractId⟩, sequence⟩, s)

end Store

/-- The operations on the phases and the contracts of workflows. -/
inductive WorkflowOp where
  | bindContractAuthority (contractId : Sha256Digest) (spec : TaskSpec)
  | prepare (record : WorkflowRecord) (contracts : List ContractArtifact)
  | transition (workflowId : Uuid) (expectedVersion : Nat) (phase : WorkflowPhase)
      (reasonCode : Option (List Char)) (timestamp : Timestamp)
  | addContractGeneration (workflowId : Uuid) (expectedVersion : Nat) (artifact : ContractArtifact)
      (timestamp : Timestamp)
deriving DecidableEq

/-- What an operation on workflows returns. -/
inductive WorkflowResponse where
  | done
  | commit (commit : WorkflowCommit)

def Store.workflowStep (s : Store) (digests : StoreDigests) :
    WorkflowOp → Except StoreError (WorkflowResponse × Store)
  | .bindContractAuthority contractId spec => do
    return (.done, ← s.bindWorkflowContractAuthority digests contractId spec)
  | .prepare record contracts => do
    let (commit, s) ← s.prepareWorkflow digests record contracts
    return (.commit commit, s)
  | .transition workflowId expectedVersion phase reasonCode timestamp => do
    let (commit, s) ← s.transitionWorkflow workflowId expectedVersion phase reasonCode timestamp
    return (.commit commit, s)
  | .addContractGeneration workflowId expectedVersion artifact timestamp => do
    let (commit, s) ← s.addContractGeneration workflowId expectedVersion artifact timestamp
    return (.commit commit, s)

end Vibemux
