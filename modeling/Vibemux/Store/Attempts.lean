import Vibemux.Store.Leases

/-!
# Attempts of a workflow

An attempt is a dispatch admitted under the generation of an active lease, in the worktree of that
lease. The dispatch, its task and run, the association and the charge are written together.
-/

namespace Vibemux

open Checked

/-- `WORKFLOW_ATTEMPT_SCHEMA_VERSION`. -/
def workflowAttemptSchemaVersion : Nat := 2

/-- The request for an attempt. -/
structure WorkflowAttemptAdmission where
  workflowId : Uuid
  expectedWorkflowVersion : Nat
  leaseId : Uuid
  leaseGeneration : Nat
  taskKey : SpecIdentifier
  contractId : Sha256Digest
  purpose : AttemptPurpose
  sessionId : Uuid
  execution : WorkflowExecutionBinding
  dispatch : HarnessDispatchAdmission
deriving DecidableEq

/-- An admitted attempt. -/
structure WorkflowAttemptCommit where
  attempt : WorkflowAttemptRecord
  dispatch : HarnessDispatchCommit
  workflow : WorkflowRecord
  duplicate : Bool
deriving DecidableEq

/-- Answers and reviews may not change files. -/
def AttemptPurpose.readOnly : AttemptPurpose → Bool
  | answer | review => true
  | implement | repair => false

/-- The profile an attempt must be launched with. -/
def expectedProfile (evidenceClass : EvidenceClass) (harness : AgentKind) (protocol : NativeProtocol) :
    Option (List Char) :=
  match evidenceClass, harness, protocol with
  | .fixture, .codex, .codexExec => some "codex_fixture_writable_v1".toList
  | .fixture, .claude, .claudeStreamJson => some "claude_fixture_writable_v1".toList
  | .live, _, protocol => writableProfileId protocol
  | _, _, _ => none

namespace WorkflowAttemptAdmission

variable (self : WorkflowAttemptAdmission)

/-- Whether the launch is the one the contract's authority and the dispatch allow. -/
def grantMatches (record : WorkflowRecord) (contract : ContractArtifact)
    (authority : ExecutionAuthority) : Bool :=
  let execution := self.execution
  execution.taskSpecDigest == authority.taskSpecDigest &&
    authority.taskSpecDigest == contract.taskSpecDigest &&
    execution.effectiveTools == authority.effectiveTools self.purpose.readOnly &&
    execution.routeConfigDigest == self.dispatch.configSha256 &&
    execution.evidenceClass == record.evidenceClass &&
    execution.effectiveRoute.configDigest == self.dispatch.configSha256 &&
    execution.effectiveRoute.harness == self.dispatch.harness &&
    execution.effectiveRoute.protocol == self.dispatch.protocol &&
    execution.effectiveRoute.profile == execution.harnessProfile &&
    !execution.harnessProfile.isEmpty

/-- Whether a stored attempt is the one this admission asks for again. -/
def repeats (existing : WorkflowAttemptRecord) : Bool :=
  existing.workflowId == self.workflowId && existing.leaseId == self.leaseId &&
    existing.leaseGeneration == self.leaseGeneration && existing.taskKey == self.taskKey &&
    existing.contractId == self.contractId && existing.purpose == self.purpose &&
    existing.sessionId == self.sessionId && existing.execution == some self.execution

/-- The attempt an admission writes. -/
def attempt : WorkflowAttemptRecord where
  schemaVersion := workflowAttemptSchemaVersion
  requestId := self.dispatch.requestId
  workflowId := self.workflowId
  leaseId := self.leaseId
  leaseGeneration := self.leaseGeneration
  taskKey := self.taskKey
  contractId := self.contractId
  purpose := self.purpose
  sessionId := self.sessionId
  renderedPromptSha256 := self.dispatch.prompt.sha256
  execution := some self.execution
  createdAtMs := millis self.dispatch.timestamp

/-- The task when a worker turn starts. A later competitor of a comparison does not hide a candidate
that is already collected. -/
def startTurn (compare : Bool) (task : WorkflowTask) : WorkflowTask :=
  if compare ∧ task.progress = .candidateCollected then task
  else { task with progress := .running, failureCode := none }

/-- The record after the charge of the attempt. -/
def charged (record : WorkflowRecord) : Except WorkflowRecordError WorkflowRecord :=
  match self.purpose with
  | .review => .ok record
  | .answer => record.chargeTurn self.taskKey false
  | .implement => do
    let record ← record.chargeTurn self.taskKey false
    record.taskMut self.taskKey (startTurn (record.mode = .compare))
  | .repair => do
    let record ← record.chargeTurn self.taskKey true
    record.taskMut self.taskKey (startTurn (record.mode = .compare))

end WorkflowAttemptAdmission

/-- The key of the event of an attempt's admission. -/
def attemptKey (requestId : Uuid) : List Char := "workflow_attempt:".toList ++ requestId.hyphenated

namespace Store

variable (s : Store)

def loadExecution (workflowId : Uuid) : Option SupervisorExecution :=
  (Table.lookup ExecutionRow.workflowId s.executions workflowId).map ExecutionRow.record

/-- Whether a claimed action of the supervisor asks for this attempt. -/
def actionAsks (execution : SupervisorExecution) (admission : WorkflowAttemptAdmission)
    (action : SupervisorTool) : Bool :=
  match action with
  | .assignTask taskKey slotId =>
    taskKey == admission.taskKey && admission.purpose != .review &&
      (s.loadLease admission.leaseId).any fun lease => lease.slotId == slotId
  | .requestReview taskKey _ =>
    taskKey == admission.taskKey && admission.purpose == .review &&
      (s.loadLease admission.leaseId).any fun lease => lease.slotId == execution.reviewerSlot
  | _ => false

/-- `check_dispatch`: under a model supervisor an attempt needs a claimed action bound to it. -/
def checkDispatch (admission : WorkflowAttemptAdmission) : Except StoreError Unit :=
  match s.loadExecution admission.workflowId with
  | none => .ok ()
  | some execution =>
    if execution.mode ≠ .model then .ok ()
    else do
      ensure (execution.state = .running ∧
        OrderedMap.get execution.taskGates admission.taskKey = some .active)
        (.workflow "store_supervisor_task_not_active")
      let row ← require (s.actions.find? fun row =>
        row.record.workflowId = admission.workflowId &&
          row.record.dispatchRequestId = some admission.dispatch.requestId)
        (.workflow "store_supervisor_dispatch_unbound")
      let action := row.record
      ensure (action.generation = execution.generation ∧ action.state = .claimed ∧
        s.actionAsks execution admission action.action = true)
        (.workflow "store_supervisor_dispatch_unbound")

/-- `check_task_gate`: under a model supervisor the task, or every task, must be active. -/
def checkTaskGate (workflowId : Uuid) (taskKey : Option SpecIdentifier) : Except StoreError Unit :=
  match s.loadExecution workflowId with
  | none => .ok ()
  | some execution =>
    if execution.mode ≠ .model then .ok ()
    else
      let active := match taskKey with
        | some key => OrderedMap.get execution.taskGates key == some .active
        | none => execution.taskGates.all fun entry => entry.2 == .active
      ensure (execution.state = .running ∧ active = true) (.workflow "store_supervisor_task_not_active")

/-- `admit_dispatch_in`, on the dispatch tables of the store. -/
def admitDispatchIn (digests : StoreDigests) (admission : HarnessDispatchAdmission)
    (taskId runId : Uuid) : Except StoreError (HarnessDispatchCommit × Store) := do
  let (commit, harness) ← s.toHarnessStore.admitDispatchIn digests.dispatch admission taskId runId
  return (commit, { s with toHarnessStore := harness })

/-- The lease an attempt is admitted under. -/
def attemptLease (admission : WorkflowAttemptAdmission) : Except StoreError LeaseRecord := do
  let lease ← require (s.loadLease admission.leaseId) (.workflow "store_workflow_unknown_lease")
  ensure (lease.state = .active) (.workflow "workflow_lease_not_active")
  ensure (lease.generation = admission.leaseGeneration) (.workflow "workflow_lease_stale_generation")
  ensure (lease.workflowId = admission.workflowId ∧ lease.taskKey = admission.taskKey ∧
    lease.worktreeKey = admission.dispatch.resourceKey) (.workflow "store_workflow_lease_mismatch")
  return lease

/-- The part of `admit_workflow_attempt` that writes a new attempt. -/
def insertAttempt (digests : StoreDigests) (record : WorkflowRecord)
    (admission : WorkflowAttemptAdmission) (taskId runId : Uuid) :
    Except StoreError (WorkflowAttemptCommit × Store) := do
  ensure (record.version = admission.expectedWorkflowVersion)
    (.workflow "store_workflow_version_conflict")
  s.checkDispatch admission
  ensure (record.phase.admitsWork = true) (.workflow "store_workflow_not_running")
  let _ ← s.attemptLease admission
  let task ← require (record.task admission.taskKey) (.workflow "workflow_unknown_task")
  ensure (task.contractId = admission.contractId) (.workflow "store_workflow_stale_contract")
  let charged ← (admission.charged record).mapError recordError
  let next ← (charged.bumped (millis admission.dispatch.timestamp)).mapError recordError
  let (dispatch, s) ← s.admitDispatchIn digests admission.dispatch taskId runId
  -- Otherwise the request belongs to a dispatch that is not this attempt.
  ensure (dispatch.event.isSome = true) (.workflow "store_workflow_attempt_conflict")
  let (sequence, s) ← s.append (attemptKey admission.dispatch.requestId)
  let s := { s with attempts := s.attempts ++ [admission.attempt] }
  let s ← s.updateWorkflow next record.version sequence
  return (⟨admission.attempt, dispatch, next, false⟩, s)

/-- Admits one worker, answer, repair or review turn. -/
def admitWorkflowAttempt (digests : StoreDigests) (admission : WorkflowAttemptAdmission)
    (taskId runId : Uuid) : Except StoreError (WorkflowAttemptCommit × Store) := do
  let stored ← s.loadExistingWorkflow admission.workflowId
  let record := stored.record
  let contract ← require (s.loadContract admission.contractId)
    (.workflow "store_workflow_stale_contract")
  ensure (admission.dispatch.baseCommit = record.baseCommit ∧ contract.baseCommit = record.baseCommit)
    (.workflow "store_workflow_base_mismatch")
  let previous := s.loadAttempt admission.dispatch.requestId
  ensure (previous = none → (record.task admission.taskKey).all fun task =>
    task.contractId = admission.contractId) (.workflow "store_workflow_stale_contract")
  let authority ← require (s.loadContractAuthority admission.contractId)
    (.workflow "store_workflow_authority_legacy_unverified")
  ensure (admission.grantMatches record contract authority = true)
    (.workflow "store_workflow_launch_grant_mismatch")
  ensure (expectedProfile admission.execution.evidenceClass admission.dispatch.harness
    admission.dispatch.protocol = some admission.execution.harnessProfile)
    (.workflow "store_workflow_launch_profile_mismatch")
  match previous with
  | some existing =>
    ensure (admission.repeats existing = true) (.workflow "store_workflow_attempt_conflict")
    let (dispatch, s) ← s.admitDispatchIn digests admission.dispatch taskId runId
    return (⟨existing, dispatch, record, true⟩, s)
  | none => s.insertAttempt digests record admission taskId runId

end Store

end Vibemux
