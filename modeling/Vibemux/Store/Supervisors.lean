import Vibemux.Store.Messages
import Vibemux.Store.Workflows

/-!
# Supervisors, controllers and contract edits

The operations of the supervisor, of the controllers and of contract edits, as far as they write tables
that other operations use: workflows, contracts, calls, messages and events. There they write what the
source writes. What they check and keep of their own (rounds, plans, controllers, edits) is left out,
and the executions and actions they save are arguments of the step. So every step of the source is a
step here, and a property of all runs of the model holds of the source's runs.
-/

namespace Vibemux

open Checked

/-- The supervisor's rows after an operation, and the keys of the events about them. -/
structure SupervisorWrite where
  executions : List ExecutionRow
  actions : List ActionRow
  keys : List (List Char)
deriving DecidableEq

/-- How an operation of a supervisor or a controller changes the record of a workflow. -/
inductive RecordChange where
  /-- `commit_supervisor_proposal`, of a proposal with `count` decisions. -/
  | proposal (count : Nat) (accepted : Bool) (timestamp : Timestamp)
  /-- `reject_supervisor_round`. -/
  | rejectRound (malformed : Bool)
  /-- `claim_supervisor_action`. -/
  | claimAction (action : SupervisorTool)
  /-- `change_workflow_controller`, when it reserves a submission to a native session. -/
  | reserveSubmission (taskKey : SpecIdentifier) (timestamp : Timestamp)
deriving DecidableEq

namespace WorkflowRecord

variable (self : WorkflowRecord)

/-- A malformed proposal costs one repair, while there are repairs. -/
def chargeRepair (malformed : Bool) : WorkflowRecord :=
  if malformed then
    { self with
      budget := { self.budget with
        malformedRepairsRemaining := self.budget.malformedRepairsRemaining - 1 } }
  else self

/-- What claiming an action does to the record before the next version. -/
def claimed : SupervisorTool → Except WorkflowRecordError WorkflowRecord
  | .requestCancel (some taskKey) =>
    self.taskMut taskKey fun task =>
      { task with progress := .failed, failureCode := some "supervisor_task_cancelled".toList }
  | .requestCancel none => do
    ensure (self.phase.canTransitionTo .cancelRequested = true) .invalidTransition
    return { self with phase := .cancelRequested }
  | .reportBlocked reasonCode => do
    ensure (self.phase.canTransitionTo .blocked = true) .invalidTransition
    return { self with phase := .blocked, blockedReason := some reasonCode.text }
  | _ => .ok self

/-- The next version of the record. A rejected round and a claimed action leave its time. -/
def changed : RecordChange → Except StoreError WorkflowRecord
  | .proposal count accepted timestamp =>
    let charged := self.chargeRepair !accepted
    let spent := { charged with
      budget := { charged.budget with
        decisionsRemaining := charged.budget.decisionsRemaining - max count 1 } }
    (spent.bumped (millis timestamp)).mapError recordError
  | .rejectRound malformed => ((self.chargeRepair malformed).bumped 0).mapError recordError
  | .claimAction action => do
    ensure (self.phase.admitsWork = true) (.workflow "store_workflow_not_running")
    let claimed ← (self.claimed action).mapError recordError
    (claimed.bumped 0).mapError recordError
  | .reserveSubmission taskKey timestamp => do
    ensure (self.phase.admitsWork = true ∧ self.budget.modelRequestsRemaining ≠ 0 ∧
      millis timestamp < self.budget.deadlineUnixMs) (.workflow "store_controller_budget_exhausted")
    let turn ← (self.chargeTurn taskKey false).mapError recordError
    let charged := { turn with
      budget := { turn.budget with
        modelRequestsRemaining := turn.budget.modelRequestsRemaining - 1 } }
    (charged.bumped (millis timestamp)).mapError recordError

end WorkflowRecord

/-- The admission of a successor whose contracts replace those of a settled workflow. -/
structure ContractEditAdmission where
  editId : Uuid
  parentWorkflowId : Uuid
  expectedParentVersion : Nat
  successor : WorkflowRecord
  contracts : List ContractArtifact
  timestamp : Timestamp
deriving DecidableEq

/-- The phases a contract edit takes its parent through. A terminal parent stays. -/
def WorkflowPhase.retirement : WorkflowPhase → List WorkflowPhase
  | prepared => [.cancelled]
  | paused | blocked => [.cancelRequested, .cancelled]
  | _ => []

/-- The key of the event of one phase of a retirement. -/
def retiredKey (editId : Uuid) (phase : WorkflowPhase) : List Char :=
  "workflow_edit_retired:".toList ++ editId.hyphenated ++ ':' :: phase.asStr

/-- The key of the event of a contract edit. -/
def editedKey (editId : Uuid) : List Char := "workflow_contract_edited:".toList ++ editId.hyphenated

namespace Store

variable (s : Store)

/-- The events of an operation and the supervisor's rows. -/
def saveSupervisor (write : SupervisorWrite) : Except StoreError Store := do
  let s ← appendAll write.keys s
  return { s with executions := write.executions, actions := write.actions }

/-- A change of a workflow's record, with the event under `key`. -/
def changeRecord (workflowId : Uuid) (change : RecordChange) (key : List Char) :
    Except StoreError Store := do
  let stored ← s.loadExistingWorkflow workflowId
  let next ← stored.record.changed change
  let (sequence, s) ← s.append key
  s.updateWorkflow next stored.record.version sequence

/-- `reserve_supervisor_round`: the call of a round is reserved as any other. -/
def reserveSupervisorRound (digests : StoreDigests) (admission : ModelCallAdmission) (now : Timestamp)
    (write : SupervisorWrite) : Except StoreError Store := do
  let (_, s) ← s.reserveModelCallIn digests admission now
  s.saveSupervisor write

/-- `admit_supervisor_message`: a message of the supervisor is admitted as any other, while its
workflow admits work. -/
def admitSupervisorMessage (digests : StoreDigests) (envelope : MessageEnvelope)
    (timestamp : Timestamp) : Except StoreError (MessageCommit × Store) := do
  let stored ← s.loadExistingWorkflow envelope.workflowId
  ensure (stored.record.phase.admitsWork = true) (.workflow "store_supervisor_context_mismatch")
  s.admitWorkflowMessage digests envelope timestamp

/-- Takes a workflow through the remaining phases of its retirement. -/
def retireWorkflow (editId : Uuid) (nowMs : Nat) :
    List WorkflowPhase → WorkflowRecord → Store → Except StoreError Store
  | [], _, s => .ok s
  | phase :: rest, record, s => do
    let next ← (record.withPhase phase nowMs).mapError recordError
    let (sequence, s) ← s.append (retiredKey editId phase)
    let s ← s.updateWorkflow next record.version sequence
    retireWorkflow editId nowMs rest next s

/-- `prepare_contract_edit`, when the edit is a new one. The comparison of the plans and of the
successor with its parent is left out. -/
def prepareContractEdit (digests : StoreDigests) (edit : ContractEditAdmission) :
    Except StoreError Store := do
  ensure (edit.editId.isNil = false ∧ edit.expectedParentVersion ≠ 0 ∧
    edit.parentWorkflowId ≠ edit.successor.workflowId) (.workflow "workflow_edit_invalid_request")
  let stored ← s.loadExistingWorkflow edit.parentWorkflowId
  ensure (stored.record.version = edit.expectedParentVersion) (.workflow "store_workflow_version_conflict")
  ensure (stored.record.phase.isTerminal = true ∨ stored.record.phase.retirement ≠ [])
    (.workflow "workflow_edit_parent_not_quiescent")
  ensure (((s.leasesFor edit.parentWorkflowId).any fun lease => lease.state.holdsReservation) = false)
    (.workflow "workflow_edit_unsettled_effects")
  edit.successor.validate.mapError recordError
  ensure (edit.successor.phase = .prepared ∧ edit.successor.version = 1)
    (.workflow "workflow_edit_immutable_authority")
  ensure ((edit.successor.tasks.all fun task =>
    task.progress = .pending && task.acceptedCandidate = none && task.failureCode = none) = true)
    (.workflow "workflow_edit_invalid_plan")
  let found ← s.loadWorkflowByRequest edit.successor.requestKey
  ensure (found = none) (.workflow "workflow_edit_request_conflict")
  let s ← retireWorkflow edit.editId (millis edit.timestamp) stored.record.phase.retirement
    stored.record s
  let (sequence, s) ← s.append (editedKey edit.editId)
  let s ← insertContracts edit.contracts s
  let fingerprint ← (digests.admission edit.successor.admissionFacts).mapError
    fun _ => .workflow "workflow_edit_invalid_plan"
  s.insertWorkflow ⟨edit.successor, fingerprint, sequence⟩

end Store

/-- The operations of supervisors, controllers and contract edits. -/
inductive SupervisorOp where
  /-- The start, the end and the recovery of an execution, and the end of an action. -/
  | save (write : SupervisorWrite)
  | changeRecord (workflowId : Uuid) (change : RecordChange) (key : List Char) (write : SupervisorWrite)
  | reserveRound (admission : ModelCallAdmission) (now : Timestamp) (write : SupervisorWrite)
  | admitMessage (envelope : MessageEnvelope) (timestamp : Timestamp)
  | editContract (edit : ContractEditAdmission)
deriving DecidableEq

/-- What such an operation leaves. -/
def Store.supervisorStep (s : Store) (digests : StoreDigests) : SupervisorOp → Except StoreError Store
  | .save write => s.saveSupervisor write
  | .changeRecord workflowId change key write => do
    let s ← s.changeRecord workflowId change key
    s.saveSupervisor write
  | .reserveRound admission now write => s.reserveSupervisorRound digests admission now write
  | .admitMessage envelope timestamp => do
    let (_, s) ← s.admitSupervisorMessage digests envelope timestamp
    return s
  | .editContract edit => s.prepareContractEdit digests edit

end Vibemux
