import Vibemux.Controller.NativeController
import Vibemux.Lib.Worklist
import Vibemux.Workflow.Leases
import Vibemux.Workflow.Record

/-!
# Recovery checkpoints

`assessResume` compares a checkpoint with the current state and with what was observed of the resources,
and says whether the next task may be considered. The size of the encoding of a checkpoint and the digest
of its state are parameters.
-/

namespace Vibemux

open Checked Controller

/-- `RECOVERY_CHECKPOINT_SCHEMA_VERSION`. -/
def recoveryCheckpointSchemaVersion : Nat := 1

/-- `MAX_RECOVERY_CHECKPOINT_BYTES`. -/
def maxRecoveryCheckpointBytes : Nat := 256 * 1024

/-- `MAX_RECOVERY_REFERENCES`. -/
def maxRecoveryReferences : Nat := 512

/-- A contract of a checkpoint. -/
structure RecoveryContractRef where
  taskKey : SpecIdentifier
  contractId : Sha256Digest
  contractVersion : Nat
  templateDigest : Sha256Digest
  dependsOn : List SpecIdentifier
deriving DecidableEq

/-- A lease of a checkpoint. -/
structure RecoveryLeaseRef where
  leaseId : Uuid
  taskKey : SpecIdentifier
  generation : Nat
  state : LeaseState
deriving DecidableEq

/-- A controller of a checkpoint. -/
structure RecoveryControllerRef where
  controllerId : Uuid
  sessionId : Uuid
  taskKey : SpecIdentifier
  generation : Nat
  version : Nat
  owner : ControllerOwner
  phase : ControllerPhase
deriving DecidableEq

/-- The state of an attempt at a checkpoint. -/
inductive RecoveryAttemptState where
  | reserved
  | submitted
  | running
  | unknown
  | settled
deriving DecidableEq

/-- An attempt of a checkpoint. -/
structure RecoveryAttemptRef where
  requestId : Uuid
  submissionId : Uuid
  taskKey : SpecIdentifier
  contractId : Sha256Digest
  leaseId : Uuid
  leaseGeneration : Nat
  controllerId : Uuid
  controllerGeneration : Nat
  state : RecoveryAttemptState
deriving DecidableEq

/-- An open approval of a checkpoint. -/
structure RecoveryApprovalRef where
  taskKey : SpecIdentifier
  challenge : ApprovalChallenge
deriving DecidableEq

/-- How far a participant's messages got. -/
structure RecoveryMessageCursor where
  participantId : Uuid
  /-- `none` for the supervisor, whose cursor affects the whole workflow. -/
  taskKey : Option SpecIdentifier
  inboxSequence : Nat
  outboxSequence : Nat
  acknowledgedOutboxSequence : Nat
deriving DecidableEq

/-- An effect whose outcome may be unknown. -/
structure RecoveryEffectRef where
  effectId : Uuid
  /-- An effect of no task blocks every admission. -/
  taskKey : Option SpecIdentifier
deriving DecidableEq

/-- What a task has used of its budget. -/
structure RecoveryTaskBudget where
  taskKey : SpecIdentifier
  turnsUsed : Nat
  maxTurns : Nat
  repairsUsed : Nat
  maxRepairs : Nat
  modelRequestsUsed : Nat
  maxModelRequests : Nat
deriving DecidableEq

/-- The settings that a context was made with. -/
structure ContextSettingsIdentity where
  configuredContextTokens : Option Nat
  compactionSettingsDigest : Option Sha256Digest
deriving DecidableEq

/-- What comes next at a recovery. -/
inductive RecoveryAction where
  | inspect
  | reconcile
  | observeAttempt (requestId : Uuid)
  | continueTask (taskKey : SpecIdentifier)
deriving DecidableEq

/-- The writer builds this projection in one transaction. -/
structure RecoveryState where
  workflowId : Uuid
  workflowVersion : Nat
  workflowPhase : WorkflowPhase
  planGeneration : Nat
  planDigest : Sha256Digest
  policyDigest : Sha256Digest
  committedEventCursor : Nat
  contracts : List RecoveryContractRef
  attempts : List RecoveryAttemptRef
  leases : List RecoveryLeaseRef
  controllers : List RecoveryControllerRef
  pendingApprovals : List RecoveryApprovalRef
  messageCursors : List RecoveryMessageCursor
  artifactDigests : List Sha256Digest
  verifierReceiptIds : List Uuid
  unresolvedEffects : List RecoveryEffectRef
  loopBudget : LoopBudget
  taskBudgets : List RecoveryTaskBudget
  contextSettings : ContextSettingsIdentity
  /-- `none` gives automatic continuation no authority. -/
  preapprovedResumePolicy : Option Sha256Digest
  nextAction : RecoveryAction
deriving DecidableEq

/-- A state with its digest. -/
structure RecoveryCheckpoint where
  schemaVersion : Nat
  checkpointId : Uuid
  state : RecoveryState
  stateDigest : Sha256Digest
deriving DecidableEq

/-- What is wrong with a checkpoint. -/
inductive RecoveryError where
  | invalid
  | digestMismatch
  | referenceMismatch
  | stateChanged
  | budgetReset
  | contextSettingsChanged
  | invalidObservation
deriving DecidableEq

/-- `valid_ids`: no id is nil or repeated. -/
def ValidIds (ids : List Uuid) : Prop := (∀ id ∈ ids, id.isNil = false) ∧ ids.Nodup

instance (ids : List Uuid) : Decidable (ValidIds ids) := inferInstanceAs (Decidable (_ ∧ _))

/-- The tasks that a task needs, itself included. -/
def dependencyScope (contracts : List RecoveryContractRef) (taskKey : SpecIdentifier) : List SpecIdentifier :=
  Worklist.reachable (contracts.map fun contract => (contract.taskKey, contract.dependsOn)) taskKey

/-! ## Validation of a state -/

namespace RecoveryState

variable (state : RecoveryState)

/-- `tasks.contains_key`. -/
def hasTask (key : SpecIdentifier) : Bool := key ∈ state.contracts.map RecoveryContractRef.taskKey

/-- The sizes that are bounded. -/
def counts : List Nat :=
  [state.contracts.length, state.attempts.length, state.leases.length, state.controllers.length,
    state.pendingApprovals.length, state.messageCursors.length, state.artifactDigests.length,
    state.verifierReceiptIds.length, state.unresolvedEffects.length, state.taskBudgets.length]

def checkBounds : Except RecoveryError Unit := do
  ensure (state.workflowId.isNil = false ∧ state.workflowVersion ≠ 0 ∧ state.planGeneration ≠ 0 ∧
    state.committedEventCursor ≠ 0 ∧ state.contracts ≠ [] ∧ state.loopBudget.deadlineUnixMs ≠ 0 ∧
    state.contextSettings.configuredContextTokens ≠ some 0 ∧
    ∀ count ∈ state.counts, count ≤ maxRecoveryReferences) .invalid
  -- the work on the graph is bounded as well
  ensure ((state.contracts.map fun contract => contract.dependsOn.length).sum ≤ maxRecoveryReferences) .invalid

/-- The dependencies name other tasks and have no cycle. -/
def checkDependencies : Except RecoveryError Unit := do
  ensure (∀ contract ∈ state.contracts, contract.dependsOn.length ≤ maxRecoveryReferences ∧
    contract.dependsOn.Nodup ∧
    ∀ key ∈ contract.dependsOn, key ≠ contract.taskKey ∧ state.hasTask key = true) .referenceMismatch
  ensure (∀ contract ∈ state.contracts, ∀ key ∈ contract.dependsOn,
    contract.taskKey ∉ dependencyScope state.contracts key) .referenceMismatch

/-- No identity is repeated. -/
def checkIdentities : Except RecoveryError Unit :=
  ensure ((state.contracts.map RecoveryContractRef.taskKey).Nodup ∧
    (∀ contract ∈ state.contracts, contract.contractVersion ≠ 0) ∧
    (state.contracts.map RecoveryContractRef.contractId).Nodup ∧
    state.artifactDigests.Nodup ∧
    ValidIds state.verifierReceiptIds ∧
    ValidIds (state.leases.map RecoveryLeaseRef.leaseId) ∧
    ValidIds (state.controllers.map RecoveryControllerRef.controllerId) ∧
    ValidIds (state.controllers.map RecoveryControllerRef.sessionId) ∧
    ValidIds (state.attempts.map RecoveryAttemptRef.requestId) ∧
    ValidIds (state.attempts.map RecoveryAttemptRef.submissionId) ∧
    ValidIds (state.pendingApprovals.map fun approval => approval.challenge.challengeId) ∧
    ValidIds (state.messageCursors.map RecoveryMessageCursor.participantId) ∧
    ValidIds (state.unresolvedEffects.map RecoveryEffectRef.effectId)) .referenceMismatch

def checkResources : Except RecoveryError Unit :=
  ensure ((∀ lease ∈ state.leases, lease.generation ≠ 0 ∧ state.hasTask lease.taskKey = true) ∧
    ∀ controller ∈ state.controllers, controller.generation ≠ 0 ∧ controller.version ≠ 0 ∧
      state.hasTask controller.taskKey = true ∧ controller.owner.valid = true) .referenceMismatch

-- The maps of tasks, leases and controllers have one entry for each element here.
def checkAttempt (attempt : RecoveryAttemptRef) : Except RecoveryError Unit := do
  let contract ← require (state.contracts.find? fun contract => contract.taskKey = attempt.taskKey)
    .referenceMismatch
  let lease ← require (state.leases.find? fun lease => lease.leaseId = attempt.leaseId) .referenceMismatch
  let controller ← require
    (state.controllers.find? fun controller => controller.controllerId = attempt.controllerId)
    .referenceMismatch
  ensure (contract.contractId = attempt.contractId ∧ lease.taskKey = attempt.taskKey ∧
    lease.generation = attempt.leaseGeneration ∧ controller.taskKey = attempt.taskKey ∧
    controller.generation = attempt.controllerGeneration ∧
    (attempt.state = .settled ∨ lease.state.holdsReservation = true)) .referenceMismatch

def checkApproval (approval : RecoveryApprovalRef) : Except RecoveryError Unit := do
  let challenge := approval.challenge
  let controller ← require (state.controllers.find? fun controller =>
    controller.controllerId = challenge.controller.controllerId) .referenceMismatch
  ensure (challenge.requesterId.isNil = false ∧ controller.taskKey = approval.taskKey ∧
    controller.generation = challenge.controller.generation ∧
    controller.sessionId = challenge.sessionId ∧
    ∃ attempt ∈ state.attempts, attempt.submissionId = challenge.submissionId ∧
      attempt.controllerId = controller.controllerId ∧ attempt.taskKey = approval.taskKey ∧
      (attempt.state = .submitted ∨ attempt.state = .running ∨ attempt.state = .unknown)) .referenceMismatch

def checkCounters : Except RecoveryError Unit :=
  ensure ((∀ cursor ∈ state.messageCursors,
      cursor.acknowledgedOutboxSequence ≤ cursor.outboxSequence ∧ cursor.taskKey.all state.hasTask = true) ∧
    (∀ effect ∈ state.unresolvedEffects, effect.taskKey.all state.hasTask = true) ∧
    state.taskBudgets.length = state.contracts.length ∧
    (state.taskBudgets.map RecoveryTaskBudget.taskKey).Nodup ∧
    ∀ budget ∈ state.taskBudgets, state.hasTask budget.taskKey = true ∧
      budget.turnsUsed ≤ budget.maxTurns ∧ budget.repairsUsed ≤ budget.maxRepairs ∧
      budget.modelRequestsUsed ≤ budget.maxModelRequests) .referenceMismatch

def checkNextAction : Except RecoveryError Unit :=
  match state.nextAction with
  | .continueTask taskKey => ensure (state.hasTask taskKey = true) .referenceMismatch
  | .observeAttempt requestId =>
    ensure (∃ attempt ∈ state.attempts, attempt.requestId = requestId) .referenceMismatch
  | .inspect | .reconcile => .ok ()

def validate : Except RecoveryError Unit := do
  state.checkBounds
  state.checkDependencies
  state.checkIdentities
  state.checkResources
  forEach state.checkAttempt state.attempts
  forEach state.checkApproval state.pendingApprovals
  state.checkCounters
  state.checkNextAction

/-- Every list in the order of its key. -/
def normalize : RecoveryState :=
  { state with
    contracts := SortDedup.sortBy RecoveryContractRef.taskKey (state.contracts.map fun contract =>
      { contract with dependsOn := SortDedup.sort contract.dependsOn })
    attempts := SortDedup.sortBy RecoveryAttemptRef.requestId state.attempts
    leases := SortDedup.sortBy RecoveryLeaseRef.leaseId state.leases
    controllers := SortDedup.sortBy RecoveryControllerRef.controllerId state.controllers
    pendingApprovals := SortDedup.sortBy (fun approval => approval.challenge.challengeId) state.pendingApprovals
    messageCursors := SortDedup.sortBy RecoveryMessageCursor.participantId state.messageCursors
    artifactDigests := SortDedup.sort state.artifactDigests
    verifierReceiptIds := SortDedup.sort state.verifierReceiptIds
    unresolvedEffects := SortDedup.sortBy RecoveryEffectRef.effectId state.unresolvedEffects
    taskBudgets := SortDedup.sortBy RecoveryTaskBudget.taskKey state.taskBudgets }

end RecoveryState

/-! ## Checkpoints -/

/-- The encodings of a checkpoint: the number of bytes of its JSON, and the digest of its state, where
there is one. -/
structure RecoveryEncoding where
  size : RecoveryCheckpoint → Option Nat
  digest : RecoveryState → Option Sha256Digest

def RecoveryCheckpoint.validate (encoding : RecoveryEncoding) (checkpoint : RecoveryCheckpoint) :
    Except RecoveryError Unit := do
  ensure (checkpoint.schemaVersion = recoveryCheckpointSchemaVersion ∧
    checkpoint.checkpointId.isNil = false) .invalid
  checkpoint.state.validate
  let size ← require (encoding.size checkpoint) .invalid
  ensure (size ≤ maxRecoveryCheckpointBytes) .invalid
  ensure (checkpoint.state.normalize = checkpoint.state) .invalid
  let digest ← require (encoding.digest checkpoint.state) .invalid
  ensure (digest = checkpoint.stateDigest) .digestMismatch

/-! ## Observations and authorization -/

/-- What is seen of a resource. -/
inductive RecoveryPresence where
  | present
  | terminal
  | absent
  | unknown
deriving DecidableEq

/-- One observed resource. -/
structure RecoveryObservation where
  resourceId : Uuid
  generation : Nat
  presence : RecoveryPresence
deriving DecidableEq

/-- All that is observed at a resume. -/
structure RecoveryObservations where
  workflowVersion : Nat
  controllers : List RecoveryObservation
  leases : List RecoveryObservation

/-- The operator's consent to a resume. -/
inductive ResumeAuthorization where
  | none
  | operatorStart (checkpointId : Uuid) (workflowVersion : Nat)
  | preapproved (policyDigest : Sha256Digest)
deriving DecidableEq

/-- Whether and how a task goes on. -/
inductive ResumeDecision where
  | readOnly (action : RecoveryAction)
  | requiresOperatorStart
  | workflowStopped
  | contextSettingsUnknown
  | budgetExhausted
  | awaitingApproval (challengeIds : List Uuid)
  | humanControlled (controllerIds : List Uuid)
  | reconcile (attemptIds controllerIds leaseIds effectIds outboxParticipants : List Uuid)
  | ready (taskKey : SpecIdentifier) (loopBudget : LoopBudget) (taskBudget : RecoveryTaskBudget)
deriving DecidableEq

def checkObservations (state : RecoveryState) (observations : RecoveryObservations) :
    Except RecoveryError Unit :=
  ensure (observations.workflowVersion = state.workflowVersion ∧
    observations.controllers.length ≤ maxRecoveryReferences ∧
    observations.leases.length ≤ maxRecoveryReferences ∧
    ValidIds (observations.controllers.map RecoveryObservation.resourceId) ∧
    ValidIds (observations.leases.map RecoveryObservation.resourceId) ∧
    (∀ value ∈ observations.controllers, ∃ reference ∈ state.controllers,
      reference.controllerId = value.resourceId ∧ reference.generation = value.generation) ∧
    ∀ value ∈ observations.leases, ∃ reference ∈ state.leases,
      reference.leaseId = value.resourceId ∧ reference.generation = value.generation) .invalidObservation

/-! ## Continuity -/

/-- The counters of a task have not been reset. -/
def checkTaskBudget (before after : RecoveryTaskBudget) : Except RecoveryError Unit := do
  ensure (before.taskKey = after.taskKey ∧ before.maxTurns = after.maxTurns ∧
    before.maxRepairs = after.maxRepairs ∧ before.maxModelRequests = after.maxModelRequests) .stateChanged
  ensure (before.turnsUsed ≤ after.turnsUsed ∧ before.repairsUsed ≤ after.repairsUsed ∧
    before.modelRequestsUsed ≤ after.modelRequestsUsed) .budgetReset

def checkMessageCursor (before after : RecoveryMessageCursor) : Except RecoveryError Unit :=
  ensure (before.participantId = after.participantId ∧ before.taskKey = after.taskKey ∧
    before.inboxSequence ≤ after.inboxSequence ∧ before.outboxSequence ≤ after.outboxSequence ∧
    before.acknowledgedOutboxSequence ≤ after.acknowledgedOutboxSequence) .stateChanged

/-- The saved state with what may have moved on since. -/
def expectedState (saved current : RecoveryState) : RecoveryState :=
  { saved with
    workflowVersion := current.workflowVersion
    workflowPhase := current.workflowPhase
    committedEventCursor := current.committedEventCursor
    loopBudget := current.loopBudget
    taskBudgets := current.taskBudgets
    messageCursors := current.messageCursors }

def checkRecoveryContinuity (saved current : RecoveryState) : Except RecoveryError Unit := do
  ensure (current.contextSettings = saved.contextSettings) .contextSettingsChanged
  ensure ((saved.workflowPhase.isTerminal = true → current.workflowPhase = saved.workflowPhase) ∧
    (saved.workflowPhase = .cancelRequested →
      current.workflowPhase = .cancelRequested ∨ current.workflowPhase = .cancelled)) .stateChanged
  ensure (saved.workflowVersion ≤ current.workflowVersion ∧
    saved.committedEventCursor ≤ current.committedEventCursor) .stateChanged
  ensure (current.loopBudget.decisionsRemaining ≤ saved.loopBudget.decisionsRemaining ∧
    current.loopBudget.malformedRepairsRemaining ≤ saved.loopBudget.malformedRepairsRemaining ∧
    current.loopBudget.modelRequestsRemaining ≤ saved.loopBudget.modelRequestsRemaining ∧
    current.loopBudget.deadlineUnixMs = saved.loopBudget.deadlineUnixMs) .budgetReset
  ensure (current.taskBudgets.length = saved.taskBudgets.length) .stateChanged
  forEach (fun pair => checkTaskBudget pair.1 pair.2) (saved.taskBudgets.zip current.taskBudgets)
  ensure (current.messageCursors.length = saved.messageCursors.length) .stateChanged
  forEach (fun pair => checkMessageCursor pair.1 pair.2) (saved.messageCursors.zip current.messageCursors)
  ensure (expectedState saved current = current) .stateChanged

/-! ## The assessment -/

def Controller.ControllerOwner.isHuman : ControllerOwner → Bool
  | .human _ => true
  | _ => false

/-- Whether a resource was seen. -/
def observedPresent (observations : List RecoveryObservation) (id : Uuid) : Bool :=
  observations.any fun observation => observation.resourceId = id ∧ observation.presence = .present

section Blockers

variable (scope : List SpecIdentifier) (current : RecoveryState) (observations : RecoveryObservations)

/-- What belongs to no task is relevant for every task. -/
def relevant : Option SpecIdentifier → Bool
  | none => true
  | some key => key ∈ scope

def pendingChallenges : List Uuid :=
  (current.pendingApprovals.filter fun approval => relevant scope (some approval.taskKey)).map
    fun approval => approval.challenge.challengeId

def humanControllers : List Uuid :=
  (current.controllers.filter fun controller => relevant scope (some controller.taskKey) &&
    controller.owner.isHuman && controller.phase != .closed).map RecoveryControllerRef.controllerId

def openAttempts : List Uuid :=
  (current.attempts.filter fun attempt => relevant scope (some attempt.taskKey) &&
    attempt.state != .settled).map RecoveryAttemptRef.requestId

def uncertainControllers : List Uuid :=
  (current.controllers.filter fun controller => relevant scope (some controller.taskKey) &&
    controller.phase != .closed &&
    (controller.phase == .quiescing || controller.phase == .awaitingAttach ||
      !observedPresent observations.controllers controller.controllerId)).map
    RecoveryControllerRef.controllerId

def uncertainLeases : List Uuid :=
  (current.leases.filter fun lease => relevant scope (some lease.taskKey) &&
    lease.state.holdsReservation &&
    (lease.state == .quarantined || !observedPresent observations.leases lease.leaseId)).map
    RecoveryLeaseRef.leaseId

def openEffects : List Uuid :=
  (current.unresolvedEffects.filter fun effect => relevant scope effect.taskKey).map
    RecoveryEffectRef.effectId

def openOutboxes : List Uuid :=
  (current.messageCursors.filter fun cursor => relevant scope cursor.taskKey &&
    decide (cursor.acknowledgedOutboxSequence < cursor.outboxSequence)).map
    RecoveryMessageCursor.participantId

end Blockers

/-- Whether the authorization is for this checkpoint and the current state. -/
def ResumeAuthorization.authorizes (checkpoint : RecoveryCheckpoint) (current : RecoveryState) :
    ResumeAuthorization → Bool
  | .none => false
  | .operatorStart checkpointId workflowVersion =>
    checkpointId == checkpoint.checkpointId && workflowVersion == current.workflowVersion
  | .preapproved policyDigest => current.preapprovedResumePolicy == some policyDigest

/-- Whether nothing is left to spend. -/
def budgetExhausted (budget : LoopBudget) (taskBudget : RecoveryTaskBudget) (nowMs : Nat) : Bool :=
  budget.deadlineUnixMs ≤ nowMs || budget.decisionsRemaining == 0 || budget.modelRequestsRemaining == 0 ||
    taskBudget.maxTurns ≤ taskBudget.turnsUsed ||
    taskBudget.maxModelRequests ≤ taskBudget.modelRequestsUsed

/-- The decision about the task that is to be continued. -/
def assessTask (checkpoint : RecoveryCheckpoint) (current : RecoveryState) (observations : RecoveryObservations)
    (authorization : ResumeAuthorization) (nowMs : Nat) (taskKey : SpecIdentifier) :
    Except RecoveryError ResumeDecision :=
  let scope := dependencyScope current.contracts taskKey
  if pendingChallenges scope current ≠ [] then return .awaitingApproval (pendingChallenges scope current)
  else if humanControllers scope current ≠ [] then return .humanControlled (humanControllers scope current)
  else if openAttempts scope current ≠ [] ∨ uncertainControllers scope current observations ≠ [] ∨
      uncertainLeases scope current observations ≠ [] ∨ openEffects scope current ≠ [] ∨
      openOutboxes scope current ≠ [] then
    return .reconcile (openAttempts scope current) (uncertainControllers scope current observations)
      (uncertainLeases scope current observations) (openEffects scope current) (openOutboxes scope current)
  else if authorization.authorizes checkpoint current = false then return .requiresOperatorStart
  else do
    let taskBudget ← require (current.taskBudgets.find? fun budget => budget.taskKey = taskKey)
      .referenceMismatch
    return if budgetExhausted current.loopBudget taskBudget nowMs then .budgetExhausted
      else .ready taskKey current.loopBudget taskBudget

/-- The decision about a state that continues the checkpoint. -/
def assessCurrent (checkpoint : RecoveryCheckpoint) (current : RecoveryState)
    (observations : RecoveryObservations) (authorization : ResumeAuthorization) (nowMs : Nat) :
    Except RecoveryError ResumeDecision :=
  if current.workflowPhase.isTerminal = true ∨ current.workflowPhase = .cancelRequested then
    return .workflowStopped
  else
    match current.nextAction with
    | .continueTask taskKey =>
      if current.contextSettings.configuredContextTokens = none ∨
          current.contextSettings.compactionSettingsDigest = none then
        return .contextSettingsUnknown
      else assessTask checkpoint current observations authorization nowMs taskKey
    | action => return .readOnly action

/-- Whether a checkpoint can be resumed now. -/
def assessResume (encoding : RecoveryEncoding) (checkpoint : RecoveryCheckpoint) (current : RecoveryState)
    (observations : RecoveryObservations) (authorization : ResumeAuthorization) (nowMs : Nat) :
    Except RecoveryError ResumeDecision := do
  checkpoint.validate encoding
  current.validate
  let current := current.normalize
  checkRecoveryContinuity checkpoint.state current
  checkObservations current observations
  assessCurrent checkpoint current observations authorization nowMs

end Vibemux
