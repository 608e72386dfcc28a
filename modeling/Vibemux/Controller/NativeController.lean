import Vibemux.Basic

/-!
# The native controller

A `NativeController` record says who may write input to a session, which submission was reserved last
and how far its delivery has got, and whether the session is being handed over.
`applyControllerCommand` reduces one authenticated command and performs no input or output.
-/

namespace Vibemux.Controller

open Checked

/-- `CONTROLLER_SCHEMA_VERSION`. -/
def controllerSchemaVersion : Nat := 1

/-- `MAX_INPUT_BYTES`. -/
def maxInputBytes : Nat := 256 * 1024

/-- Who may write input to the session. -/
inductive ControllerOwner where
  | structured
  | native
  | human (operatorId : Uuid)
deriving DecidableEq

def ControllerOwner.valid : ControllerOwner → Bool
  | .human operatorId => !operatorId.isNil
  | _ => true

/-- The authenticated source of a command, supplied by the daemon. -/
inductive ControllerActor where
  | automation
  | adapter
  | human (operatorId : Uuid)
deriving DecidableEq

/-- The phases of a controller. -/
inductive ControllerPhase where
  | active
  | paused
  | quiescing
  | awaitingAttach
  | closed
deriving DecidableEq

/-- The session that a controller owns. -/
structure ControllerIdentity where
  workflowId : Uuid
  sessionId : Uuid
  controllerId : Uuid
  contractId : Sha256Digest
  contractVersion : Nat
deriving DecidableEq

/-- What a command must carry to be about the current controller. -/
structure ControllerFence where
  controllerId : Uuid
  generation : Nat
deriving DecidableEq

/-- How far a submission got. -/
inductive DeliveryState where
  | reserved
  | submitted
  | acknowledged
  | deliveryUnknown
  | settled
deriving DecidableEq

/-- How a submission ended. -/
inductive SubmissionOutcome where
  | completed
  | cancelled
  | failed
  | notDelivered
deriving DecidableEq

/-- An input with its place in the sequence. -/
structure InputReservation where
  submissionId : Uuid
  sequence : Nat
  contractId : Sha256Digest
  promptDigest : Sha256Digest
  promptBytes : Nat
deriving DecidableEq

/-- A reserved input and its delivery. -/
structure SubmissionRecord where
  reservation : InputReservation
  state : DeliveryState
  outcome : Option SubmissionOutcome
deriving DecidableEq

/-- How far an interruption got. -/
inductive InterruptionState where
  | requested
  | acknowledged
  | unknown
  | settled
deriving DecidableEq

/-- All fields are part of the identity of an approval. -/
structure ApprovalChallenge where
  challengeId : Uuid
  requesterId : Uuid
  sessionId : Uuid
  controller : ControllerFence
  submissionId : Uuid
  operationDigest : Sha256Digest
  scopeDigest : Sha256Digest
deriving DecidableEq

/-- The answer to an approval. -/
inductive ApprovalDecision where
  | allow
  | deny
deriving DecidableEq

/-- An answered approval. -/
structure ApprovalResolution where
  challenge : ApprovalChallenge
  /-- `none` when settlement expired the challenge. -/
  decision : Option ApprovalDecision
  operatorId : Option Uuid
deriving DecidableEq

/-- How control is handed over. -/
inductive HandoffTransfer where
  | sameSession (capabilityEvidence : Sha256Digest)
  | contextTransfer (bundleId : Uuid)
deriving DecidableEq

/-- Where control goes. -/
structure HandoffTarget where
  controllerId : Uuid
  sessionId : Uuid
  owner : ControllerOwner
  transfer : HandoffTransfer
deriving DecidableEq

/-- The record of a controller. -/
structure NativeController where
  schemaVersion : Nat
  identity : ControllerIdentity
  generation : Nat
  version : Nat
  owner : ControllerOwner
  phase : ControllerPhase
  /-- Retained after settlement so that the latest reservation cannot be replayed. -/
  lastSubmission : Option SubmissionRecord
  interruption : Option InterruptionState
  pendingApproval : Option ApprovalChallenge
  lastApprovalResolution : Option ApprovalResolution
  handoff : Option HandoffTarget
deriving DecidableEq

/-- What a controller refuses. -/
inductive ControllerError where
  | invalid
  | staleFence
  | staleVersion
  | actorNotAllowed
  | phaseForbids
  | unsettled
  | submissionConflict
  | deliveryNotReplayable
  | approvalMismatch
  | oldControllerNotTerminal
  | invalidContextTransfer
  | counterExhausted
deriving DecidableEq

namespace NativeController

variable (record : NativeController)

def fence : ControllerFence := ⟨record.identity.controllerId, record.generation⟩

def hasUnsettledInput : Bool :=
  record.lastSubmission.any fun submission => submission.state != .settled

def validateReservation (reservation : InputReservation) : Except ControllerError Unit :=
  ensure (reservation.submissionId.isNil = false ∧ reservation.sequence ≠ 0 ∧
    reservation.promptBytes ≠ 0 ∧ reservation.promptBytes ≤ maxInputBytes ∧
    reservation.contractId = record.identity.contractId) .invalid

def validateChallenge (challenge : ApprovalChallenge) : Except ControllerError Unit :=
  let validSubmission := record.lastSubmission.any fun submission =>
    submission.reservation.submissionId == challenge.submissionId &&
      (submission.state == .submitted || submission.state == .acknowledged)
  ensure (challenge.challengeId.isNil = false ∧ challenge.requesterId.isNil = false ∧
    challenge.sessionId = record.identity.sessionId ∧ challenge.controller = record.fence ∧
    validSubmission = true) .approvalMismatch

def validateTarget (target : HandoffTarget) : Except ControllerError Unit := do
  ensure (target.controllerId.isNil = false ∧
    target.controllerId ≠ record.identity.controllerId ∧
    target.sessionId.isNil = false ∧ target.owner.valid = true) .invalid
  match target.transfer with
  | .sameSession _ => ensure (target.sessionId = record.identity.sessionId) .invalidContextTransfer
  | .contextTransfer bundleId =>
    ensure (target.sessionId ≠ record.identity.sessionId ∧ bundleId.isNil = false)
      .invalidContextTransfer

/-- The checks on the last submission, or on its absence. -/
def validateSubmission : Except ControllerError Unit :=
  match record.lastSubmission with
  | some submission => do
    record.validateReservation submission.reservation
    ensure ((submission.state = .settled) ↔ submission.outcome.isSome = true) .invalid
  | none => ensure (record.interruption = none ∧ record.pendingApproval = none) .invalid

/-- The checks on the last approval resolution. -/
def validateResolution : Except ControllerError Unit :=
  match record.lastApprovalResolution with
  | none => .ok ()
  | some resolution =>
    ensure (resolution.decision.isSome = resolution.operatorId.isSome ∧
      resolution.operatorId.all (fun id => !id.isNil) = true ∧
      resolution.challenge.challengeId.isNil = false) .invalid

/-- `validate`: every record is checked before a command and after it. -/
def validate : Except ControllerError Unit := do
  ensure (record.schemaVersion = controllerSchemaVersion ∧
    record.identity.workflowId.isNil = false ∧ record.identity.sessionId.isNil = false ∧
    record.identity.controllerId.isNil = false ∧ record.identity.contractVersion ≠ 0 ∧
    record.generation ≠ 0 ∧ record.version ≠ 0 ∧ record.generation ≤ record.version ∧
    record.owner.valid = true) .invalid
  record.validateSubmission
  match record.pendingApproval with
  | some approval => record.validateChallenge approval
  | none => .ok ()
  record.validateResolution
  ensure ((record.phase = .quiescing ∨ record.phase = .awaitingAttach) ↔
    record.handoff.isSome = true) .invalid
  match record.handoff with
  | some target => record.validateTarget target
  | none => .ok ()
  ensure (¬ ((record.phase = .awaitingAttach ∨ record.phase = .closed) ∧
    (record.hasUnsettledInput = true ∨ record.pendingApproval.isSome = true))) .unsettled
  ensure (¬ (record.interruption = some .settled ∧ record.hasUnsettledInput = true)) .invalid

/-- The input owner may write; nobody else may. -/
def checkInputActor (actor : ControllerActor) : Except ControllerError Unit :=
  match record.owner, actor with
  | .structured, .automation => .ok ()
  | .native, .automation => .ok ()
  | .human operatorId, .human actual => ensure (operatorId = actual) .actorNotAllowed
  | _, _ => .error .actorNotAllowed

/-- The actor checks of `BeginHandoff`: a human owner hands the session over in person, and a human
target takes it in person. -/
def checkHandoffActor (actor : ControllerActor) (target : HandoffTarget) :
    Except ControllerError Unit := do
  match record.owner with
  | .human _ => record.checkInputActor actor
  | _ => .ok ()
  match target.owner with
  | .human operatorId => ensure (actor = .human operatorId) .actorNotAllowed
  | _ => .ok ()

/-- The last submission, if it is the one named. -/
def matchingSubmission (submissionId : Uuid) : Except ControllerError SubmissionRecord :=
  require (record.lastSubmission.filter fun submission =>
    submission.reservation.submissionId == submissionId) .submissionConflict

end NativeController

/-- `NativeController::new`: a paused record of generation one. -/
def NativeController.new (identity : ControllerIdentity) (owner : ControllerOwner) :
    Except ControllerError NativeController := do
  let record : NativeController :=
    { schemaVersion := controllerSchemaVersion
      identity := identity
      generation := 1
      version := 1
      owner := owner
      phase := .paused
      lastSubmission := none
      interruption := none
      pendingApproval := none
      lastApprovalResolution := none
      handoff := none }
  record.validate
  return record

/-- What is seen of the vendor's session. -/
inductive ControllerObservation where
  | terminal
  | present
  | unknown
deriving DecidableEq

/-- The commands of a controller. -/
inductive ControllerCommand where
  | pause
  | resume
  | reserveSubmission (reservation : InputReservation)
  | beginSubmission (submissionId : Uuid)
  | acknowledgeSubmission (submissionId : Uuid)
  | deliveryUnknown (submissionId : Uuid)
  | settleSubmission (submissionId : Uuid) (outcome : SubmissionOutcome)
  | requestInterruption (submissionId : Uuid)
  | observeInterruption (submissionId : Uuid) (acknowledged : Bool)
  | raiseApproval (challenge : ApprovalChallenge)
  | resolveApproval (challenge : ApprovalChallenge) (decision : ApprovalDecision)
  | beginHandoff (target : HandoffTarget)
  | observeOldController (observation : ControllerObservation)
  | attach (controllerId sessionId : Uuid)
  | close
deriving DecidableEq

/-- The commands only the adapter issues, and the only ones it issues. -/
def ControllerCommand.isAdapterCommand : ControllerCommand → Bool
  | .acknowledgeSubmission _ => true
  | .deliveryUnknown _ => true
  | .settleSubmission _ _ => true
  | .observeInterruption _ _ => true
  | .raiseApproval _ => true
  | .observeOldController _ => true
  | .attach _ _ => true
  | _ => false

def ControllerActor.isNilHuman : ControllerActor → Bool
  | .human operatorId => operatorId.isNil
  | _ => false

/-- The record a command leads to; `duplicate` means that no effect is permitted and no version was
consumed. -/
structure ControllerTransition where
  record : NativeController
  duplicate : Bool
deriving DecidableEq

/-- Which delivery states a submission may be settled from, by outcome. -/
def SubmissionOutcome.settlesFrom : SubmissionOutcome → DeliveryState → Bool
  | .completed, .acknowledged => true
  | .notDelivered, .reserved => true
  | .notDelivered, .deliveryUnknown => true
  | .cancelled, .submitted => true
  | .cancelled, .acknowledged => true
  | .cancelled, .deliveryUnknown => true
  | .failed, .submitted => true
  | .failed, .acknowledged => true
  | .failed, .deliveryUnknown => true
  | _, _ => false

/-- The fresh reservation of `ReserveSubmission`, once the previous submission is out of the way: it
takes the next sequence number. -/
def reserveFresh (record : NativeController) (reservation : InputReservation) :
    Except ControllerError (NativeController × Bool) := do
  let previous := (record.lastSubmission.map (·.reservation.sequence)).getD 0
  let sequence ← require (checkedSucc u64Max previous) .counterExhausted
  ensure (reservation.sequence = sequence) .submissionConflict
  return ({ record with
    lastSubmission := some ⟨reservation, .reserved, none⟩
    interruption := none }, false)

/-- The record after one command, before its version is raised, and whether the command was a
duplicate. One branch for each command, with the checks in the order of the source. -/
def reduceCommand (record : NativeController) (actor : ControllerActor) :
    ControllerCommand → Except ControllerError (NativeController × Bool)
  | .pause => do
    ensure (record.phase = .active ∨ record.phase = .paused) .phaseForbids
    return (if record.handoff = none then { record with phase := .paused } else record, false)
  | .resume => do
    record.checkInputActor actor
    ensure (record.phase = .paused ∧ record.pendingApproval = none) .phaseForbids
    return ({ record with phase := .active }, false)
  | .reserveSubmission reservation => do
    record.checkInputActor actor
    record.validateReservation reservation
    ensure (record.phase = .active) .phaseForbids
    match record.lastSubmission with
    | some previous =>
      if previous.reservation.submissionId = reservation.submissionId then do
        ensure (previous.reservation = reservation) .submissionConflict
        return (record, true)
      else do
        ensure (previous.state = .settled ∧ record.pendingApproval = none) .unsettled
        reserveFresh record reservation
    | none => reserveFresh record reservation
  | .beginSubmission submissionId => do
    record.checkInputActor actor
    ensure (record.phase = .active ∧ record.pendingApproval = none) .phaseForbids
    let submission ← record.matchingSubmission submissionId
    ensure (submission.state = .reserved) .deliveryNotReplayable
    return ({ record with lastSubmission := some { submission with state := .submitted } }, false)
  | .acknowledgeSubmission submissionId => do
    let submission ← record.matchingSubmission submissionId
    ensure (submission.state = .submitted ∨ submission.state = .deliveryUnknown)
      .deliveryNotReplayable
    return ({ record with lastSubmission := some { submission with state := .acknowledged } },
      false)
  | .deliveryUnknown submissionId => do
    ensure (record.pendingApproval = none) .unsettled
    let submission ← record.matchingSubmission submissionId
    ensure (submission.state = .submitted) .deliveryNotReplayable
    return ({ record with
      lastSubmission := some { submission with state := .deliveryUnknown }
      phase := if record.handoff = none then .paused else record.phase }, false)
  | .settleSubmission submissionId outcome => do
    let submission ← record.matchingSubmission submissionId
    ensure (outcome.settlesFrom submission.state = true) .deliveryNotReplayable
    ensure (¬ (record.pendingApproval.isSome = true ∧ outcome = .completed)) .unsettled
    return ({ record with
      lastSubmission := some { submission with state := .settled, outcome := some outcome }
      pendingApproval := none
      lastApprovalResolution := match record.pendingApproval with
        | some challenge => some ⟨challenge, none, none⟩
        | none => record.lastApprovalResolution
      interruption := record.interruption.map fun _ => .settled }, false)
  | .requestInterruption submissionId => do
    let submission ← record.matchingSubmission submissionId
    ensure (submission.state ≠ .reserved ∧ submission.state ≠ .settled) .phaseForbids
    return ({ record with
      interruption := some (record.interruption.getD .requested)
      phase := if record.phase = .quiescing then .quiescing else .paused },
      record.interruption.isSome)
  | .observeInterruption submissionId acknowledged => do
    let _ ← record.matchingSubmission submissionId
    ensure (record.interruption = some .requested ∨ record.interruption = some .unknown)
      .phaseForbids
    return ({ record with
      interruption := some (if acknowledged then .acknowledged else .unknown) }, false)
  | .raiseApproval challenge => do
    record.validateChallenge challenge
    match record.pendingApproval with
    | some existing => do
      ensure (existing = challenge) .approvalMismatch
      return (record, true)
    | none => do
      ensure (record.lastApprovalResolution.all
        (fun resolution => resolution.challenge.challengeId != challenge.challengeId) = true)
        .approvalMismatch
      return ({ record with pendingApproval := some challenge }, false)
  | .resolveApproval challenge decision =>
    match actor with
    | .human operatorId => do
      ensure (record.pendingApproval = some challenge) .approvalMismatch
      record.validateChallenge challenge
      return ({ record with
        pendingApproval := none
        lastApprovalResolution := some ⟨challenge, some decision, some operatorId⟩ }, false)
    | _ => .error .actorNotAllowed
  | .beginHandoff target => do
    ensure (record.phase = .active ∨ record.phase = .paused) .phaseForbids
    record.checkHandoffActor actor target
    record.validateTarget target
    return ({ record with handoff := some target, phase := .quiescing }, false)
  | .observeOldController observation => do
    ensure (record.phase = .quiescing) .phaseForbids
    ensure (observation = .terminal) .oldControllerNotTerminal
    ensure (record.hasUnsettledInput = false ∧ record.pendingApproval = none) .unsettled
    return ({ record with phase := .awaitingAttach }, false)
  | .attach controllerId sessionId => do
    ensure (record.phase = .awaitingAttach) .oldControllerNotTerminal
    let target ← require record.handoff .invalid
    ensure (controllerId = target.controllerId ∧ sessionId = target.sessionId) .staleFence
    let generation ← require (checkedSucc u64Max record.generation) .counterExhausted
    return ({ record with
      generation := generation
      identity := { record.identity with
        controllerId := target.controllerId
        sessionId := target.sessionId }
      owner := target.owner
      phase := .paused
      handoff := none }, false)
  | .close => do
    record.checkInputActor actor
    ensure (record.hasUnsettledInput = false ∧ record.pendingApproval = none ∧
      record.handoff = none) .unsettled
    return ({ record with phase := .closed }, false)

/-- `apply_controller_command`: the checks every command passes, its own branch, and the version. -/
def applyControllerCommand (record : NativeController) (expectedVersion : Nat)
    (fence : ControllerFence) (actor : ControllerActor) (command : ControllerCommand) :
    Except ControllerError ControllerTransition := do
  record.validate
  ensure (fence = record.fence) .staleFence
  ensure (expectedVersion = record.version) .staleVersion
  ensure (record.phase ≠ .closed) .phaseForbids
  ensure (command.isAdapterCommand = decide (actor = .adapter) ∧ actor.isNilHuman = false)
    .actorNotAllowed
  let (next, duplicate) ← reduceCommand record actor command
  if duplicate then
    return ⟨record, true⟩
  else do
    let version ← require (checkedSucc u64Max record.version) .counterExhausted
    let next := { next with version := version }
    next.validate
    return ⟨next, false⟩

/-- One step of a run: who sends which command, for which version and fence. -/
structure ControllerInput where
  expectedVersion : Nat
  fence : ControllerFence
  actor : ControllerActor
  command : ControllerCommand
deriving DecidableEq

/-- `applyControllerCommand` as the step of a machine that answers whether the command was a
duplicate. -/
def controllerStep (record : NativeController) (input : ControllerInput) :
    Except ControllerError (Bool × NativeController) := do
  let transition ← applyControllerCommand record input.expectedVersion input.fence input.actor
    input.command
  return (transition.duplicate, transition.record)

end Vibemux.Controller
