import Vibemux.A2a.RunRecord
import Vibemux.Lib.History

/-!
# Durable remote runs

The transactions that bind a run to a remote peer and move it. Several runs share one task, so a record
takes its task from the projection when it is loaded. A change is found again by its idempotency key, and
a record is checked against the digest in the event of its last change.
-/

namespace Vibemux

open Checked Text

/-- The columns of an event that an audit reads. -/
structure AuditEvent where
  idempotencyKey : List Char
  projectId : Uuid
  taskId : Option Uuid
  runId : Option Uuid
  recordSha256 : Option Sha256Digest
  relatedRunId : Option Uuid
  relatedRecordSha256 : Option Sha256Digest
deriving DecidableEq

/-- A run entity with the sequence of its last change. -/
structure RunProjection where
  run : Run
  updatedSequence : Nat
deriving DecidableEq

/-- The primary key of the run projections. -/
def RunProjection.runId (projection : RunProjection) : Uuid := projection.run.runId

/-- A remote run in its table. -/
structure A2aRow where
  record : A2aRunRecord
  updatedSequence : Nat
deriving DecidableEq

/-- The primary key of the table. -/
def A2aRow.runId (row : A2aRow) : Uuid := row.record.run.runId

/-- A command that was stored with its key. -/
structure A2aCommand where
  idempotencyKey : List Char
  fingerprint : Sha256Digest
  record : A2aRunRecord
  eventSequence : Nat
deriving DecidableEq

/-- The part of the store that remote runs use. -/
structure A2aStore where
  events : List AuditEvent
  tasks : List Task
  runs : List RunProjection
  /-- The tasks that harness dispatches own. -/
  dispatchTasks : List Uuid
  records : List A2aRow
  commands : List A2aCommand
deriving DecidableEq

/-- A commit, or the repeat of one. -/
structure A2aCommitOutcome where
  record : A2aRunRecord
  event : AuditEvent
  duplicate : Bool
deriving DecidableEq

/-- What a fingerprint is taken of. -/
inductive A2aDocument where
  | start (start : A2aRunStart)
  | update (update : A2aRunUpdate)
  | record (record : A2aRunRecord)
deriving DecidableEq

/-- `a2a::is_terminal`. -/
def RunStatus.isA2aTerminal : RunStatus → Bool
  | .stopped | .failed | .succeeded => true
  | _ => false

def transitionTask (task : Task) (target : TaskStatus) : Except StoreError Task :=
  (task.transitioned target).mapError fun _ => .a2aInvalidTransition

def transitionRun (run : Run) (target : RunStatus) (authority : Option RunCompletionAuthority) :
    Except StoreError Run :=
  (run.transitioned target authority).mapError fun _ => .a2aInvalidTransition

def startTask (task : Task) : Except StoreError Task :=
  match task.status with
  | .open | .blocked => transitionTask task .inProgress
  | .inProgress => .ok task
  | _ => .error .a2aInvalidTransition

def blockTask (task : Task) : Except StoreError Task :=
  if task.status = .blocked then .ok task else transitionTask task .blocked

/-- The task after a receipt of the verifier. -/
def verifiedTask (task : Task) (accepted : Bool) : Except StoreError Task :=
  if accepted then transitionTask task .done else blockTask task

/-- The task after the remote cancellation of a run. -/
def cancelledTask (task : Task) (others : Bool) : Except StoreError Task :=
  if others then blockTask task else transitionTask task .cancelled

variable (fingerprint : A2aDocument → Sha256Digest)

/-- `validate_audit_record`: the event names the record's digest. -/
def validateAuditRecord (record : A2aRunRecord) (event : AuditEvent) : Except StoreError Unit := do
  ensure (event.projectId = record.task.projectId ∧ event.taskId = some record.task.taskId)
    .a2aProjectionMismatch
  if event.runId = some record.run.runId then
    ensure (event.recordSha256 = some (fingerprint (.record record))) .a2aProjectionMismatch
  else
    ensure (event.relatedRunId = some record.run.runId ∧
      event.relatedRecordSha256 = some (fingerprint (.record record))) .a2aProjectionMismatch

namespace A2aStore

/-- The event with a sequence, which is its position counted from one. -/
def eventAt (s : A2aStore) (sequence : Nat) : Option AuditEvent :=
  if sequence = 0 then none else s.events[sequence - 1]?

/-- `load_record`: the record of a run with the task as it is now. -/
def loadRecord (s : A2aStore) (runId : Uuid) : Except StoreError (Option A2aRunRecord) :=
  match Table.lookup A2aRow.runId s.records runId with
  | none => .ok none
  | some row => do
    row.record.validate.mapError fun _ => .json
    let event ← require (s.eventAt row.updatedSequence) .database
    validateAuditRecord fingerprint row.record event
    let task ← require (Table.lookup Task.taskId s.tasks row.record.run.taskId) .a2aProjectionMismatch
    ensure (task.title = row.record.task.title ∧ task.description = row.record.task.description)
      .a2aProjectionMismatch
    let projection ← require (Table.lookup RunProjection.runId s.runs runId) .database
    ensure (projection.run = row.record.run ∧ projection.updatedSequence = row.updatedSequence)
      .a2aProjectionMismatch
    let record := { row.record with task }
    record.validate.mapError .a2aState
    return some record

/-- The runs of a task, in the order in which they were bound. -/
def runIdsOf (s : A2aStore) (taskId : Uuid) : List Uuid :=
  (s.records.filter fun row => row.record.task.taskId = taskId).map A2aRow.runId

/-- Loads the records of the given runs. -/
def loadAll (s : A2aStore) : List Uuid → Except StoreError (List A2aRunRecord)
  | [] => .ok []
  | runId :: rest => do
    let record ← require (← s.loadRecord fingerprint runId) .a2aProjectionMismatch
    let records ← s.loadAll rest
    return record :: records

def recordsForTask (s : A2aStore) (taskId : Uuid) : Except StoreError (List A2aRunRecord) := do
  ensure ((s.runIdsOf taskId).length ≤ maxA2aRunsPerTask) .a2aCapacity
  s.loadAll fingerprint (s.runIdsOf taskId)

def hasOtherLiveRuns (s : A2aStore) (taskId : Uuid) (except : List Uuid) : Except StoreError Bool := do
  let records ← s.recordsForTask fingerprint taskId
  return records.any fun record => record.run.runId ∉ except && !record.run.status.isA2aTerminal

/-- `duplicate`: the outcome of a command that was committed under the key. -/
def duplicate (s : A2aStore) (key : List Char) (print : Sha256Digest) :
    Except StoreError (Option A2aCommitOutcome) :=
  match Table.lookup A2aCommand.idempotencyKey s.commands key with
  | some command => do
    ensure (command.fingerprint = print) .a2aIdempotencyConflict
    command.record.validate.mapError fun _ => .json
    let event ← require (s.eventAt command.eventSequence) .database
    validateAuditRecord fingerprint command.record event
    return some ⟨command.record, event, true⟩
  | none => do
    ensure ((s.events.any fun event => event.idempotencyKey = key) = false) .a2aIdempotencyConflict
    return none

/-- The event that `append_event` commits. -/
def auditEvent (record : A2aRunRecord) (related : Option A2aRunRecord) (key : List Char) :
    AuditEvent where
  idempotencyKey := key
  projectId := record.task.projectId
  taskId := some record.task.taskId
  runId := some record.run.runId
  recordSha256 := some (fingerprint (.record record))
  relatedRunId := related.map fun value => value.run.runId
  relatedRecordSha256 := related.map fun value => fingerprint (.record value)

def appendEvent (s : A2aStore) (event : AuditEvent) : Except StoreError (Nat × A2aStore) := do
  ensure (event.idempotencyKey ≠ [] ∧ byteLen event.idempotencyKey ≤ maxIdempotencyKeyBytes) .event
  ensure ((s.events.any fun other => other.idempotencyKey = event.idempotencyKey) = false) .database
  return (s.events.length + 1, { s with events := s.events ++ [event] })

/-- `save_projection` of the run. -/
def saveRun (s : A2aStore) (run : Run) (sequence : Nat) : A2aStore :=
  { s with runs := Table.upsert RunProjection.runId s.runs ⟨run, sequence⟩ }

/-- `save_record` of a new run. -/
def insertRecord (s : A2aStore) (record : A2aRunRecord) (sequence : Nat) : A2aStore :=
  let s : A2aStore := { s with records := s.records ++ [⟨record, sequence⟩] }
  s.saveRun record.run sequence

/-- `save_record` of a run whose version went up by one. -/
def updateRecord (s : A2aStore) (record : A2aRunRecord) (sequence : Nat) :
    Except StoreError A2aStore := do
  ensure ((Table.lookup A2aRow.runId s.records record.run.runId).any
    (fun row => row.record.version + 1 = record.version) = true) .a2aVersionConflict
  let s : A2aStore := { s with records := Table.put A2aRow.runId s.records ⟨record, sequence⟩ }
  return s.saveRun record.run sequence

def saveTask (s : A2aStore) (task : Task) : A2aStore :=
  { s with tasks := Table.upsert Task.taskId s.tasks task }

def saveCommand (s : A2aStore) (command : A2aCommand) : A2aStore :=
  { s with commands := s.commands ++ [command] }

/-- The task of a new run: the stored one when it is the same task, or the given one. -/
def startedTask (s : A2aStore) (task : Task) : Except StoreError Task :=
  match Table.lookup Task.taskId s.tasks task.taskId with
  | some current => do
    ensure (current.projectId = task.projectId ∧ current.title = task.title ∧
      current.description = task.description) .a2aBindingConflict
    startTask current
  | none => do
    ensure (task.status = .open) .a2aInvalidTransition
    startTask task

/-- Whether a run, a workspace, a branch or a remote task is bound already. These are the unique columns
of the table. -/
def bindingConflict (s : A2aStore) (start : A2aRunStart) (projectId : Uuid) : Bool :=
  s.records.any fun row =>
    row.runId = start.run.runId || row.record.workspace.pathKey = start.workspace.pathKey ||
      (row.record.task.projectId = projectId &&
        (row.record.workspace.branchKey = start.workspace.branchKey ||
          (row.record.binding.peerId = start.peerId &&
            row.record.binding.externalTaskId = start.externalTaskId)))

/-- The record of a run that was just bound. -/
def preparedRecord (start : A2aRunStart) (task : Task) : A2aRunRecord where
  schemaVersion := a2aRecordSchemaVersion
  task := task
  run := start.run
  binding := {
    projectId := task.projectId
    taskId := start.task.taskId
    runId := start.run.runId
    peerId := start.peerId
    externalTaskId := start.externalTaskId
    transport := start.transport
    protocolVersion := start.protocolVersion
    createdAt := start.timestamp
    updatedAt := start.timestamp
    idempotencyKey := start.idempotencyKey
    lastRemoteState := .submitted
    cancellationState := .none
    artifacts := []
    verification := none }
  workspace := start.workspace
  version := 1

/-- Records a new remote run. -/
def startA2aRun (s : A2aStore) (start : A2aRunStart) :
    Except StoreError (A2aCommitOutcome × A2aStore) := do
  start.validate.mapError .a2aState
  match ← s.duplicate fingerprint start.idempotencyKey (fingerprint (.start start)) with
  | some outcome => return (outcome, s)
  | none =>
    ensure (start.task.taskId ∉ s.dispatchTasks) .a2aBindingConflict
    let task ← s.startedTask start.task
    let records ← s.recordsForTask fingerprint start.task.taskId
    ensure (records.length < maxA2aRunsPerTask) .a2aCapacity
    ensure (s.bindingConflict start task.projectId = false ∧
      Table.lookup RunProjection.runId s.runs start.run.runId = none) .a2aBindingConflict
    let record := preparedRecord start task
    record.validate.mapError .a2aState
    let event := auditEvent fingerprint record none start.idempotencyKey
    let (sequence, s) ← s.appendEvent event
    let s := ((s.insertRecord record sequence).saveTask record.task).saveCommand
      ⟨start.idempotencyKey, fingerprint (.start start), record, sequence⟩
    return (⟨record, event, false⟩, s)

/-- Whether the two runs are those of independent peers that finished and that nobody cancelled, and
whether the hashes of the receipt are among what they reported. -/
def verifiable (worker reviewer : A2aRunRecord) (receipt : VerificationReceipt)
    (timestamp : Timestamp) : Bool :=
  worker.run.role = "worker".toList && worker.run.status = .running &&
    (reviewer.run.role = "reviewer".toList || reviewer.run.role = "verifier".toList) &&
    reviewer.run.status = .running && worker.run.runId ≠ reviewer.run.runId &&
    worker.binding.peerId ≠ reviewer.binding.peerId && worker.run.taskId = reviewer.run.taskId &&
    worker.run.projectId = reviewer.run.projectId &&
    worker.run.baseCommit = reviewer.run.baseCommit &&
    worker.workspace.pathKey ≠ reviewer.workspace.pathKey &&
    worker.workspace.branchKey ≠ reviewer.workspace.branchKey &&
    worker.binding.lastRemoteState = .completed && reviewer.binding.lastRemoteState = .completed &&
    worker.binding.cancellationState = .none && reviewer.binding.cancellationState = .none &&
    reviewer.binding.updatedAt ≤ timestamp &&
    (worker.binding.artifacts.any fun artifact => artifact.sha256 = receipt.artifactSha256) &&
    (reviewer.binding.artifacts.any fun artifact => artifact.sha256 = receipt.reviewSha256)

/-- `verify_pair`: the two records after the receipt. -/
def verifyPair (s : A2aStore) (worker : A2aRunRecord) (receipt : VerificationReceipt)
    (timestamp : Timestamp) : Except StoreError (A2aRunRecord × A2aRunRecord) := do
  let reviewer ← require (← s.loadRecord fingerprint receipt.reviewerRunId) .a2aNotFound
  ensure (reviewer.version = receipt.reviewerExpectedVersion) .a2aVersionConflict
  ensure (verifiable worker reviewer receipt timestamp = true) .a2aVerificationRejected
  let others ← s.hasOtherLiveRuns fingerprint worker.task.taskId [worker.run.runId, reviewer.run.runId]
  ensure (others = false) .a2aVerificationRejected
  let workerRun ← transitionRun worker.run (if receipt.accepted then .succeeded else .failed)
    (some .verifier)
  let reviewerRun ← transitionRun reviewer.run .succeeded (some .verifier)
  let task ← verifiedTask worker.task receipt.accepted
  let worker := { worker with
    run := workerRun
    task
    binding := { worker.binding with verification := some receipt } }
  let version ← require (checkedSucc u64Max reviewer.version) .a2aVersionConflict
  let reviewer := { reviewer with
    run := reviewerRun
    task
    binding := { reviewer.binding with verification := some receipt, updatedAt := timestamp }
    version }
  reviewer.validate.mapError .a2aState
  return (worker, reviewer)

/-- The match of `update_a2a_run`: the record after the action, and the reviewer's when there is one. -/
def applyAction (s : A2aStore) (record : A2aRunRecord) (timestamp : Timestamp) :
    A2aRunAction → Except StoreError (A2aRunRecord × Option A2aRunRecord)
  | .start => do
    ensure (record.binding.cancellationState = .none) .a2aInvalidTransition
    let run ← transitionRun record.run .running none
    return ({ record with run }, none)
  | .observe state artifacts => do
    ensure ((record.run.status = .preparing ∨ record.run.status = .running) ∧
      record.binding.lastRemoteState.canTransitionTo state = true ∧
      (state ≠ .completed → artifacts = []) ∧
      (record.binding.lastRemoteState = .completed → record.binding.artifacts = artifacts))
      .a2aInvalidTransition
    return ({ record with
      binding := { record.binding with lastRemoteState := state, artifacts } }, none)
  | .requestCancellation => do
    ensure (record.binding.cancellationState = .none) .a2aInvalidTransition
    return ({ record with binding := { record.binding with cancellationState := .requested } }, none)
  | .confirmCancellation => do
    ensure (record.binding.cancellationState = .requested ∧
      record.binding.lastRemoteState = .cancelled) .a2aInvalidTransition
    let run ← transitionRun record.run
      (if record.run.status = .preparing then .failed else .stopped) none
    let others ← s.hasOtherLiveRuns fingerprint record.task.taskId [run.runId]
    let task ← cancelledTask record.task others
    return ({ record with
      run
      task
      binding := { record.binding with cancellationState := .confirmed } }, none)
  | .finalizeCancellation => do
    ensure (record.run.status.isA2aTerminal = true) .a2aInvalidTransition
    let others ← s.hasOtherLiveRuns fingerprint record.task.taskId []
    ensure (others = false) .a2aInvalidTransition
    let task ← transitionTask record.task .cancelled
    return ({ record with task }, none)
  | .fail _ => do
    let run ← transitionRun record.run .failed none
    let task ← blockTask record.task
    return ({ record with run, task }, none)
  | .verify receipt => do
    let (worker, reviewer) ← s.verifyPair fingerprint record receipt timestamp
    return (worker, some reviewer)

/-- Saves the reviewer's record when there is one. -/
def updateRelated (s : A2aStore) (related : Option A2aRunRecord) (sequence : Nat) :
    Except StoreError A2aStore :=
  match related with
  | some reviewer => s.updateRecord reviewer sequence
  | none => .ok s

/-- Applies an action to a remote run. -/
def updateA2aRun (s : A2aStore) (update : A2aRunUpdate) :
    Except StoreError (A2aCommitOutcome × A2aStore) := do
  update.validate.mapError .a2aState
  match ← s.duplicate fingerprint update.idempotencyKey (fingerprint (.update update)) with
  | some outcome => return (outcome, s)
  | none =>
    let record ← require (← s.loadRecord fingerprint update.runId) .a2aNotFound
    ensure (record.version = update.expectedVersion) .a2aVersionConflict
    ensure (record.binding.updatedAt ≤ update.timestamp) .a2aInvalidTransition
    ensure (record.run.status.isA2aTerminal = true → update.action = .finalizeCancellation)
      .a2aInvalidTransition
    let (acted, related) ← s.applyAction fingerprint record update.timestamp update.action
    let version ← require (checkedSucc u64Max acted.version) .a2aVersionConflict
    let record := { acted with
      version
      binding := { acted.binding with updatedAt := update.timestamp } }
    record.validate.mapError .a2aState
    let event := auditEvent fingerprint record related update.idempotencyKey
    let (sequence, s) ← s.appendEvent event
    let s ← s.updateRecord record sequence
    let s ← s.updateRelated related sequence
    let s := (s.saveTask record.task).saveCommand
      ⟨update.idempotencyKey, fingerprint (.update update), record, sequence⟩
    return (⟨record, event, false⟩, s)

/-- The operations on remote runs. -/
inductive A2aOp where
  | start (start : A2aRunStart)
  | update (update : A2aRunUpdate)
deriving DecidableEq

/-- One call. -/
def step (s : A2aStore) : A2aOp → Except StoreError (A2aCommitOutcome × A2aStore)
  | .start start => s.startA2aRun fingerprint start
  | .update update => s.updateA2aRun fingerprint update

end A2aStore

end Vibemux
