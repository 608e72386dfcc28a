import Vibemux.Store.Events

/-!
# Durable harness dispatches

The dispatch table with the task and run projections it owns, and the transactions that apply the
attempt machine to it. A transaction that fails returns no state. Identifiers and fences that the source
mints are inputs here. Indexed columns repeat fields of the record and are left out.
-/

namespace Vibemux

open Checked Text

/-- `MAX_PROMPT_BYTES`. -/
def maxPromptBytes : Nat := 32 * 1024

/-- `HARNESS_DISPATCH_RECORD_SCHEMA_VERSION`. -/
def harnessDispatchRecordSchemaVersion : Nat := 1

/-- A prompt, by its digest and size. -/
structure PromptDigest where
  sha256 : Sha256Digest
  byteCount : Nat
deriving DecidableEq

/-- How the process of an attempt ended. -/
structure ProcessSummary where
  /-- `none` when the platform reports no code. -/
  exitCode : Option Int
  forcedTermination : Bool
  stderrBytes : Nat
deriving DecidableEq

/-- The number of records of each kind. -/
structure KindCounts where
  started : Nat
  text : Nat
  tool : Nat
  approval : Nat
  usage : Nat
  completed : Nat
  failed : Nat
  cancelled : Nat
  opaqueRecords : Nat
deriving DecidableEq

/-- What was captured of a transcript. -/
structure CaptureSummary where
  recordCount : Nat
  recordBytes : Nat
  kinds : KindCounts
  transcriptSha256 : Sha256Digest
deriving DecidableEq

/-- The outcome that an executor reports. -/
structure OutcomeDecision where
  outcome : AttemptOutcome
  errorCode : Option DispatchError
deriving DecidableEq

/-- The request for a dispatch. -/
structure HarnessDispatchAdmission where
  requestId : Uuid
  harness : AgentKind
  protocol : NativeProtocol
  prompt : PromptDigest
  configSha256 : Sha256Digest
  /-- The digest of the canonical working directory. -/
  resourceKey : Sha256Digest
  baseCommit : List Char
  timestamp : Timestamp
deriving DecidableEq

/-- A dispatch as it is stored. -/
structure HarnessDispatchRecord where
  schemaVersion : Nat
  requestId : Uuid
  projectId : Uuid
  taskId : Uuid
  runId : Uuid
  harness : AgentKind
  protocol : NativeProtocol
  fingerprint : Sha256Digest
  resourceKey : Sha256Digest
  prompt : PromptDigest
  configSha256 : Sha256Digest
  baseCommit : List Char
  phase : DispatchPhase
  version : Nat
  /-- The executor's decision, which a committed cancellation overrides. -/
  outcome : Option AttemptOutcome
  errorCode : Option DispatchError
  process : Option ProcessSummary
  capture : Option CaptureSummary
  createdAt : Timestamp
  updatedAt : Timestamp
deriving DecidableEq

/-- The executor's report once the vendor process ended. -/
structure HarnessDispatchFinish where
  requestId : Uuid
  fence : Uuid
  decision : OutcomeDecision
  process : ProcessSummary
  capture : CaptureSummary
  timestamp : Timestamp
deriving DecidableEq

/-- A dispatch in its table. -/
structure DispatchRow where
  record : HarnessDispatchRecord
  claimFence : Option Uuid
  updatedSequence : Nat
deriving DecidableEq

/-- The primary key of the dispatch table. -/
def DispatchRow.requestId (row : DispatchRow) : Uuid := row.record.requestId

/-- The tables of harness dispatch: the event log, the projections, the registry of detected
harnesses and the dispatches. -/
structure HarnessStore where
  /-- The project every event carries; it is fixed when the database is created. -/
  projectId : Uuid
  events : List Event
  tasks : List Task
  runs : List Run
  /-- The harnesses whose registry entry says `detected`. -/
  detected : List AgentKind
  dispatches : List DispatchRow
deriving DecidableEq

/-- A validated row with the projections it owns. -/
structure StoredDispatch where
  record : HarnessDispatchRecord
  fence : Option Uuid
  sequence : Nat
  task : Task
  run : Run
deriving DecidableEq

/-- A stored change of a dispatch. -/
structure HarnessDispatchCommit where
  record : HarnessDispatchRecord
  /-- The event this call appended; `none` for a repeat that wrote nothing. -/
  event : Option Event
  sequence : Nat
deriving DecidableEq

/-- A dispatch whose rows do not agree. -/
structure QuarantinedDispatch where
  requestId : Uuid
  error : StoreError
deriving DecidableEq

/-- What recovery did to the dispatches. -/
structure HarnessDispatchRecovery where
  recovered : List HarnessDispatchCommit
  quarantined : List QuarantinedDispatch
deriving DecidableEq

/-- `StoredDispatch::unchanged`. -/
def StoredDispatch.unchanged (stored : StoredDispatch) : HarnessDispatchCommit :=
  ⟨stored.record, none, stored.sequence⟩

/-- The only evidence under which a run may be `succeeded`. -/
def isCleanCompletion (errorCode : Option DispatchError) (process : ProcessSummary) : Bool :=
  errorCode.isNone && process.exitCode == some 0 && !process.forcedTermination

def validateFinish (finish : HarnessDispatchFinish) : Except StoreError Unit :=
  match finish.decision.outcome with
  | .probed => .error (.harnessDispatch .invalidTransition)
  | .completed =>
    ensure (isCleanCompletion finish.decision.errorCode finish.process)
      (.harnessDispatch .invalidRequest)
  | .failed | .unverified =>
    ensure finish.decision.errorCode.isSome (.harnessDispatch .invalidRequest)
  | .cancelled => .ok ()

/-- Whether a terminal record holds exactly this report. -/
def recordsFinish (record : HarnessDispatchRecord) (finish : HarnessDispatchFinish) : Bool :=
  record.outcome == some finish.decision.outcome && record.errorCode == finish.decision.errorCode &&
    record.process == some finish.process && record.capture == some finish.capture

/-- `is_row_defect`: the errors recovery answers by leaving the row untouched. -/
def StoreError.isRowDefect : StoreError → Bool
  | .harnessDispatch _ | .harnessDispatchProjectionMismatch | .harnessDispatchVersionConflict
  | .event => true
  | _ => false

/-- `events::idempotency_key`. -/
def dispatchKey (requestId : Uuid) (suffix : String) : List Char :=
  "harness_dispatch:".toList ++ requestId.hyphenated ++ ':' :: suffix.toList

/-- The key of the event `transition_event` drafts. -/
def transitionKey (requestId : Uuid) (trigger : DispatchTrigger) (target : DispatchPhase) :
    List Char :=
  match trigger with
  | .claim => dispatchKey requestId "started"
  | .recover => dispatchKey requestId "recovered"
  | .cancel =>
    if target = .cancelRequested then dispatchKey requestId "cancel_requested"
    else dispatchKey requestId "finished"
  | .finish _ => dispatchKey requestId "finished"

/-- The `CHECK` of the table on the fence column. -/
def DispatchRow.fenceAllowed (row : DispatchRow) : Bool :=
  match row.record.phase with
  | .running | .cancelRequested => row.claimFence.isSome
  | .admitted | .recoveryPending => row.claimFence.isNone
  | _ => true

/-- The unique columns and the partial unique index over reserving rows, between two rows of the
table. -/
def DispatchRow.compatible (row other : DispatchRow) : Bool :=
  row.record.taskId != other.record.taskId && row.record.runId != other.record.runId &&
    !(row.record.phase.holdsReservation && other.record.phase.holdsReservation &&
      row.record.resourceKey == other.record.resourceKey)

/-- The schema's constraints on writing `row` into the table next to the rows of other requests. -/
def rowAllowed (rows : List DispatchRow) (row : DispatchRow) : Bool :=
  row.fenceAllowed && rows.all fun other => other.requestId == row.requestId || row.compatible other

/-- The digest of a request's facts. -/
abbrev DispatchFingerprint : Type :=
  Uuid → Uuid → AgentKind → NativeProtocol → Sha256Digest → Sha256Digest → Sha256Digest

variable (fingerprint : DispatchFingerprint)

/-- `request_fingerprint` of the facts a record keeps. -/
def HarnessDispatchRecord.expectedFingerprint (record : HarnessDispatchRecord) : Sha256Digest :=
  fingerprint record.projectId record.requestId record.harness record.protocol record.prompt.sha256
    record.configSha256

namespace HarnessStore

/-- `dispatch_rows::load`: the row of a request, checked against itself and its projections. -/
def load (s : HarnessStore) (requestId : Uuid) : Except StoreError (Option StoredDispatch) :=
  match Table.lookup DispatchRow.requestId s.dispatches requestId with
  | none => .ok none
  | some row => do
    let record := row.record
    ensure (record.schemaVersion = harnessDispatchRecordSchemaVersion ∧
      record.fingerprint = record.expectedFingerprint fingerprint)
      .harnessDispatchProjectionMismatch
    let task ← require (Table.lookup Task.taskId s.tasks record.taskId)
      .harnessDispatchProjectionMismatch
    let run ← require (Table.lookup Run.runId s.runs record.runId)
      .harnessDispatchProjectionMismatch
    ensure (task.projectId = record.projectId ∧ run.taskId = record.taskId ∧
      run.projectId = record.projectId) .harnessDispatchProjectionMismatch
    ensure ((task.status, run.status) ∈ record.phase.allowedStatuses)
      .harnessDispatchProjectionMismatch
    -- A completed record must still carry the evidence that justified it.
    ensure (record.phase = .completed → record.outcome = some .completed ∧ record.capture.isSome ∧
      record.process.any (isCleanCompletion record.errorCode)) .harnessDispatchProjectionMismatch
    return some ⟨record, row.claimFence, row.updatedSequence, task, run⟩

def loadExisting (s : HarnessStore) (requestId : Uuid) : Except StoreError StoredDispatch := do
  require (← s.load fingerprint requestId) (.harnessDispatch .notFound)

/-- Whether an attempt in a reserving phase already holds the working directory. -/
def isReserved (s : HarnessStore) (resourceKey : Sha256Digest) : Bool :=
  s.dispatches.any fun row =>
    row.record.resourceKey == resourceKey && row.record.phase.holdsReservation

/-- The requests that startup recovery changes, in admission order. -/
def activeRequestIds (s : HarnessStore) : List Uuid :=
  (s.dispatches.filter fun row =>
    row.record.phase = .admitted || row.record.phase = .running ||
      row.record.phase = .cancelRequested).map DispatchRow.requestId

/-- `admitted_entities`: the task (`in_progress`) and the run (`preparing`) of an admission. -/
def admittedEntities (projectId taskId runId : Uuid) (admission : HarnessDispatchAdmission) :
    Except DomainError (Task × Run) := do
  let title := "harness dispatch ".toList ++ admission.harness.commandName
  let task ← Task.new taskId projectId title []
  let task ← task.transitioned .inProgress
  let run ← Run.new runId projectId taskId admission.harness.commandName "dispatch".toList
    admission.protocol.asStr admission.baseCommit
  return (task, run)

/-- The record an admission writes. -/
def admittedRecord (projectId taskId runId : Uuid) (admission : HarnessDispatchAdmission) :
    HarnessDispatchRecord where
  schemaVersion := harnessDispatchRecordSchemaVersion
  requestId := admission.requestId
  projectId := projectId
  taskId := taskId
  runId := runId
  harness := admission.harness
  protocol := admission.protocol
  fingerprint := fingerprint projectId admission.requestId admission.harness admission.protocol
    admission.prompt.sha256 admission.configSha256
  resourceKey := admission.resourceKey
  prompt := admission.prompt
  configSha256 := admission.configSha256
  baseCommit := admission.baseCommit
  phase := .admitted
  version := 1
  outcome := none
  errorCode := none
  process := none
  capture := none
  createdAt := admission.timestamp
  updatedAt := admission.timestamp

/-- `admit_dispatch_in`, with the identifiers of the new task and run. -/
def admitDispatchIn (s : HarnessStore) (admission : HarnessDispatchAdmission)
    (taskId runId : Uuid) : Except StoreError (HarnessDispatchCommit × HarnessStore) := do
  ensure (admission.requestId.isNil = false ∧ admission.protocol.accepts admission.harness)
    (.harnessDispatch .invalidRequest)
  ensure (0 < admission.prompt.byteCount ∧ admission.prompt.byteCount ≤ maxPromptBytes)
    (.harnessDispatch .invalidPrompt)
  ensure admission.protocol.supportsExecution (.harnessDispatch .executionDisabled)
  let record := admittedRecord fingerprint s.projectId taskId runId admission
  match ← s.load fingerprint admission.requestId with
  | some stored =>
    ensure (stored.record.fingerprint = record.fingerprint) (.harnessDispatch .conflict)
    return (stored.unchanged, s)
  | none =>
    ensure (admission.harness ∈ s.detected) (.harnessDispatch .notDetected)
    ensure (s.isReserved admission.resourceKey = false) (.harnessDispatch .busy)
    let (task, run) ← (admittedEntities s.projectId taskId runId admission).mapError
      fun _ => .harnessDispatch .invalidRequest
    let (sequence, events) ← insertEvent s.events (dispatchKey record.requestId "admitted")
    let row : DispatchRow := ⟨record, none, sequence⟩
    ensure (rowAllowed s.dispatches row) .database
    return (⟨record, some ⟨dispatchKey record.requestId "admitted"⟩, sequence⟩,
      { s with
        events
        dispatches := s.dispatches ++ [row]
        tasks := Table.upsert Task.taskId s.tasks task
        runs := Table.upsert Run.runId s.runs run })

/-- The fence column after a transition. -/
def nextFence (effect : FenceEffect) (current : Option Uuid) (finish : Option HarnessDispatchFinish)
    (minted : Uuid) : Except StoreError (Option Uuid) :=
  match effect with
  | .keep => .ok current
  | .mint => .ok (some minted)
  -- Kept after the finish so that a retried finish is recognised.
  | .require => do
    ensure (current.isSome ∧ current = finish.map HarnessDispatchFinish.fence)
      (.harnessDispatch .staleFence)
    return current
  | .clear => .ok none

/-- The record after a transition. -/
def nextRecord (record : HarnessDispatchRecord) (transition : PhaseTransition)
    (finish : Option HarnessDispatchFinish) (timestamp : Timestamp) : HarnessDispatchRecord :=
  { record with
    phase := transition.target
    version := record.version + 1
    errorCode := ((finish.bind fun f => f.decision.errorCode).or transition.errorCode).or
      record.errorCode
    outcome := (finish.map fun f => f.decision.outcome).or record.outcome
    process := (finish.map HarnessDispatchFinish.process).or record.process
    capture := (finish.map HarnessDispatchFinish.capture).or record.capture
    updatedAt := max timestamp record.updatedAt }

/-- The task after a transition. -/
def nextTask (task : Task) (transition : PhaseTransition) : Except StoreError Task :=
  match transition.taskStatus with
  | none => .ok task
  | some status =>
    (task.transitioned status).mapError fun _ => .harnessDispatchProjectionMismatch

/-- The run after a transition. -/
def nextRun (run : Run) (transition : PhaseTransition) : Except StoreError Run :=
  match transition.runStatus with
  | none => .ok run
  | some status =>
    (run.transitioned status transition.completionAuthority).mapError
      fun _ => .harnessDispatchProjectionMismatch

/-- The part of `commit_transition` that writes a changed attempt. -/
def commitChanged (s : HarnessStore) (stored : StoredDispatch) (trigger : DispatchTrigger)
    (transition : PhaseTransition) (finish : Option HarnessDispatchFinish) (minted : Uuid)
    (timestamp : Timestamp) :
    Except StoreError ((HarnessDispatchCommit × Option Uuid) × HarnessStore) := do
  let fence ← nextFence transition.fence stored.fence finish minted
  let task ← nextTask stored.task transition
  let run ← nextRun stored.run transition
  ensure (stored.record.version < u64Max) .harnessDispatchVersionConflict
  let record := nextRecord stored.record transition finish timestamp
  let key := transitionKey record.requestId trigger transition.target
  let (sequence, events) ← insertEvent s.events key
  let row : DispatchRow := ⟨record, fence, sequence⟩
  -- Compare-and-set on the version the transaction loaded.
  ensure ((Table.lookup DispatchRow.requestId s.dispatches record.requestId).any fun r =>
    r.record.version == stored.record.version) .harnessDispatchVersionConflict
  ensure (rowAllowed s.dispatches row) .database
  return ((⟨record, some ⟨key⟩, sequence⟩, fence),
    { s with
      events
      dispatches := Table.put DispatchRow.requestId s.dispatches row
      tasks := if transition.taskStatus.isSome then Table.upsert Task.taskId s.tasks task
        else s.tasks
      runs := if transition.runStatus.isSome then Table.upsert Run.runId s.runs run
        else s.runs })

/-- `commit_transition`. Only a claim uses `minted`, the fence it mints. -/
def commitTransition (s : HarnessStore) (stored : StoredDispatch) (trigger : DispatchTrigger)
    (finish : Option HarnessDispatchFinish) (minted : Uuid) (timestamp : Timestamp) :
    Except StoreError ((HarnessDispatchCommit × Option Uuid) × HarnessStore) :=
  match applyTrigger stored.record.phase trigger with
  | .error error => .error (.harnessDispatch error)
  | .ok .unchanged => .ok ((stored.unchanged, stored.fence), s)
  | .ok (.changed transition) =>
    s.commitChanged stored trigger transition finish minted timestamp

/-- Admits a dispatch outside a workflow. -/
def admitHarnessDispatch (s : HarnessStore) (admission : HarnessDispatchAdmission)
    (taskId runId : Uuid) : Except StoreError (HarnessDispatchCommit × HarnessStore) :=
  s.admitDispatchIn fingerprint admission taskId runId

/-- Single-use claim: the record and the fence it minted. -/
def claimHarnessDispatch (s : HarnessStore) (requestId minted : Uuid) (timestamp : Timestamp) :
    Except StoreError ((HarnessDispatchRecord × Uuid) × HarnessStore) := do
  let stored ← s.loadExisting fingerprint requestId
  let ((commit, fence), s') ← s.commitTransition stored .claim none minted timestamp
  ensure commit.event.isSome (.harnessDispatch .internal)
  let fence ← require fence (.harnessDispatch .internal)
  return ((commit.record, fence), s')

/-- Records the report of an executor. -/
def finishHarnessDispatch (s : HarnessStore) (finish : HarnessDispatchFinish) :
    Except StoreError (HarnessDispatchCommit × HarnessStore) := do
  validateFinish finish
  let stored ← s.loadExisting fingerprint finish.requestId
  if stored.record.phase.isTerminal ∧ stored.fence = some finish.fence then
    ensure (recordsFinish stored.record finish) (.harnessDispatch .conflict)
    return (stored.unchanged, s)
  else
    let ((commit, _), s') ← s.commitTransition stored (.finish finish.decision.outcome)
      (some finish) Uuid.nil finish.timestamp
    return (commit, s')

def cancelHarnessDispatch (s : HarnessStore) (requestId : Uuid) (timestamp : Timestamp) :
    Except StoreError (HarnessDispatchCommit × HarnessStore) := do
  let stored ← s.loadExisting fingerprint requestId
  let ((commit, _), s') ← s.commitTransition stored .cancel none Uuid.nil timestamp
  return (commit, s')

/-- One round of the recovery loop, in its own savepoint. -/
def recoverOne (s : HarnessStore) (requestId : Uuid) (timestamp : Timestamp) :
    Except StoreError (HarnessDispatchCommit × HarnessStore) := do
  let stored ← s.loadExisting fingerprint requestId
  let ((commit, _), s') ← s.commitTransition stored .recover none Uuid.nil timestamp
  return (commit, s')

/-- The recovery loop over the remaining requests. -/
def recoverLoop (timestamp : Timestamp) :
    List Uuid → HarnessDispatchRecovery → HarnessStore →
      Except StoreError (HarnessDispatchRecovery × HarnessStore)
  | [], recovery, s => .ok (recovery, s)
  | requestId :: rest, recovery, s =>
    match s.recoverOne fingerprint requestId timestamp with
    | .ok (commit, s') =>
      let recovered := if commit.event.isSome then recovery.recovered ++ [commit]
        else recovery.recovered
      recoverLoop timestamp rest { recovery with recovered } s'
    | .error error =>
      if error.isRowDefect then
        recoverLoop timestamp rest
          { recovery with quarantined := recovery.quarantined ++ [⟨requestId, error⟩] } s
      else .error error

/-- Settles what a crash left open. -/
def recoverHarnessDispatches (s : HarnessStore) (timestamp : Timestamp) :
    Except StoreError (HarnessDispatchRecovery × HarnessStore) :=
  recoverLoop fingerprint timestamp s.activeRequestIds ⟨[], []⟩ s

/-- The operations of the dispatch table. A claim carries the fence it mints, an admission the
identifiers of its task and run. -/
inductive DispatchOp where
  | admission (admission : HarnessDispatchAdmission) (taskId runId : Uuid)
  | claim (requestId minted : Uuid) (timestamp : Timestamp)
  | finish (report : HarnessDispatchFinish)
  | cancel (requestId : Uuid) (timestamp : Timestamp)
  | recover (timestamp : Timestamp)
deriving DecidableEq

/-- What an operation on dispatches returns. -/
inductive DispatchResponse where
  | commit (commit : HarnessDispatchCommit)
  | claim (record : HarnessDispatchRecord) (fence : Uuid)
  | recovery (recovery : HarnessDispatchRecovery)
deriving DecidableEq

/-- One operation of the dispatch table. -/
def dispatchStep (s : HarnessStore) :
    DispatchOp → Except StoreError (DispatchResponse × HarnessStore)
  | .admission admission taskId runId => do
    let (commit, s') ← s.admitHarnessDispatch fingerprint admission taskId runId
    return (.commit commit, s')
  | .claim requestId minted timestamp => do
    let ((record, fence), s') ← s.claimHarnessDispatch fingerprint requestId minted timestamp
    return (.claim record fence, s')
  | .finish report => do
    let (commit, s') ← s.finishHarnessDispatch fingerprint report
    return (.commit commit, s')
  | .cancel requestId timestamp => do
    let (commit, s') ← s.cancelHarnessDispatch fingerprint requestId timestamp
    return (.commit commit, s')
  | .recover timestamp => do
    let (recovery, s') ← s.recoverHarnessDispatches fingerprint timestamp
    return (.recovery recovery, s')

end HarnessStore

end Vibemux
