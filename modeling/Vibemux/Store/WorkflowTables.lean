import Vibemux.Store.HarnessDispatch
import Vibemux.Workflow.Contract
import Vibemux.Workflow.Leases
import Vibemux.Workflow.ModelCall
import Vibemux.Workflow.SupervisorContext

/-!
# The workflow tables

The tables that workflows own, as lists of rows in the order of their insertion, and the row functions
every operation is built from. Columns that repeat fields of a record are not modelled.
-/

namespace Vibemux

open Checked

/-- `workflow_error`. -/
def workflowError {α : Type} (code : String) : Except StoreError α := .error (.workflow code)

/-- The error of a rejected record change. -/
def recordError (error : WorkflowRecordError) : StoreError := .workflow error.code

/-- `WORKFLOW_STORE_RECORD_SCHEMA_VERSION`. -/
def workflowStoreRecordSchemaVersion : Nat := 1

/-! ## Rows -/

/-- A workflow in its table. -/
structure WorkflowRow where
  record : WorkflowRecord
  /-- The fingerprint of the admission. -/
  fingerprint : Sha256Digest
  updatedSequence : Nat
deriving DecidableEq

def WorkflowRow.workflowId (row : WorkflowRow) : Uuid := row.record.workflowId

def WorkflowRow.requestKey (row : WorkflowRow) : List Char := row.record.requestKey

/-- The tools of a contract. -/
structure AuthorityRow where
  contractId : Sha256Digest
  authority : ExecutionAuthority
deriving DecidableEq

/-- A slot in its table. -/
structure SlotRow where
  facts : SlotFacts
  lastGeneration : Nat
deriving DecidableEq

def SlotRow.slotId (row : SlotRow) : SpecIdentifier := row.facts.slotId

/-- One slot and one worktree for one task under one generation. -/
structure LeaseRecord where
  schemaVersion : Nat
  leaseId : Uuid
  workflowId : Uuid
  taskKey : SpecIdentifier
  slotId : SpecIdentifier
  worktreeKey : Sha256Digest
  generation : Nat
  state : LeaseState
  heartbeatDeadlineMs : Nat
  endReason : Option (List Char)
  createdAtMs : Nat
  updatedAtMs : Nat
deriving DecidableEq

def LeaseRecord.view (self : LeaseRecord) : LeaseView :=
  ⟨self.generation, self.state, self.heartbeatDeadlineMs⟩

/-- What an attempt is for. -/
inductive AttemptPurpose where
  | implement
  | repair
  /-- A source task answering a brokered question from its own evidence. -/
  | answer
  /-- A fresh independent reviewer session. -/
  | review
deriving DecidableEq

/-- Effective authority and actual launch route, fixed before dispatch. -/
structure WorkflowExecutionBinding where
  taskSpecDigest : Sha256Digest
  /-- In the order of the tools. -/
  effectiveTools : List ToolName
  harnessProfile : List Char
  routeConfigDigest : Sha256Digest
  evidenceClass : EvidenceClass
  routeLabel : List Char
  effectiveRoute : EffectiveRouteIdentity
deriving DecidableEq

/-- The association of one dispatch attempt with a workflow. -/
structure WorkflowAttemptRecord where
  schemaVersion : Nat
  requestId : Uuid
  workflowId : Uuid
  leaseId : Uuid
  leaseGeneration : Nat
  taskKey : SpecIdentifier
  contractId : Sha256Digest
  purpose : AttemptPurpose
  sessionId : Uuid
  renderedPromptSha256 : Sha256Digest
  /-- Missing on attempts of the first schema. -/
  execution : Option WorkflowExecutionBinding
  createdAtMs : Nat
deriving DecidableEq

/-- A receipt in its table. -/
structure ReceiptRow where
  workflowId : Uuid
  receipt : WorkflowReceipt
  receiptDigest : Sha256Digest
  createdSequence : Nat
deriving DecidableEq

def ReceiptRow.receiptId (row : ReceiptRow) : Uuid := row.receipt.receiptId

/-- A supervisor in its table. -/
structure ExecutionRow where
  record : SupervisorExecution
  updatedSequence : Nat
deriving DecidableEq

def ExecutionRow.workflowId (row : ExecutionRow) : Uuid := row.record.workflowId

/-- An action of a supervisor in its table. -/
structure ActionRow where
  record : SupervisorAction
  updatedSequence : Nat
deriving DecidableEq

/-- The account of one owner of model calls. -/
structure CallOwner where
  ownerKey : SpecIdentifier
  workflowId : Option Uuid
  maxCalls : Nat
  deadlineUnixMs : Nat
  callsUsed : Nat
deriving DecidableEq

/-- The tables of the supervisor and of the model calls. -/
structure SupervisorTables where
  executions : List ExecutionRow
  actions : List ActionRow
  callOwners : List CallOwner
  calls : List ModelCallRecord
deriving DecidableEq

/-- The database: the dispatch tables, the supervisor's tables and those of the workflows. -/
structure Store extends HarnessStore, SupervisorTables where
  workflows : List WorkflowRow
  contracts : List ContractArtifact
  authorities : List AuthorityRow
  slots : List SlotRow
  leases : List LeaseRecord
  attempts : List WorkflowAttemptRecord
  receipts : List ReceiptRow
  messages : List MessageRecord
deriving DecidableEq

/-! ## Digests -/

/-- The facts an admission fingerprint covers: they do not depend on the generated identifier. -/
structure AdmissionFacts where
  requestKey : List Char
  workflowKey : SpecIdentifier
  mode : WorkflowMode
  evidenceClass : EvidenceClass
  baseCommit : List Char
  policyDigest : Sha256Digest
  verifierDigest : Sha256Digest
  integrationSuites : List SpecIdentifier
  contracts : List (SpecIdentifier × Sha256Digest)
deriving DecidableEq

def WorkflowRecord.admissionFacts (record : WorkflowRecord) : AdmissionFacts where
  requestKey := record.requestKey
  workflowKey := record.workflowKey
  mode := record.mode
  evidenceClass := record.evidenceClass
  baseCommit := record.baseCommit
  policyDigest := record.policyDigest
  verifierDigest := record.verifierDigest
  integrationSuites := record.integrationSuites
  contracts := record.tasks.map fun task => (task.taskKey, task.contractId)

/-- The digests the store takes of values. Nothing is assumed about them. -/
structure StoreDigests where
  /-- `request_fingerprint` of a dispatch. -/
  dispatch : Uuid → Uuid → AgentKind → NativeProtocol → Sha256Digest → Sha256Digest → Sha256Digest
  admission : DigestOf AdmissionFacts
  taskSpec : DigestOf TaskSpec
  slot : SlotFacts → Sha256Digest
  manifest : DigestOf Collector.SnapshotManifest
  receipt : DigestOf WorkflowReceipt
  /-- The digest of what a receipt is about. -/
  subject : DigestOf WorkflowReceipt
  review : DigestOf ReviewReceipt
  verifier : DigestOf VerifierReceipt
  /-- The first sixteen bytes of the digest that names a compiler call. -/
  compilerCall : Uuid → Sha256Digest → Uuid
  message : MessageEnvelope → Sha256Digest
  /-- The attempt under which the supervisor receives a message: it has no dispatch of its own. -/
  supervisorInbox : Uuid → Uuid

/-- `dispatch_terminal`. -/
def dispatchTerminal (phase : DispatchPhase) : Bool := phase.isTerminal

namespace Store

variable (s : Store)

/-- `append`: the sequence of the new event and the store with it. -/
def append (key : List Char) : Except StoreError (Nat × Store) := do
  let (sequence, events) ← insertEvent s.events key
  return (sequence, { s with events })

/-- Appends events under the given keys, in order. -/
def appendAll : List (List Char) → Store → Except StoreError Store
  | [], s => .ok s
  | key :: rest, s => s.append key >>= fun entry => appendAll rest entry.2

/-! ## Workflows and contracts -/

/-- The check every load of a workflow makes. -/
def checkWorkflow (row : WorkflowRow) : Except StoreError WorkflowRow := do
  row.record.validate.mapError fun _ => .workflow "store_workflow_projection_mismatch"
  return row

def loadWorkflow (workflowId : Uuid) : Except StoreError (Option WorkflowRow) :=
  (Table.lookup WorkflowRow.workflowId s.workflows workflowId).mapM checkWorkflow

def loadWorkflowByRequest (requestKey : List Char) : Except StoreError (Option WorkflowRow) :=
  (Table.lookup WorkflowRow.requestKey s.workflows requestKey).mapM checkWorkflow

def loadExistingWorkflow (workflowId : Uuid) : Except StoreError WorkflowRow := do
  require (← s.loadWorkflow workflowId) (.workflow "store_workflow_not_found")

/-- The request key and the identifier of a workflow are unique. -/
def insertWorkflow (row : WorkflowRow) : Except StoreError Store := do
  ensure (s.workflows.all fun other => other.workflowId ≠ row.workflowId &&
    other.requestKey ≠ row.requestKey) .database
  return { s with workflows := s.workflows ++ [row] }

/-- Compare-and-set on the version the transaction loaded. -/
def updateWorkflow (record : WorkflowRecord) (previousVersion sequence : Nat) :
    Except StoreError Store := do
  record.validate.mapError recordError
  let row ← require (Table.lookup WorkflowRow.workflowId s.workflows record.workflowId)
    (.workflow "store_workflow_version_conflict")
  ensure (row.record.version = previousVersion) (.workflow "store_workflow_version_conflict")
  return { s with
    workflows := Table.put WorkflowRow.workflowId s.workflows
      { row with record, updatedSequence := sequence } }

def loadContract (contractId : Sha256Digest) : Option ContractArtifact :=
  Table.lookup ContractArtifact.contractId s.contracts contractId

/-- An identical artifact is reused; a different one under the same identity is refused. -/
def insertContractIfAbsent (artifact : ContractArtifact) : Except StoreError Store :=
  match s.loadContract artifact.contractId with
  | some existing => do
    ensure (existing = artifact) (.workflow "store_workflow_contract_conflict")
    return s
  | none => .ok { s with contracts := s.contracts ++ [artifact] }

def loadContractAuthority (contractId : Sha256Digest) : Option ExecutionAuthority :=
  (Table.lookup AuthorityRow.contractId s.authorities contractId).map AuthorityRow.authority

/-! ## Slots, leases and attempts -/

def loadSlot (slotId : SpecIdentifier) : Option SlotRow := Table.lookup SlotRow.slotId s.slots slotId

def loadLease (leaseId : Uuid) : Option LeaseRecord :=
  Table.lookup LeaseRecord.leaseId s.leases leaseId

def leasesFor (workflowId : Uuid) : List LeaseRecord :=
  s.leases.filter fun lease => lease.workflowId = workflowId

/-- Leases that still hold their reservation, in acquisition order. -/
def holdingLeases : List LeaseRecord := s.leases.filter fun lease => lease.state.holdsReservation

/-- The partial unique indexes over reserving leases and the unique generation of a slot, between two
rows of the table. -/
def leaseCompatible (lease other : LeaseRecord) : Bool :=
  !(lease.slotId == other.slotId && lease.generation == other.generation) &&
    !(lease.state.holdsReservation && other.state.holdsReservation &&
      (lease.slotId == other.slotId || lease.worktreeKey == other.worktreeKey))

/-- The constraints of the schema on writing `lease` next to the other leases. -/
def leaseAllowed (leases : List LeaseRecord) (lease : LeaseRecord) : Bool :=
  leases.all fun other => other.leaseId == lease.leaseId || leaseCompatible lease other

def insertLease (lease : LeaseRecord) : Except StoreError Store := do
  ensure (s.loadLease lease.leaseId = none ∧ leaseAllowed s.leases lease = true) .database
  return { s with leases := s.leases ++ [lease] }

def updateLease (lease : LeaseRecord) (previousState : LeaseState) : Except StoreError Store := do
  ensure ((s.loadLease lease.leaseId).any fun old =>
    old.state = previousState && old.generation = lease.generation)
    (.workflow "store_workflow_version_conflict")
  ensure (leaseAllowed s.leases lease = true) .database
  return { s with leases := Table.put LeaseRecord.leaseId s.leases lease }

def loadAttempt (requestId : Uuid) : Option WorkflowAttemptRecord :=
  Table.lookup WorkflowAttemptRecord.requestId s.attempts requestId

def attemptsFor (workflowId : Uuid) : List WorkflowAttemptRecord :=
  s.attempts.filter fun attempt => attempt.workflowId = workflowId

def attemptsForLease (leaseId : Uuid) : List WorkflowAttemptRecord :=
  s.attempts.filter fun attempt => attempt.leaseId = leaseId

/-- The dispatch record of an attempt. -/
def dispatchRecord (requestId : Uuid) : Option HarnessDispatchRecord :=
  (Table.lookup DispatchRow.requestId s.dispatches requestId).map DispatchRow.record

def dispatchPhase (requestId : Uuid) : Option DispatchPhase :=
  (s.dispatchRecord requestId).map HarnessDispatchRecord.phase

/-- The run the dispatch of a request owns. -/
def dispatchRunId (requestId : Uuid) : Option Uuid :=
  (s.dispatchRecord requestId).map HarnessDispatchRecord.runId

/-! ## Receipts -/

def loadReceipt (receiptId : Uuid) : Option ReceiptRow :=
  Table.lookup ReceiptRow.receiptId s.receipts receiptId

/-- `receipts_for`, of every kind. -/
def receiptsFor (workflowId : Uuid) : List WorkflowReceipt :=
  (s.receipts.filter fun row => row.workflowId = workflowId).map ReceiptRow.receipt

def candidatesFor (workflowId : Uuid) : List CandidateReceipt :=
  (s.receiptsFor workflowId).filterMap WorkflowReceipt.asCandidate

def reviewsFor (workflowId : Uuid) : List ReviewReceipt :=
  (s.receiptsFor workflowId).filterMap WorkflowReceipt.asReview

def verificationsFor (workflowId : Uuid) : List VerifierReceipt :=
  (s.receiptsFor workflowId).filterMap WorkflowReceipt.asVerification

def integrationsFor (workflowId : Uuid) : List IntegrationReceipt :=
  (s.receiptsFor workflowId).filterMap WorkflowReceipt.asIntegration

def selectionsFor (workflowId : Uuid) : List SelectionRecord :=
  (s.receiptsFor workflowId).filterMap WorkflowReceipt.asSelection

/-- `admitted_candidates`. -/
def admittedCandidates (workflowId : Uuid) : List CandidateReceipt :=
  (s.candidatesFor workflowId).filter CandidateReceipt.admitted

def insertReceipt (row : ReceiptRow) : Except StoreError Store := do
  ensure (s.loadReceipt row.receiptId = none) .database
  return { s with receipts := s.receipts ++ [row] }

end Store

end Vibemux
