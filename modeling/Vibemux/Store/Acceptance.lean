import Vibemux.Store.Receipts

/-!
# Acceptance

A candidate is accepted, and a workflow is, only through gates that the store runs inside the
transaction on the receipts it holds.
-/

namespace Vibemux

open Checked

/-- The key of the event of an accepted candidate. -/
def candidateAcceptedKey (workflowId : Uuid) (digest : Sha256Digest) : List Char :=
  "workflow_candidate_accepted:".toList ++ workflowId.hyphenated ++ ':' :: digest.toHex

/-- The key of the event of an accepted workflow. -/
def workflowAcceptedKey (workflowId : Uuid) : List Char :=
  "workflow_accepted:".toList ++ workflowId.hyphenated

namespace Store

variable (s : Store)

/-- The latest admitted candidate of the task with the digest. -/
def latestCandidate (workflowId : Uuid) (taskKey : SpecIdentifier) (digest : Sha256Digest) :
    Option CandidateReceipt :=
  (s.admittedCandidates workflowId).reverse.find? fun candidate =>
    candidate.candidate.candidateDigest = digest ∧ candidate.candidate.taskKey = taskKey

/-- The latest review of the digest. -/
def latestReview (workflowId : Uuid) (digest : Sha256Digest) : Option ReviewReceipt :=
  (s.reviewsFor workflowId).reverse.find? fun review => review.candidateDigest = digest

/-- The latest verification of the digest for the task, or for the integration. -/
def latestVerification (workflowId : Uuid) (taskKey : Option SpecIdentifier)
    (digest : Sha256Digest) : Option VerifierReceipt :=
  (s.verificationsFor workflowId).reverse.find? fun verification =>
    verification.subjectDigest = digest ∧ verification.taskKey = taskKey

/-- The candidate gate on the latest stored review and verification. -/
def gateCandidate (digests : StoreDigests) (record : WorkflowRecord) (taskKey : SpecIdentifier)
    (digest : Sha256Digest) : Except StoreError CandidateAcceptance := do
  let task ← require (record.task taskKey) (.workflow "workflow_unknown_task")
  let candidate ← require (s.latestCandidate record.workflowId taskKey digest)
    (.workflow "store_workflow_gate_failed")
  ensure (candidate.candidate.contractId = task.contractId) (.workflow "store_workflow_stale_contract")
  (candidateGate digests.review digests.verifier candidate.candidate
    (s.latestReview record.workflowId digest)
    (s.latestVerification record.workflowId (some taskKey) digest)
    ⟨task.requiredSuites, record.verifierDigest⟩).mapError
      fun _ => .workflow "store_workflow_gate_failed"

/-- The task with its accepted candidate. -/
def acceptTask (digest : Sha256Digest) (task : WorkflowTask) : WorkflowTask :=
  { task with progress := .accepted, acceptedCandidate := some digest }

/-- Runs the candidate gate and, when it passes, accepts the candidate for the task. -/
def acceptWorkflowCandidate (digests : StoreDigests) (workflowId : Uuid) (expectedVersion : Nat)
    (taskKey : SpecIdentifier) (digest : Sha256Digest) (timestamp : Timestamp) :
    Except StoreError (WorkflowCommit × Store) := do
  s.checkTaskGate workflowId (some taskKey)
  let stored ← s.loadExistingWorkflow workflowId
  let record := stored.record
  ensure (record.version = expectedVersion) (.workflow "store_workflow_version_conflict")
  ensure (record.phase.admitsWork = true) (.workflow "store_workflow_not_running")
  let _ ← s.gateCandidate digests record taskKey digest
  let task ← require (record.task taskKey) (.workflow "workflow_unknown_task")
  ensure (task.progress = .candidateCollected) (.workflow "store_workflow_task_not_collected")
  let changed ← (record.taskMut taskKey (acceptTask digest)).mapError recordError
  let next ← (changed.bumped (millis timestamp)).mapError recordError
  let (sequence, s) ← s.append (candidateAcceptedKey workflowId digest)
  let s ← s.updateWorkflow next record.version sequence
  return (⟨next, some ⟨candidateAcceptedKey workflowId digest⟩, sequence⟩, s)

/-- The winner of the last recorded selection. -/
def selectedWinner (workflowId : Uuid) : Option Sha256Digest :=
  (s.selectionsFor workflowId).getLast?.bind fun selection => selection.outcome.winner

/-- Whether a task counts for the acceptance: every task does, except in a comparison, where only the
tasks that accepted the winner do. -/
def taskCounts (mode : WorkflowMode) (selected : Option Sha256Digest) (task : WorkflowTask) : Bool :=
  match mode, selected with
  | .compare, some winner => task.acceptedCandidate == some winner
  | .compare, none => false
  | _, _ => true

/-- The gates of the tasks in the list that have an accepted candidate. -/
def gateTasks (digests : StoreDigests) (record : WorkflowRecord) :
    List WorkflowTask → Except StoreError (List (SpecIdentifier × CandidateAcceptance))
  | [] => .ok []
  | task :: rest =>
    match task.acceptedCandidate with
    | some digest => do
      let acceptance ← s.gateCandidate digests record task.taskKey digest
      return (task.taskKey, acceptance) :: (← gateTasks digests record rest)
    | none => gateTasks digests record rest

/-- The tasks that count for the acceptance of a workflow. -/
def countedTasks (record : WorkflowRecord) : List WorkflowTask :=
  let selected := if record.mode = .compare then s.selectedWinner record.workflowId else none
  record.tasks.filter (taskCounts record.mode selected)

/-- The only path to `accepted`: every candidate gate and the integration gate run again on the
stored receipts. -/
def acceptWorkflow (digests : StoreDigests) (workflowId : Uuid) (expectedVersion : Nat)
    (timestamp : Timestamp) : Except StoreError (WorkflowCommit × Store) := do
  s.checkTaskGate workflowId none
  let stored ← s.loadExistingWorkflow workflowId
  let record := stored.record
  ensure (record.version = expectedVersion) (.workflow "store_workflow_version_conflict")
  let counted := s.countedTasks record
  let accepted ← s.gateTasks digests record counted
  ensure (counted ≠ []) (.workflow "store_workflow_gate_failed")
  let integration := (s.integrationsFor workflowId).getLast?
  ensure ((integration.all fun receipt => receipt.baseCommit = record.baseCommit) = true)
    (.workflow "store_workflow_gate_failed")
  let verification := integration.bind fun receipt =>
    s.latestVerification workflowId none receipt.integrationTreeDigest
  let level ← (cooperativeAcceptance record.phase (counted.map WorkflowTask.taskKey) accepted
    integration verification ⟨record.integrationSuites, record.verifierDigest⟩).mapError
      fun _ => .workflow "store_workflow_gate_failed"
  ensure (level = .workflowAccepted) (.workflow "store_workflow_gate_failed")
  let next ← (record.withPhase .accepted (millis timestamp)).mapError recordError
  let (sequence, s) ← s.append (workflowAcceptedKey workflowId)
  let s ← s.updateWorkflow next record.version sequence
  return (⟨next, some ⟨workflowAcceptedKey workflowId⟩, sequence⟩, s)

end Store

/-- The operations on receipts and their gates. -/
inductive ReceiptOp where
  | record (workflowId : Uuid) (receipt : WorkflowReceipt) (fence : Option LeaseFence)
      (timestamp : Timestamp)
  | acceptCandidate (workflowId : Uuid) (expectedVersion : Nat) (taskKey : SpecIdentifier)
      (digest : Sha256Digest) (timestamp : Timestamp)
  | acceptWorkflow (workflowId : Uuid) (expectedVersion : Nat) (timestamp : Timestamp)
deriving DecidableEq

/-- What an operation on receipts returns. -/
inductive ReceiptResponse where
  | receipt (commit : ReceiptCommit)
  | workflow (commit : WorkflowCommit)

def Store.receiptStep (s : Store) (digests : StoreDigests) :
    ReceiptOp → Except StoreError (ReceiptResponse × Store)
  | .record workflowId receipt fence timestamp => do
    let (commit, s) ← s.recordWorkflowReceipt digests workflowId receipt fence timestamp
    return (.receipt commit, s)
  | .acceptCandidate workflowId expectedVersion taskKey digest timestamp => do
    let (commit, s) ← s.acceptWorkflowCandidate digests workflowId expectedVersion taskKey digest
      timestamp
    return (.workflow commit, s)
  | .acceptWorkflow workflowId expectedVersion timestamp => do
    let (commit, s) ← s.acceptWorkflow digests workflowId expectedVersion timestamp
    return (.workflow commit, s)

end Vibemux
