import Vibemux.Store.Attempts

/-!
# Receipts of a workflow

Receipts are immutable, and each is checked before it is stored: a candidate carries the fence of an
active lease whose settled attempt produced it, and a review belongs to a settled review attempt whose
route differs from that of the candidate's attempt.
-/

namespace Vibemux

open Checked SortDedup Text

/-- The generation of a lease that its holder presents. -/
structure LeaseFence where
  leaseId : Uuid
  generation : Nat
deriving DecidableEq

/-- A stored receipt. -/
structure ReceiptCommit where
  receiptDigest : Sha256Digest
  event : Option Event
  duplicate : Bool
deriving DecidableEq

/-- The key of the event of a receipt. -/
def receiptKey (receiptId : Uuid) : List Char := "workflow_receipt:".toList ++ receiptId.hyphenated

/-- Whether a candidate is the one a review is about. -/
def ReviewReceipt.isOf (review : ReviewReceipt) (candidate : CandidateReceipt) : Bool :=
  candidate.candidate.candidateDigest == review.candidateDigest &&
    candidate.candidate.taskKey == review.taskKey &&
    candidate.candidate.contractId == review.contractId

/-- The phases in which a review attempt may have ended, by the verdict. -/
def ReviewVerdict.admissible (verdict : ReviewVerdict) (phase : DispatchPhase) : Bool :=
  match verdict with
  | .pass | .changesRequested => phase == .completed
  | .blocked => dispatchTerminal phase

/-- Whether two launches count as independent: different routes, both known when the review is
live. -/
def independentRoutes (reviewer source : WorkflowExecutionBinding) : Bool :=
  reviewer.effectiveRoute != source.effectiveRoute &&
    !(reviewer.evidenceClass == .live &&
      (reviewer.effectiveRoute.endpoint.isNone || source.effectiveRoute.endpoint.isNone))

namespace Store

variable (s : Store)

/-- The lease a candidate receipt must carry the fence of. -/
def candidateLease (record : WorkflowRecord) (candidate : CandidateReceipt)
    (fence : Option LeaseFence) : Except StoreError LeaseRecord := do
  let fence ← require fence (.workflow "workflow_lease_stale_generation")
  ensure (fence.leaseId = candidate.leaseId ∧ fence.generation = candidate.candidate.leaseGeneration)
    (.workflow "workflow_lease_stale_generation")
  let lease ← require (s.loadLease fence.leaseId) (.workflow "store_workflow_unknown_lease")
  (lease.view.checkFence fence.generation).mapError fun error => .workflow error.code
  ensure (lease.state = .active) (.workflow "workflow_lease_not_active")
  ensure (lease.workflowId = record.workflowId ∧ lease.taskKey = candidate.candidate.taskKey)
    (.workflow "store_workflow_lease_mismatch")
  return lease

/-- The attempt that produced a candidate under a lease. -/
def candidateAttempt (candidate : CandidateReceipt) (lease : LeaseRecord) :
    Except StoreError WorkflowAttemptRecord := do
  let attempt ← require (s.loadAttempt candidate.attemptRequestId)
    (.workflow "store_workflow_unknown_attempt")
  ensure (attempt.leaseId = lease.leaseId ∧ attempt.leaseGeneration = lease.generation ∧
    attempt.taskKey = candidate.candidate.taskKey ∧
    attempt.contractId = candidate.candidate.contractId ∧
    attempt.sessionId = candidate.candidate.workerSessionId ∧ attempt.purpose ≠ .review)
    (.workflow "store_workflow_attempt_mismatch")
  let execution ← require attempt.execution (.workflow "store_workflow_candidate_route_unverified")
  ensure (candidate.candidate.workerRoute = execution.routeLabel ∧
    candidate.candidate.workerHarness = execution.effectiveRoute.harness)
    (.workflow "store_workflow_candidate_route_mismatch")
  return attempt

/-- What an admitted candidate must show: a completed dispatch, no violations and the manifest its
digest is of. -/
def checkAdmitted (digests : StoreDigests) (record : WorkflowRecord) (candidate : CandidateReceipt)
    (phase : DispatchPhase) : Except StoreError Unit := do
  ensure ((candidate.manifest.all fun manifest => manifest.baseCommit = record.baseCommit) = true)
    (.workflow "store_workflow_base_mismatch")
  let manifestDigest := candidate.manifest.bind fun manifest => (digests.manifest manifest).toOption
  ensure (phase = .completed ∧ candidate.manifest.isSome = true ∧ candidate.violationCodes = [] ∧
    manifestDigest = some candidate.candidate.candidateDigest)
    (.workflow "store_workflow_candidate_invalid")

/-- What a candidate receipt is checked for. -/
def checkCandidate (digests : StoreDigests) (record : WorkflowRecord) (candidate : CandidateReceipt)
    (fence : Option LeaseFence) : Except StoreError Unit := do
  let lease ← s.candidateLease record candidate fence
  let attempt ← s.candidateAttempt candidate lease
  let phase ← require (s.dispatchPhase attempt.requestId)
    (.workflow "store_workflow_projection_mismatch")
  ensure (dispatchTerminal phase = true) (.workflow "workflow_lease_attempt_unsettled")
  ensure (s.dispatchRunId attempt.requestId = some candidate.candidate.workerRunId)
    (.workflow "store_workflow_attempt_mismatch")
  if candidate.admitted then checkAdmitted digests record candidate phase else return ()

/-- Whether an attempt is the review attempt a review names. -/
def isReviewAttempt (review : ReviewReceipt) (attempt : WorkflowAttemptRecord) : Bool :=
  attempt.purpose == .review && s.dispatchRunId attempt.requestId == some review.reviewerRunId &&
    attempt.sessionId == review.reviewerSessionId && attempt.taskKey == review.taskKey &&
    attempt.contractId == review.contractId

/-- A review must be about an admitted candidate and belong to a settled review attempt. Its route is
compared with that of the first admitted candidate it is about. -/
def checkReview (workflowId : Uuid) (review : ReviewReceipt) : Except StoreError Unit := do
  let source ← require ((s.admittedCandidates workflowId).find? fun candidate => review.isOf candidate)
    (.workflow "store_workflow_review_unknown_candidate")
  let sourceAttempt ← require (s.loadAttempt source.attemptRequestId)
    (.workflow "store_workflow_unknown_attempt")
  let sourceExecution ← require sourceAttempt.execution
    (.workflow "store_workflow_review_route_unverified")
  let attempt ← require ((s.attemptsFor workflowId).find? fun attempt =>
    s.isReviewAttempt review attempt) (.workflow "store_workflow_review_unbound")
  let dispatch ← require (s.dispatchRecord attempt.requestId) .database
  ensure (dispatch.harness = review.reviewerHarness) (.workflow "store_workflow_review_unbound")
  let execution ← require attempt.execution (.workflow "store_workflow_review_route_unverified")
  ensure (review.effectiveRoute = some execution.effectiveRoute ∧
    review.reviewerRoute = execution.routeLabel) (.workflow "store_workflow_review_route_mismatch")
  ensure (independentRoutes execution sourceExecution = true)
    (.workflow "store_workflow_review_not_independent")
  ensure (review.verdict.admissible dispatch.phase = true)
    (.workflow "store_workflow_review_unsettled")

/-- Whether a derived subject changes exactly one entry of the manifest it comes from. -/
def derivesOneChange (source derived : Collector.SnapshotManifest) : Bool :=
  let pairs := source.entries.zip derived.entries
  source.entries.length == derived.entries.length &&
    (pairs.all fun entry => entry.1.1 == entry.2.1) &&
    (pairs.filter fun entry => entry.1 != entry.2).length == 1

/-- The subject of a verification: an admitted candidate of the task, an integration tree, or a
mutation of an admitted candidate. -/
def checkVerificationSubject (digests : StoreDigests) (record : WorkflowRecord)
    (verification : VerifierReceipt) : Except StoreError Unit :=
  let subject := verification.subjectDigest
  match verification.derivedSubject with
  | some derived => do
    let source ← require ((s.admittedCandidates record.workflowId).find? fun candidate =>
      candidate.candidate.candidateDigest = derived.sourceCandidateDigest)
      (.workflow "store_workflow_verification_unknown_subject")
    let manifest ← require source.manifest (.workflow "store_workflow_candidate_invalid")
    ensure (verification.schemaVersion = 2 ∧ derived.mutationId ≠ [] ∧
      byteLen derived.mutationId ≤ 128 ∧ derived.mutationId.any isControl = false ∧
      subject ≠ derived.sourceCandidateDigest ∧ derived.manifest.baseCommit = record.baseCommit ∧
      (digests.manifest derived.manifest).toOption = some subject ∧
      derivesOneChange manifest derived.manifest = true ∧
      verification.taskKey = some source.candidate.taskKey ∧
      verification.contractIds = [source.candidate.contractId])
      (.workflow "store_workflow_derived_subject_invalid")
  | none =>
    let known := match verification.taskKey with
      | some taskKey => (s.admittedCandidates record.workflowId).any fun candidate =>
          candidate.candidate.candidateDigest == subject && candidate.candidate.taskKey == taskKey
      | none => (s.integrationsFor record.workflowId).any fun integration =>
          integration.integrationTreeDigest == subject
    ensure (known = true) (.workflow "store_workflow_verification_unknown_subject")

/-- An integration applies accepted candidates under exactly the accepted contracts. -/
def checkIntegration (record : WorkflowRecord) (integration : IntegrationReceipt) :
    Except StoreError Unit := do
  let accepted := record.tasks.filterMap fun task =>
    task.acceptedCandidate.map fun digest => (digest, task.contractId)
  ensure (integration.baseCommit = record.baseCommit) (.workflow "store_workflow_base_mismatch")
  ensure ((integration.appliedCandidates.all fun digest =>
    accepted.any fun entry => entry.1 = digest) = true)
    (.workflow "store_workflow_integration_not_approved")
  ensure (sort integration.contractIds = sort (accepted.map Prod.snd))
    (.workflow "store_workflow_integration_not_approved")

def checkSelection (workflowId : Uuid) (selection : SelectionRecord) : Except StoreError Unit :=
  ensure ((selection.outcome.winner.all fun winner =>
    (s.admittedCandidates workflowId).any fun candidate =>
      candidate.candidate.candidateDigest = winner) = true)
    (.workflow "store_workflow_selection_unknown_candidate")

/-- The task once a candidate receipt is recorded. In a comparison a refused competitor does not fail
a task that already holds an admitted candidate. -/
def collected (candidate : CandidateReceipt) (keepsCollected : Bool) (task : WorkflowTask) :
    WorkflowTask :=
  if candidate.admitted then { task with progress := .candidateCollected }
  else if keepsCollected then task
  else { task with progress := .failed, failureCode := candidate.violationCodes.head? }

/-- The checks of a receipt, and the record with the task it changes. -/
def checkReceipt (digests : StoreDigests) (record : WorkflowRecord) (receipt : WorkflowReceipt)
    (fence : Option LeaseFence) : Except StoreError WorkflowRecord :=
  match receipt with
  | .candidate candidate => do
    s.checkCandidate digests record candidate fence
    let keepsCollected := record.mode = .compare &&
      (s.admittedCandidates record.workflowId).any fun other =>
        other.candidate.taskKey = candidate.candidate.taskKey
    (record.taskMut candidate.candidate.taskKey (collected candidate keepsCollected)).mapError
      recordError
  | .review review => do
    s.checkReview record.workflowId review
    return record
  | .verification verification => do
    s.checkVerificationSubject digests record verification
    return record
  | .integration integration => do
    checkIntegration record integration
    return record
  | .selection selection => do
    s.checkSelection record.workflowId selection
    return record
  | .decision _ | .modelCall _ => .ok record
  | .bundle bundle => do
    ensure ((record.task bundle.sourceTask).isSome = true) (.workflow "workflow_unknown_task")
    return record

/-- The record a receipt leaves: the next version when the receipt changed its task. -/
def bumpChanged (record next : WorkflowRecord) (timestamp : Timestamp) :
    Except StoreError WorkflowRecord :=
  if next = record then .ok next else (next.bumped (millis timestamp)).mapError recordError

/-- Writes the record when the receipt changed its task. -/
def updateChanged (record next bumped : WorkflowRecord) (sequence : Nat) : Except StoreError Store :=
  if next = record then .ok s else s.updateWorkflow bumped record.version sequence

/-- The part of `record_workflow_receipt` that writes a new receipt. -/
def insertRecorded (digests : StoreDigests) (workflowId : Uuid) (receipt : WorkflowReceipt)
    (digest : Sha256Digest) (fence : Option LeaseFence) (timestamp : Timestamp) :
    Except StoreError (ReceiptCommit × Store) := do
  let stored ← s.loadExistingWorkflow workflowId
  let next ← s.checkReceipt digests stored.record receipt fence
  let bumped ← bumpChanged stored.record next timestamp
  let _ ← (digests.subject receipt).mapError fun error => .workflow error.code
  let (sequence, s) ← s.append (receiptKey receipt.receiptId)
  let s ← s.insertReceipt ⟨workflowId, receipt, digest, sequence⟩
  let s ← s.updateChanged stored.record next bumped sequence
  return (⟨digest, some ⟨receiptKey receipt.receiptId⟩, false⟩, s)

/-- Records one immutable receipt. A repeated receipt with the same content writes nothing. -/
def recordWorkflowReceipt (digests : StoreDigests) (workflowId : Uuid) (receipt : WorkflowReceipt)
    (fence : Option LeaseFence) (timestamp : Timestamp) : Except StoreError (ReceiptCommit × Store) := do
  ensure ((receipt.workflowId.all fun claimed => claimed = workflowId) = true)
    (.workflow "store_workflow_receipt_wrong_workflow")
  let digest ← (digests.receipt receipt).mapError fun error => .workflow error.code
  match s.loadReceipt receipt.receiptId with
  | some existing =>
    ensure (existing.receiptDigest = digest) (.workflow "store_workflow_receipt_conflict")
    return (⟨digest, none, true⟩, s)
  | none => s.insertRecorded digests workflowId receipt digest fence timestamp

end Store

end Vibemux
