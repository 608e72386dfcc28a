import Vibemux.Workflow.Gates

/-!
# Workflow receipts

The evidence the store keeps for a workflow. A receipt is immutable once recorded and bound to its
subject digest.
-/

namespace Vibemux

open Collector (SnapshotManifest)

/-! ## Context bundles -/

/-- An authenticated participant. -/
inductive Participant where
  | operator
  | supervisor
  | broker
  | worker (taskKey : SpecIdentifier) (sessionId : Uuid)
deriving DecidableEq

/-- A line range of a file in a candidate snapshot. -/
structure SourceFileRef where
  path : List Char
  startLine : Nat
  endLine : Nat
  snapshotDigest : Sha256Digest
deriving DecidableEq

/-- Where a claim comes from. -/
inductive Attribution where
  /-- An unverified statement by the worker of a task. -/
  | workerClaim (taskKey : SpecIdentifier)
  /-- A fact the trusted verifier observed. -/
  | verifierConfirmed (receiptDigest : Sha256Digest)
deriving DecidableEq

/-- A claim with its source. -/
structure AttributedClaim where
  attribution : Attribution
  text : List Char
deriving DecidableEq

/-- Lines of a file. -/
structure FileExcerpt where
  path : List Char
  startLine : Nat
  endLine : Nat
  text : List Char
deriving DecidableEq

/-- What was taken out of a text. -/
structure RedactionReport where
  rulesApplied : List (List Char)
  redactedValues : Nat
deriving DecidableEq

/-- The context of a worker. -/
structure ContextBundle where
  schemaVersion : Nat
  bundleId : Uuid
  version : Nat
  workflowId : Uuid
  source : Participant
  sourceTask : SpecIdentifier
  baseCommit : List Char
  snapshotDigest : Sha256Digest
  audience : List Participant
  requestMessageId : Option Uuid
  sourceRefs : List SourceFileRef
  excerpts : List FileExcerpt
  claims : List AttributedClaim
  redaction : RedactionReport
  byteCount : Nat
  contentDigest : Sha256Digest
deriving DecidableEq

/-! ## Model calls -/

/-- The protocols of the model gateways. -/
inductive GatewayProtocol where
  | openaiChatCompletions
  | anthropicMessages
  | openaiResponses
deriving DecidableEq

/-- What a route is used for. -/
inductive RouteRole where
  | supervisor
  | compiler
  | workerA
  | workerB
  | reviewer
  | optimizer
deriving DecidableEq

/-- The tokens that a gateway reports. -/
structure ReportedUsage where
  inputTokens : Option Nat
  outputTokens : Option Nat
  cachedTokens : Option Nat
deriving DecidableEq

/-- How a model call ended. -/
inductive CallOutcome where
  | completed
  | failedBeforeOutput
  | failedAfterOutput
  | blocked
deriving DecidableEq

/-- Where a model call failed. -/
inductive FailureStage where
  | connect
  | status (code : Nat)
  | timeout
  | brokenAfterOutput
deriving DecidableEq

/-- The content-free record of one model call. -/
structure ModelCallReceipt where
  callId : Uuid
  role : RouteRole
  requestedAlias : List Char
  protocol : GatewayProtocol
  reportedModel : Option (List Char)
  usage : ReportedUsage
  httpStatus : Option Nat
  outcome : CallOutcome
  failure : Option FailureStage
  elapsedMs : Nat
  requestSha256 : Sha256Digest
  responseSha256 : Option Sha256Digest
  routeGeneration : Sha256Digest
  attempt : Nat
deriving DecidableEq

/-! ## Selections and decisions -/

/-- The metrics of a selection. -/
inductive MetricKey where
  | testsPassed
  | modelRequests
  | elapsedMs
  | changedBytes
deriving DecidableEq

/-- What decided a selection. -/
inductive DecidedBy where
  | onlyValidCandidate
  | metric (key : MetricKey)
  | tieBreaker
  | noValidCandidate
deriving DecidableEq

/-- A candidate out of the comparison. -/
structure ExcludedCandidate where
  candidateDigest : Sha256Digest
  reasons : List (List Char)
deriving DecidableEq

/-- The result of a selection. -/
structure SelectionOutcome where
  winner : Option Sha256Digest
  decidedBy : DecidedBy
  /-- Valid candidates, best first. -/
  ranking : List Sha256Digest
  excluded : List ExcludedCandidate
deriving DecidableEq

/-- A selection as it is stored. -/
structure SelectionRecord where
  schemaVersion : Nat
  receiptId : Uuid
  workflowId : Uuid
  contractId : Sha256Digest
  outcome : SelectionOutcome
deriving DecidableEq

/-- The content-free record of one supervisor decision. -/
structure DecisionRecord where
  decisionId : Uuid
  tool : List Char
  idempotencyKey : List Char
  workflowVersion : Nat
  affected : List (List Char)
  rationaleSha256 : Sha256Digest
  rationaleBytes : Nat
  evidenceRefs : List (List Char)
  accepted : Bool
  rejectionCodes : List (List Char)
deriving DecidableEq

/-! ## Receipts -/

/-- A collected candidate, admitted or not. -/
structure CandidateReceipt where
  schemaVersion : Nat
  receiptId : Uuid
  workflowId : Uuid
  attemptRequestId : Uuid
  leaseId : Uuid
  candidate : CandidateRecord
  /-- `none` when scope validation refused the observed changes. -/
  manifest : Option SnapshotManifest
  admitted : Bool
  violationCodes : List (List Char)
  /-- The worktree changed again between the checkpoint and collection. -/
  mutatedAfterCheckpoint : Bool
deriving DecidableEq

/-- The receipts of a workflow. -/
inductive WorkflowReceipt where
  | candidate (receipt : CandidateReceipt)
  | review (receipt : ReviewReceipt)
  | verification (receipt : VerifierReceipt)
  | integration (receipt : IntegrationReceipt)
  | selection (receipt : SelectionRecord)
  | decision (record : DecisionRecord)
  | modelCall (receipt : ModelCallReceipt)
  | bundle (receipt : ContextBundle)
deriving DecidableEq

namespace WorkflowReceipt

def receiptId : WorkflowReceipt → Uuid
  | candidate receipt => receipt.receiptId
  | review receipt => receipt.receiptId
  | verification receipt => receipt.receiptId
  | integration receipt => receipt.receiptId
  | selection receipt => receipt.receiptId
  | decision record => record.decisionId
  | modelCall receipt => receipt.callId
  | bundle receipt => receipt.bundleId

/-- The workflow the receipt claims to belong to, where it carries one. -/
def workflowId : WorkflowReceipt → Option Uuid
  | candidate receipt => some receipt.workflowId
  | review receipt => some receipt.workflowId
  | verification receipt => some receipt.workflowId
  | integration receipt => some receipt.workflowId
  | selection receipt => some receipt.workflowId
  | bundle receipt => some receipt.workflowId
  | decision _ | modelCall _ => none

def asCandidate : WorkflowReceipt → Option CandidateReceipt
  | candidate receipt => some receipt
  | _ => none

def asReview : WorkflowReceipt → Option ReviewReceipt
  | review receipt => some receipt
  | _ => none

def asVerification : WorkflowReceipt → Option VerifierReceipt
  | verification receipt => some receipt
  | _ => none

def asIntegration : WorkflowReceipt → Option IntegrationReceipt
  | integration receipt => some receipt
  | _ => none

def asSelection : WorkflowReceipt → Option SelectionRecord
  | selection receipt => some receipt
  | _ => none

end WorkflowReceipt

end Vibemux
