import Vibemux.Collector.Snapshot
import Vibemux.Workflow.Authority
import Vibemux.Workflow.Record

/-!
# Receipts of the gates and the gates themselves

A candidate passes its gate only with a passing review and a passing trusted verification, both bound to
the exact candidate and contract; a workflow only when every expected task has an accepted candidate and
the integration of exactly those candidates was verified.
-/

namespace Vibemux

open Checked SortDedup
open Collector (SnapshotManifest)

/-- Where candidate bytes came from. Mutations are negative-test artifacts and never promotable. -/
inductive CandidateOrigin where
  | liveWorker
  | fixtureWorker
  | injectedMutation (sourceCandidate : Sha256Digest) (mutationId : List Char)
deriving DecidableEq

/-- A candidate, as the gate reads it. -/
structure CandidateRecord where
  candidateDigest : Sha256Digest
  contractId : Sha256Digest
  taskKey : SpecIdentifier
  workerRunId : Uuid
  workerSessionId : Uuid
  workerRoute : List Char
  workerHarness : AgentKind
  leaseGeneration : Nat
  origin : CandidateOrigin
deriving DecidableEq

/-- What a review says. -/
inductive ReviewVerdict where
  | pass
  | changesRequested
  | blocked
deriving DecidableEq

/-- A review of a candidate. -/
structure ReviewReceipt where
  schemaVersion : Nat
  receiptId : Uuid
  workflowId : Uuid
  taskKey : SpecIdentifier
  contractId : Sha256Digest
  candidateDigest : Sha256Digest
  reviewerRunId : Uuid
  reviewerSessionId : Uuid
  reviewerRoute : List Char
  effectiveRoute : Option EffectiveRouteIdentity
  reviewerHarness : AgentKind
  verdict : ReviewVerdict
  findingsCount : Nat
  findingsDigest : Sha256Digest
  /-- The candidate bytes hashed again after the review equal the collected candidate. -/
  candidateUnchanged : Bool
deriving DecidableEq

/-- How a suite ended. -/
inductive SuiteStatus where
  | passed
  | failed
  /-- A prerequisite is missing. Never a pass. -/
  | blocked
deriving DecidableEq

/-- The result of one suite. -/
structure SuiteResult where
  suiteId : SpecIdentifier
  status : SuiteStatus
  testsTotal : Nat
  testsPassed : Nat
  testsFailed : Nat
  failedTests : List (List Char)
  command : List (List Char)
  exitCode : Option Int
  durationMs : Nat
  outputSha256 : Sha256Digest
  blockedReason : Option (List Char)
deriving DecidableEq

/-- A mutated candidate that is verified. -/
structure DerivedVerifierSubject where
  sourceCandidateDigest : Sha256Digest
  mutationId : List Char
  manifest : SnapshotManifest
deriving DecidableEq

/-- A verification of a candidate. -/
structure VerifierReceipt where
  schemaVersion : Nat
  receiptId : Uuid
  workflowId : Uuid
  /-- The task verified, or `none` for an integration candidate. -/
  taskKey : Option SpecIdentifier
  contractIds : List Sha256Digest
  /-- Digest of the snapshot or integration tree that was tested. -/
  subjectDigest : Sha256Digest
  derivedSubject : Option DerivedVerifierSubject
  suites : List SuiteResult
  verifierFilesDigest : Sha256Digest
  toolVersions : List (List Char × List Char)
  /-- The tested bytes hashed again after the run equal the subject. -/
  subjectUnchanged : Bool
deriving DecidableEq

/-- The first result of the suite. -/
def VerifierReceipt.suite (self : VerifierReceipt) (suiteId : SpecIdentifier) : Option SuiteResult :=
  self.suites.find? fun suite => suite.suiteId = suiteId

/-- The integration of the candidates of a workflow. -/
structure IntegrationReceipt where
  schemaVersion : Nat
  receiptId : Uuid
  workflowId : Uuid
  baseCommit : List Char
  appliedCandidates : List Sha256Digest
  contractIds : List Sha256Digest
  integrationTreeDigest : Sha256Digest
  patchSha256 : Sha256Digest
  conflicts : List (List Char)
deriving DecidableEq

/-- What a gate asks for. -/
structure GateRequirements where
  requiredSuites : List SpecIdentifier
  admittedVerifierDigest : Sha256Digest

/-- Why a candidate does not pass. -/
inductive GateFailure where
  | reviewMissing
  | reviewNotPassed
  | reviewWrongCandidate
  | reviewWrongContract
  | reviewerNotIndependent
  | reviewMutatedCandidate
  | verificationMissing
  | verificationWrongCandidate
  | verificationWrongContract
  | suiteMissing (suiteId : List Char)
  | suiteFailed (suiteId : List Char)
  | suiteBlocked (suiteId : List Char)
  | verifierModified
  | candidateMutatedDuringVerification
  | mutationArtifactNotPromotable
  | workflowNotActive (phase : List Char)
  | taskMissing (taskKey : List Char)
  | integrationMissing
  | integrationMismatch
  | integrationConflicts
deriving DecidableEq, Ord

def GateFailure.code : GateFailure → String
  | reviewMissing => "gate_review_missing"
  | reviewNotPassed => "gate_review_not_passed"
  | reviewWrongCandidate => "gate_review_wrong_candidate"
  | reviewWrongContract => "gate_review_wrong_contract"
  | reviewerNotIndependent => "gate_reviewer_not_independent"
  | reviewMutatedCandidate => "gate_review_mutated_candidate"
  | verificationMissing => "gate_verification_missing"
  | verificationWrongCandidate => "gate_verification_wrong_candidate"
  | verificationWrongContract => "gate_verification_wrong_contract"
  | suiteMissing _ => "gate_suite_missing"
  | suiteFailed _ => "gate_suite_failed"
  | suiteBlocked _ => "gate_suite_blocked"
  | verifierModified => "gate_verifier_modified"
  | candidateMutatedDuringVerification => "gate_candidate_mutated"
  | mutationArtifactNotPromotable => "gate_mutation_not_promotable"
  | workflowNotActive _ => "gate_workflow_not_active"
  | taskMissing _ => "gate_task_missing"
  | integrationMissing => "gate_integration_missing"
  | integrationMismatch => "gate_integration_mismatch"
  | integrationConflicts => "gate_integration_conflicts"

/-- Proof that one candidate passed its gate. -/
structure CandidateAcceptance where
  candidateDigest : Sha256Digest
  contractId : Sha256Digest
  reviewReceipt : Sha256Digest
  verifierReceipt : Sha256Digest
  level : AcceptanceLevel
deriving DecidableEq

/-- The failure, when `found`. -/
def failureIf (found : Prop) [Decidable found] (failure : GateFailure) : List GateFailure :=
  if found then [failure] else []

@[simp]
theorem failureIf_eq_nil {found : Prop} [Decidable found] {failure : GateFailure} :
    failureIf found failure = [] ↔ ¬ found := by
  unfold failureIf
  split_ifs with h <;> simp [h]

/-- What is wrong with the result of one required suite. -/
def suiteFailures (receipt : VerifierReceipt) (suiteId : SpecIdentifier) : List GateFailure :=
  match receipt.suite suiteId with
  | none => [.suiteMissing suiteId.text]
  | some suite =>
    match suite.status with
    | .passed =>
      failureIf (¬ (suite.testsFailed = 0 ∧ 0 < suite.testsPassed)) (.suiteFailed suiteId.text)
    | .blocked => [.suiteBlocked suiteId.text]
    | .failed => [.suiteFailed suiteId.text]

/-- Checks the suites of a receipt for a subject under its contracts. -/
def verificationFailures (receipt : VerifierReceipt) (subject : Sha256Digest)
    (contractIds : List Sha256Digest) (requirements : GateRequirements) : List GateFailure :=
  failureIf (receipt.subjectDigest ≠ subject) .verificationWrongCandidate ++
    failureIf (sort contractIds ≠ sort receipt.contractIds) .verificationWrongContract ++
    failureIf (receipt.verifierFilesDigest ≠ requirements.admittedVerifierDigest)
      .verifierModified ++
    failureIf (receipt.subjectUnchanged = false) .candidateMutatedDuringVerification ++
    requirements.requiredSuites.flatMap (suiteFailures receipt)

/-- What is wrong with a review of a candidate. -/
def reviewFailures (candidate : CandidateRecord) (review : ReviewReceipt) : List GateFailure :=
  failureIf (review.verdict ≠ .pass) .reviewNotPassed ++
    failureIf (review.candidateDigest ≠ candidate.candidateDigest) .reviewWrongCandidate ++
    failureIf (review.taskKey ≠ candidate.taskKey) .reviewWrongCandidate ++
    failureIf (review.contractId ≠ candidate.contractId) .reviewWrongContract ++
    failureIf (review.reviewerRunId = candidate.workerRunId ∨
      review.reviewerSessionId = candidate.workerSessionId ∨
      review.reviewerRoute = candidate.workerRoute) .reviewerNotIndependent ++
    failureIf (review.candidateUnchanged = false) .reviewMutatedCandidate

section

variable (reviewDigest : DigestOf ReviewReceipt) (verifierDigest : DigestOf VerifierReceipt)

/-- The gate one candidate must pass before it can be integrated or selected. -/
def candidateGate (candidate : CandidateRecord) (review : Option ReviewReceipt)
    (verification : Option VerifierReceipt) (requirements : GateRequirements) :
    Except (List GateFailure) CandidateAcceptance := do
  let isMutation : Bool := match candidate.origin with
    | .injectedMutation _ _ => true
    | _ => false
  let failures := failureIf (isMutation = true) .mutationArtifactNotPromotable ++
    (match review with
      | none => [.reviewMissing]
      | some review => reviewFailures candidate review) ++
    (match verification with
      | none => [.verificationMissing]
      | some receipt => verificationFailures receipt candidate.candidateDigest
          [candidate.contractId] requirements)
  ensure (failures = []) (sortDedup failures)
  let review ← require review [.reviewMissing]
  let verification ← require verification [.reviewMissing]
  let reviewReceipt ← (reviewDigest review).mapError fun _ => [.reviewMissing]
  let verifierReceipt ← (verifierDigest verification).mapError fun _ => [.verificationMissing]
  return ⟨candidate.candidateDigest, candidate.contractId, reviewReceipt, verifierReceipt,
    .localVerifierPassed⟩

end

/-- What is wrong with an integration of the accepted candidates. -/
def integrationFailures (accepted : List (SpecIdentifier × CandidateAcceptance))
    (integration : IntegrationReceipt) (verification : Option VerifierReceipt)
    (requirements : GateRequirements) : List GateFailure :=
  let expected := accepted.map fun entry => entry.2.candidateDigest
  let contracts := accepted.map fun entry => entry.2.contractId
  failureIf (sort integration.appliedCandidates ≠ sort expected) .integrationMismatch ++
    failureIf (integration.conflicts ≠ []) .integrationConflicts ++
    failureIf (sort integration.contractIds ≠ sort contracts) .integrationMismatch ++
    (match verification with
      | none => [.verificationMissing]
      | some receipt => verificationFailures receipt integration.integrationTreeDigest contracts
          requirements)

/-- Every expected task has an accepted candidate, the integration applied exactly those candidates
without conflicts, and the trusted verifier passed on the integration tree. -/
def cooperativeAcceptance (phase : WorkflowPhase) (expectedTasks : List SpecIdentifier)
    (accepted : List (SpecIdentifier × CandidateAcceptance))
    (integration : Option IntegrationReceipt) (integrationVerification : Option VerifierReceipt)
    (requirements : GateRequirements) : Except (List GateFailure) AcceptanceLevel := do
  let failures := failureIf (phase ≠ .integrating) (.workflowNotActive phase.asStr) ++
    (expectedTasks.flatMap fun task =>
      failureIf (accepted.all fun entry => entry.1 ≠ task) (.taskMissing task.text)) ++
    (match integration with
      | none => [.integrationMissing]
      | some integration =>
        integrationFailures accepted integration integrationVerification requirements)
  ensure (failures = []) (sortDedup failures)
  return .workflowAccepted

end Vibemux
