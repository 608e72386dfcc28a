import Vibemux.Workflow.Gates

/-!
# What a passed gate shows

A gate passes when its list of failures is empty. The lists are taken apart once here, into what a
passing review, a passing verification and a passing integration are.
-/

namespace Vibemux

open Checked SortDedup List

variable {requirements : GateRequirements} {verification : Option VerifierReceipt}
  {candidate : CandidateRecord} {receipt : VerifierReceipt}

/-- A review that lets its candidate pass. -/
structure PassingReview (candidate : CandidateRecord) (review : ReviewReceipt) : Prop where
  pass : review.verdict = .pass
  digest : review.candidateDigest = candidate.candidateDigest
  taskKey : review.taskKey = candidate.taskKey
  contractId : review.contractId = candidate.contractId
  run : review.reviewerRunId ≠ candidate.workerRunId
  session : review.reviewerSessionId ≠ candidate.workerSessionId
  route : review.reviewerRoute ≠ candidate.workerRoute
  unchanged : review.candidateUnchanged = true

theorem reviewFailures_eq_nil {review : ReviewReceipt} (h : reviewFailures candidate review = []) :
    PassingReview candidate review := by
  simp only [reviewFailures, append_eq_nil_iff, failureIf_eq_nil, not_not, not_or,
    Bool.not_eq_false] at h
  obtain ⟨⟨⟨⟨⟨hpass, hdigest⟩, htask⟩, hcontract⟩, hrun, hsession, hroute⟩, hunchanged⟩ := h
  exact ⟨hpass, hdigest, htask, hcontract, hrun, hsession, hroute, hunchanged⟩

/-- The result a verification looks up for a suite, and that it passed. -/
def SuitePassed (receipt : VerifierReceipt) (suiteId : SpecIdentifier) : Prop :=
  ∃ result, receipt.suite suiteId = some result ∧ result.status = .passed ∧
    result.testsFailed = 0 ∧ 0 < result.testsPassed

theorem suiteFailures_eq_nil {suiteId : SpecIdentifier} (h : suiteFailures receipt suiteId = []) :
    SuitePassed receipt suiteId := by
  unfold suiteFailures at h
  cases hsuite : receipt.suite suiteId with
  | none => simp [hsuite] at h
  | some result =>
    cases hstatus : result.status with
    | passed =>
      simp only [hsuite, hstatus, failureIf_eq_nil, not_not] at h
      exact ⟨result, hsuite, hstatus, h⟩
    | failed | blocked => simp [hsuite, hstatus] at h

/-- A verification that lets its subject pass under the contracts. -/
structure PassingVerification (receipt : VerifierReceipt) (subject : Sha256Digest)
    (contractIds : List Sha256Digest) (requirements : GateRequirements) : Prop where
  subject : receipt.subjectDigest = subject
  contracts : receipt.contractIds.Perm contractIds
  verifier : receipt.verifierFilesDigest = requirements.admittedVerifierDigest
  unchanged : receipt.subjectUnchanged = true
  suites : ∀ suiteId ∈ requirements.requiredSuites, SuitePassed receipt suiteId

theorem verificationFailures_eq_nil {subject : Sha256Digest} {contractIds : List Sha256Digest}
    (h : verificationFailures receipt subject contractIds requirements = []) :
    PassingVerification receipt subject contractIds requirements := by
  simp only [verificationFailures, append_eq_nil_iff, failureIf_eq_nil, not_not,
    Bool.not_eq_false, flatMap_eq_nil_iff] at h
  obtain ⟨⟨⟨⟨hsubject, hcontracts⟩, hverifier⟩, hunchanged⟩, hsuites⟩ := h
  exact ⟨hsubject, perm_of_sort hcontracts.symm, hverifier, hunchanged,
    fun suiteId hsuite => suiteFailures_eq_nil (hsuites suiteId hsuite)⟩

/-- What an accepted candidate was accepted with. -/
structure PassedGate (candidate : CandidateRecord) (review : Option ReviewReceipt)
    (verification : Option VerifierReceipt) (requirements : GateRequirements) : Prop where
  review : ∃ receipt, review = some receipt ∧ PassingReview candidate receipt
  verification : ∃ receipt, verification = some receipt ∧
    PassingVerification receipt candidate.candidateDigest [candidate.contractId] requirements

theorem candidateGate_eq_ok {reviewDigest : DigestOf ReviewReceipt}
    {verifierDigest : DigestOf VerifierReceipt} {review : Option ReviewReceipt}
    {acceptance : CandidateAcceptance}
    (h : candidateGate reviewDigest verifierDigest candidate review verification requirements = .ok acceptance) :
    PassedGate candidate review verification requirements ∧
      acceptance.candidateDigest = candidate.candidateDigest ∧
      acceptance.contractId = candidate.contractId := by
  simp only [candidateGate, eq_ok, append_eq_nil_iff] at h
  obtain ⟨⟨⟨-, hreview⟩, hverification⟩, _, rfl, _, rfl, _, -, _, -, rfl⟩ := h
  exact ⟨⟨⟨_, rfl, reviewFailures_eq_nil hreview⟩,
    ⟨_, rfl, verificationFailures_eq_nil hverification⟩⟩, rfl, rfl⟩

/-- What an accepted workflow was accepted with. -/
structure PassedIntegration (phase : WorkflowPhase) (expectedTasks : List SpecIdentifier)
    (accepted : List (SpecIdentifier × CandidateAcceptance)) (integration : Option IntegrationReceipt)
    (verification : Option VerifierReceipt) (requirements : GateRequirements) : Prop where
  phase : phase = .integrating
  tasks : ∀ task ∈ expectedTasks, ∃ entry ∈ accepted, entry.1 = task
  integration : ∃ receipt, integration = some receipt ∧
    receipt.appliedCandidates.Perm (accepted.map fun entry => entry.2.candidateDigest) ∧
    receipt.contractIds.Perm (accepted.map fun entry => entry.2.contractId) ∧
    receipt.conflicts = [] ∧ ∃ verified, verification = some verified ∧
      PassingVerification verified receipt.integrationTreeDigest
        (accepted.map fun entry => entry.2.contractId) requirements

theorem cooperativeAcceptance_eq_ok {phase : WorkflowPhase} {expectedTasks : List SpecIdentifier}
    {accepted : List (SpecIdentifier × CandidateAcceptance)}
    {integration : Option IntegrationReceipt} {level : AcceptanceLevel}
    (h : cooperativeAcceptance phase expectedTasks accepted integration verification requirements =
      .ok level) :
    PassedIntegration phase expectedTasks accepted integration verification requirements := by
  simp only [cooperativeAcceptance, eq_ok, append_eq_nil_iff, failureIf_eq_nil, not_not,
    flatMap_eq_nil_iff] at h
  obtain ⟨⟨⟨hphase, htasks⟩, hintegration⟩, -⟩ := h
  refine ⟨hphase, fun task htask => ?_, ?_⟩
  · have hfound := htasks task htask
    simpa using hfound
  · cases integration with
    | none => cases hintegration
    | some receipt =>
      simp only [integrationFailures, append_eq_nil_iff, failureIf_eq_nil, not_not]
        at hintegration
      obtain ⟨⟨⟨hcandidates, hconflicts⟩, hcontracts⟩, hverification⟩ := hintegration
      refine ⟨receipt, rfl, perm_of_sort hcandidates, perm_of_sort hcontracts, hconflicts, ?_⟩
      cases verification with
      | none => cases hverification
      | some verified => exact ⟨verified, rfl, verificationFailures_eq_nil hverification⟩

end Vibemux
