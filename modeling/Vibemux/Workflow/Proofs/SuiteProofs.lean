import Vibemux.Workflow.Proofs.GateProofs

/-!
# Repeated results of one suite

A gate looks the result of a required suite up by its identifier and sees the first one, so a failing
one can stand behind a passing one.
-/

namespace Vibemux

open List

/-- Some tests passed and none failed. -/
def SuiteResult.Passing (result : SuiteResult) : Prop :=
  result.status = .passed ∧ result.testsFailed = 0 ∧ 0 < result.testsPassed

/-- Every result of a required suite passes. -/
def NoHiddenFailure (receipt : VerifierReceipt) (requiredSuites : List SpecIdentifier) : Prop :=
  ∀ result ∈ receipt.suites, result.suiteId ∈ requiredSuites → result.Passing

/-- Every result of a required suite that stands behind another result of the same suite passes. -/
def RepeatedResultsPass (receipt : VerifierReceipt) (requiredSuites : List SpecIdentifier) : Prop :=
  ∀ before result after, receipt.suites = before ++ result :: after →
    result.suiteId ∈ requiredSuites →
    (∃ earlier ∈ before, earlier.suiteId = result.suiteId) → result.Passing

/-- A verification that one of the two gates accepted. -/
inductive VerificationAccepted (reviewDigest : DigestOf ReviewReceipt)
    (verifierDigest : DigestOf VerifierReceipt) (receipt : VerifierReceipt)
    (requirements : GateRequirements) : Prop where
  | candidate {candidate : CandidateRecord} {review : Option ReviewReceipt}
      {acceptance : CandidateAcceptance}
      (h : candidateGate reviewDigest verifierDigest candidate review (some receipt) requirements =
        .ok acceptance)
  | integration {phase : WorkflowPhase} {expectedTasks : List SpecIdentifier}
      {accepted : List (SpecIdentifier × CandidateAcceptance)} {integration : Option IntegrationReceipt}
      {level : AcceptanceLevel}
      (h : cooperativeAcceptance phase expectedTasks accepted integration (some receipt) requirements =
        .ok level)

theorem VerificationAccepted.suites {reviewDigest : DigestOf ReviewReceipt}
    {verifierDigest : DigestOf VerifierReceipt} {receipt : VerifierReceipt}
    {requirements : GateRequirements}
    (h : VerificationAccepted reviewDigest verifierDigest receipt requirements) :
    ∀ suiteId ∈ requirements.requiredSuites, SuitePassed receipt suiteId := by
  cases h with
  | candidate h =>
    obtain ⟨_, hreceipt, hpassing⟩ := (candidateGate_eq_ok h).1.verification
    obtain rfl := Option.some.inj hreceipt
    exact hpassing.suites
  | integration h =>
    obtain ⟨_, -, -, -, -, _, hreceipt, hpassing⟩ := (cooperativeAcceptance_eq_ok h).integration
    obtain rfl := Option.some.inj hreceipt
    exact hpassing.suites

/-- The first result of a suite is the one that is looked up. -/
theorem suite_of_first {receipt : VerifierReceipt} {before after : List SuiteResult}
    {result : SuiteResult} (hsuites : receipt.suites = before ++ result :: after)
    (hfirst : ∀ earlier ∈ before, earlier.suiteId ≠ result.suiteId) :
    receipt.suite result.suiteId = some result := by
  unfold VerifierReceipt.suite
  have hbefore : before.find? (fun suite => decide (suite.suiteId = result.suiteId)) = none :=
    find?_eq_none.2 fun earlier hearlier => by simpa using hfirst earlier hearlier
  rw [hsuites, find?_append, hbefore, find?_cons_of_pos (by simp)]
  rfl

/-- No failing result of an accepted verification hides behind a passing one, exactly when the results
that repeat a required suite pass themselves. -/
theorem noHiddenFailure_iff (reviewDigest : DigestOf ReviewReceipt)
    (verifierDigest : DigestOf VerifierReceipt) (receipt : VerifierReceipt)
    (requirements : GateRequirements)
    (haccepted : VerificationAccepted reviewDigest verifierDigest receipt requirements) :
    NoHiddenFailure receipt requirements.requiredSuites ↔
      RepeatedResultsPass receipt requirements.requiredSuites := by
  constructor
  · intro h before result after hsuites hrequired _
    exact h result (hsuites ▸ mem_append_right _ mem_cons_self) hrequired
  · intro h result hresult hrequired
    obtain ⟨before, after, hsuites⟩ := append_of_mem hresult
    by_cases hrepeated : ∃ earlier ∈ before, earlier.suiteId = result.suiteId
    · exact h before result after hsuites hrequired hrepeated
    · have hfirst : ∀ earlier ∈ before, earlier.suiteId ≠ result.suiteId := fun earlier hearlier heq =>
        hrepeated ⟨earlier, hearlier, heq⟩
      obtain ⟨found, hfound, hpassing⟩ := haccepted.suites result.suiteId hrequired
      obtain rfl := Option.some.inj ((suite_of_first hsuites hfirst).symm.trans hfound)
      exact hpassing

/-! ## A failing result behind a passing one -/

def sampleSuiteId : SpecIdentifier := ⟨"unit".toList, by decide⟩

def sampleTaskKey : SpecIdentifier := ⟨"tested".toList, by decide⟩

def sampleResult (status : SuiteStatus) (testsPassed testsFailed : Nat) : SuiteResult where
  suiteId := sampleSuiteId
  status := status
  testsTotal := testsPassed + testsFailed
  testsPassed := testsPassed
  testsFailed := testsFailed
  failedTests := []
  command := []
  exitCode := some 0
  durationMs := 1
  outputSha256 := ⟨3⟩
  blockedReason := none

/-- A verification of one subject under one contract, with the given results. -/
def sampleVerification (taskKey : Option SpecIdentifier) (suites : List SuiteResult) :
    VerifierReceipt where
  schemaVersion := 1
  receiptId := Uuid.fromU128 1
  workflowId := Uuid.fromU128 2
  taskKey := taskKey
  contractIds := [⟨4⟩]
  subjectDigest := ⟨5⟩
  derivedSubject := none
  suites := suites
  verifierFilesDigest := ⟨6⟩
  toolVersions := []
  subjectUnchanged := true

def sampleCandidateRecord : CandidateRecord where
  candidateDigest := ⟨5⟩
  contractId := ⟨4⟩
  taskKey := sampleTaskKey
  workerRunId := Uuid.fromU128 3
  workerSessionId := Uuid.fromU128 4
  workerRoute := "worker".toList
  workerHarness := .codex
  leaseGeneration := 1
  origin := .liveWorker

def sampleReview : ReviewReceipt where
  schemaVersion := 1
  receiptId := Uuid.fromU128 5
  workflowId := Uuid.fromU128 2
  taskKey := sampleTaskKey
  contractId := ⟨4⟩
  candidateDigest := ⟨5⟩
  reviewerRunId := Uuid.fromU128 6
  reviewerSessionId := Uuid.fromU128 7
  reviewerRoute := "reviewer".toList
  effectiveRoute := none
  reviewerHarness := .claude
  verdict := .pass
  findingsCount := 0
  findingsDigest := ⟨7⟩
  candidateUnchanged := true

def sampleAcceptance : CandidateAcceptance := ⟨⟨5⟩, ⟨4⟩, ⟨8⟩, ⟨9⟩, .localVerifierPassed⟩

def sampleIntegration : IntegrationReceipt where
  schemaVersion := 1
  receiptId := Uuid.fromU128 8
  workflowId := Uuid.fromU128 2
  baseCommit := []
  appliedCandidates := [⟨5⟩]
  contractIds := [⟨4⟩]
  integrationTreeDigest := ⟨5⟩
  patchSha256 := ⟨10⟩
  conflicts := []

/-- Both gates accept a passing result with a failing result of the same suite behind it. -/
theorem gates_accept_hidden_failure :
    candidateGate (fun _ => .ok ⟨8⟩) (fun _ => .ok ⟨9⟩) sampleCandidateRecord (some sampleReview)
        (some (sampleVerification (some sampleTaskKey)
          [sampleResult .passed 3 0, sampleResult .failed 2 1])) ⟨[sampleSuiteId], ⟨6⟩⟩ =
      .ok sampleAcceptance ∧
    cooperativeAcceptance .integrating [sampleTaskKey] [(sampleTaskKey, sampleAcceptance)]
        (some sampleIntegration)
        (some (sampleVerification none [sampleResult .passed 3 0, sampleResult .failed 2 1]))
        ⟨[sampleSuiteId], ⟨6⟩⟩ = .ok .workflowAccepted ∧
    ∀ taskKey, ¬NoHiddenFailure
      (sampleVerification taskKey [sampleResult .passed 3 0, sampleResult .failed 2 1])
      [sampleSuiteId] := by
  refine ⟨rfl, rfl, fun taskKey h => ?_⟩
  have hpassing := h (sampleResult .failed 2 1) (by simp [sampleVerification])
    (mem_singleton_self _)
  exact absurd hpassing.1 (by decide)

/-- The condition for a suite that reports twice. -/
theorem noHiddenFailure_iff_repeated :
    NoHiddenFailure (sampleVerification (some sampleTaskKey)
        [sampleResult .passed 3 0, sampleResult .passed 2 0]) [sampleSuiteId] ↔
      RepeatedResultsPass (sampleVerification (some sampleTaskKey)
        [sampleResult .passed 3 0, sampleResult .passed 2 0]) [sampleSuiteId] :=
  noHiddenFailure_iff (fun _ => .ok ⟨8⟩) (fun _ => .ok ⟨9⟩) _ ⟨[sampleSuiteId], ⟨6⟩⟩
    (.candidate (show candidateGate (fun _ => .ok ⟨8⟩) (fun _ => .ok ⟨9⟩) sampleCandidateRecord
      (some sampleReview) _ _ = .ok sampleAcceptance from rfl))

end Vibemux
