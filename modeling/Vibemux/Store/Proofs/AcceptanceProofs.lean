import Vibemux.Compiler.Proofs.CoverageProofs
import Vibemux.Store.Proofs.DispatchLifecycleProofs
import Vibemux.Store.Proofs.ReceiptInvariantProofs
import Vibemux.Workflow.Proofs.GateProofs

/-!
# Soundness of acceptance

A workflow is accepted only from `integrating`, and only when each task that counts has an accepted
candidate with stored evidence. The gates read the receipts; what the receipts say about attempts and
dispatches comes from the invariants.
-/

namespace Vibemux.Store

open Checked List Machine Option Table WorkflowRecord

variable {s s' : Store} {digests : StoreDigests} {workflowId : Uuid} {candidate : CandidateReceipt}
  {digest : Sha256Digest} {record : WorkflowRecord} {task : WorkflowTask}
  {accepted : List (SpecIdentifier × CandidateAcceptance)} {next : WorkflowRecord}
  {review : ReviewReceipt} {stored : WorkflowRow} {taskKey : SpecIdentifier}

/-! ## Receipts by kind -/

theorem mem_receiptsFor {receipt : WorkflowReceipt} :
    receipt ∈ s.receiptsFor workflowId ↔
      ∃ row ∈ s.receipts, row.workflowId = workflowId ∧ row.receipt = receipt := by
  simp [receiptsFor, and_assoc]

theorem mem_filterMap_receipts {α : Type} {kind : WorkflowReceipt → Option α} {make : α → WorkflowReceipt}
    (hkind : ∀ receipt a, kind receipt = some a ↔ receipt = make a) {a : α} :
    a ∈ (s.receiptsFor workflowId).filterMap kind ↔
      ∃ row ∈ s.receipts, row.workflowId = workflowId ∧ row.receipt = make a := by
  simp only [mem_filterMap, mem_receiptsFor, hkind]
  exact ⟨fun ⟨_, ⟨row, hrow, hid, hsame⟩, h⟩ => ⟨row, hrow, hid, hsame.trans h⟩,
    fun ⟨row, hrow, hid, h⟩ => ⟨_, ⟨row, hrow, hid, rfl⟩, h⟩⟩

theorem mem_admittedCandidates :
    candidate ∈ s.admittedCandidates workflowId ↔ candidate.admitted = true ∧
      ∃ row ∈ s.receipts, row.workflowId = workflowId ∧ row.receipt = .candidate candidate := by
  rw [admittedCandidates, mem_filter, and_comm]
  exact and_congr_right fun _ =>
    mem_filterMap_receipts fun receipt _ => by cases receipt <;> simp [WorkflowReceipt.asCandidate]

theorem mem_reviewsFor :
    review ∈ s.reviewsFor workflowId ↔
      ∃ row ∈ s.receipts, row.workflowId = workflowId ∧ row.receipt = .review review :=
  mem_filterMap_receipts fun receipt _ => by cases receipt <;> simp [WorkflowReceipt.asReview]

/-! ## The gates of the store -/

/-- The candidate the gate used, and that it passed. -/
structure Gated (s : Store) (record : WorkflowRecord) (task : WorkflowTask) (digest : Sha256Digest)
    (candidate : CandidateReceipt) : Prop where
  latest : s.latestCandidate record.workflowId task.taskKey digest = some candidate
  contractId : candidate.candidate.contractId = task.contractId
  passed : PassedGate candidate.candidate (s.latestReview record.workflowId digest)
    (s.latestVerification record.workflowId (some task.taskKey) digest)
    ⟨task.requiredSuites, record.verifierDigest⟩

theorem latestCandidate_eq_some (h : s.latestCandidate workflowId taskKey digest = some candidate) :
    candidate ∈ s.admittedCandidates workflowId ∧
      candidate.candidate.candidateDigest = digest ∧ candidate.candidate.taskKey = taskKey := by
  have hmem := mem_of_find?_eq_some h
  have hfound := find?_some h
  exact ⟨mem_reverse.1 hmem, by simpa using hfound⟩

theorem gateCandidate_eq_ok {acceptance : CandidateAcceptance}
    (h : s.gateCandidate digests record taskKey digest = .ok acceptance) :
    ∃ task candidate, record.task taskKey = some task ∧ Gated s record task digest candidate ∧
      acceptance.candidateDigest = digest ∧ acceptance.contractId = task.contractId := by
  simp only [gateCandidate, eq_ok] at h
  obtain ⟨task, htask, candidate, hcandidate, hcontract, hgate⟩ := h
  obtain ⟨hpassed, hdigest, hcontract'⟩ := candidateGate_eq_ok hgate
  have hkey : task.taskKey = taskKey := (mem_of_task htask).2
  subst hkey
  exact ⟨task, candidate, htask, ⟨hcandidate, hcontract, hpassed⟩,
    hdigest.trans (latestCandidate_eq_some hcandidate).2.1, hcontract'.trans hcontract⟩

/-- Every acceptance the tasks give comes from one of them, with the digest it accepted. -/
theorem gateTasks_eq_ok {tasks : List WorkflowTask}
    (h : s.gateTasks digests record tasks = .ok accepted) :
    ∀ entry ∈ accepted, ∃ task ∈ tasks, ∃ digest, task.taskKey = entry.1 ∧
      task.acceptedCandidate = some digest ∧
      s.gateCandidate digests record task.taskKey digest = .ok entry.2 := by
  induction tasks generalizing accepted with
  | nil =>
    cases h
    simp
  | cons task rest ih =>
    unfold gateTasks at h
    have hrest : ∀ {accepted}, s.gateTasks digests record rest = .ok accepted → ∀ entry ∈ accepted,
        ∃ other ∈ task :: rest, ∃ digest, other.taskKey = entry.1 ∧
          other.acceptedCandidate = some digest ∧
          s.gateCandidate digests record other.taskKey digest = .ok entry.2 := by
      intro accepted haccepted entry hentry
      obtain ⟨other, hother, hfound⟩ := ih haccepted entry hentry
      exact ⟨other, .tail _ hother, hfound⟩
    cases hdigest : task.acceptedCandidate with
    | none =>
      simp only [hdigest] at h
      exact hrest h
    | some digest =>
      simp only [hdigest, eq_ok] at h
      obtain ⟨_, hgate, _, hothers, rfl⟩ := h
      intro entry hentry
      rcases mem_cons.1 hentry with rfl | hentry
      · exact ⟨task, .head _, digest, rfl, hdigest, hgate⟩
      · exact hrest hothers entry hentry

/-- An accepted workflow: what the gates read. -/
structure WorkflowGated (digests : StoreDigests) (s s' : Store) (stored : WorkflowRow)
    (next : WorkflowRecord) (accepted : List (SpecIdentifier × CandidateAcceptance)) : Prop where
  gates : s.gateTasks digests stored.record (s.countedTasks stored.record) = .ok accepted
  counted : s.countedTasks stored.record ≠ []
  integration : PassedIntegration stored.record.phase
    ((s.countedTasks stored.record).map WorkflowTask.taskKey) accepted
    (s.integrationsFor stored.record.workflowId).getLast?
    ((s.integrationsFor stored.record.workflowId).getLast?.bind fun receipt =>
      s.latestVerification stored.record.workflowId none receipt.integrationTreeDigest)
    ⟨stored.record.integrationSuites, stored.record.verifierDigest⟩
  moved : ∃ nowMs, stored.record.withPhase .accepted nowMs = .ok next
  updated : Updated s s' stored next

theorem acceptWorkflow_eq_ok {expectedVersion : Nat} {timestamp : Timestamp}
    {commit : WorkflowCommit}
    (h : s.acceptWorkflow digests workflowId expectedVersion timestamp = .ok (commit, s')) :
    ∃ stored next accepted, stored.record.workflowId = workflowId ∧
      WorkflowGated digests s s' stored next accepted := by
  simp only [acceptWorkflow, eq_ok] at h
  obtain ⟨-, stored, hload, -, accepted, hgates, hcounted, -, _, hlevel, -, next, hnext, _,
    _, happend, _, hupdate, -, rfl⟩ := h
  obtain ⟨events, -, rfl⟩ := append_eq_ok.1 happend
  have hid := loadExistingWorkflow_id hload
  have hsame : next.workflowId = stored.record.workflowId := by
    obtain ⟨-, -, rfl⟩ := withPhase_eq_ok.1 hnext
    rfl
  subst hid
  exact ⟨stored, next, accepted, rfl, hgates, hcounted, cooperativeAcceptance_eq_ok hlevel,
    ⟨_, hnext⟩, Updated.of_updateWorkflow hload hupdate hsame rfl⟩

/-! ## Evidence -/

/-- Whether a task counts for the acceptance of its workflow: every task does, and in a comparison the
tasks whose accepted candidate is the winner of the last recorded selection. -/
def Counts (s : Store) (record : WorkflowRecord) (task : WorkflowTask) : Prop :=
  record.mode = .compare → ∃ selection winner,
    (s.selectionsFor record.workflowId).getLast? = some selection ∧
    selection.outcome.winner = some winner ∧ task.acceptedCandidate = some winner

/-- The stored candidate behind an accepted digest. -/
structure CandidateEvidence (digests : StoreDigests) (s : Store) (workflowId : Uuid)
    (task : WorkflowTask) (digest : Sha256Digest) (candidate : CandidateReceipt) : Prop where
  stored : candidate ∈ s.admittedCandidates workflowId
  isDigest : candidate.candidate.candidateDigest = digest
  contractId : candidate.candidate.contractId = task.contractId
  attempt : ∃ attempt ∈ s.attempts, attempt.requestId = candidate.attemptRequestId ∧
    attempt.workflowId = workflowId ∧ attempt.taskKey = task.taskKey ∧ attempt.purpose ≠ .review ∧
    s.dispatchPhase attempt.requestId = some .completed ∧
    s.dispatchRunId attempt.requestId = some candidate.candidate.workerRunId ∧
    attempt.sessionId = candidate.candidate.workerSessionId
  clean : candidate.violationCodes = []
  manifest : ∃ manifest, candidate.manifest = some manifest ∧ digests.manifest manifest = .ok digest

/-- The latest stored review of an accepted digest. -/
structure ReviewEvidence (s : Store) (workflowId : Uuid) (task : WorkflowTask) (digest : Sha256Digest)
    (candidate : CandidateReceipt) (review : ReviewReceipt) : Prop where
  latest : s.latestReview workflowId digest = some review
  pass : review.verdict = .pass
  taskKey : review.taskKey = task.taskKey
  contractId : review.contractId = task.contractId
  attempt : ∃ attempt ∈ s.attempts, attempt.workflowId = workflowId ∧ attempt.purpose = .review ∧
    attempt.taskKey = task.taskKey ∧ attempt.contractId = task.contractId ∧
    s.dispatchPhase attempt.requestId = some .completed ∧
    s.dispatchRunId attempt.requestId = some review.reviewerRunId ∧
    review.reviewerRunId ≠ candidate.candidate.workerRunId ∧
    attempt.sessionId ≠ candidate.candidate.workerSessionId

/-- The latest stored verification of an accepted digest. -/
structure VerificationEvidence (s : Store) (record : WorkflowRecord) (task : WorkflowTask)
    (digest : Sha256Digest) (verification : VerifierReceipt) : Prop where
  latest : s.latestVerification record.workflowId (some task.taskKey) digest = some verification
  unchanged : verification.subjectUnchanged = true
  verifier : verification.verifierFilesDigest = record.verifierDigest
  contracts : verification.contractIds = [task.contractId]
  suites : ∀ suiteId ∈ task.requiredSuites, ∃ result, verification.suite suiteId = some result ∧
    result.status = .passed ∧ 0 < result.testsPassed ∧ result.testsFailed = 0

/-- What a workflow was accepted with. -/
structure AcceptedSoundly (digests : StoreDigests) (s : Store) (record : WorkflowRecord) : Prop where
  phase : record.phase = .integrating
  counted : ∃ task ∈ record.tasks, Counts s record task
  tasks : ∀ task ∈ record.tasks, Counts s record task → ∃ digest,
    task.acceptedCandidate = some digest ∧ ∃ candidate review verification,
      CandidateEvidence digests s record.workflowId task digest candidate ∧
      ReviewEvidence s record.workflowId task digest candidate review ∧
      VerificationEvidence s record task digest verification
  /-- The last integration is clean, and its tree passed the integration suites. -/
  integration : ∃ integration verification,
    (s.integrationsFor record.workflowId).getLast? = some integration ∧ integration.conflicts = [] ∧
    s.latestVerification record.workflowId none integration.integrationTreeDigest =
      some verification ∧ verification.subjectUnchanged = true ∧
    verification.verifierFilesDigest = record.verifierDigest ∧
    ∀ suiteId ∈ record.integrationSuites, SuitePassed verification suiteId

theorem mem_countedTasks :
    task ∈ s.countedTasks record ↔ task ∈ record.tasks ∧ Counts s record task := by
  rw [countedTasks, mem_filter]
  refine and_congr_right fun _ => ?_
  cases hmode : record.mode with
  | compare =>
    cases hselection : (s.selectionsFor record.workflowId).getLast? with
    | none => simp [taskCounts, Counts, hmode, selectedWinner, hselection]
    | some selection =>
      cases hwinner : selection.outcome.winner <;>
        simp [taskCounts, Counts, hmode, selectedWinner, hselection, hwinner]
  | cooperate | review => simp [taskCounts, Counts, hmode]

theorem CandidateEvidence.of_gated (hinv : ReceiptInv digests s)
    (h : Gated s record task digest candidate) :
    CandidateEvidence digests s record.workflowId task digest candidate := by
  obtain ⟨hmem, hdigest, htask⟩ := latestCandidate_eq_some h.latest
  obtain ⟨hadmitted, row, hrow, hid, hreceipt⟩ := mem_admittedCandidates.1 hmem
  obtain ⟨attempt, _, dispatch, hproduced, hworkflow, hadmissible⟩ :=
    hinv.candidates row hrow candidate hreceipt
  obtain ⟨_, -, hcompleted, hclean, manifest, hmanifest, -, hvalue⟩ := hadmissible hadmitted
  refine ⟨hmem, hdigest, h.contractId, ⟨attempt, mem_of_lookup hproduced.found,
    key_of_lookup hproduced.found, hworkflow.trans hid, hproduced.taskKey.trans htask,
    hproduced.purpose, ?_, ?_, hproduced.sessionId⟩, hclean, manifest, hmanifest, hdigest ▸ hvalue⟩
  · exact dispatchPhase_eq_some.2 ⟨dispatch, hproduced.rowFound, hcompleted⟩
  · exact dispatchRunId_eq_some.2 ⟨dispatch, hproduced.rowFound, hproduced.runId⟩

theorem latestReview_mem (h : s.latestReview workflowId digest = some review) :
    review ∈ s.reviewsFor workflowId :=
  mem_reverse.1 (mem_of_find?_eq_some h)

theorem ReviewEvidence.of_gated (hinv : ReceiptInv digests s)
    (h : Gated s record task digest candidate) :
    ∃ review, ReviewEvidence s record.workflowId task digest candidate review := by
  obtain ⟨-, -, htask⟩ := latestCandidate_eq_some h.latest
  obtain ⟨review, hlatest, hpassing⟩ := h.passed.review
  obtain ⟨row, hrow, hid, hreceipt⟩ := mem_reviewsFor.1 (latestReview_mem hlatest)
  obtain ⟨attempt, execution, dispatch, hreviewed⟩ := hinv.reviews row hrow review hreceipt
  have hkey : review.taskKey = task.taskKey := hpassing.taskKey.trans htask
  have hcontract : review.contractId = task.contractId := hpassing.contractId.trans h.contractId
  refine ⟨review, hlatest, hpassing.pass, hkey, hcontract, attempt, hreviewed.mem,
    hreviewed.workflowId.trans hid, hreviewed.purpose, hreviewed.taskKey.trans hkey,
    hreviewed.contractId.trans hcontract, ?_, ?_, hpassing.run, ?_⟩
  · refine dispatchPhase_eq_some.2 ⟨dispatch, hreviewed.rowFound, ?_⟩
    have hsettled := hreviewed.settled
    rw [hpassing.pass] at hsettled
    simpa [ReviewVerdict.admissible] using hsettled
  · exact dispatchRunId_eq_some.2 ⟨dispatch, hreviewed.rowFound, hreviewed.runId⟩
  · rw [hreviewed.sessionId]
    exact hpassing.session

theorem VerificationEvidence.of_gated (h : Gated s record task digest candidate) :
    ∃ verification, VerificationEvidence s record task digest verification := by
  obtain ⟨verification, hlatest, hpassing⟩ := h.passed.verification
  refine ⟨verification, hlatest, hpassing.unchanged, hpassing.verifier, ?_, fun suiteId hsuite => ?_⟩
  · rw [perm_singleton.1 hpassing.contracts, h.contractId]
  · obtain ⟨result, hresult, hstatus, hfailed, hpassed⟩ := hpassing.suites suiteId hsuite
    exact ⟨result, hresult, hstatus, hpassed, hfailed⟩

/-- The gates of a workflow, read on a store whose receipts mean what was checked. -/
theorem WorkflowGated.sound (h : WorkflowGated digests s s' stored next accepted)
    (hinv : ReceiptInv digests s) :
    AcceptedSoundly digests s stored.record := by
  refine ⟨h.integration.phase, ?_, fun task htask hcounts => ?_, ?_⟩
  · obtain ⟨task, htask⟩ := exists_mem_of_ne_nil _ h.counted
    exact ⟨task, mem_countedTasks.1 htask⟩
  · have hmem := mem_countedTasks.2 ⟨htask, hcounts⟩
    obtain ⟨entry, hentry, hkey⟩ := h.integration.tasks task.taskKey (mem_map_of_mem hmem)
    obtain ⟨other, hother, digest, hother', hdigest, hgate⟩ := gateTasks_eq_ok h.gates entry hentry
    -- the keys of a valid record are unique, so the entry is this task's
    have hvalid := h.updated.valid
    have hsame : other = task := by
      have hfound := task_of_mem hvalid (mem_countedTasks.1 hother).1
      rw [hother', hkey, task_of_mem hvalid htask] at hfound
      exact (some.inj hfound).symm
    subst hsame
    obtain ⟨found, candidate, hfound, hgated, -, -⟩ := gateCandidate_eq_ok hgate
    obtain rfl : other = found :=
      some.inj ((task_of_mem hvalid htask).symm.trans hfound)
    obtain ⟨review, hreview⟩ := ReviewEvidence.of_gated hinv hgated
    obtain ⟨verification, hverification⟩ := VerificationEvidence.of_gated hgated
    exact ⟨digest, hdigest, candidate, review, verification, .of_gated hinv hgated, hreview,
      hverification⟩
  · obtain ⟨integration, hlast, -, -, hconflicts, verification, hverification, hpassing⟩ :=
      h.integration.integration
    rw [hlast, bind_some] at hverification
    exact ⟨integration, verification, hlast, hconflicts, hverification, hpassing.unchanged,
      hpassing.verifier, hpassing.suites⟩

theorem Updated.lookup_self (h : Updated s s' stored next) : ∃ row, row.record = next ∧
      lookup WorkflowRow.workflowId s'.workflows stored.workflowId = some row := by
  obtain ⟨sequence, hwritten⟩ := h.written
  refine ⟨{ stored with record := next, updatedSequence := sequence }, rfl, ?_⟩
  have hkey : stored.workflowId =
      WorkflowRow.workflowId { stored with record := next, updatedSequence := sequence } := h.sameId.symm
  have hloaded := h.loaded
  rw [hkey] at hloaded ⊢
  rw [hwritten]
  exact lookup_put_self hloaded

/-- From an empty database, whatever the operations: when `accept_workflow` succeeds, the workflow was
integrating, moves to `accepted`, and each task that counts has its evidence in the store. -/
theorem acceptance_sound (digests : StoreDigests) (projectId : Uuid) (ops : List StoreOp) :
    ∀ t ∈ history (storeStep digests) (.empty projectId) ops, ∀ workflowId version timestamp,
      t.input = .receipt (.acceptWorkflow workflowId version timestamp) →
      ∃ stored next,
        Table.lookup WorkflowRow.workflowId t.pre.workflows workflowId = some stored ∧
        AcceptedSoundly digests t.pre stored.record ∧
        Table.lookup WorkflowRow.workflowId t.post.workflows workflowId = some next ∧
        next.record.phase = .accepted := by
  intro t ht workflowId version timestamp hinput
  obtain ⟨before, hpre⟩ := pre_of_mem ht
  have hinv : ReceiptInv digests t.pre := hpre ▸ receiptInv_final digests projectId before
  have hstep := accepts_of_mem ht
  rw [Accepts, hinput] at hstep
  simp only [storeStep, receiptStep, eq_ok] at hstep
  obtain ⟨_, _, ⟨_, _, haccept, -, rfl⟩, -, hpost⟩ := hstep
  obtain ⟨stored, _, _, hid, hgated⟩ := acceptWorkflow_eq_ok haccept
  obtain ⟨nowMs, hmoved⟩ := hgated.moved
  obtain ⟨row, hrow, hfound⟩ := hgated.updated.lookup_self
  have hkey : stored.workflowId = workflowId := hid
  rw [hkey, hpost] at hfound
  refine ⟨stored, row, hkey ▸ hgated.updated.loaded, hgated.sound hinv, hfound, ?_⟩
  obtain ⟨-, -, rfl⟩ := withPhase_eq_ok.1 hmoved
  rw [hrow]

/-! ## A run that is accepted -/

/-- Digests that tell nothing apart. -/
def sampleStoreDigests : StoreDigests where
  dispatch _ _ _ _ _ _ := ⟨0⟩
  admission _ := .ok ⟨1⟩
  taskSpec _ := .ok ⟨2⟩
  slot _ := ⟨3⟩
  manifest _ := .ok ⟨4⟩
  receipt _ := .ok ⟨5⟩
  subject _ := .ok ⟨6⟩
  review _ := .ok ⟨7⟩
  verifier _ := .ok ⟨8⟩
  compilerCall _ _ := Uuid.fromU128 9
  message _ := ⟨9⟩
  supervisorInbox _ := Uuid.fromU128 10

def sampleKey : SpecIdentifier := specTaskKey

def sampleSuite : SpecIdentifier := ⟨"suite".toList, by decide⟩

def sampleSlot : SpecIdentifier := ⟨"slot".toList, by decide⟩

def sampleFlow : Uuid := Uuid.fromU128 100

/-- A workflow of one task, with turns to spare. -/
def sampleRecord : WorkflowRecord where
  schemaVersion := 1
  workflowId := sampleFlow
  requestKey := "request".toList
  workflowKey := specWorkflowKey
  mode := .cooperate
  phase := .prepared
  version := 1
  evidenceClass := .fixture
  baseCommit := List.replicate 40 '0'
  policyDigest := ⟨10⟩
  verifierDigest := ⟨11⟩
  integrationSuites := [sampleSuite]
  tasks := [⟨sampleKey, ⟨12⟩, 1, [sampleSuite], .pending, 0, 0, 3, 0, none, none⟩]
  budget := ⟨5, 1, 5, 1000⟩
  contentStore := .disabled
  blockedReason := none
  createdAtMs := 0
  updatedAtMs := 0

/-- A model supervises the workflow, and its one task is open. -/
def sampleSupervision : SupervisorExecution :=
  ⟨sampleFlow, 1, .fromU128 2, .model, .running, ⟨1⟩, ⟨2⟩, [(sampleKey, ⟨⟨12⟩, 1, [sampleSlot], []⟩)],
    [(sampleSlot, .codex)], sampleSlot, [sampleKey], [(sampleKey, .active)], 1, 1, 1, none⟩

def sampleContract : ContractArtifact where
  schemaVersion := 1
  contractId := ⟨12⟩
  workflowKey := "flow".toList
  taskKey := "task".toList
  contractVersion := 1
  taskSpecDigest := ⟨2⟩
  policyDigest := ⟨10⟩
  templateDigest := ⟨13⟩
  templateVersion := "v1".toList
  harnessProfile := "codex_fixture_writable_v1".toList
  routeTransformation := .none
  contextBundleDigests := []
  baseCommit := List.replicate 40 '0'
  renderedPromptDigest := ⟨14⟩
  renderedPromptBytes := 1
  previousContractId := none
  semanticDiff := none

/-- The launch of a worker on the route with the given configuration. -/
def sampleExecution (config : Nat) (label : List Char) : WorkflowExecutionBinding where
  taskSpecDigest := ⟨2⟩
  effectiveTools := [.readFiles]
  harnessProfile := "codex_fixture_writable_v1".toList
  routeConfigDigest := ⟨config⟩
  evidenceClass := .fixture
  routeLabel := label
  effectiveRoute :=
    ⟨.codex, .codexExec, none, none, ⟨config⟩, "codex_fixture_writable_v1".toList⟩

/-- The admission of the attempt `n`, and the claim and the completion of its dispatch. -/
def sampleAttempt (n version : Nat) (purpose : AttemptPurpose) (config : Nat) (label : List Char) :
    List StoreOp :=
  [.admitAttempt
    { workflowId := sampleFlow
      expectedWorkflowVersion := version
      leaseId := Uuid.fromU128 200
      leaseGeneration := 1
      taskKey := sampleKey
      contractId := ⟨12⟩
      purpose := purpose
      sessionId := Uuid.fromU128 (n + 3)
      execution := sampleExecution config label
      dispatch :=
        { requestId := Uuid.fromU128 n
          harness := .codex
          protocol := .codexExec
          prompt := ⟨⟨15⟩, 1⟩
          configSha256 := ⟨config⟩
          resourceKey := ⟨16⟩
          baseCommit := List.replicate 40 '0'
          timestamp := 0 } } (Uuid.fromU128 (n + 1)) (Uuid.fromU128 (n + 2)),
   .harness (.dispatch (.claim (Uuid.fromU128 n) (Uuid.fromU128 (n + 4)) 1)),
   .harness (.dispatch (.finish (HarnessStore.cleanReport n (n + 4))))]

/-- The receipt of the candidate that the attempt `n` produced. -/
def sampleCandidate (n : Nat) (label : List Char) : CandidateReceipt where
  schemaVersion := 1
  receiptId := Uuid.fromU128 (n + 5)
  workflowId := sampleFlow
  attemptRequestId := Uuid.fromU128 n
  leaseId := Uuid.fromU128 200
  candidate :=
    { candidateDigest := ⟨4⟩
      contractId := ⟨12⟩
      taskKey := sampleKey
      workerRunId := Uuid.fromU128 (n + 2)
      workerSessionId := Uuid.fromU128 (n + 3)
      workerRoute := label
      workerHarness := .codex
      leaseGeneration := 1
      origin := .fixtureWorker }
  manifest := some ⟨1, List.replicate 40 '0', []⟩
  admitted := true
  violationCodes := []
  mutatedAfterCheckpoint := false

/-- The passing review by the attempt `n`. -/
def sampleReview (n config : Nat) (label : List Char) : ReviewReceipt where
  schemaVersion := 1
  receiptId := Uuid.fromU128 (n + 5)
  workflowId := sampleFlow
  taskKey := sampleKey
  contractId := ⟨12⟩
  candidateDigest := ⟨4⟩
  reviewerRunId := Uuid.fromU128 (n + 2)
  reviewerSessionId := Uuid.fromU128 (n + 3)
  reviewerRoute := label
  effectiveRoute := some (sampleExecution config label).effectiveRoute
  reviewerHarness := .codex
  verdict := .pass
  findingsCount := 0
  findingsDigest := ⟨17⟩
  candidateUnchanged := true

/-- A passing verification of the subject. -/
def sampleVerification (n : Nat) (taskKey : Option SpecIdentifier) (subject : Sha256Digest) :
    WorkflowReceipt :=
  .verification
    { schemaVersion := 1
      receiptId := Uuid.fromU128 n
      workflowId := sampleFlow
      taskKey := taskKey
      contractIds := [⟨12⟩]
      subjectDigest := subject
      derivedSubject := none
      suites := [⟨sampleSuite, .passed, 1, 1, 0, [], [], some 0, 1, ⟨18⟩, none⟩]
      verifierFilesDigest := ⟨11⟩
      toolVersions := []
      subjectUnchanged := true }

def sampleIntegration : WorkflowReceipt :=
  .integration
    { schemaVersion := 1
      receiptId := Uuid.fromU128 300
      workflowId := sampleFlow
      baseCommit := List.replicate 40 '0'
      appliedCandidates := [⟨4⟩]
      contractIds := [⟨12⟩]
      integrationTreeDigest := ⟨19⟩
      patchSha256 := ⟨20⟩
      conflicts := [] }

/-- The operations up to a running workflow with an active lease. -/
def sampleSetup : List StoreOp :=
  [.harness (.commitHarnessSnapshot [.codex] "harness_seed".toList),
   .workflow (.prepare sampleRecord [sampleContract]),
   .workflow (.bindContractAuthority ⟨12⟩ renameSpec),
   .workflow (.transition sampleFlow 1 .running none 0),
   .lease (.upsertSlot ⟨sampleSlot, .codex, .structured, [], .idle, none, none, none, .unknown⟩),
   .lease (.acquire ⟨Uuid.fromU128 200, sampleFlow, sampleKey, sampleSlot, ⟨16⟩, 1000, 0⟩)]

/-- Records a receipt, a candidate under the fence of the lease. -/
def sampleRecorded (receipt : WorkflowReceipt) : StoreOp :=
  .receipt (.record sampleFlow receipt (some ⟨Uuid.fromU128 200, 1⟩) 0)

/-- A worker, a reviewer on another route, the verifier and the integration. -/
def sampleAcceptedOps : List StoreOp :=
  sampleSetup ++ sampleAttempt 1000 2 .implement 21 "a".toList ++
    [sampleRecorded (.candidate (sampleCandidate 1000 "a".toList))] ++
    sampleAttempt 2000 4 .review 22 "b".toList ++
    [sampleRecorded (.review (sampleReview 2000 22 "b".toList)),
     sampleRecorded (sampleVerification 3000 (some sampleKey) ⟨4⟩),
     .receipt (.acceptCandidate sampleFlow 5 sampleKey ⟨4⟩ 0),
     .workflow (.transition sampleFlow 6 .integrating none 0),
     sampleRecorded sampleIntegration,
     sampleRecorded (sampleVerification 4000 none ⟨19⟩),
     .receipt (.acceptWorkflow sampleFlow 7 0)]

/-- The sample workflow is accepted, and soundly. -/
theorem sampleAcceptedOps_sound :
    ∃ t ∈ history (storeStep sampleStoreDigests) (.empty (Uuid.fromU128 1)) sampleAcceptedOps,
      t.input = .receipt (.acceptWorkflow sampleFlow 7 0) ∧ ∃ stored next,
        Table.lookup WorkflowRow.workflowId t.pre.workflows sampleFlow = some stored ∧
        AcceptedSoundly sampleStoreDigests t.pre stored.record ∧
        Table.lookup WorkflowRow.workflowId t.post.workflows sampleFlow = some next ∧
        next.record.phase = .accepted := by
  have hlast : ((history (storeStep sampleStoreDigests) (.empty (Uuid.fromU128 1))
      sampleAcceptedOps).any fun t =>
        t.input = .receipt (.acceptWorkflow sampleFlow 7 0)) = true := by
    decide +kernel
  obtain ⟨t, ht, hinput⟩ := any_eq_true.1 hlast
  have hinput' := of_decide_eq_true hinput
  exact ⟨t, ht, hinput', acceptance_sound sampleStoreDigests (Uuid.fromU128 1) sampleAcceptedOps t ht
    sampleFlow 7 0 hinput'⟩

end Vibemux.Store
