import Vibemux.Store.Proofs.LeaseProofs

/-!
# What a recorded receipt was checked against

A candidate receipt carries the fence of an active lease and belongs to a settled attempt under it. A
review belongs to a settled review attempt on another route than that of the first admitted candidate it
is about.
-/

namespace Vibemux.Store

open Checked List Option Table

variable {s s' : Store} {digests : StoreDigests} {fence : Option LeaseFence}
  {record : WorkflowRecord} {candidate : CandidateReceipt} {phase : DispatchPhase}
  {receipt : WorkflowReceipt} {requestId workflowId : Uuid}

/-! ## Candidates -/

/-- The lease whose fence a candidate carries. -/
structure FencedBy (s : Store) (workflowId : Uuid) (candidate : CandidateReceipt)
    (lease : LeaseRecord) : Prop where
  found : s.loadLease candidate.leaseId = some lease
  active : lease.state = .active
  generation : lease.generation = candidate.candidate.leaseGeneration
  workflowId : lease.workflowId = workflowId
  taskKey : lease.taskKey = candidate.candidate.taskKey

theorem candidateLease_eq_ok {lease : LeaseRecord}
    (h : s.candidateLease record candidate fence = .ok lease) :
    FencedBy s record.workflowId candidate lease := by
  simp only [candidateLease, LeaseView.checkFence, eq_ok] at h
  obtain ⟨_, -, ⟨hid, hfence⟩, _, hfound, ⟨-, hgeneration⟩, hactive, ⟨hworkflow, htask⟩,
    rfl⟩ := h
  exact ⟨hid ▸ hfound, hactive, hgeneration.symm.trans hfence, hworkflow, htask⟩

/-- The attempt that produced a candidate, with its execution and its dispatch. -/
structure ProducedBy (s : Store) (candidate : CandidateReceipt) (attempt : WorkflowAttemptRecord)
    (execution : WorkflowExecutionBinding) (row : DispatchRow) : Prop where
  found : s.loadAttempt candidate.attemptRequestId = some attempt
  leaseId : attempt.leaseId = candidate.leaseId
  taskKey : attempt.taskKey = candidate.candidate.taskKey
  contractId : attempt.contractId = candidate.candidate.contractId
  sessionId : attempt.sessionId = candidate.candidate.workerSessionId
  purpose : attempt.purpose ≠ .review
  bound : attempt.execution = some execution
  route : candidate.candidate.workerRoute = execution.routeLabel
  rowFound : Table.lookup DispatchRow.requestId s.dispatches attempt.requestId = some row
  terminal : row.record.phase.isTerminal = true
  runId : row.record.runId = candidate.candidate.workerRunId

/-- What an admitted candidate must show of its dispatch and its files, in a workflow with the base
commit `baseCommit`. -/
structure Admissible (digests : StoreDigests) (baseCommit : List Char) (candidate : CandidateReceipt)
    (phase : DispatchPhase) : Prop where
  completed : phase = .completed
  clean : candidate.violationCodes = []
  manifest : ∃ manifest, candidate.manifest = some manifest ∧ manifest.baseCommit = baseCommit ∧
    digests.manifest manifest = .ok candidate.candidate.candidateDigest

theorem dispatchPhase_eq_some :
    s.dispatchPhase requestId = some phase ↔ ∃ row,
      lookup DispatchRow.requestId s.dispatches requestId = some row ∧ row.record.phase = phase := by
  simp [dispatchPhase, dispatchRecord, map_eq_some_iff]

theorem dispatchRunId_eq_some {runId : Uuid} :
    s.dispatchRunId requestId = some runId ↔ ∃ row,
      lookup DispatchRow.requestId s.dispatches requestId = some row ∧ row.record.runId = runId := by
  simp [dispatchRunId, dispatchRecord, map_eq_some_iff]

theorem checkAdmitted_eq_ok (h : checkAdmitted digests record candidate phase = .ok ()) :
    Admissible digests record.baseCommit candidate phase := by
  simp only [checkAdmitted, eq_ok] at h
  obtain ⟨hbase, hcompleted, hsome, hclean, hdigest⟩ := h
  obtain ⟨manifest, hmanifest⟩ := isSome_iff_exists.1 hsome
  rw [hmanifest, all_some] at hbase
  refine ⟨hcompleted, hclean, manifest, hmanifest, of_decide_eq_true hbase, ?_⟩
  rw [hmanifest, bind_some] at hdigest
  cases hvalue : digests.manifest manifest with
  | error error =>
    rw [hvalue] at hdigest
    cases hdigest
  | ok digest =>
    rw [hvalue] at hdigest
    exact congrArg Except.ok (some.inj hdigest)

theorem checkCandidate_eq_ok (h : s.checkCandidate digests record candidate fence = .ok ()) :
    ∃ lease attempt execution row, FencedBy s record.workflowId candidate lease ∧
      ProducedBy s candidate attempt execution row ∧
      (candidate.admitted = true →
        Admissible digests record.baseCommit candidate row.record.phase) := by
  simp only [checkCandidate, candidateAttempt, eq_ok] at h
  obtain ⟨lease, hlease, _, ⟨attempt, hattempt, ⟨hid, -, htask, hcontract, hsession, hpurpose⟩,
    execution, hexecution, ⟨hroute, -⟩, rfl⟩, _, hphase, hterminal, hrun, hadmitted⟩ := h
  have hfenced := candidateLease_eq_ok hlease
  obtain ⟨row, hrow, rfl⟩ := dispatchPhase_eq_some.1 hphase
  obtain ⟨_, hrow', hrunId⟩ := dispatchRunId_eq_some.1 hrun
  obtain rfl : row = _ := some.inj (hrow.symm.trans hrow')
  refine ⟨lease, attempt, execution, row, hfenced, ⟨hattempt, ?_, htask, hcontract, hsession, hpurpose,
    hexecution, hroute, hrow, hterminal, hrunId⟩, fun hyes => ?_⟩
  · exact hid.trans (key_of_lookup hfenced.found)
  · rw [if_pos hyes] at hadmitted
    exact checkAdmitted_eq_ok hadmitted

/-! ## Reviews -/

/-- The settled review attempt behind a review, with its execution and the row of its dispatch. -/
structure ReviewedBy (s : Store) (workflowId : Uuid) (review : ReviewReceipt)
    (attempt : WorkflowAttemptRecord) (execution : WorkflowExecutionBinding) (row : DispatchRow) :
    Prop where
  mem : attempt ∈ s.attempts
  workflowId : attempt.workflowId = workflowId
  purpose : attempt.purpose = .review
  sessionId : attempt.sessionId = review.reviewerSessionId
  taskKey : attempt.taskKey = review.taskKey
  contractId : attempt.contractId = review.contractId
  bound : attempt.execution = some execution
  effectiveRoute : review.effectiveRoute = some execution.effectiveRoute
  rowFound : Table.lookup DispatchRow.requestId s.dispatches attempt.requestId = some row
  runId : row.record.runId = review.reviewerRunId
  settled : review.verdict.admissible row.record.phase = true

/-- The first admitted candidate a review is about, with the attempt and the execution behind it. -/
structure FirstSource (s : Store) (workflowId : Uuid) (review : ReviewReceipt)
    (source : CandidateReceipt) (sourceAttempt : WorkflowAttemptRecord)
    (sourceExecution : WorkflowExecutionBinding) : Prop where
  first : ((s.admittedCandidates workflowId).find? fun candidate => review.isOf candidate) = some source
  attemptFound : s.loadAttempt source.attemptRequestId = some sourceAttempt
  bound : sourceAttempt.execution = some sourceExecution

theorem checkReview_eq_ok {review : ReviewReceipt} (h : s.checkReview workflowId review = .ok ()) :
    ∃ source sourceAttempt sourceExecution attempt execution row,
      FirstSource s workflowId review source sourceAttempt sourceExecution ∧
      ReviewedBy s workflowId review attempt execution row ∧
      independentRoutes execution sourceExecution = true := by
  simp only [checkReview, eq_ok] at h
  obtain ⟨source, hsource, sourceAttempt, hsourceAttempt, sourceExecution, hsourceExecution, attempt,
    hattempt, dispatch, hdispatch, -, execution, hexecution, ⟨hroute, -⟩, hindependent,
    hsettled⟩ := h
  have hmem := mem_filter.1 (mem_of_find?_eq_some hattempt)
  have hfound := find?_some hattempt
  simp only [isReviewAttempt, Bool.and_eq_true, beq_iff_eq] at hfound
  obtain ⟨⟨⟨⟨hpurpose, hrun⟩, hsession⟩, htask⟩, hcontract⟩ := hfound
  obtain ⟨row, hrow, hrunId⟩ := dispatchRunId_eq_some.1 hrun
  obtain rfl : row.record = dispatch := by simpa [dispatchRecord, hrow] using hdispatch
  exact ⟨source, sourceAttempt, sourceExecution, attempt, execution, row,
    ⟨hsource, hsourceAttempt, hsourceExecution⟩,
    ⟨hmem.1, by simpa using hmem.2, hpurpose, hsession, htask, hcontract, hexecution, hroute, hrow,
      hrunId, hsettled⟩, hindependent⟩

/-! ## Recorded receipts -/

/-- A receipt that was not stored before: what was checked, and what was written. -/
structure NewReceipt (digests : StoreDigests) (s s' : Store) (row : ReceiptRow)
    (fence : Option LeaseFence) (timestamp : Timestamp) (stored : WorkflowRow)
    (next : WorkflowRecord) : Prop where
  fresh : s.loadReceipt row.receiptId = none
  owner : ∀ claimed, row.receipt.workflowId = some claimed → claimed = row.workflowId
  loaded : s.loadExistingWorkflow row.workflowId = .ok stored
  checked : s.checkReceipt digests stored.record row.receipt fence = .ok next
  receipts : s'.receipts = s.receipts ++ [row]
  workflows : (next = stored.record ∧ s'.workflows = s.workflows) ∨
    (next ≠ stored.record ∧ ∃ bumped, next.bumped (millis timestamp) = .ok bumped ∧
      Updated s s' stored bumped)

/-- What a receipt's checks leave of the record: the tasks may change, for a candidate only. -/
theorem checkReceipt_eq_ok {record next : WorkflowRecord}
    (h : s.checkReceipt digests record receipt fence = .ok next) :
    next = record ∨ ∃ candidate tasks, receipt = .candidate candidate ∧ { record with tasks } = next := by
  cases receipt with
  | candidate candidate =>
    simp only [checkReceipt, eq_ok, WorkflowRecord.taskMut_eq_ok] at h
    obtain ⟨-, -, rfl⟩ := h
    exact .inr ⟨candidate, _, rfl, rfl⟩
  | decision record =>
    cases h
    exact .inl rfl
  | modelCall receipt =>
    cases h
    exact .inl rfl
  | _ =>
    simp only [checkReceipt, eq_ok] at h
    exact .inl h.2.symm

theorem recordWorkflowReceipt_eq_ok {timestamp : Timestamp} {commit : ReceiptCommit}
    (h : s.recordWorkflowReceipt digests workflowId receipt fence timestamp = .ok (commit, s')) :
    s' = s ∨ ∃ digest sequence stored next,
      NewReceipt digests s s' ⟨workflowId, receipt, digest, sequence⟩ fence timestamp stored next := by
  simp only [recordWorkflowReceipt, eq_ok] at h
  obtain ⟨howner, digest, -, h⟩ := h
  cases hfound : s.loadReceipt receipt.receiptId with
  | some existing =>
    simp only [hfound, eq_ok] at h
    exact .inl h.2.2.symm
  | none =>
    simp only [hfound, insertRecorded, eq_ok] at h
    obtain ⟨stored, hload, next, hchecked, bumped, hbumped, _, -, sequence, _, happend, _, hinsert,
      _, hupdate, -, rfl⟩ := h
    obtain ⟨events, -, rfl⟩ := append_eq_ok.1 happend
    obtain ⟨-, rfl⟩ := insertReceipt_eq_ok.1 hinsert
    refine .inr ⟨digest, sequence, stored, next, hfound, fun claimed hclaimed => ?_, hload, hchecked,
      ?_, ?_⟩
    · simpa [hclaimed] using howner
    · unfold updateChanged at hupdate
      split at hupdate
      · cases hupdate
        rfl
      · exact updateWorkflow_writes hupdate .receipts (by decide)
    · unfold updateChanged at hupdate
      unfold bumpChanged at hbumped
      by_cases hsame : next = stored.record
      · rw [if_pos hsame] at hupdate
        cases hupdate
        exact .inl ⟨hsame, rfl⟩
      · rw [if_neg hsame] at hupdate hbumped
        have hbumped' := mapError_eq_ok.1 hbumped
        refine .inr ⟨hsame, bumped, hbumped', Updated.of_updateWorkflow hload hupdate ?_ rfl⟩
        obtain ⟨-, rfl⟩ := WorkflowRecord.bumped_eq_ok.1 hbumped'
        rcases checkReceipt_eq_ok hchecked with rfl | ⟨_, _, -, rfl⟩
        · rfl
        · rfl

end Vibemux.Store
