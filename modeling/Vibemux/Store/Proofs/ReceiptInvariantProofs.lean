import Vibemux.Store.Proofs.IdentityProofs
import Vibemux.Store.Proofs.LeaseSafetyProofs

/-!
# What the stored receipts keep meaning

Attempts are only ever added and a dispatch that has ended stays as it is. So the attempt behind a
recorded candidate or review is still there, in the phase it had, whatever happened since.
-/

namespace Vibemux.Store

open Checked List Machine Table

variable {s s' : Store} {digests : StoreDigests} {attempt : WorkflowAttemptRecord} {row : DispatchRow}
  {execution : WorkflowExecutionBinding}

/-- What every step leaves of the attempts and the dispatches. -/
structure Continues (s s' : Store) : Prop where
  attempts : s.attempts <+: s'.attempts
  dispatches : HarnessStore.Progress s.toHarnessStore s'.toHarnessStore

theorem storeStep_continues {op : StoreOp} {response : StoreResponse}
    (h : storeStep digests s op = .ok (response, s')) : Continues s s' := by
  refine ⟨?_, storeStep_progress h⟩
  have hstep := storeStep_stepped h
  have hwrites := hstep.writes
  have hsame : s'.attempts = s.attempts → s.attempts <+: s'.attempts := fun heq => heq ▸ prefix_refl _
  cases hstep with
  | attempt hgroup =>
    rcases admitWorkflowAttempt_eq_ok hgroup with ⟨_, _, -, hadmit⟩ | ⟨_, _, _, _, _, hnew⟩
    · exact hsame (admitDispatchIn_writes hadmit .attempts (by decide))
    · exact hnew.attempts ▸ prefix_append _ _
  | _ => exact hsame (hwrites .attempts (by simp [StoreOp.written]))

theorem Continues.loadAttempt {requestId : Uuid} (h : Continues s s')
    (hfound : s.loadAttempt requestId = some attempt) :
    s'.loadAttempt requestId = some attempt := by
  obtain ⟨new, hnew⟩ := h.attempts
  unfold Store.loadAttempt
  rw [← hnew]
  exact lookup_append_of_isSome hfound new

/-- The row of a dispatch that has ended stays. -/
theorem Continues.terminal {requestId : Uuid} (h : Continues s s')
    (hrow : lookup DispatchRow.requestId s.dispatches requestId = some row)
    (hterminal : row.record.phase.isTerminal = true) :
    lookup DispatchRow.requestId s'.dispatches requestId = some row := by
  obtain ⟨row', hrow', hsame⟩ := h.dispatches.kept requestId row hrow
  rw [hrow', hsame.terminal hterminal]

theorem ProducedBy.continues {candidate : CandidateReceipt}
    (hproduced : ProducedBy s candidate attempt execution row) (h : Continues s s') :
    ProducedBy s' candidate attempt execution row :=
  { hproduced with
    found := h.loadAttempt hproduced.found
    rowFound := h.terminal hproduced.rowFound hproduced.terminal }

/-- A review attempt that was good enough for a verdict has ended. -/
theorem ReviewVerdict.admissible_terminal {verdict : ReviewVerdict} {phase : DispatchPhase}
    (h : verdict.admissible phase = true) : phase.isTerminal = true := by
  cases verdict with
  | pass | changesRequested =>
    have hcompleted : phase = .completed := by simpa [ReviewVerdict.admissible] using h
    rw [hcompleted]
    rfl
  | blocked => exact h

theorem ReviewedBy.continues {workflowId : Uuid} {review : ReviewReceipt}
    (hreviewed : ReviewedBy s workflowId review attempt execution row) (h : Continues s s') :
    ReviewedBy s' workflowId review attempt execution row :=
  { hreviewed with
    mem := h.attempts.subset hreviewed.mem
    rowFound := h.terminal hreviewed.rowFound (ReviewVerdict.admissible_terminal hreviewed.settled) }

/-- The attempts behind the stored candidates and reviews. -/
structure ReceiptInv (digests : StoreDigests) (s : Store) : Prop where
  candidates : ∀ row ∈ s.receipts, ∀ candidate, row.receipt = .candidate candidate →
    ∃ attempt execution dispatch, ProducedBy s candidate attempt execution dispatch ∧
      attempt.workflowId = row.workflowId ∧ (candidate.admitted = true →
        ∃ workflow, lookup WorkflowRow.workflowId s.workflows row.workflowId = some workflow ∧
          Admissible digests workflow.record.baseCommit candidate dispatch.record.phase)
  reviews : ∀ row ∈ s.receipts, ∀ review, row.receipt = .review review →
    ∃ attempt execution dispatch, ReviewedBy s row.workflowId review attempt execution dispatch

theorem receiptInv_empty (projectId : Uuid) : ReceiptInv digests (.empty projectId) where
  candidates _ hrow := absurd hrow not_mem_nil
  reviews _ hrow := absurd hrow not_mem_nil

section

variable {row : ReceiptRow} {fence : Option LeaseFence} {timestamp : Timestamp} {stored : WorkflowRow}
  {next : WorkflowRecord} (h : NewReceipt digests s s' row fence timestamp stored next)
include h

/-- What the checks of a new candidate receipt say about its attempt. -/
theorem NewReceipt.candidate {candidate : CandidateReceipt} (hinv : LeaseInv s)
    (hcandidate : row.receipt = .candidate candidate) :
    ∃ attempt execution dispatch, ProducedBy s candidate attempt execution dispatch ∧
      attempt.workflowId = row.workflowId ∧ (candidate.admitted = true →
        ∃ workflow, lookup WorkflowRow.workflowId s.workflows row.workflowId = some workflow ∧
          Admissible digests workflow.record.baseCommit candidate dispatch.record.phase) := by
  have hchecked := h.checked
  rw [hcandidate] at hchecked
  simp only [checkReceipt, eq_ok] at hchecked
  obtain ⟨lease, attempt, execution, dispatch, hfenced, hproduced, hadmissible⟩ :=
    checkCandidate_eq_ok hchecked.1
  have hfound := (loadExistingWorkflow_eq_ok.1 h.loaded).1
  refine ⟨attempt, execution, dispatch, hproduced, ?_, fun hyes => ⟨stored, hfound, hadmissible hyes⟩⟩
  -- the attempt is one of the workflow of its lease
  obtain ⟨lease', _, hplaced⟩ := hinv.placed attempt (mem_of_lookup hproduced.found)
  have hlease : lease' = lease := Option.some.inj
    (hplaced.leaseFound.symm.trans (hproduced.leaseId ▸ hfenced.found))
  rw [← hplaced.workflowId, hlease, hfenced.workflowId]
  exact loadExistingWorkflow_id h.loaded

/-- What the checks of a new review say about its attempt. -/
theorem NewReceipt.review {review : ReviewReceipt}
    (hreview : row.receipt = .review review) : s.checkReview row.workflowId review = .ok () := by
  have hchecked := h.checked
  rw [hreview] at hchecked
  simp only [checkReceipt, eq_ok] at hchecked
  rw [← loadExistingWorkflow_id h.loaded]
  exact hchecked.1

end

/-- One step keeps the receipts traced to their attempts. -/
theorem storeStep_receiptInv {op : StoreOp} {response : StoreResponse}
    (h : storeStep digests s op = .ok (response, s')) (hlease : LeaseInv s)
    (hinv : ReceiptInv digests s) : ReceiptInv digests s' := by
  have hcontinues := storeStep_continues h
  have hkept := (storeStep_stepped h).workflowsKept
  constructor
  · intro row hrow candidate hcandidate
    have hpre : ∃ attempt execution dispatch, ProducedBy s candidate attempt execution dispatch ∧
        attempt.workflowId = row.workflowId ∧ (candidate.admitted = true →
          ∃ workflow, lookup WorkflowRow.workflowId s.workflows row.workflowId = some workflow ∧
            Admissible digests workflow.record.baseCommit candidate dispatch.record.phase) := by
      by_cases hold : row ∈ s.receipts
      · exact hinv.candidates row hold candidate hcandidate
      · obtain ⟨fence, timestamp, stored, next, -, hnew⟩ := storeStep_receipts h hrow hold
        exact hnew.candidate hlease hcandidate
    obtain ⟨attempt, execution, dispatch, hproduced, hworkflow, hadmissible⟩ := hpre
    refine ⟨attempt, execution, dispatch, hproduced.continues hcontinues, hworkflow, fun hyes => ?_⟩
    -- the workflow still has the base commit it had when the candidate was recorded
    obtain ⟨workflow, hfound, hmet⟩ := hadmissible hyes
    obtain ⟨workflow', hfound', hsame⟩ := hkept row.workflowId workflow hfound
    have hbase : workflow'.record.admitted.baseCommit = workflow.record.admitted.baseCommit := by
      rw [hsame]
    exact ⟨workflow', hfound', hbase.symm ▸ hmet⟩
  · intro row hrow review hreview
    have hpre : ∃ attempt execution dispatch,
        ReviewedBy s row.workflowId review attempt execution dispatch := by
      by_cases hold : row ∈ s.receipts
      · exact hinv.reviews row hold review hreview
      · obtain ⟨_, _, _, _, -, hnew⟩ := storeStep_receipts h hrow hold
        obtain ⟨_, _, _, attempt, execution, dispatch, -, hreviewed, -⟩ :=
          checkReview_eq_ok (hnew.review hreview)
        exact ⟨attempt, execution, dispatch, hreviewed⟩
    obtain ⟨attempt, execution, dispatch, hreviewed⟩ := hpre
    exact ⟨attempt, execution, dispatch, hreviewed.continues hcontinues⟩

/-- The receipts after every run. -/
theorem receiptInv_final (digests : StoreDigests) (projectId : Uuid) (ops : List StoreOp) :
    ReceiptInv digests (final (storeStep digests) (.empty projectId) ops) := by
  have hboth : LeaseInv (final (storeStep digests) (.empty projectId) ops) ∧
      ReceiptInv digests (final (storeStep digests) (.empty projectId) ops) :=
    final_invariant (fun s => LeaseInv s ∧ ReceiptInv digests s)
      ⟨leaseInv_empty projectId, receiptInv_empty projectId⟩
      (fun _ _ _ _ hinv hstep =>
        ⟨storeStep_leaseInv hstep hinv.1, storeStep_receiptInv hstep hinv.1 hinv.2⟩) ops
  exact hboth.2

/-! ## Whole runs -/

/-- Along every run a table stays as it is, unless an operation of a group that writes it is in the run. -/
theorem run_writes (digests : StoreDigests) (s : Store) (ops : List StoreOp) :
    Writes (ops.flatMap StoreOp.written) s (final (storeStep digests) s ops) := by
  induction ops generalizing s with
  | nil => exact .refl _ _
  | cons op ops ih =>
    cases h : storeStep digests s op with
    | error e =>
      rw [final_cons_error h]
      exact (ih s).mono (subset_append_right _ _)
    | ok p =>
      rw [final_cons_ok h]
      exact (storeStep_stepped h).writes.append (ih p.2)

/-- From any state on, attempts are only added, and every dispatch keeps its row, which an end fixes. -/
theorem run_continues (digests : StoreDigests) (s : Store) (ops : List StoreOp) :
    Continues s (final (storeStep digests) s ops) :=
  final_invariant (Continues s) ⟨prefix_refl _, .of_eq rfl⟩
    (fun _ _ _ _ h hstep =>
      have hnext := storeStep_continues hstep
      ⟨h.attempts.trans hnext.attempts, h.dispatches.trans hnext.dispatches⟩) ops

/-- After every run, a stored candidate or review leads to its attempt, to the ended dispatch of that
attempt and to the lease whose worktree the dispatch had. -/
theorem receipts_traced (digests : StoreDigests) (projectId : Uuid) (ops : List StoreOp) :
    let s := final (storeStep digests) (.empty projectId) ops
    ∀ row ∈ s.receipts,
      (∀ candidate, row.receipt = .candidate candidate → ∃ attempt execution dispatch lease,
        ProducedBy s candidate attempt execution dispatch ∧ Placed s attempt lease dispatch ∧
          lease.workflowId = row.workflowId ∧ (candidate.admitted = true →
            ∃ workflow, lookup WorkflowRow.workflowId s.workflows row.workflowId = some workflow ∧
              Admissible digests workflow.record.baseCommit candidate dispatch.record.phase)) ∧
      ∀ review, row.receipt = .review review → ∃ attempt execution dispatch lease,
        ReviewedBy s row.workflowId review attempt execution dispatch ∧
          Placed s attempt lease dispatch ∧ dispatch.record.phase.isTerminal = true := by
  intro s row hrow
  have hinv := receiptInv_final digests projectId ops
  have hplaced {attempt : WorkflowAttemptRecord} {dispatch : DispatchRow} (hmem : attempt ∈ s.attempts)
      (hfound : lookup DispatchRow.requestId s.dispatches attempt.requestId = some dispatch) :
      ∃ lease, Placed s attempt lease dispatch := by
    obtain ⟨lease, other, hother⟩ := (leaseInv_final digests projectId ops).placed attempt hmem
    exact ⟨lease, Option.some.inj (hother.rowFound.symm.trans hfound) ▸ hother⟩
  constructor
  · intro candidate hcandidate
    obtain ⟨attempt, execution, dispatch, hproduced, hworkflow, hadmissible⟩ :=
      hinv.candidates row hrow candidate hcandidate
    obtain ⟨lease, hlease⟩ := hplaced (mem_of_lookup hproduced.found) hproduced.rowFound
    exact ⟨attempt, execution, dispatch, lease, hproduced, hlease, hlease.workflowId.trans hworkflow,
      hadmissible⟩
  · intro review hreview
    obtain ⟨attempt, execution, dispatch, hreviewed⟩ := hinv.reviews row hrow review hreview
    obtain ⟨lease, hlease⟩ := hplaced hreviewed.mem hreviewed.rowFound
    exact ⟨attempt, execution, dispatch, lease, hreviewed, hlease,
      ReviewVerdict.admissible_terminal hreviewed.settled⟩

end Vibemux.Store
