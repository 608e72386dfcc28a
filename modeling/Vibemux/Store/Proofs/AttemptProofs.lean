import Vibemux.Store.Proofs.DispatchProgressProofs
import Vibemux.Store.Proofs.FrameProofs

/-!
# What the admission of an attempt does

A repeated admission only repeats the admission of its dispatch. A new one was checked against the
workflow, its active lease and, under a model supervisor, a claimed action.
-/

namespace Vibemux.Store

open Checked WorkflowRecord

variable {s s' : Store} {digests : StoreDigests} {admission : WorkflowAttemptAdmission}
  {taskId runId : Uuid} {commit : WorkflowAttemptCommit}

/-- The lease of an attempt that is admitted. -/
structure HoldsLease (s : Store) (admission : WorkflowAttemptAdmission) (lease : LeaseRecord) :
    Prop where
  found : s.loadLease admission.leaseId = some lease
  active : lease.state = .active
  generation : lease.generation = admission.leaseGeneration
  workflowId : lease.workflowId = admission.workflowId
  taskKey : lease.taskKey = admission.taskKey
  worktree : lease.worktreeKey = admission.dispatch.resourceKey

theorem attemptLease_eq_ok {lease : LeaseRecord} (h : s.attemptLease admission = .ok lease) :
    HoldsLease s admission lease := by
  simp only [attemptLease, eq_ok] at h
  obtain ⟨_, hfound, hactive, hgeneration, ⟨hworkflow, htask, hworktree⟩, rfl⟩ := h
  exact ⟨hfound, hactive, hgeneration, hworkflow, htask, hworktree⟩

/-- What an admission charges changes the tasks of the record only. -/
theorem charged_eq_ok {record charged : WorkflowRecord} (h : admission.charged record = .ok charged) :
    ∃ tasks, { record with tasks } = charged := by
  unfold WorkflowAttemptAdmission.charged at h
  split at h
  · cases h
    exact ⟨record.tasks, rfl⟩
  · exact chargeTurn_eq_ok h
  all_goals
    simp only [bind_eq_ok, taskMut_eq_ok] at h
    obtain ⟨_, hcharge, -, rfl⟩ := h
    obtain ⟨tasks, rfl⟩ := chargeTurn_eq_ok hcharge
    exact ⟨_, rfl⟩

/-- A newly admitted attempt: what was checked, and what was written. -/
structure NewAttempt (digests : StoreDigests) (s s' : Store) (admission : WorkflowAttemptAdmission)
    (taskId runId : Uuid) (stored : WorkflowRow) (next : WorkflowRecord) (lease : LeaseRecord)
    (row : DispatchRow) (harness : HarnessStore) : Prop where
  workflowId : stored.workflowId = admission.workflowId
  fresh : s.loadAttempt admission.dispatch.requestId = none
  dispatchChecked : s.checkDispatch admission = .ok ()
  admitsWork : stored.record.phase.admitsWork = true
  holdsLease : HoldsLease s admission lease
  taskFound : ∃ task, stored.record.task admission.taskKey = some task ∧
    task.contractId = admission.contractId
  charge : ∃ charged, admission.charged stored.record = .ok charged ∧
    charged.bumped (millis admission.dispatch.timestamp) = .ok next
  dispatched : HarnessStore.Admit digests.dispatch s.toHarnessStore harness admission.dispatch taskId runId
    row
  dispatches : s'.dispatches = harness.dispatches
  attempts : s'.attempts = s.attempts ++ [admission.attempt]
  updated : Updated s s' stored next

theorem insertAttempt_eq_ok {stored : WorkflowRow}
    (hload : s.loadExistingWorkflow admission.workflowId = .ok stored)
    (hfresh : s.loadAttempt admission.dispatch.requestId = none)
    (h : s.insertAttempt digests stored.record admission taskId runId = .ok (commit, s')) :
    ∃ next lease row harness,
      NewAttempt digests s s' admission taskId runId stored next lease row harness := by
  simp only [insertAttempt, admitDispatchIn, eq_ok] at h
  obtain ⟨-, hchecked, hwork, lease, hlease, task, htask, hcontract, charged, hcharged, next, hnext,
    _, _, ⟨_, harness, hadmit, rfl, rfl⟩, hevent, _, _, happend, _, hupdate,
    -, rfl⟩ := h
  obtain ⟨events, -, rfl⟩ := append_eq_ok.1 happend
  have hsame : next.workflowId = stored.record.workflowId := by
    obtain ⟨tasks, rfl⟩ := charged_eq_ok hcharged
    obtain ⟨-, rfl⟩ := bumped_eq_ok.1 hnext
    rfl
  have hupdated := Updated.of_updateWorkflow hload hupdate hsame rfl
  have hwrites := updateWorkflow_writes hupdate
  rcases HarnessStore.admitDispatchIn_eq_ok hadmit with ⟨_, _, _, -, -, rfl, -⟩ | ⟨row, hnewRow, -, -⟩
  · cases hevent
  · exact ⟨next, lease, row, harness,
      { workflowId := Table.key_of_lookup (loadExistingWorkflow_eq_ok.1 hload).1
        fresh := hfresh
        dispatchChecked := hchecked
        admitsWork := hwork
        holdsLease := attemptLease_eq_ok hlease
        taskFound := ⟨task, htask, hcontract⟩
        charge := ⟨charged, hcharged, hnext⟩
        dispatched := hnewRow
        dispatches := hwrites .dispatches (by decide)
        attempts := hwrites .attempts (by decide)
        updated := hupdated }⟩

/-- A repeated admission of an attempt that is stored, or a new attempt. -/
theorem admitWorkflowAttempt_eq_ok
    (h : s.admitWorkflowAttempt digests admission taskId runId = .ok (commit, s')) :
    (∃ existing dispatch, s.loadAttempt admission.dispatch.requestId = some existing ∧
      s.admitDispatchIn digests admission.dispatch taskId runId = .ok (dispatch, s')) ∨
    (∃ stored next lease row harness,
      NewAttempt digests s s' admission taskId runId stored next lease row harness) := by
  simp only [admitWorkflowAttempt, eq_ok] at h
  obtain ⟨stored, hload, _, -, -, -, _, -, -, -, h⟩ := h
  cases hprevious : s.loadAttempt admission.dispatch.requestId with
  | some existing =>
    simp only [hprevious, eq_ok] at h
    obtain ⟨-, dispatch, s₁, hadmit, -, rfl⟩ := h
    exact .inl ⟨existing, dispatch, rfl, hadmit⟩
  | none =>
    simp only [hprevious] at h
    obtain ⟨next, lease, row, harness, hnew⟩ := insertAttempt_eq_ok hload hprevious h
    exact .inr ⟨stored, next, lease, row, harness, hnew⟩

/-! ## Dispatches along a run -/

theorem admitDispatchIn_progress {admission : HarnessDispatchAdmission}
    {commit : HarnessDispatchCommit}
    (h : s.admitDispatchIn digests admission taskId runId = .ok (commit, s')) :
    HarnessStore.Progress s.toHarnessStore s'.toHarnessStore := by
  simp only [admitDispatchIn, eq_ok] at h
  obtain ⟨_, harness, hadmit, -, rfl⟩ := h
  exact HarnessStore.admitDispatchIn_progress hadmit

theorem Writes.progress {written : List StoreTable} (h : Writes written s s')
    (htable : .dispatches ∉ written) : HarnessStore.Progress s.toHarnessStore s'.toHarnessStore :=
  .of_eq (h .dispatches htable)

theorem harnessStep_progress {op : HarnessOp} {response : HarnessResponse}
    (h : s.harnessStep digests op = .ok (response, s')) :
    HarnessStore.Progress s.toHarnessStore s'.toHarnessStore := by
  cases op <;>
    simp only [harnessStep, admitDecidedDispatch, commitHarnessSnapshot, Store.peripheral, eq_ok] at h
  case dispatch op =>
    obtain ⟨_, harness, hstep, -, rfl⟩ := h
    exact HarnessStore.dispatchStep_progress hstep
  case admitDecidedDispatch admission taskId runId keys =>
    obtain ⟨_, _, ⟨_, s₁, hadmit, _, happend, -, rfl⟩, -, rfl⟩ := h
    exact (admitDispatchIn_progress hadmit).trans (Writes.progress (appendAll_writes happend) (by decide))
  case commitHarnessSnapshot detected key =>
    obtain ⟨_, h, -, rfl⟩ := h
    split at h
    · cases h
      exact .of_eq rfl
    · simp only [eq_ok] at h
      obtain ⟨_, s₁, happend, rfl⟩ := h
      exact .of_eq (append_writes happend .dispatches (by decide))
  case peripheral write =>
    obtain ⟨_, ⟨_, happend, rfl⟩, -, rfl⟩ := h
    exact .of_eq (appendAll_writes happend .dispatches (by decide))

theorem admitWorkflowAttempt_progress
    (h : s.admitWorkflowAttempt digests admission taskId runId = .ok (commit, s')) :
    HarnessStore.Progress s.toHarnessStore s'.toHarnessStore := by
  rcases admitWorkflowAttempt_eq_ok h with ⟨_, _, -, hadmit⟩ | ⟨_, _, _, _, _, hnew⟩
  · exact admitDispatchIn_progress hadmit
  · exact hnew.dispatched.progress.trans (.of_eq hnew.dispatches)

/-- Every operation lets the dispatches go on as the dispatch operations do. -/
theorem storeStep_progress {op : StoreOp} {response : StoreResponse}
    (h : storeStep digests s op = .ok (response, s')) :
    HarnessStore.Progress s.toHarnessStore s'.toHarnessStore := by
  have hstep := storeStep_stepped h
  have hwrites := hstep.writes
  cases hstep with
  | harness hgroup => exact harnessStep_progress hgroup
  | attempt hgroup => exact admitWorkflowAttempt_progress hgroup
  | _ => exact Writes.progress hwrites (by simp [StoreOp.written])

end Vibemux.Store
