import Vibemux.Harness.Proofs.AttemptProofs
import Vibemux.Store.HarnessDispatch

/-!
# What a dispatch transaction writes

A transaction of the dispatch table writes the row of a new request (`Admit`) or the next version of an
existing row (`Advance`). Both are read off the transactions once, here.
-/

namespace Vibemux.HarnessStore

open Checked Option Table

variable {fingerprint : DispatchFingerprint} {s s' : HarnessStore}
  {admission : HarnessDispatchAdmission} {requestId runId taskId : Uuid} {stored : StoredDispatch}
  {t : PhaseTransition}

variable (fingerprint) in
/-- The row, task and run of a dispatch that passes the checks of `load`. -/
structure Loads (s : HarnessStore) (row : DispatchRow) (task : Task) (run : Run) : Prop where
  found : Table.lookup DispatchRow.requestId s.dispatches row.requestId = some row
  schema : row.record.schemaVersion = harnessDispatchRecordSchemaVersion
  fingerprint : row.record.fingerprint = row.record.expectedFingerprint fingerprint
  taskFound : Table.lookup Task.taskId s.tasks row.record.taskId = some task
  runFound : Table.lookup Run.runId s.runs row.record.runId = some run
  project : task.projectId = row.record.projectId ∧ run.taskId = row.record.taskId ∧
    run.projectId = row.record.projectId
  statuses : (task.status, run.status) ∈ row.record.phase.allowedStatuses
  evidence : row.record.phase = .completed → row.record.outcome = some .completed ∧
    row.record.capture.isSome ∧ row.record.process.any (isCleanCompletion row.record.errorCode)

theorem load_eq_none :
    s.load fingerprint requestId = .ok none ↔
      lookup DispatchRow.requestId s.dispatches requestId = none := by
  unfold load
  cases lookup DispatchRow.requestId s.dispatches requestId with
  | none => simp
  | some row => simp

theorem load_eq_some :
    s.load fingerprint requestId = .ok (some stored) ↔
      ∃ row task run, row.requestId = requestId ∧ Loads fingerprint s row task run ∧
        stored = ⟨row.record, row.claimFence, row.updatedSequence, task, run⟩ := by
  unfold load
  cases hrow : lookup DispatchRow.requestId s.dispatches requestId with
  | none =>
    simp only [Except.ok.injEq, reduceCtorEq, false_iff]
    rintro ⟨row, task, run, rfl, hloads, -⟩
    rw [hloads.found] at hrow
    cases hrow
  | some row =>
    have hid : row.requestId = requestId := key_of_lookup hrow
    simp only [eq_ok, some.injEq]
    constructor
    · rintro ⟨⟨hschema, hfp⟩, task, htask, run, hrun, hproject, hstatuses, hevidence, rfl⟩
      exact ⟨row, task, run, hid, ⟨hid ▸ hrow, hschema, hfp, htask, hrun, hproject, hstatuses,
        hevidence⟩, rfl⟩
    · rintro ⟨row', task, run, hid', h, rfl⟩
      obtain rfl : row = row' := by
        have hfound := h.found
        rw [hid', hrow] at hfound
        exact some.inj hfound
      exact ⟨⟨h.schema, h.fingerprint⟩, task, h.taskFound, run, h.runFound, h.project, h.statuses, h.evidence,
        rfl⟩

theorem loadExisting_eq_ok :
    s.loadExisting fingerprint requestId = .ok stored ↔
      ∃ row task run, row.requestId = requestId ∧ Loads fingerprint s row task run ∧
        stored = ⟨row.record, row.claimFence, row.updatedSequence, task, run⟩ := by
  rw [← load_eq_some]
  simp only [loadExisting, eq_ok]
  constructor
  · rintro ⟨_, h, rfl⟩
    exact h
  · intro h
    exact ⟨_, h, rfl⟩

/-- What `load` finds depends on the row and on its two projections only. -/
theorem Loads.congr {row : DispatchRow} {task : Task} {run : Run}
    (h : Loads fingerprint s row task run)
    (hrow : lookup DispatchRow.requestId s'.dispatches row.requestId = some row)
    (htask : lookup Task.taskId s'.tasks row.record.taskId =
      lookup Task.taskId s.tasks row.record.taskId)
    (hrun : lookup Run.runId s'.runs row.record.runId =
      lookup Run.runId s.runs row.record.runId) : Loads fingerprint s' row task run :=
  { h with
    found := hrow
    taskFound := htask.trans h.taskFound
    runFound := hrun.trans h.runFound }

/-! ## The new row of a request -/

variable (fingerprint) in
/-- The state after the admission of a new request. -/
structure Admit (s s' : HarnessStore) (admission : HarnessDispatchAdmission) (taskId runId : Uuid)
    (row : DispatchRow) : Prop where
  new : Table.lookup DispatchRow.requestId s.dispatches admission.requestId = none
  free : s.isReserved admission.resourceKey = false
  record : row.record = admittedRecord fingerprint s.projectId taskId runId admission
  fence : row.claimFence = none
  allowed : rowAllowed s.dispatches row = true
  dispatches : s'.dispatches = s.dispatches ++ [row]
  task : ∃ task, Table.lookup Task.taskId s'.tasks taskId = some task ∧
    task.projectId = s.projectId ∧ task.status = .inProgress
  task_ne : ∀ id, id ≠ taskId →
    Table.lookup Task.taskId s'.tasks id = Table.lookup Task.taskId s.tasks id
  run : ∃ run, Table.lookup Run.runId s'.runs runId = some run ∧ run.projectId = s.projectId ∧
    run.taskId = taskId ∧ run.status = .preparing
  run_ne : ∀ id, id ≠ runId →
    Table.lookup Run.runId s'.runs id = Table.lookup Run.runId s.runs id

theorem admittedEntities_eq_ok {projectId : Uuid} {task : Task} {run : Run}
    (h : admittedEntities projectId taskId runId admission = .ok (task, run)) :
    task.taskId = taskId ∧ task.projectId = projectId ∧ task.status = .inProgress ∧
      run.runId = runId ∧ run.projectId = projectId ∧ run.taskId = taskId ∧
      run.status = .preparing := by
  simp only [admittedEntities, Task.new, Run.new, eq_ok, Task.transitioned_eq_ok] at h
  obtain ⟨_, ⟨-, -, rfl⟩, _, ⟨-, rfl⟩, _, ⟨-, -, -, -, rfl⟩, rfl, rfl⟩ := h
  exact ⟨rfl, rfl, rfl, rfl, rfl, rfl, rfl⟩

theorem admitDispatchIn_eq_ok {commit : HarnessDispatchCommit}
    (h : s.admitDispatchIn fingerprint admission taskId runId = .ok (commit, s')) :
    (∃ row task run, row.requestId = admission.requestId ∧ Loads fingerprint s row task run ∧
      commit = ⟨row.record, none, row.updatedSequence⟩ ∧ s' = s) ∨
    (∃ row, Admit fingerprint s s' admission taskId runId row ∧ commit.record = row.record ∧
      commit.event.isSome) := by
  simp only [admitDispatchIn, eq_ok] at h
  obtain ⟨-, -, -, loaded, hload, h⟩ := h
  cases loaded with
  | some stored =>
    left
    obtain ⟨row, task, run, hid, hloads, rfl⟩ := load_eq_some.1 hload
    simp only [eq_ok] at h
    obtain ⟨-, rfl, rfl⟩ := h
    exact ⟨row, task, run, hid, hloads, rfl, rfl⟩
  | none =>
    right
    simp only [eq_ok] at h
    obtain ⟨-, hfree, task, run, hentities, sequence, _, -, hallowed, rfl, rfl⟩ := h
    obtain ⟨htask, htaskProject, htaskStatus, hrun, hrunProject, hrunTask, hrunStatus⟩ :=
      admittedEntities_eq_ok hentities
    refine ⟨⟨_, none, sequence⟩, ⟨load_eq_none.1 hload, hfree, rfl, rfl, hallowed, rfl,
      ⟨task, ?_, htaskProject, htaskStatus⟩, ?_, ⟨run, ?_, hrunProject, hrunTask, hrunStatus⟩, ?_⟩,
      rfl, rfl⟩
    · have hsaved : lookup Task.taskId (upsert Task.taskId s.tasks task) task.taskId =
        some task := lookup_upsert_self s.tasks task
      rwa [htask] at hsaved
    · intro id hid
      exact lookup_upsert_of_ne (by rwa [htask])
    · have hsaved : lookup Run.runId (upsert Run.runId s.runs run) run.runId =
        some run := lookup_upsert_self s.runs run
      rwa [hrun] at hsaved
    · intro id hid
      exact lookup_upsert_of_ne (by rwa [hrun])

/-! ## The next version of a row -/

variable (fingerprint) in
/-- The state after an edge of the attempt machine was applied to `row`, which gives `row'`. -/
structure Advance (s s' : HarnessStore) (trigger : DispatchTrigger)
    (finish : Option HarnessDispatchFinish) (minted : Uuid) (row row' : DispatchRow)
    (t : PhaseTransition) (task : Task) (run : Run) : Prop where
  loads : Loads fingerprint s row task run
  edge : Edge row.record.phase trigger t
  record : ∃ timestamp, row'.record = nextRecord row.record t finish timestamp
  fence : nextFence t.fence row.claimFence finish minted = .ok row'.claimFence
  allowed : rowAllowed s.dispatches row' = true
  dispatches : s'.dispatches = Table.put DispatchRow.requestId s.dispatches row'
  task : Table.lookup Task.taskId s'.tasks row.record.taskId =
    some { task with status := t.taskStatus.getD task.status }
  task_ne : ∀ id, id ≠ row.record.taskId →
    Table.lookup Task.taskId s'.tasks id = Table.lookup Task.taskId s.tasks id
  run : Table.lookup Run.runId s'.runs row.record.runId =
    some { run with status := t.runStatus.getD run.status }
  run_ne : ∀ id, id ≠ row.record.runId →
    Table.lookup Run.runId s'.runs id = Table.lookup Run.runId s.runs id

theorem nextTask_eq_ok {task task' : Task} (h : nextTask task t = .ok task') :
    task' = { task with status := t.taskStatus.getD task.status } := by
  unfold nextTask at h
  cases hs : t.taskStatus with
  | none =>
    rw [hs] at h
    exact (Except.ok.inj h).symm
  | some status =>
    rw [hs] at h
    exact (Task.transitioned_eq_ok.1 (mapError_eq_ok.1 h)).2.symm

theorem nextRun_eq_ok {run run' : Run} (h : nextRun run t = .ok run') :
    run' = { run with status := t.runStatus.getD run.status } := by
  unfold nextRun at h
  cases hs : t.runStatus with
  | none =>
    rw [hs] at h
    exact (Except.ok.inj h).symm
  | some status =>
    rw [hs] at h
    exact (Run.transitioned_eq_ok.1 (mapError_eq_ok.1 h)).2.2.symm

section

variable {row : DispatchRow} {task : Task} {run : Run} {trigger : DispatchTrigger}
  {finish : Option HarnessDispatchFinish} {minted : Uuid} {timestamp : Timestamp}
  {commit : HarnessDispatchCommit} {fence : Option Uuid} (hloads : Loads fingerprint s row task run)
include hloads

theorem commitChanged_eq_ok (hedge : Edge row.record.phase trigger t)
    (h : s.commitChanged ⟨row.record, row.claimFence, row.updatedSequence, task, run⟩ trigger t finish minted timestamp = .ok ((commit, fence), s')) :
    ∃ row', Advance fingerprint s s' trigger finish minted row row' t task run ∧
      commit.record = row'.record ∧ fence = row'.claimFence ∧ commit.event.isSome := by
  simp only [commitChanged, eq_ok] at h
  obtain ⟨fence, hfence, task', htask, run', hrun, -, sequence, _, -, -, hallowed,
    ⟨rfl, rfl⟩, rfl⟩ := h
  have htask' := nextTask_eq_ok htask
  have hrun' := nextRun_eq_ok hrun
  have htaskId : task'.taskId = row.record.taskId := by
    have hkey : task.taskId = row.record.taskId := key_of_lookup hloads.taskFound
    rw [htask', hkey]
  have hrunId : run'.runId = row.record.runId := by
    have hkey : run.runId = row.record.runId := key_of_lookup hloads.runFound
    rw [hrun', hkey]
  refine ⟨⟨_, fence, sequence⟩, ⟨hloads, hedge, ⟨timestamp, rfl⟩, hfence, hallowed, rfl, ?_, ?_, ?_,
    ?_⟩, rfl, rfl, rfl⟩
  · rw [← htask', ← htaskId]
    refine lookup_saved (by rw [htaskId]; exact hloads.taskFound) fun hnone => ?_
    have hstatus : t.taskStatus = none := by simpa using hnone
    rw [htask', hstatus, getD_none]
  · intro id hid
    exact lookup_saved_of_ne (by rwa [htaskId])
  · rw [← hrun', ← hrunId]
    refine lookup_saved (by rw [hrunId]; exact hloads.runFound) fun hnone => ?_
    have hstatus : t.runStatus = none := by simpa using hnone
    rw [hrun', hstatus, getD_none]
  · intro id hid
    exact lookup_saved_of_ne (by rwa [hrunId])

theorem commitTransition_eq_ok
    (h : s.commitTransition ⟨row.record, row.claimFence, row.updatedSequence, task, run⟩ trigger
      finish minted timestamp = .ok ((commit, fence), s')) :
    (applyTrigger row.record.phase trigger = .ok .unchanged ∧ commit.event = none ∧
      commit.record = row.record ∧ s' = s) ∨
    (∃ row' t, Advance fingerprint s s' trigger finish minted row row' t task run ∧
      commit.record = row'.record ∧ fence = row'.claimFence ∧ commit.event.isSome) := by
  unfold commitTransition at h
  cases happly : applyTrigger row.record.phase trigger with
  | error error => simp [happly] at h
  | ok result =>
    cases result with
    | unchanged =>
      left
      simp only [happly, Except.ok.injEq, Prod.mk.injEq] at h
      obtain ⟨⟨rfl, -⟩, rfl⟩ := h
      exact ⟨rfl, rfl, rfl, rfl⟩
    | changed t =>
      right
      simp only [happly] at h
      obtain ⟨row', hadvance⟩ := commitChanged_eq_ok hloads (applyTrigger_eq_changed.1 happly) h
      exact ⟨row', t, hadvance⟩

end

end Vibemux.HarnessStore
