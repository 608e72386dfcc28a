import Vibemux.Workflow.Record
import Vibemux.Compiler.Proofs.OrderProofs

/-!
# Changes of the workflow record

Each change of a record is inverted once: when it is accepted, and the record it gives. A valid record
has no two tasks with one key, so the task found under a task's key is that task.
-/

namespace Vibemux

namespace WorkflowRecord

open Checked List SortDedup

variable {record next : WorkflowRecord} {taskKey : SpecIdentifier} {nowMs : Nat}
  {task : WorkflowTask}

theorem bumped_eq_ok :
    record.bumped nowMs = .ok next ↔ record.version < u64Max ∧
      { record with version := record.version + 1, updatedAtMs := max nowMs record.updatedAtMs } =
        next := by
  simp only [bumped, eq_ok, checkedSucc_eq_some]
  constructor
  · rintro ⟨_, ⟨hlt, rfl⟩, rfl⟩
    exact ⟨hlt, rfl⟩
  · rintro ⟨hlt, rfl⟩
    exact ⟨_, ⟨hlt, rfl⟩, rfl⟩

theorem withPhase_eq_ok {phase : WorkflowPhase} :
    record.withPhase phase nowMs = .ok next ↔ record.phase.canTransitionTo phase = true ∧
      record.version < u64Max ∧
      { record with
        phase, version := record.version + 1, updatedAtMs := max nowMs record.updatedAtMs } = next := by
  simp only [withPhase, eq_ok, bumped_eq_ok]

theorem taskMut_eq_ok {change : WorkflowTask → WorkflowTask} :
    record.taskMut taskKey change = .ok next ↔ (record.task taskKey).isSome ∧
      { record with tasks := replaceTask taskKey change record.tasks } = next := by
  simp only [taskMut, eq_ok, Option.isSome_iff_exists]
  constructor
  · rintro ⟨task, htask, rfl⟩
    exact ⟨⟨task, htask⟩, rfl⟩
  · rintro ⟨⟨task, htask⟩, rfl⟩
    exact ⟨task, htask, rfl⟩

/-- A charge of a turn changes the tasks only. -/
theorem chargeTurn_eq_ok {repair : Bool} (h : record.chargeTurn taskKey repair = .ok next) :
    ∃ tasks, { record with tasks } = next := by
  simp only [chargeTurn, eq_ok, taskMut_eq_ok] at h
  obtain ⟨_, -, -, -, rfl⟩ := h
  exact ⟨_, rfl⟩

theorem nodup_of_validate (h : record.validate = .ok ()) :
    (record.tasks.map WorkflowTask.taskKey).Nodup := by
  simp only [validate, ensure_eq_ok] at h
  obtain ⟨-, -, -, -, -, -, -, -, -, hlength, -⟩ := h
  exact nodup_of_length_sortDedup hlength

theorem task_of_mem (h : record.validate = .ok ()) (htask : task ∈ record.tasks) :
    record.task task.taskKey = some task := by
  cases hfound : record.task task.taskKey with
  | none =>
    have hother := find?_eq_none.1 hfound task htask
    simp at hother
  | some found =>
    have hkey : found.taskKey = task.taskKey := by simpa using find?_some hfound
    rw [inj_on_of_nodup_map (nodup_of_validate h) (mem_of_find?_eq_some hfound) htask hkey]

theorem mem_of_task (h : record.task taskKey = some task) :
    task ∈ record.tasks ∧ task.taskKey = taskKey :=
  ⟨mem_of_find?_eq_some h, by simpa using find?_some h⟩

end WorkflowRecord

end Vibemux
