import Vibemux.Store.Proofs.A2aRunProofs

/-!
# Invariants of remote runs

Every row loads, and the task of a run is closed only when the run has ended. A call either repeats a
command, binds a new run, or moves one run and with a receipt also its reviewer.
-/

namespace Vibemux.A2aStore

open Checked List Option Table

variable {fingerprint : A2aDocument → Sha256Digest} {s s' : A2aStore} {outcome : A2aCommitOutcome}
  {sequence : Nat} {related : Option A2aRunRecord} {event : AuditEvent} {record : A2aRunRecord}
  {timestamp : Timestamp} {action : A2aRunAction} {id : Uuid} {task : Task} {key : List Char}
  {new : List AuditEvent} {start : A2aRunStart} {task' : Task}

/-! ## What a call writes -/

/-- A new run is bound to a task. -/
structure Bound (fingerprint : A2aDocument → Sha256Digest) (s s' : A2aStore) (start : A2aRunStart)
    (task : Task) : Prop where
  new : Table.lookup A2aRow.runId s.records start.run.runId = none
  valid : (preparedRecord start task).validate = .ok ()
  preparing : start.run.status = .preparing
  inProgress : task.status = .inProgress
  same : ∀ current, Table.lookup Task.taskId s.tasks task.taskId = some current → SameTask current task
  events : s'.events =
    s.events ++ [auditEvent fingerprint (preparedRecord start task) none start.idempotencyKey]
  records : s'.records = s.records ++ [⟨preparedRecord start task, s.events.length + 1⟩]
  runs : s'.runs = Table.upsert RunProjection.runId s.runs ⟨start.run, s.events.length + 1⟩
  tasks : s'.tasks = Table.upsert Task.taskId s.tasks task
  commands : ∃ command, command.idempotencyKey = start.idempotencyKey ∧
    s'.commands = s.commands ++ [command]

/-- The record that an update commits. -/
def committed (acted : A2aRunRecord) (timestamp : Timestamp) : A2aRunRecord :=
  { acted with
    version := acted.version + 1
    binding := { acted.binding with updatedAt := timestamp } }

/-- The rows after an update, with the reviewer's when there is one. -/
def savedRecords (rows : List A2aRow) (record : A2aRunRecord) (related : Option A2aRunRecord)
    (sequence : Nat) : List A2aRow :=
  related.toList.foldl (fun rows other => Table.put A2aRow.runId rows ⟨other, sequence⟩)
    (Table.put A2aRow.runId rows ⟨record, sequence⟩)

/-- The projections of runs after an update. -/
def savedRuns (runs : List RunProjection) (record : A2aRunRecord) (related : Option A2aRunRecord)
    (sequence : Nat) : List RunProjection :=
  related.toList.foldl (fun runs other => Table.upsert RunProjection.runId runs ⟨other.run, sequence⟩)
    (Table.upsert RunProjection.runId runs ⟨record.run, sequence⟩)

/-- A run is moved by an action. -/
structure Moved (fingerprint : A2aDocument → Sha256Digest) (s s' : A2aStore) (update : A2aRunUpdate)
    (row : A2aRow) (task : Task) (acted : A2aRunRecord) (related : Option A2aRunRecord) : Prop where
  loads : Loads fingerprint s row task
  runId : row.runId = update.runId
  live : row.record.run.status.isA2aTerminal = true → update.action = .finalizeCancellation
  action : Acted fingerprint s (loaded row task) update.timestamp update.action acted related
  valid : (committed acted update.timestamp).validate = .ok ()
  events : s'.events = s.events ++
    [auditEvent fingerprint (committed acted update.timestamp) related update.idempotencyKey]
  records : s'.records =
    savedRecords s.records (committed acted update.timestamp) related (s.events.length + 1)
  runs : s'.runs = savedRuns s.runs (committed acted update.timestamp) related (s.events.length + 1)
  tasks : s'.tasks = Table.upsert Task.taskId s.tasks acted.task
  commands : ∃ command, command.idempotencyKey = update.idempotencyKey ∧
    s'.commands = s.commands ++ [command]

theorem duplicate_eq_some {print : Sha256Digest}
    (h : s.duplicate fingerprint key print = .ok (some outcome)) : outcome.duplicate = true := by
  unfold duplicate at h
  split at h
  · simp only [eq_ok, some.injEq] at h
    obtain ⟨-, -, event, -, -, rfl⟩ := h
    rfl
  · simp at h

theorem appendEvent_eq_ok (h : s.appendEvent event = .ok (sequence, s')) :
    sequence = s.events.length + 1 ∧ s' = { s with events := s.events ++ [event] } := by
  simp only [appendEvent, eq_ok] at h
  exact ⟨h.2.2.1.symm, h.2.2.2.symm⟩

theorem startedTask_eq_ok {task : Task} (h : s.startedTask task = .ok task') :
    task'.taskId = task.taskId ∧ task'.status = .inProgress ∧
      ∀ current, lookup Task.taskId s.tasks task'.taskId = some current →
        SameTask current task' := by
  unfold startedTask at h
  split at h
  · next current hcurrent =>
    simp only [eq_ok] at h
    obtain ⟨hsame, hstatus⟩ := startTask_eq_ok h.2
    have hid : task'.taskId = task.taskId := hsame.taskId.trans (key_of_lookup hcurrent)
    refine ⟨hid, hstatus, fun other hother => ?_⟩
    rw [hid, hcurrent] at hother
    exact some.inj hother ▸ hsame
  · next hnone =>
    simp only [eq_ok] at h
    obtain ⟨hsame, hstatus⟩ := startTask_eq_ok h.2
    refine ⟨hsame.taskId, hstatus, fun other hother => ?_⟩
    rw [hsame.taskId, hnone] at hother
    cases hother

theorem startA2aRun_eq_ok (h : s.startA2aRun fingerprint start = .ok (outcome, s')) :
    (outcome.duplicate = true ∧ s' = s) ∨
      (outcome.duplicate = false ∧ ∃ task, Bound fingerprint s s' start task) := by
  simp only [startA2aRun, eq_ok] at h
  obtain ⟨hstart, found, hfound, h⟩ := h
  cases found with
  | some outcome' =>
    simp only [returnPair_eq_ok] at h
    obtain ⟨rfl, rfl⟩ := h
    exact .inl ⟨duplicate_eq_some hfound, rfl⟩
  | none =>
    simp only [eq_ok] at h
    obtain ⟨-, task, htask, _, -, -, ⟨hconflict, -⟩, hvalid, _, _, hevent, rfl, rfl⟩ := h
    obtain ⟨rfl, rfl⟩ := appendEvent_eq_ok hevent
    obtain ⟨hid, hstatus, hsame⟩ := startedTask_eq_ok htask
    refine .inr ⟨rfl, task, ⟨?_, hvalid, ?_, hstatus, hsame, rfl, rfl, rfl, rfl, _, rfl, rfl⟩⟩
    · refine lookup_eq_none.2 fun row hrow hid => ?_
      have hfree := any_eq_false.1 hconflict row hrow
      simp [hid] at hfree
    · simp only [A2aRunStart.validate, eq_ok] at hstart
      exact hstart.1.1

theorem updateRecord_eq_ok (h : s.updateRecord record sequence = .ok s') :
    s' = { s with
      records := put A2aRow.runId s.records ⟨record, sequence⟩
      runs := upsert RunProjection.runId s.runs ⟨record.run, sequence⟩ } := by
  simp only [updateRecord, eq_ok] at h
  exact h.2.symm

theorem updateA2aRun_eq_ok {update : A2aRunUpdate}
    (h : s.updateA2aRun fingerprint update = .ok (outcome, s')) :
    (outcome.duplicate = true ∧ s' = s) ∨ (outcome.duplicate = false ∧
      ∃ row task acted related, Moved fingerprint s s' update row task acted related) := by
  simp only [updateA2aRun, eq_ok] at h
  obtain ⟨-, found, hfound, h⟩ := h
  cases found with
  | some outcome' =>
    simp only [returnPair_eq_ok] at h
    obtain ⟨rfl, rfl⟩ := h
    exact .inl ⟨duplicate_eq_some hfound, rfl⟩
  | none =>
    simp only [eq_ok, checkedSucc_eq_some] at h
    obtain ⟨_, hload, _, rfl, -, -, hlive, acted, related, hacted, _, ⟨-, rfl⟩, hvalid, _,
      _, hevent, _, hsaved, _, hrelated, rfl, rfl⟩ := h
    obtain ⟨rfl, rfl⟩ := appendEvent_eq_ok hevent
    obtain rfl := updateRecord_eq_ok hsaved
    obtain ⟨row, task, hloads, hid, rfl⟩ := loadRecord_eq_some.1 hload
    refine .inr ⟨rfl, row, task, acted, related, ?_⟩
    cases related with
    | none =>
      obtain rfl := Except.ok.inj hrelated
      exact ⟨hloads, hid, hlive, applyAction_acted hacted, hvalid, rfl, rfl, rfl, rfl, _, rfl, rfl⟩
    | some reviewer =>
      obtain rfl := updateRecord_eq_ok hrelated
      exact ⟨hloads, hid, hlive, applyAction_acted hacted, hvalid, rfl, rfl, rfl, rfl, _, rfl, rfl⟩

/-! ## The rows after a call -/

theorem Acted.same {record acted : A2aRunRecord}
    (h : Acted fingerprint s record timestamp action acted related) :
    SameTask record.task acted.task ∧ acted.run.runId = record.run.runId ∧
      acted.run.taskId = record.run.taskId := by
  cases h with
  | started => exact ⟨.refl _, rfl, rfl⟩
  | observed => exact ⟨.refl _, rfl, rfl⟩
  | requested => exact ⟨.refl _, rfl, rfl⟩
  | confirmed _ _ _ _ hsame => exact ⟨hsame, rfl, rfl⟩
  | confirmedLast _ _ _ _ _ hsame => exact ⟨hsame, rfl, rfl⟩
  | finalized _ _ _ hsame => exact ⟨hsame, rfl, rfl⟩
  | failed _ _ _ hsame => exact ⟨hsame, rfl, rfl⟩
  | verified _ _ _ _ _ _ hsame => exact ⟨hsame, rfl, rfl⟩

/-- The reviewer of a receipt is another stored run of the same task. -/
theorem Acted.reviewer {record acted reviewer : A2aRunRecord}
    (h : Acted fingerprint s record timestamp action acted (some reviewer)) :
    ∃ row task, Loads fingerprint s row task ∧ reviewer.run.runId = row.runId ∧
      reviewer.run.taskId = row.record.run.taskId ∧ row.record.run.taskId = record.run.taskId ∧
      row.record.run.status = .running ∧ reviewer.run.status = .succeeded ∧
      reviewer.task = acted.task ∧ reviewer.run.runId ≠ record.run.runId ∧
      reviewer.validate = .ok () := by
  cases h with
  | verified _ _ task hreviewer hindependent _ _ _ hvalid =>
    obtain ⟨row, current, hloads, _, rfl⟩ := loadRecord_eq_some.1 hreviewer
    exact ⟨row, current, hloads, rfl, rfl, hindependent.task.symm, hindependent.running.2, rfl, rfl,
      hindependent.runs.symm, hvalid⟩

section

variable (hne : id ≠ record.run.runId) (hrelated : ∀ other ∈ related, id ≠ other.run.runId)
include hne hrelated

theorem lookup_savedRecords_of_ne {rows : List A2aRow} :
    lookup A2aRow.runId (savedRecords rows record related sequence) id =
      lookup A2aRow.runId rows id := by
  have hself : id ≠ A2aRow.runId ⟨record, sequence⟩ := hne
  cases related with
  | none => exact lookup_put_of_ne hself
  | some other =>
    have hother : id ≠ A2aRow.runId ⟨other, sequence⟩ := hrelated other rfl
    exact (lookup_put_of_ne hother).trans (lookup_put_of_ne hself)

theorem lookup_savedRuns_of_ne {runs : List RunProjection} :
    lookup RunProjection.runId (savedRuns runs record related sequence) id =
      lookup RunProjection.runId runs id := by
  have hself : id ≠ RunProjection.runId ⟨record.run, sequence⟩ := hne
  cases related with
  | none => exact lookup_upsert_of_ne hself
  | some other =>
    have hother : id ≠ RunProjection.runId ⟨other.run, sequence⟩ := hrelated other rfl
    exact (lookup_upsert_of_ne hother).trans (lookup_upsert_of_ne hself)

end

variable {update : A2aRunUpdate} {row : A2aRow} {task : Task} {acted : A2aRunRecord}
  {related : Option A2aRunRecord}

theorem Moved.lookup_of_ne (h : Moved fingerprint s s' update row task acted related)
    (hne : id ≠ row.runId) (hrelated : ∀ other ∈ related, id ≠ other.run.runId) :
    lookup A2aRow.runId s'.records id = lookup A2aRow.runId s.records id ∧
      lookup RunProjection.runId s'.runs id = lookup RunProjection.runId s.runs id := by
  have hid : id ≠ (committed acted update.timestamp).run.runId := fun heq =>
    hne (heq.trans h.action.same.2.1)
  rw [h.records, h.runs]
  exact ⟨lookup_savedRecords_of_ne hid hrelated, lookup_savedRuns_of_ne hid hrelated⟩

theorem Moved.lookup_self (h : Moved fingerprint s s' update row task acted related) :
    lookup A2aRow.runId s'.records row.runId =
        some ⟨committed acted update.timestamp, s.events.length + 1⟩ ∧
      lookup RunProjection.runId s'.runs row.runId =
        some ⟨acted.run, s.events.length + 1⟩ := by
  have hid : (committed acted update.timestamp).run.runId = row.runId := h.action.same.2.1
  let saved : A2aRow := ⟨committed acted update.timestamp, s.events.length + 1⟩
  have hput : lookup A2aRow.runId (put A2aRow.runId s.records saved) saved.runId =
      some saved := lookup_put_self (hid ▸ h.loads.found)
  have hupsert : lookup RunProjection.runId (upsert RunProjection.runId s.runs
      ⟨saved.record.run, s.events.length + 1⟩) saved.runId = some ⟨acted.run, s.events.length + 1⟩ :=
    lookup_upsert_self _ _
  rw [h.records, h.runs, ← hid]
  cases related with
  | none => exact ⟨hput, hupsert⟩
  | some reviewer =>
    obtain ⟨_, _, _, _, _, _, _, _, _, hne, _⟩ := h.action.reviewer
    have hrow : saved.runId ≠ A2aRow.runId ⟨reviewer, s.events.length + 1⟩ := fun heq =>
      hne (heq.symm.trans h.action.same.2.1)
    have hrun : saved.runId ≠ RunProjection.runId ⟨reviewer.run, s.events.length + 1⟩ := hrow
    exact ⟨(lookup_put_of_ne hrow).trans hput, (lookup_upsert_of_ne hrun).trans hupsert⟩

theorem Moved.lookup_reviewer {reviewer : A2aRunRecord}
    (h : Moved fingerprint s s' update row task acted (some reviewer)) :
    lookup A2aRow.runId s'.records reviewer.run.runId =
        some ⟨reviewer, s.events.length + 1⟩ ∧
      lookup RunProjection.runId s'.runs reviewer.run.runId =
        some ⟨reviewer.run, s.events.length + 1⟩ := by
  obtain ⟨row', _, hloads, hid, _, _, _, _, _, hne, _⟩ := h.action.reviewer
  rw [h.records, h.runs]
  refine ⟨?_, lookup_upsert_self _ _⟩
  let saved : A2aRow := ⟨committed acted update.timestamp, s.events.length + 1⟩
  have hne' : reviewer.run.runId ≠ saved.runId := fun heq => hne (heq.trans h.action.same.2.1)
  have hfound : lookup A2aRow.runId (put A2aRow.runId s.records saved)
      (A2aRow.runId ⟨reviewer, s.events.length + 1⟩) = some row' := by
    refine (lookup_put_of_ne hne').trans ?_
    rw [hid]
    exact hloads.found
  exact lookup_put_self hfound

/-! ## The invariant -/

/-- A task that a verifier or a cancellation has closed. -/
def IsClosed (task : Task) : Prop := task.status = .done ∨ task.status = .cancelled

/-- A row that loads, with a task that was taken up and is closed only when the run has ended. -/
structure RowInv (fingerprint : A2aDocument → Sha256Digest) (s : A2aStore) (row : A2aRow)
    (task : Task) : Prop where
  loads : Loads fingerprint s row task
  statuses : task.status ≠ .open ∧ (IsClosed task → row.record.run.status.isA2aTerminal = true)

theorem RowInv.taken {row : A2aRow} (h : RowInv fingerprint s row task) :
    task.status ≠ .open := h.statuses.1

theorem RowInv.closed {row : A2aRow} (h : RowInv fingerprint s row task) :
    IsClosed task → row.record.run.status.isA2aTerminal = true := h.statuses.2

/-- What holds of the rows of remote runs. -/
structure Inv (fingerprint : A2aDocument → Sha256Digest) (s : A2aStore) : Prop where
  unique : Table.Unique A2aRow.runId s.records
  rows : ∀ row ∈ s.records, ∃ task, RowInv fingerprint s row task
  commands : ∀ command ∈ s.commands, ∃ event ∈ s.events,
    event.idempotencyKey = command.idempotencyKey

/-- A command is written together with an event under its key. -/
theorem Inv.commands_append {new : AuditEvent} (hinv : Inv fingerprint s)
    (hkey : new.idempotencyKey = key) (hevents : s'.events = s.events ++ [new])
    (hcommands : ∃ command, command.idempotencyKey = key ∧ s'.commands = s.commands ++ [command]) :
    ∀ command ∈ s'.commands, ∃ event ∈ s'.events, event.idempotencyKey = command.idempotencyKey := by
  intro command hcommand
  obtain ⟨added, rfl, hadded⟩ := hcommands
  rw [hevents]
  rw [hadded] at hcommand
  rcases mem_append.1 hcommand with hold | hlast
  · obtain ⟨event, hevent, hsame⟩ := hinv.commands command hold
    exact ⟨event, mem_append_left _ hevent, hsame⟩
  · rw [mem_singleton.1 hlast]
    exact ⟨new, mem_append_right _ (mem_singleton_self _), hkey⟩

theorem eventAt_append (h : s.eventAt sequence = some event) (hevents : s'.events = s.events ++ new) :
    s'.eventAt sequence = some event := by
  unfold eventAt at h ⊢
  split_ifs at h ⊢
  · rw [hevents]
    exact List.getElem?_append_left (List.getElem?_eq_some_iff.1 h).1 ▸ h

theorem eventAt_last (hevents : s'.events = s.events ++ [event]) :
    s'.eventAt (s.events.length + 1) = some event := by
  simp [eventAt, hevents]

/-- A row that a call does not write still loads, with the task as the call left it. -/
theorem Loads.frame {other : A2aRow} {task : Task} (h : Loads fingerprint s other task)
    (hevents : s'.events = s.events ++ new)
    (hrecord : lookup A2aRow.runId s'.records other.runId = lookup A2aRow.runId s.records other.runId)
    (hrun : lookup RunProjection.runId s'.runs other.runId = lookup RunProjection.runId s.runs other.runId)
    (htask : lookup Task.taskId s'.tasks other.record.run.taskId = some task')
    (hsame : SameTask task task') : Loads fingerprint s' other task' := by
  obtain ⟨event, hevent, haudit⟩ := h.audit
  exact ⟨hrecord.trans h.found, h.valid, ⟨event, eventAt_append hevent hevents, haudit⟩, htask,
    ⟨hsame.taskId.trans h.same.taskId, hsame.projectId.trans h.same.projectId,
      hsame.title.trans h.same.title, hsame.description.trans h.same.description⟩,
    hrun.trans h.runFound⟩

/-- The task of another row after a call that saves `saved`: the saved one when it is the same task. -/
theorem lookup_saved_task {tasks : List Task} {saved : Task} {current : Task}
    (hcurrent : lookup Task.taskId tasks id = some current)
    (hsame : ∀ old, lookup Task.taskId tasks saved.taskId = some old → SameTask old saved) :
    ∃ task', lookup Task.taskId (upsert Task.taskId tasks saved) id = some task' ∧
      SameTask current task' ∧ (task' = current ∨ (task' = saved ∧ saved.taskId = id)) := by
  by_cases hid : id = saved.taskId
  · subst hid
    exact ⟨saved, lookup_upsert_self _ _, hsame current hcurrent, .inr ⟨rfl, rfl⟩⟩
  · exact ⟨current, (lookup_upsert_of_ne hid).trans hcurrent, .refl _, .inl rfl⟩

theorem Inv.bound (hinv : Inv fingerprint s) (h : Bound fingerprint s s' start task) :
    Inv fingerprint s' := by
  let new : A2aRow := ⟨preparedRecord start task, s.events.length + 1⟩
  have hnew : lookup A2aRow.runId s.records new.runId = none := h.new
  have hidentity := validate_identity h.valid
  refine ⟨h.records ▸ hinv.unique.append hnew, fun row hrow => ?_, fun command hcommand => ?_⟩
  · rw [h.records] at hrow
    rcases mem_append.1 hrow with hold | hrow
    · obtain ⟨current, hrowInv⟩ := hinv.rows row hold
      have hne : row.runId ≠ new.runId := lookup_eq_none.1 hnew row hold
      have hne' : row.runId ≠ RunProjection.runId ⟨start.run, s.events.length + 1⟩ := hne
      obtain ⟨task', hfound, hsame, hcases⟩ := lookup_saved_task hrowInv.loads.taskFound h.same
      refine ⟨task', hrowInv.loads.frame h.events ?_ ?_ (h.tasks ▸ hfound) hsame, ?_, ?_⟩
      · rw [h.records, lookup_append_of_ne hne.symm]
      · rw [h.runs, lookup_upsert_of_ne hne']
      · rcases hcases with rfl | ⟨rfl, -⟩
        · exact hrowInv.taken
        · simp [h.inProgress]
      · rcases hcases with rfl | ⟨rfl, -⟩
        · exact hrowInv.closed
        · simp [IsClosed, h.inProgress]
    · obtain rfl : row = new := mem_singleton.1 hrow
      refine ⟨task, ⟨?_, h.valid, ⟨_, eventAt_last h.events, ?_⟩, ?_, .refl _, ?_⟩, ?_, ?_⟩
      · rw [h.records]
        exact lookup_append_self hnew
      · simp [new, validateAuditRecord, auditEvent]
      · have hid : (preparedRecord start task).run.taskId = task.taskId := hidentity.2.symm
        show lookup Task.taskId s'.tasks (preparedRecord start task).run.taskId = some task
        rw [hid, h.tasks]
        exact lookup_upsert_self _ _
      · rw [h.runs]
        exact lookup_upsert_self _ _
      · simp [h.inProgress]
      · simp [IsClosed, h.inProgress]
  · exact hinv.commands_append rfl h.events h.commands command hcommand

/-- How an action writes the task: not at all, with the run still live, or as blocked, or as closed when
no run of the task is live any more. -/
theorem Acted.task_cases {record acted : A2aRunRecord}
    (hunique : Table.Unique A2aRow.runId s.records)
    (h : Acted fingerprint s record timestamp action acted related) :
    (acted.task = record.task ∧ action ≠ .finalizeCancellation ∧ related = none) ∨
    acted.task.status = .blocked ∨
    (IsClosed acted.task ∧ acted.run.status.isA2aTerminal = true ∧
      ∀ row ∈ s.records, row.record.task.taskId = record.task.taskId →
        row.runId ≠ record.run.runId → (∀ other ∈ related, row.runId ≠ other.run.runId) →
        row.record.run.status.isA2aTerminal = true) := by
  cases h with
  | started => exact .inl ⟨rfl, by simp, rfl⟩
  | observed => exact .inl ⟨rfl, by simp, rfl⟩
  | requested => exact .inl ⟨rfl, by simp, rfl⟩
  | confirmed _ _ _ _ _ hblocked => exact .inr (.inl hblocked)
  | confirmedLast _ _ _ htarget hlast _ hcancelled =>
    refine .inr (.inr ⟨.inr hcancelled, ?_, fun row hrow htask hne _ => ?_⟩)
    · rcases htarget with rfl | rfl <;> rfl
    · exact hasOtherLiveRuns_false hunique hlast row hrow htask (by simpa using hne)
  | finalized _ hterminal hlast _ hcancelled =>
    refine .inr (.inr ⟨.inr hcancelled, hterminal, fun row hrow htask _ _ => ?_⟩)
    exact hasOtherLiveRuns_false hunique hlast row hrow htask (by simp)
  | failed _ _ _ _ hblocked => exact .inr (.inl hblocked)
  | verified receipt reviewer _ _ _ hlast _ hstatus =>
    by_cases haccepted : receipt.accepted = true
    · rw [if_pos haccepted] at hstatus
      refine .inr (.inr ⟨.inl hstatus, by simp [verifiedWorker, haccepted, RunStatus.isA2aTerminal],
        fun row hrow htask hne hother => ?_⟩)
      have hne' : row.runId ≠ reviewer.run.runId := hother (verifiedReviewer _ _ _ _) rfl
      exact hasOtherLiveRuns_false hunique hlast row hrow htask (by simp [hne, hne'])
    · rw [if_neg haccepted] at hstatus
      exact .inr (.inl hstatus)

theorem Moved.same_task (h : Moved fingerprint s s' update row task acted related) :
    ∀ old, lookup Task.taskId s.tasks acted.task.taskId = some old → old = task := by
  intro old hold
  have hid : task.taskId = row.record.run.taskId := key_of_lookup h.loads.taskFound
  rw [h.action.same.1.taskId, show (loaded row task).task.taskId = task.taskId from rfl, hid,
    h.loads.taskFound] at hold
  exact (some.inj hold).symm

/-- The saved task is found under the identity of every run of the task. -/
theorem Moved.task_found (h : Moved fingerprint s s' update row task acted related)
    (hid : id = row.record.run.taskId) : lookup Task.taskId s'.tasks id = some acted.task := by
  have hkey : task.taskId = row.record.run.taskId := key_of_lookup h.loads.taskFound
  have hsaved : acted.task.taskId = task.taskId := h.action.same.1.taskId
  rw [hid, ← hkey, ← hsaved, h.tasks]
  exact lookup_upsert_self _ _

theorem not_isClosed_of_blocked (h : task.status = .blocked) : ¬ IsClosed task := by
  simp [IsClosed, h]

/-- The row of the run itself after a call. -/
theorem Moved.rowInv_self (hinv : Inv fingerprint s)
    (h : Moved fingerprint s s' update row task acted related) :
    RowInv fingerprint s' ⟨committed acted update.timestamp, s.events.length + 1⟩ acted.task := by
  obtain ⟨current, hrow⟩ := hinv.rows row (mem_of_lookup h.loads.found)
  obtain rfl : current = task :=
    some.inj (hrow.loads.taskFound.symm.trans h.loads.taskFound)
  have hid : A2aRow.runId ⟨committed acted update.timestamp, s.events.length + 1⟩ = row.runId :=
    h.action.same.2.1
  refine ⟨⟨?_, h.valid, ⟨_, eventAt_last h.events, ?_⟩, h.task_found h.action.same.2.2, .refl _, ?_⟩,
    ?_, ?_⟩
  · rw [hid]
    exact h.lookup_self.1
  · simp [validateAuditRecord, auditEvent]
  · rw [hid]
    exact h.lookup_self.2
  · rcases h.action.task_cases hinv.unique with ⟨hsame, -⟩ | hblocked | ⟨hclosed, -⟩
    · rw [hsame]
      exact hrow.taken
    · simp [hblocked]
    · rcases hclosed with hclosed | hclosed <;> simp [hclosed]
  · intro hclosed
    rcases h.action.task_cases hinv.unique with ⟨hsame, haction, -⟩ | hblocked | ⟨-, hterminal, -⟩
    · rw [hsame] at hclosed
      exact absurd (h.live (hrow.closed hclosed)) haction
    · exact absurd hclosed (not_isClosed_of_blocked hblocked)
    · exact hterminal

/-- The row of the reviewer after a receipt. -/
theorem Moved.rowInv_reviewer {reviewer : A2aRunRecord} (hinv : Inv fingerprint s)
    (h : Moved fingerprint s s' update row task acted (some reviewer)) :
    RowInv fingerprint s' ⟨reviewer, s.events.length + 1⟩ acted.task := by
  obtain ⟨_, _, _, -, htask, htask', -, hstatus, hshared, hne, hvalid⟩ := h.action.reviewer
  have hne' : ¬ (committed acted update.timestamp).run.runId = reviewer.run.runId := fun heq =>
    hne (heq.symm.trans h.action.same.2.1)
  refine ⟨⟨h.lookup_reviewer.1, hvalid, ⟨_, eventAt_last h.events, ?_⟩,
    h.task_found (htask.trans htask'), hshared ▸ .refl _, h.lookup_reviewer.2⟩, ?_, fun _ => ?_⟩
  · have hproject : (committed acted update.timestamp).task = reviewer.task := hshared.symm
    simp [validateAuditRecord, auditEvent, hne', hproject]
  · rcases h.action.task_cases hinv.unique with ⟨-, -, hnone⟩ | hblocked | ⟨hclosed, -⟩
    · cases hnone
    · simp [hblocked]
    · rcases hclosed with hclosed | hclosed <;> simp [hclosed]
  · show reviewer.run.status.isA2aTerminal = true
    rw [hstatus]
    rfl

section

variable (hinv : Inv fingerprint s) (h : Moved fingerprint s s' update row task acted related)
include hinv h

/-- Every other row after a call. -/
theorem Moved.rowInv_other {other : A2aRow} (hother : other ∈ s.records)
    (hne : other.runId ≠ row.runId) (hrelated : ∀ reviewer ∈ related, other.runId ≠ reviewer.run.runId) :
    ∃ task', RowInv fingerprint s' other task' := by
  obtain ⟨current, hrow⟩ := hinv.rows other hother
  have hsaved : ∀ old, lookup Task.taskId s.tasks acted.task.taskId = some old →
      SameTask old acted.task := fun old hold => h.same_task old hold ▸ h.action.same.1
  obtain ⟨task', hfound, hsame, hcases⟩ := lookup_saved_task hrow.loads.taskFound hsaved
  obtain ⟨hrecord, hrun⟩ := h.lookup_of_ne hne hrelated
  have hloads := hrow.loads.frame h.events hrecord hrun (h.tasks ▸ hfound) hsame
  rcases hcases with rfl | ⟨rfl, hid⟩
  · exact ⟨task', hloads, hrow.taken, hrow.closed⟩
  -- The other run shares the task that the call wrote.
  · have hcurrent : current = task := h.same_task current (hid ▸ hrow.loads.taskFound)
    subst hcurrent
    have hcolumn : other.record.task.taskId = (loaded row current).task.taskId :=
      hrow.loads.same.taskId.symm
    refine ⟨acted.task, hloads, ?_⟩
    rcases h.action.task_cases hinv.unique with ⟨hsame', -⟩ | hblocked | ⟨hclosed, -, hothers⟩
    · rw [hsame']
      exact ⟨hrow.taken, hrow.closed⟩
    · exact ⟨by simp [hblocked], fun hclosed => absurd hclosed (not_isClosed_of_blocked hblocked)⟩
    · refine ⟨?_, fun _ => hothers other hother hcolumn hne hrelated⟩
      rcases hclosed with hclosed | hclosed <;> simp [hclosed]

theorem Moved.unique : Table.Unique A2aRow.runId s'.records := by
  rw [h.records]
  cases related with
  | none => exact hinv.unique.put _
  | some reviewer => exact (hinv.unique.put _).put _

theorem Inv.moved : Inv fingerprint s' := by
  refine ⟨h.unique hinv, fun row' hrow' => ?_, fun command hcommand => ?_⟩
  · have hlookup := (h.unique hinv).lookup_eq hrow'
    by_cases hself : row'.runId = row.runId
    · rw [hself, h.lookup_self.1] at hlookup
      exact ⟨_, some.inj hlookup ▸ h.rowInv_self hinv⟩
    · by_cases hreviewer : ∃ reviewer, related = some reviewer ∧ row'.runId = reviewer.run.runId
      · obtain ⟨reviewer, rfl, hid⟩ := hreviewer
        rw [hid, h.lookup_reviewer.1] at hlookup
        exact ⟨_, some.inj hlookup ▸ h.rowInv_reviewer hinv⟩
      · have hrelated : ∀ reviewer ∈ related, row'.runId ≠ reviewer.run.runId :=
          fun reviewer hmem hid => hreviewer ⟨reviewer, hmem, hid⟩
        rw [(h.lookup_of_ne hself hrelated).1] at hlookup
        exact h.rowInv_other hinv (mem_of_lookup hlookup) hself hrelated
  · exact hinv.commands_append rfl h.events h.commands command hcommand

end

/-- One call keeps the invariant. -/
theorem Inv.step {op : A2aOp} (hinv : Inv fingerprint s)
    (h : s.step fingerprint op = .ok (outcome, s')) : Inv fingerprint s' := by
  cases op with
  | start start =>
    rcases startA2aRun_eq_ok h with ⟨-, rfl⟩ | ⟨-, task, hbound⟩
    · exact hinv
    · exact hinv.bound hbound
  | update update =>
    rcases updateA2aRun_eq_ok h with ⟨-, rfl⟩ | ⟨-, _, _, _, _, hmoved⟩
    · exact hinv
    · exact hinv.moved hmoved

end Vibemux.A2aStore
