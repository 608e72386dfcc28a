import Vibemux.Store.A2aRuns

/-!
# What a call on a remote run can do

The functions of the transactions inverted: what a load guarantees, what each action requires and
leaves, and which rows a call writes.
-/

namespace Vibemux.A2aStore

open Checked List

variable {fingerprint : A2aDocument → Sha256Digest} {s s' : A2aStore} {task task' : Task}
  {record : A2aRunRecord} {timestamp : Timestamp} {receipt : VerificationReceipt}
  {worker : A2aRunRecord}

/-! ## Tasks and runs -/

/-- The parts of a task that no call changes. -/
structure SameTask (task task' : Task) : Prop where
  taskId : task'.taskId = task.taskId
  projectId : task'.projectId = task.projectId
  title : task'.title = task.title
  description : task'.description = task.description

theorem SameTask.refl (task : Task) : SameTask task task := ⟨rfl, rfl, rfl, rfl⟩

theorem transitionTask_eq_ok {target : TaskStatus} (h : transitionTask task target = .ok task') :
    SameTask task task' ∧ task.status.canTransitionTo target = true ∧ task'.status = target := by
  rw [transitionTask, mapError_eq_ok, Task.transitioned_eq_ok] at h
  obtain ⟨hcan, rfl⟩ := h
  exact ⟨⟨rfl, rfl, rfl, rfl⟩, hcan, rfl⟩

theorem blockTask_eq_ok (h : blockTask task = .ok task') :
    SameTask task task' ∧ task'.status = .blocked := by
  unfold blockTask at h
  split_ifs at h with hblocked
  · obtain rfl := Except.ok.inj h
    exact ⟨.refl _, hblocked⟩
  · obtain ⟨hsame, -, hstatus⟩ := transitionTask_eq_ok h
    exact ⟨hsame, hstatus⟩

theorem startTask_eq_ok (h : startTask task = .ok task') :
    SameTask task task' ∧ task'.status = .inProgress := by
  unfold startTask at h
  split at h
  · obtain ⟨hsame, -, hstatus⟩ := transitionTask_eq_ok h
    exact ⟨hsame, hstatus⟩
  · obtain ⟨hsame, -, hstatus⟩ := transitionTask_eq_ok h
    exact ⟨hsame, hstatus⟩
  · obtain rfl := Except.ok.inj h
    exact ⟨.refl _, by assumption⟩
  · cases h

theorem transitionRun_eq_ok {run run' : Run} {target : RunStatus}
    {authority : Option RunCompletionAuthority}
    (h : transitionRun run target authority = .ok run') :
    run.status.canTransitionTo target = true ∧ run' = { run with status := target } := by
  rw [transitionRun, mapError_eq_ok, Run.transitioned_eq_ok] at h
  exact ⟨h.1, h.2.2.symm⟩

/-- The check of a record reads the task's identity only. -/
theorem validate_task {task : Task} (h : record.validate = .ok ())
    (hsame : SameTask record.task task) : { record with task }.validate = .ok () := by
  simp only [A2aRunRecord.validate, eq_ok] at h ⊢
  obtain ⟨⟨hschema, hversion, hproject, htask, hrest⟩, h⟩ := h
  exact ⟨⟨hschema, hversion, hsame.projectId.trans hproject, hsame.taskId.trans htask, hrest⟩, h⟩

/-! ## Loading -/

/-- A row that loads, with the task it loads with. -/
structure Loads (fingerprint : A2aDocument → Sha256Digest) (s : A2aStore) (row : A2aRow)
    (task : Task) : Prop where
  found : Table.lookup A2aRow.runId s.records row.runId = some row
  valid : row.record.validate = .ok ()
  audit : ∃ event, s.eventAt row.updatedSequence = some event ∧
    validateAuditRecord fingerprint row.record event = .ok ()
  taskFound : Table.lookup Task.taskId s.tasks row.record.run.taskId = some task
  same : SameTask row.record.task task
  runFound : Table.lookup RunProjection.runId s.runs row.runId =
    some ⟨row.record.run, row.updatedSequence⟩

theorem validate_identity (h : record.validate = .ok ()) :
    record.task.projectId = record.run.projectId ∧ record.task.taskId = record.run.taskId := by
  simp only [A2aRunRecord.validate, eq_ok] at h
  exact ⟨h.1.2.2.1, h.1.2.2.2.1⟩

/-- The record of a row with the task as it is now. -/
def loaded (row : A2aRow) (task : Task) : A2aRunRecord := { row.record with task }

theorem loadRecord_eq_some {runId : Uuid} :
    s.loadRecord fingerprint runId = .ok (some record) ↔
      ∃ row task, Loads fingerprint s row task ∧ row.runId = runId ∧ record = loaded row task := by
  constructor
  · intro h
    unfold loadRecord at h
    split at h
    · cases h
    · next row hrow =>
      simp only [eq_ok, Option.some.injEq] at h
      obtain ⟨hvalid, event, hevent, haudit, task, htask, ⟨htitle, hdescription⟩, _, hrun,
        ⟨hprojection, hsequence⟩, hcurrent, rfl⟩ := h
      have hid : row.runId = runId := Table.key_of_lookup hrow
      have hproject := (validate_identity hcurrent).1
      refine ⟨row, task, ⟨hid ▸ hrow, hvalid, ⟨event, hevent, haudit⟩, htask, ⟨?_, ?_, htitle,
        hdescription⟩, ?_⟩, hid, rfl⟩
      · exact (validate_identity hcurrent).2.trans (validate_identity hvalid).2.symm
      · exact hproject.trans (validate_identity hvalid).1.symm
      · rw [hid, hrun, ← hprojection, ← hsequence]
  · rintro ⟨_, task, hloads, rfl, rfl⟩
    obtain ⟨event, hevent, haudit⟩ := hloads.audit
    simp only [loadRecord, hloads.found, eq_ok, Option.some.injEq]
    exact ⟨hloads.valid, event, hevent, haudit, task, hloads.taskFound,
      ⟨hloads.same.title, hloads.same.description⟩, _, hloads.runFound, ⟨rfl, rfl⟩,
      validate_task hloads.valid hloads.same, rfl⟩

theorem loadAll_eq_ok {runIds : List Uuid} {records : List A2aRunRecord}
    (h : s.loadAll fingerprint runIds = .ok records) :
    ∀ runId ∈ runIds, ∃ record ∈ records, s.loadRecord fingerprint runId = .ok (some record) := by
  induction runIds generalizing records with
  | nil => simp
  | cons first rest ih =>
    simp only [loadAll, eq_ok] at h
    obtain ⟨_, hload, record, rfl, _, hothers, rfl⟩ := h
    intro runId hmem
    rcases mem_cons.1 hmem with rfl | hmem
    · exact ⟨record, mem_cons_self, hload⟩
    · obtain ⟨other, hother, hfound⟩ := ih hothers runId hmem
      exact ⟨other, mem_cons_of_mem _ hother, hfound⟩

/-- No other run of the task is live. -/
theorem hasOtherLiveRuns_false {taskId : Uuid} {except : List Uuid}
    (hunique : Table.Unique A2aRow.runId s.records)
    (h : s.hasOtherLiveRuns fingerprint taskId except = .ok false) :
    ∀ row ∈ s.records, row.record.task.taskId = taskId → row.runId ∉ except →
      row.record.run.status.isA2aTerminal = true := by
  simp only [hasOtherLiveRuns, recordsForTask, eq_ok] at h
  obtain ⟨records, ⟨-, hrecords⟩, hnone⟩ := h
  intro row hrow htask hexcept
  have hmem : row.runId ∈ s.runIdsOf taskId :=
    mem_map.2 ⟨row, mem_filter.2 ⟨hrow, by simpa using htask⟩, rfl⟩
  obtain ⟨record, hrecord, hload⟩ := loadAll_eq_ok hrecords row.runId hmem
  obtain ⟨row', _, hloads, hid, rfl⟩ := loadRecord_eq_some.1 hload
  obtain rfl : row' = row := hunique.eq_of_mem (Table.mem_of_lookup hloads.found) hrow hid
  have hdead := any_eq_false.1 hnone _ hrecord
  have hid' : row'.record.run.runId ∉ except := hexcept
  simpa [loaded, hid'] using hdead

/-! ## Actions -/

/-- What the receipt of a verifier requires of the two runs: they are those of a worker and of a
reviewer or verifier of one task and base commit, on different peers, workspaces and branches, both
completed remotely, neither cancelled, and both reported what the receipt names. -/
structure Independent (worker reviewer : A2aRunRecord) (receipt : VerificationReceipt) : Prop where
  workerRole : worker.run.role = "worker".toList
  reviewerRole : reviewer.run.role = "reviewer".toList ∨ reviewer.run.role = "verifier".toList
  running : worker.run.status = .running ∧ reviewer.run.status = .running
  runs : worker.run.runId ≠ reviewer.run.runId
  task : worker.run.taskId = reviewer.run.taskId
  baseCommit : worker.run.baseCommit = reviewer.run.baseCommit
  peers : worker.binding.peerId ≠ reviewer.binding.peerId
  workspaces : worker.workspace.pathKey ≠ reviewer.workspace.pathKey
  branches : Text.toAsciiLowercase worker.workspace.branch ≠
    Text.toAsciiLowercase reviewer.workspace.branch
  completed : worker.binding.lastRemoteState = .completed ∧
    reviewer.binding.lastRemoteState = .completed
  uncancelled : worker.binding.cancellationState = .none ∧ reviewer.binding.cancellationState = .none
  artifact : ∃ artifact ∈ worker.binding.artifacts, artifact.sha256 = receipt.artifactSha256
  review : ∃ artifact ∈ reviewer.binding.artifacts, artifact.sha256 = receipt.reviewSha256

theorem independent_of_verifiable {reviewer : A2aRunRecord}
    (h : verifiable worker reviewer receipt timestamp = true) :
    Independent worker reviewer receipt := by
  simp only [verifiable, Bool.and_eq_true, Bool.or_eq_true, decide_eq_true_eq, any_eq_true] at h
  obtain ⟨⟨⟨⟨⟨⟨⟨⟨⟨⟨⟨⟨⟨⟨⟨⟨⟨hrole, hrunning⟩, hreviewer⟩, hrunning'⟩, hruns⟩, hpeers⟩, htask⟩, -⟩, hbase⟩,
    hpaths⟩, hbranches⟩, hdone⟩, hdone'⟩, hfree⟩, hfree'⟩, -⟩, hartifact⟩, hreview⟩ := h
  exact ⟨hrole, hreviewer, ⟨hrunning, hrunning'⟩, hruns, htask, hbase, hpeers, hpaths, hbranches,
    ⟨hdone, hdone'⟩, ⟨hfree, hfree'⟩, hartifact, hreview⟩

/-- The record of the worker after a receipt. -/
def verifiedWorker (worker : A2aRunRecord) (receipt : VerificationReceipt) (task : Task) :
    A2aRunRecord :=
  { worker with
    run := { worker.run with status := if receipt.accepted then .succeeded else .failed }
    task
    binding := { worker.binding with verification := some receipt } }

/-- The record of the reviewer after a receipt. -/
def verifiedReviewer (reviewer : A2aRunRecord) (receipt : VerificationReceipt) (task : Task)
    (timestamp : Timestamp) : A2aRunRecord :=
  { reviewer with
    run := { reviewer.run with status := .succeeded }
    task
    binding := { reviewer.binding with verification := some receipt, updatedAt := timestamp }
    version := reviewer.version + 1 }

/-- What an action requires of the loaded record, and what it leaves. -/
inductive Acted (fingerprint : A2aDocument → Sha256Digest) (s : A2aStore) (record : A2aRunRecord)
    (timestamp : Timestamp) : A2aRunAction → A2aRunRecord → Option A2aRunRecord → Prop
  | started (hstatus : record.run.status = .preparing) :
      Acted fingerprint s record timestamp .start
        { record with run := { record.run with status := .running } } none
  | observed (state : A2aRemoteState) (artifacts : List ArtifactReference)
      (hlive : record.run.status = .preparing ∨ record.run.status = .running) :
      Acted fingerprint s record timestamp (.observe state artifacts)
        { record with binding := { record.binding with lastRemoteState := state, artifacts } } none
  | requested (hnone : record.binding.cancellationState = .none) :
      Acted fingerprint s record timestamp .requestCancellation
        { record with binding := { record.binding with cancellationState := .requested } } none
  /-- The remote cancellation ended the run while other runs of the task are live. -/
  | confirmed (target : RunStatus) (task : Task) (hcan : record.run.status.canTransitionTo target = true)
      (htarget : target = .failed ∨ target = .stopped) (hsame : SameTask record.task task)
      (hblocked : task.status = .blocked) :
      Acted fingerprint s record timestamp .confirmCancellation
        { record with
          run := { record.run with status := target }
          task
          binding := { record.binding with cancellationState := .confirmed } } none
  /-- The remote cancellation ended the last live run of the task. -/
  | confirmedLast (target : RunStatus) (task : Task)
      (hcan : record.run.status.canTransitionTo target = true)
      (htarget : target = .failed ∨ target = .stopped)
      (hlast : s.hasOtherLiveRuns fingerprint record.task.taskId [record.run.runId] = .ok false)
      (hsame : SameTask record.task task) (hcancelled : task.status = .cancelled) :
      Acted fingerprint s record timestamp .confirmCancellation
        { record with
          run := { record.run with status := target }
          task
          binding := { record.binding with cancellationState := .confirmed } } none
  | finalized (task : Task) (hterminal : record.run.status.isA2aTerminal = true)
      (hlast : s.hasOtherLiveRuns fingerprint record.task.taskId [] = .ok false)
      (hsame : SameTask record.task task) (hcancelled : task.status = .cancelled) :
      Acted fingerprint s record timestamp .finalizeCancellation { record with task } none
  | failed (code : List Char) (task : Task) (hcan : record.run.status.canTransitionTo .failed = true)
      (hsame : SameTask record.task task) (hblocked : task.status = .blocked) :
      Acted fingerprint s record timestamp (.fail code)
        { record with run := { record.run with status := .failed }, task } none
  | verified (receipt : VerificationReceipt) (reviewer : A2aRunRecord) (task : Task)
      (hreviewer : s.loadRecord fingerprint receipt.reviewerRunId = .ok (some reviewer))
      (hindependent : Independent record reviewer receipt)
      (hlast : s.hasOtherLiveRuns fingerprint record.task.taskId
        [record.run.runId, reviewer.run.runId] = .ok false)
      (hsame : SameTask record.task task)
      (hstatus : task.status = if receipt.accepted then .done else .blocked)
      (hvalid : (verifiedReviewer reviewer receipt task timestamp).validate = .ok ()) :
      Acted fingerprint s record timestamp (.verify receipt) (verifiedWorker record receipt task)
        (some (verifiedReviewer reviewer receipt task timestamp))

theorem verifyPair_acted {worker' reviewer' : A2aRunRecord}
    (h : s.verifyPair fingerprint worker receipt timestamp = .ok (worker', reviewer')) :
    Acted fingerprint s worker timestamp (.verify receipt) worker' (some reviewer') := by
  simp only [verifyPair, eq_ok, checkedSucc_eq_some] at h
  obtain ⟨_, hload, reviewer, rfl, -, hverifiable, _, hlast, rfl, _, hworkerRun, _,
    hreviewerRun, task, htask, _, ⟨-, rfl⟩, hvalid, rfl, rfl⟩ := h
  obtain ⟨-, rfl⟩ := transitionRun_eq_ok hworkerRun
  obtain ⟨-, rfl⟩ := transitionRun_eq_ok hreviewerRun
  have htask' : SameTask worker.task task ∧
      task.status = if receipt.accepted = true then .done else .blocked := by
    unfold verifiedTask at htask
    split_ifs at htask ⊢
    · obtain ⟨hsame, -, hdone⟩ := transitionTask_eq_ok htask
      exact ⟨hsame, hdone⟩
    · exact blockTask_eq_ok htask
  exact .verified receipt reviewer task hload (independent_of_verifiable hverifiable) hlast htask'.1
    htask'.2 hvalid

theorem applyAction_acted {record acted : A2aRunRecord} {related : Option A2aRunRecord}
    {action : A2aRunAction}
    (h : s.applyAction fingerprint record timestamp action = .ok (acted, related)) :
    Acted fingerprint s record timestamp action acted related := by
  cases action
  all_goals simp only [applyAction, eq_ok] at h
  case start =>
    obtain ⟨-, run, hrun, rfl, rfl⟩ := h
    obtain ⟨hcan, rfl⟩ := transitionRun_eq_ok hrun
    refine .started ?_
    revert hcan
    cases record.run.status <;> simp [RunStatus.canTransitionTo]
  case observe state artifacts =>
    obtain ⟨⟨hlive, -⟩, rfl, rfl⟩ := h
    exact .observed state artifacts hlive
  case requestCancellation =>
    obtain ⟨hnone, rfl, rfl⟩ := h
    exact .requested hnone
  case confirmCancellation =>
    obtain ⟨-, run, hrun, others, hothers, task, htask, rfl, rfl⟩ := h
    obtain ⟨hcan, rfl⟩ := transitionRun_eq_ok hrun
    have htarget : (if record.run.status = .preparing then RunStatus.failed else .stopped) = .failed ∨
        (if record.run.status = .preparing then RunStatus.failed else .stopped) = .stopped := by
      split_ifs <;> simp
    cases others with
    | true =>
      obtain ⟨hsame, hblocked⟩ := blockTask_eq_ok htask
      exact .confirmed _ task hcan htarget hsame hblocked
    | false =>
      obtain ⟨hsame, -, hcancelled⟩ := transitionTask_eq_ok htask
      exact .confirmedLast _ task hcan htarget hothers hsame hcancelled
  case finalizeCancellation =>
    obtain ⟨hterminal, _, hlast, rfl, task, htask, rfl, rfl⟩ := h
    obtain ⟨hsame, -, hcancelled⟩ := transitionTask_eq_ok htask
    exact .finalized task hterminal hlast hsame hcancelled
  case fail code =>
    obtain ⟨_, hrun, task, htask, rfl, rfl⟩ := h
    obtain ⟨hcan, rfl⟩ := transitionRun_eq_ok hrun
    obtain ⟨hsame, hblocked⟩ := blockTask_eq_ok htask
    exact .failed code task hcan hsame hblocked
  case verify receipt =>
    obtain ⟨_, _, hpair, rfl, rfl⟩ := h
    exact verifyPair_acted hpair

end Vibemux.A2aStore
