import Vibemux.Store.Proofs.A2aInvariantProofs

/-!
# A remote task is done only after independent verification

A task is done only after a verifier's receipt about two independent runs, a run succeeds only by such a
receipt, a run that has ended is written again only by the final cancellation, and a live run can always
be failed.
-/

namespace Vibemux.A2aStore

open Checked Machine Table List Option

variable {fingerprint : A2aDocument → Sha256Digest} {s s' : A2aStore} {update : A2aRunUpdate}
  {row : A2aRow} {task : Task} {acted : A2aRunRecord} {related : Option A2aRunRecord}
  {timestamp : Timestamp} {action : A2aRunAction} {id : Uuid} {op : A2aOp}
  {outcome : A2aCommitOutcome} {l : List (Transition A2aStore A2aOp A2aCommitOutcome)}
  {record : A2aRunRecord} {old : A2aRow} {new : A2aRow} {reviewer : A2aRunRecord} {s₀ : A2aStore}

/-- A call that was committed, and not one that repeats a command. -/
def Commits (t : Transition A2aStore A2aOp A2aCommitOutcome) (update : A2aRunUpdate) : Prop :=
  t.input = .update update ∧ t.response.duplicate = false

/-- A verifier's receipt about two independent runs was committed. -/
structure Verified (fingerprint : A2aDocument → Sha256Digest)
    (t : Transition A2aStore A2aOp A2aCommitOutcome) (receipt : VerificationReceipt)
    (worker reviewer : A2aRunRecord) : Prop where
  committed : ∃ update, Commits t update ∧ update.action = .verify receipt ∧
    t.pre.loadRecord fingerprint update.runId = .ok (some worker)
  reviewerLoaded : t.pre.loadRecord fingerprint receipt.reviewerRunId = .ok (some reviewer)
  independent : Independent worker reviewer receipt

/-! ## Steps -/

/-- What an action does to the cancellation state and to a run that has ended. -/
theorem Acted.kept (h : Acted fingerprint s record timestamp action acted related) :
    (record.binding.cancellationState ≠ .none → acted.binding.cancellationState ≠ .none) ∧
      (action = .requestCancellation → acted.binding.cancellationState ≠ .none) ∧
      (action = .finalizeCancellation → acted.run = record.run ∧
        acted.binding.cancellationState = record.binding.cancellationState) := by
  cases h with
  | started => exact ⟨id, by simp, by simp⟩
  | observed => exact ⟨id, by simp, by simp⟩
  | requested => exact ⟨by simp, by simp, by simp⟩
  | confirmed => exact ⟨by simp, by simp, by simp⟩
  | confirmedLast => exact ⟨by simp, by simp, by simp⟩
  | finalized => exact ⟨id, by simp, fun _ => ⟨rfl, rfl⟩⟩
  | failed => exact ⟨id, by simp, by simp⟩
  | verified => exact ⟨id, by simp, by simp⟩

/-- Only a receipt writes a second run. -/
theorem Acted.related_eq {record : A2aRunRecord}
    (h : Acted fingerprint s record timestamp action acted (some reviewer)) :
    ∃ receipt stored task, action = .verify receipt ∧
      s.loadRecord fingerprint receipt.reviewerRunId = .ok (some stored) ∧
      Independent record stored receipt ∧
      reviewer = verifiedReviewer stored receipt task timestamp := by
  cases h with
  | verified receipt stored task hreviewer hindependent =>
    exact ⟨receipt, stored, task, rfl, hreviewer, hindependent, rfl⟩

/-- The row of a run after a call: a run never loses its row, a cancellation stays requested, and a run
that has ended is written only by the final cancellation, which leaves the run. -/
structure Kept (row row' : A2aRow) : Prop where
  cancellation : row.record.binding.cancellationState ≠ .none →
    row'.record.binding.cancellationState ≠ .none
  ended : row.record.run.status.isA2aTerminal = true → row'.record.run = row.record.run ∧
    row'.record.binding.cancellationState = row.record.binding.cancellationState

theorem Kept.refl (row : A2aRow) : Kept row row := ⟨id, fun _ => ⟨rfl, rfl⟩⟩

theorem Moved.kept (h : Moved fingerprint s s' update row task acted related)
    (hold : lookup A2aRow.runId s.records id = some old) :
    ∃ new, lookup A2aRow.runId s'.records id = some new ∧ Kept old new ∧
      (old.record.run.status.isA2aTerminal = true → new = old ∨
        (update.runId = id ∧ update.action = .finalizeCancellation)) := by
  by_cases hself : id = row.runId
  · subst hself
    obtain rfl : old = row := some.inj (hold.symm.trans h.loads.found)
    obtain ⟨hcancellation, -, hfinal⟩ := h.action.kept
    refine ⟨_, h.lookup_self.1, ⟨hcancellation, fun hterminal => hfinal (h.live hterminal)⟩,
      fun hterminal => .inr ⟨h.runId.symm, h.live hterminal⟩⟩
  · by_cases hreviewer : ∃ reviewer, related = some reviewer ∧ id = reviewer.run.runId
    · obtain ⟨reviewer, rfl, rfl⟩ := hreviewer
      obtain ⟨_, _, _, -, hreviewer, hindependent, rfl⟩ := h.action.related_eq
      obtain ⟨row', current, hloads, -, rfl⟩ := loadRecord_eq_some.1 hreviewer
      obtain rfl : old = row' := some.inj (hold.symm.trans hloads.found)
      have hrunning : old.record.run.status = .running := hindependent.running.2
      have hlive : ¬ old.record.run.status.isA2aTerminal = true := by
        rw [hrunning]
        simp [RunStatus.isA2aTerminal]
      exact ⟨_, h.lookup_reviewer.1, ⟨id, fun hended => absurd hended hlive⟩,
        fun hended => absurd hended hlive⟩
    · have hrelated : ∀ reviewer ∈ related, id ≠ reviewer.run.runId :=
        fun reviewer hmem hid => hreviewer ⟨reviewer, hmem, hid⟩
      exact ⟨old, (h.lookup_of_ne hself hrelated).1.trans hold, .refl old, fun _ => .inl rfl⟩

section

variable (h : Acted fingerprint s record timestamp action acted related)
include h

/-- Which runs an action makes succeed. -/
theorem Acted.succeeded
    (hbefore : record.run.status ≠ .succeeded) (hafter : acted.run.status = .succeeded) :
    ∃ receipt reviewer, action = .verify receipt ∧ receipt.accepted = true ∧
      s.loadRecord fingerprint receipt.reviewerRunId = .ok (some reviewer) ∧
      Independent record reviewer receipt := by
  cases h with
  | started => cases hafter
  | observed => exact absurd hafter hbefore
  | requested => exact absurd hafter hbefore
  | confirmed _ _ _ htarget => rcases htarget with rfl | rfl <;> cases hafter
  | confirmedLast _ _ _ htarget => rcases htarget with rfl | rfl <;> cases hafter
  | finalized => exact absurd hafter hbefore
  | failed => cases hafter
  | verified receipt reviewer _ hreviewer hindependent =>
    refine ⟨receipt, reviewer, rfl, ?_, hreviewer, hindependent⟩
    by_contra hrejected
    simp [verifiedWorker, hrejected] at hafter

/-- Which action makes a task done. -/
theorem Acted.done (hdone : acted.task.status = .done) :
    acted.task = record.task ∨ ∃ receipt reviewer task, action = .verify receipt ∧
      receipt.accepted = true ∧
      s.loadRecord fingerprint receipt.reviewerRunId = .ok (some reviewer) ∧
      Independent record reviewer receipt ∧ acted = verifiedWorker record receipt task ∧
      related = some (verifiedReviewer reviewer receipt task timestamp) := by
  cases h with
  | started => exact .inl rfl
  | observed => exact .inl rfl
  | requested => exact .inl rfl
  | confirmed _ _ _ _ _ hblocked => cases hdone.symm.trans hblocked
  | confirmedLast _ _ _ _ _ _ hcancelled => cases hdone.symm.trans hcancelled
  | finalized _ _ _ _ hcancelled => cases hdone.symm.trans hcancelled
  | failed _ _ _ _ hblocked => cases hdone.symm.trans hblocked
  | verified receipt reviewer task hreviewer hindependent _ _ hstatus =>
    refine .inr ⟨receipt, reviewer, task, rfl, ?_, hreviewer, hindependent, rfl, rfl⟩
    by_contra hrejected
    rw [if_neg hrejected] at hstatus
    cases hdone.symm.trans hstatus

end

/-- A call repeats a command, binds a run or moves one. -/
theorem step_cases (h : s.step fingerprint op = .ok (outcome, s')) :
    (outcome.duplicate = true ∧ s' = s) ∨
    (∃ start task, op = .start start ∧ Bound fingerprint s s' start task) ∨
    (outcome.duplicate = false ∧ ∃ update row task acted related, op = .update update ∧
      Moved fingerprint s s' update row task acted related) := by
  cases op with
  | start start =>
    rcases startA2aRun_eq_ok h with hrepeated | ⟨-, task, hbound⟩
    · exact .inl hrepeated
    · exact .inr (.inl ⟨start, task, rfl, hbound⟩)
  | update update =>
    rcases updateA2aRun_eq_ok h with hrepeated | ⟨hnew, row, task, acted, related, hmoved⟩
    · exact .inl hrepeated
    · exact .inr (.inr ⟨hnew, update, row, task, acted, related, rfl, hmoved⟩)

theorem Bound.kept {start : A2aRunStart} (h : Bound fingerprint s s' start task)
    (hold : lookup A2aRow.runId s.records id = some old) :
    lookup A2aRow.runId s'.records id = some old := by
  rw [h.records]
  exact lookup_append_of_isSome hold _

/-- The row of a run after any accepted call. -/
theorem kept_of_step (h : s.step fingerprint op = .ok (outcome, s'))
    (hold : lookup A2aRow.runId s.records id = some old) :
    ∃ new, lookup A2aRow.runId s'.records id = some new ∧ Kept old new ∧
      (old.record.run.status.isA2aTerminal = true → new = old ∨
        ∃ update, op = .update update ∧ update.runId = id ∧
          update.action = .finalizeCancellation) := by
  rcases step_cases h with ⟨-, rfl⟩ | ⟨start, task, rfl, hbound⟩ |
    ⟨-, update, row, task, acted, related, rfl, hmoved⟩
  · exact ⟨old, hold, .refl old, fun _ => .inl rfl⟩
  · exact ⟨old, hbound.kept hold, .refl old, fun _ => .inl rfl⟩
  · obtain ⟨new, hnew, hkept, hended⟩ := hmoved.kept hold
    refine ⟨new, hnew, hkept, fun hterminal => ?_⟩
    rcases hended hterminal with hsame | hfinal
    · exact .inl hsame
    · exact .inr ⟨update, rfl, hfinal⟩

/-! ## Histories -/

/-- A run that ended and that nobody asked to cancel. -/
def Settled (s : A2aStore) (id : Uuid) : Prop :=
  ∃ row, Table.lookup A2aRow.runId s.records id = some row ∧
    row.record.run.status.isA2aTerminal = true ∧ row.record.binding.cancellationState = .none

theorem Settled.step (hsettled : Settled s id) (h : s.step fingerprint op = .ok (outcome, s')) :
    Settled s' id := by
  obtain ⟨row, hrow, hterminal, hnone⟩ := hsettled
  obtain ⟨new, hnew, hkept, -⟩ := kept_of_step h hrow
  obtain ⟨hrun, hcancellation⟩ := hkept.ended hterminal
  exact ⟨new, hnew, hrun ▸ hterminal, hcancellation.trans hnone⟩

/-- The two runs of a receipt are settled by it. -/
theorem Moved.settled {receipt : VerificationReceipt} {shared : Task}
    (h : Moved fingerprint s s' update row task (verifiedWorker (loaded row task) receipt shared) (some (verifiedReviewer reviewer receipt shared update.timestamp)))
    (hindependent : Independent (loaded row task) reviewer receipt) :
    Settled s' row.runId ∧ Settled s' reviewer.run.runId := by
  refine ⟨⟨_, h.lookup_self.1, ?_, hindependent.uncancelled.1⟩,
    ⟨_, h.lookup_reviewer.1, rfl, hindependent.uncancelled.2⟩⟩
  by_cases haccepted : receipt.accepted = true
  · simp [committed, verifiedWorker, haccepted, RunStatus.isA2aTerminal]
  · simp [committed, verifiedWorker, haccepted, RunStatus.isA2aTerminal]

/-- An accepted receipt about two independent runs of a task, which stay settled. -/
def DoneBy (fingerprint : A2aDocument → Sha256Digest)
    (l : List (Transition A2aStore A2aOp A2aCommitOutcome)) (s : A2aStore) (taskId : Uuid) : Prop :=
  ∃ t ∈ l, ∃ receipt worker reviewer, receipt.accepted = true ∧ worker.run.taskId = taskId ∧
    Verified fingerprint t receipt worker reviewer ∧ Settled s worker.run.runId ∧
    Settled s reviewer.run.runId

theorem DoneBy.step {taskId : Uuid} (hdone : DoneBy fingerprint l s taskId)
    (h : s.step fingerprint op = .ok (outcome, s')) :
    DoneBy fingerprint (l ++ [⟨s, op, outcome, s'⟩]) s' taskId := by
  obtain ⟨t, ht, receipt, worker, reviewer, haccepted, htask, hverified, hworker, hreviewer⟩ := hdone
  exact ⟨t, mem_append_left _ ht, receipt, worker, reviewer, haccepted, htask, hverified,
    hworker.step h, hreviewer.step h⟩

/-- What the rows say about the calls so far. -/
structure HistoryInv (fingerprint : A2aDocument → Sha256Digest)
    (l : List (Transition A2aStore A2aOp A2aCommitOutcome)) (s : A2aStore) : Prop where
  inv : Inv fingerprint s
  requested : ∀ t ∈ l, ∀ update, Commits t update → update.action = .requestCancellation →
    ∃ row, Table.lookup A2aRow.runId s.records update.runId = some row ∧
      row.record.binding.cancellationState ≠ .none
  done : ∀ row ∈ s.records, ∀ task,
    Table.lookup Task.taskId s.tasks row.record.run.taskId = some task → task.status = .done →
    DoneBy fingerprint l s row.record.run.taskId

/-- A row after a move is of the moved task, or it was there before. -/
theorem Moved.mem_cases (hinv : Inv fingerprint s)
    (h : Moved fingerprint s s' update row task acted related) (hnew : new ∈ s'.records) :
    new.record.run.taskId = row.record.run.taskId ∨ new ∈ s.records := by
  have hlookup := (h.unique hinv).lookup_eq hnew
  by_cases hself : new.runId = row.runId
  · rw [hself, h.lookup_self.1] at hlookup
    rw [← some.inj hlookup]
    exact .inl h.action.same.2.2
  · by_cases hreviewer : ∃ reviewer, related = some reviewer ∧ new.runId = reviewer.run.runId
    · obtain ⟨reviewer, rfl, hid⟩ := hreviewer
      obtain ⟨_, _, _, _, htask, htask', _⟩ := h.action.reviewer
      rw [hid, h.lookup_reviewer.1] at hlookup
      rw [← some.inj hlookup]
      exact .inl (htask.trans htask')
    · have hrelated : ∀ reviewer ∈ related, new.runId ≠ reviewer.run.runId :=
        fun reviewer hmem hid => hreviewer ⟨reviewer, hmem, hid⟩
      rw [(h.lookup_of_ne hself hrelated).1] at hlookup
      exact .inr (mem_of_lookup hlookup)

section

variable (hinv : HistoryInv fingerprint l s)
include hinv

theorem HistoryInv.requested_step (h : s.step fingerprint op = .ok (outcome, s')) :
    ∀ t ∈ l ++ [⟨s, op, outcome, s'⟩], ∀ update, Commits t update →
      update.action = .requestCancellation →
      ∃ row, lookup A2aRow.runId s'.records update.runId = some row ∧
        row.record.binding.cancellationState ≠ .none := by
  intro t ht update hcommits haction
  rcases mem_append.1 ht with hold | hlast
  · obtain ⟨row, hrow, hrequested⟩ := hinv.requested t hold update hcommits haction
    obtain ⟨new, hnew, hkept, -⟩ := kept_of_step h hrow
    exact ⟨new, hnew, hkept.cancellation hrequested⟩
  · rw [mem_singleton.1 hlast] at hcommits
    obtain ⟨hinput, hfresh⟩ := hcommits
    subst hinput
    rcases updateA2aRun_eq_ok h with ⟨hduplicate, -⟩ | ⟨-, _, _, _, _, hmoved⟩
    · rw [hfresh] at hduplicate
      cases hduplicate
    · exact ⟨_, hmoved.runId ▸ hmoved.lookup_self.1, hmoved.action.kept.2.1 haction⟩

theorem HistoryInv.done_moved (hstep : s.step fingerprint (.update update) = .ok (outcome, s'))
    (hfresh : outcome.duplicate = false) (h : Moved fingerprint s s' update row task acted related)
    (hdone : acted.task.status = .done) :
    DoneBy fingerprint (l ++ [⟨s, .update update, outcome, s'⟩]) s' row.record.run.taskId := by
  rcases h.action.done hdone with
    hsame | ⟨receipt, reviewer, shared, haction, haccepted, hreviewer, hindependent, rfl, rfl⟩
  · rw [hsame] at hdone
    have hbefore := hinv.done row (mem_of_lookup h.loads.found) task h.loads.taskFound hdone
    exact hbefore.step hstep
  · obtain ⟨hworker, hreviewer'⟩ := h.settled hindependent
    refine ⟨_, mem_append_right _ (mem_singleton_self _), receipt, loaded row task, reviewer,
      haccepted, rfl, ⟨⟨update, ⟨rfl, hfresh⟩, haction, ?_⟩, hreviewer, hindependent⟩, hworker,
      hreviewer'⟩
    exact loadRecord_eq_some.2 ⟨row, task, h.loads, h.runId, rfl⟩

/-- One call keeps what the rows say about the history. -/
theorem HistoryInv.step (h : s.step fingerprint op = .ok (outcome, s')) :
    HistoryInv fingerprint (l ++ [⟨s, op, outcome, s'⟩]) s' := by
  refine ⟨hinv.inv.step h, hinv.requested_step h, fun new hnew task' htask' hdone => ?_⟩
  rcases step_cases h with ⟨-, rfl⟩ | ⟨start, task, rfl, hbound⟩ |
    ⟨hfresh, update, row, task, acted, related, rfl, hmoved⟩
  · exact (hinv.done new hnew task' htask' hdone).step h
  · by_cases hid : new.record.run.taskId = task.taskId
    · rw [hid, hbound.tasks, lookup_upsert_self] at htask'
      rw [← some.inj htask', hbound.inProgress] at hdone
      cases hdone
    · rw [hbound.tasks, lookup_upsert_of_ne hid] at htask'
      rw [hbound.records] at hnew
      rcases mem_append.1 hnew with hold | hlast
      · exact (hinv.done new hold task' htask' hdone).step h
      · rw [mem_singleton.1 hlast] at hid
        exact absurd (validate_identity hbound.valid).2.symm hid
  · by_cases hid : new.record.run.taskId = row.record.run.taskId
    · rw [hid] at htask' ⊢
      rw [hmoved.task_found rfl] at htask'
      rw [← some.inj htask'] at hdone
      exact hinv.done_moved h hfresh hmoved hdone
    · have hne : new.record.run.taskId ≠ acted.task.taskId := by
        intro heq
        have hsaved : acted.task.taskId = task.taskId := hmoved.action.same.1.taskId
        exact hid (heq.trans (hsaved.trans (key_of_lookup hmoved.loads.taskFound)))
      rw [hmoved.tasks, lookup_upsert_of_ne hne] at htask'
      rcases hmoved.mem_cases hinv.inv hnew with hsame | hold
      · exact absurd hsame hid
      · exact (hinv.done new hold task' htask' hdone).step h

end

/-! ## Failing a live run -/

/-- The record of a run that failed. -/
def failedRecord (row : A2aRow) (task : Task) : A2aRunRecord :=
  { loaded row task with
    run := { row.record.run with status := .failed }
    task := { task with status := .blocked } }

theorem blockTask_of_live (htaken : task.status ≠ .open) (hopen : ¬ IsClosed task) :
    blockTask task = .ok { task with status := .blocked } := by
  rcases task with ⟨_, _, _, _, status⟩
  cases status with
  | «open» => exact absurd rfl htaken
  | inProgress => rfl
  | blocked => rfl
  | done => exact absurd (.inl rfl) hopen
  | cancelled => exact absurd (.inr rfl) hopen

theorem transitionRun_failed {run : Run} (hlive : run.status.isA2aTerminal = false) :
    transitionRun run .failed none = .ok { run with status := .failed } := by
  rcases run with ⟨_, _, _, _, _, _, _, status⟩
  cases status with
  | preparing => rfl
  | running => rfl
  | stale => rfl
  | stopped => cases hlive
  | failed => cases hlive
  | succeeded => cases hlive

theorem validate_failedRecord (hvalid : row.record.validate = .ok ())
    (hsame : SameTask row.record.task task) (htimestamp : validateTimestamp timestamp = .ok ())
    (hlater : row.record.binding.updatedAt ≤ timestamp) :
    (committed (failedRecord row task) timestamp).validate = .ok () := by
  simp only [A2aRunRecord.validate, eq_ok] at hvalid ⊢
  obtain ⟨⟨hschema, _, hproject, htask, hbinding⟩, hfields, hkey, hcreated, _, horder,
    hworkspace, hartifacts, hreceipt, -⟩ := hvalid
  refine ⟨⟨hschema, Nat.succ_ne_zero _, hsame.projectId.trans hproject, hsame.taskId.trans htask,
    hbinding⟩, hfields, hkey, hcreated, htimestamp, horder.trans hlater, hworkspace, hartifacts, hreceipt,
    ?_⟩
  simp [committed, failedRecord]

/-- A key that no event carries is not a repeated command. -/
theorem duplicate_of_unused {key : List Char} (hinv : Inv fingerprint s)
    (hunused : ∀ event ∈ s.events, event.idempotencyKey ≠ key) (print : Sha256Digest) :
    s.duplicate fingerprint key print = .ok none := by
  have hcommand : lookup A2aCommand.idempotencyKey s.commands key = none := by
    refine lookup_eq_none.2 fun command hcommand hkey => ?_
    obtain ⟨event, hevent, hsame⟩ := hinv.commands command hcommand
    exact hunused event hevent (hsame.trans hkey)
  have hevents : (s.events.any fun event => decide (event.idempotencyKey = key)) = false := by
    simpa using hunused
  simp [duplicate, hcommand, hevents, ensure, bind, Except.bind, pure, Except.pure]

theorem updateRecord_of_next (hold : lookup A2aRow.runId s.records record.run.runId = some old)
    (hnext : old.record.version + 1 = record.version) (sequence : Nat) :
    s.updateRecord record sequence = .ok { s with
      records := put A2aRow.runId s.records ⟨record, sequence⟩
      runs := upsert RunProjection.runId s.runs ⟨record.run, sequence⟩ } := by
  simp only [updateRecord, eq_ok]
  exact ⟨by simp [hold, hnext], rfl⟩

/-- A call commits when its record loads as the call expects it, its key is not used, its action applies
and the record after it is valid. -/
theorem update_accepted (hinv : Inv fingerprint s) (hvalid : update.validate = .ok ())
    (hunused : ∀ event ∈ s.events, event.idempotencyKey ≠ update.idempotencyKey)
    (hload : s.loadRecord fingerprint update.runId = .ok (some record))
    (hguards : record.version = update.expectedVersion ∧ record.binding.updatedAt ≤ update.timestamp ∧
      record.run.status.isA2aTerminal = false)
    (hact : s.applyAction fingerprint record update.timestamp update.action = .ok (acted, related))
    (hversion : acted.version = record.version ∧ record.version < u64Max)
    (hrecord : (committed acted update.timestamp).validate = .ok ())
    (hrelated : ∀ reviewer ∈ related, reviewer.run.runId ≠ acted.run.runId ∧
      ∃ row, lookup A2aRow.runId s.records reviewer.run.runId = some row ∧
        row.record.version + 1 = reviewer.version) :
    ∃ outcome s', s.step fingerprint (.update update) = .ok (outcome, s') ∧
      s'.tasks = upsert Task.taskId s.tasks acted.task ∧
      s'.records = savedRecords s.records (committed acted update.timestamp) related
        (s.events.length + 1) := by
  obtain ⟨row, task, hloads, -, rfl⟩ := loadRecord_eq_some.1 hload
  have hrun : acted.run.runId = row.runId := (applyAction_acted hact).same.2.1
  have hupdate := hvalid
  simp only [A2aRunUpdate.validate, eq_ok, validateIdempotencyKey, validIdentifier, Bool.and_eq_true,
    decide_eq_true_eq] at hupdate
  have hfresh : (s.events.any fun other => decide (other.idempotencyKey = update.idempotencyKey)) =
      false := by simpa using hunused
  let record := committed acted update.timestamp
  let sequence := s.events.length + 1
  let logged : A2aStore :=
    { s with events := s.events ++ [auditEvent fingerprint record related update.idempotencyKey] }
  have hcurrent : lookup A2aRow.runId logged.records record.run.runId = some row :=
    hrun ▸ hloads.found
  have hnext : row.record.version + 1 = record.version := congrArg (· + 1) hversion.1.symm
  have hworker := updateRecord_of_next hcurrent hnext sequence
  have hsaved : ∃ after, updateRelated { logged with
      records := put A2aRow.runId s.records ⟨record, sequence⟩
      runs := upsert RunProjection.runId s.runs ⟨record.run, sequence⟩ } related sequence = .ok after ∧
        after.tasks = s.tasks ∧ after.records = savedRecords s.records record related sequence := by
    cases related with
    | none => exact ⟨_, rfl, rfl, rfl⟩
    | some reviewer =>
      obtain ⟨hother, old, hold, hstored⟩ := hrelated reviewer rfl
      have hkept : lookup A2aRow.runId (put A2aRow.runId s.records ⟨record, sequence⟩)
          reviewer.run.runId = some old := by
        rwa [lookup_put_of_ne (show _ ≠ A2aRow.runId ⟨record, sequence⟩ from hother)]
      exact ⟨_, updateRecord_of_next hkept hstored sequence, rfl, rfl⟩
  obtain ⟨after, hafter, htasks, hrecords⟩ := hsaved
  refine ⟨⟨record, auditEvent fingerprint record related update.idempotencyKey, false⟩,
    (after.saveTask acted.task).saveCommand
      ⟨update.idempotencyKey, fingerprint (.update update), record, sequence⟩, ?_,
    congrArg (upsert Task.taskId · acted.task) htasks, hrecords⟩
  simp only [step, updateA2aRun, eq_ok]
  refine ⟨hvalid, none, duplicate_of_unused hinv hunused _, ?_⟩
  simp only [eq_ok, checkedSucc_eq_some, appendEvent]
  exact ⟨_, hload, _, rfl, hguards.1, hguards.2.1, fun h => absurd h (by simp [hguards.2.2]), _, _,
    hact, _, ⟨hversion.1 ▸ hversion.2, rfl⟩, hrecord, _, _, ⟨hupdate.2.1.1, hfresh, rfl, rfl⟩, _, hworker,
    _, hafter, rfl, rfl⟩

/-- Every live run can be failed: the call with its version, a key that is not used and a time that is
not before its last change is accepted. -/
theorem fail_accepted (hinv : Inv fingerprint s) (hrow : row ∈ s.records)
    (hlive : row.record.run.status.isA2aTerminal = false) {code : List Char}
    (hvalid : update.validate = .ok ()) (haction : update.action = .fail code)
    (hrun : update.runId = row.runId) (hversion : update.expectedVersion = row.record.version)
    (hroom : row.record.version < u64Max) (hlater : row.record.binding.updatedAt ≤ update.timestamp)
    (hunused : ∀ event ∈ s.events, event.idempotencyKey ≠ update.idempotencyKey) :
    ∃ outcome s' new, s.step fingerprint (.update update) = .ok (outcome, s') ∧
      lookup A2aRow.runId s'.records row.runId = some new ∧
      new.record.run.status = .failed := by
  obtain ⟨task, hrowInv⟩ := hinv.rows row hrow
  have hloads := hrowInv.loads
  have hnotClosed : ¬ IsClosed task := fun hclosed => by
    rw [hrowInv.closed hclosed] at hlive
    cases hlive
  have hload : s.loadRecord fingerprint update.runId = .ok (some (loaded row task)) :=
    loadRecord_eq_some.2 ⟨row, task, hloads, hrun.symm, rfl⟩
  have hact : s.applyAction fingerprint (loaded row task) update.timestamp update.action =
      .ok (failedRecord row task, none) := by
    have hfailed : transitionRun (loaded row task).run .failed none =
        .ok { row.record.run with status := .failed } := transitionRun_failed hlive
    have hblocked : blockTask (loaded row task).task = .ok { task with status := .blocked } :=
      blockTask_of_live hrowInv.taken hnotClosed
    rw [haction]
    simp only [applyAction, hfailed, hblocked]
    rfl
  have htimestamp : validateTimestamp update.timestamp = .ok () := by
    simp only [A2aRunUpdate.validate, eq_ok] at hvalid
    exact hvalid.2.2.1
  obtain ⟨outcome, s', hstep, -, hrecords⟩ := update_accepted hinv hvalid hunused hload
    ⟨hversion.symm, hlater, hlive⟩ hact ⟨rfl, hroom⟩
    (validate_failedRecord hloads.valid hloads.same htimestamp hlater) (by simp)
  refine ⟨outcome, s', ⟨committed (failedRecord row task) update.timestamp, s.events.length + 1⟩, hstep,
    ?_, rfl⟩
  rw [hrecords]
  exact lookup_put_self hloads.found

/-! ## The whole history -/

/-- A run that a call makes succeed. -/
theorem succeeded_of_step (h : s.step fingerprint op = .ok (outcome, s'))
    (hnew : Table.lookup A2aRow.runId s'.records id = some new)
    (hafter : new.record.run.status = .succeeded)
    (hbefore : ∀ old, Table.lookup A2aRow.runId s.records id = some old → old.record.run.status ≠ .succeeded) :
    ∃ receipt worker reviewer, Verified fingerprint ⟨s, op, outcome, s'⟩ receipt worker reviewer ∧
      ((id = worker.run.runId ∧ receipt.accepted = true) ∨ id = reviewer.run.runId) := by
  rcases step_cases h with ⟨-, rfl⟩ | ⟨start, task, rfl, hbound⟩ |
    ⟨hfresh, update, row, task, acted, related, rfl, hmoved⟩
  · exact absurd hafter (hbefore new hnew)
  · rw [hbound.records, Table.lookup_append] at hnew
    cases hold : Table.lookup A2aRow.runId s.records id with
    | some old =>
      rw [hold, some_or] at hnew
      exact absurd hafter (some.inj hnew ▸ hbefore old hold)
    | none =>
      rw [hold, none_or] at hnew
      rw [mem_singleton.1 (mem_of_lookup hnew)] at hafter
      cases hbound.preparing.symm.trans hafter
  · have hloaded : s.loadRecord fingerprint update.runId = .ok (some (loaded row task)) :=
      loadRecord_eq_some.2 ⟨row, task, hmoved.loads, hmoved.runId, rfl⟩
    by_cases hself : id = row.runId
    · subst hself
      rw [hmoved.lookup_self.1] at hnew
      rw [← some.inj hnew] at hafter
      obtain ⟨receipt, reviewer, haction, haccepted, hreviewer, hindependent⟩ :=
        hmoved.action.succeeded (hbefore row hmoved.loads.found) hafter
      exact ⟨receipt, loaded row task, reviewer, ⟨⟨update, ⟨rfl, hfresh⟩, haction, hloaded⟩, hreviewer,
        hindependent⟩, .inl ⟨rfl, haccepted⟩⟩
    · by_cases hreviewer : ∃ reviewer, related = some reviewer ∧ id = reviewer.run.runId
      · obtain ⟨reviewer, rfl, rfl⟩ := hreviewer
        obtain ⟨receipt, stored, _, haction, hstored, hindependent, rfl⟩ :=
          hmoved.action.related_eq
        exact ⟨receipt, loaded row task, stored, ⟨⟨update, ⟨rfl, hfresh⟩, haction, hloaded⟩, hstored,
          hindependent⟩, .inr rfl⟩
      · have hrelated : ∀ reviewer ∈ related, id ≠ reviewer.run.runId :=
          fun reviewer hmem hid => hreviewer ⟨reviewer, hmem, hid⟩
        rw [(hmoved.lookup_of_ne hself hrelated).1] at hnew
        exact absurd hafter (hbefore new hnew)

theorem historyInv_of_empty (hrecords : s₀.records = []) (hcommands : s₀.commands = []) :
    HistoryInv fingerprint [] s₀ := by
  refine ⟨⟨?_, ?_, ?_⟩, by simp, ?_⟩
  · simp [Table.Unique, hrecords]
  · simp [hrecords]
  · simp [hcommands]
  · simp [hrecords]

/-- The rows and the history after every run. -/
theorem history_inv (hrecords : s₀.records = []) (hcommands : s₀.commands = []) (ops : List A2aOp) :
    HistoryInv fingerprint (history (step fingerprint) s₀ ops) (final (step fingerprint) s₀ ops) :=
  history_invariant (HistoryInv fingerprint) (historyInv_of_empty hrecords hcommands)
    (fun _ _ _ _ _ hinv hstep => hinv.step hstep) ops

/-- No call of the history asked to cancel the run. -/
def NeverRequested (l : List (Transition A2aStore A2aOp A2aCommitOutcome)) (id : Uuid) : Prop :=
  ∀ t ∈ l, ∀ update, Commits t update → update.runId = id → update.action ≠ .requestCancellation

theorem HistoryInv.neverRequested (hinv : HistoryInv fingerprint l s) (hsettled : Settled s id) :
    NeverRequested l id := by
  rintro t ht update hcommits rfl haction
  obtain ⟨row, hrow, hrequested⟩ := hinv.requested t ht update hcommits haction
  obtain ⟨row', hrow', -, hnone⟩ := hsettled
  obtain rfl : row = row' := some.inj (hrow.symm.trans hrow')
  exact hrequested hnone

/-- What holds of remote tasks and runs along a run of calls. -/
structure A2aSafe (fingerprint : A2aDocument → Sha256Digest) (s₀ : A2aStore) (ops : List A2aOp) :
    Prop where
  /-- A task is done only after an accepted receipt about two independent runs of it. -/
  done : ∀ row ∈ (final (step fingerprint) s₀ ops).records, ∀ task,
    Table.lookup Task.taskId (final (step fingerprint) s₀ ops).tasks row.record.run.taskId = some task →
    task.status = .done →
    ∃ t ∈ history (step fingerprint) s₀ ops, ∃ receipt worker reviewer,
      Verified fingerprint t receipt worker reviewer ∧ receipt.accepted = true ∧
      worker.run.taskId = row.record.run.taskId ∧
      NeverRequested (history (step fingerprint) s₀ ops) worker.run.runId ∧
      NeverRequested (history (step fingerprint) s₀ ops) reviewer.run.runId
  /-- A run succeeds only in the step of a receipt about two independent runs: the worker's when it is
  accepted, the reviewer's also when it is rejected. -/
  succeeded : ∀ t ∈ history (step fingerprint) s₀ ops, ∀ id new,
    Table.lookup A2aRow.runId t.post.records id = some new → new.record.run.status = .succeeded →
    (∀ old, Table.lookup A2aRow.runId t.pre.records id = some old →
      old.record.run.status ≠ .succeeded) →
    ∃ receipt worker reviewer, Verified fingerprint t receipt worker reviewer ∧
      ((id = worker.run.runId ∧ receipt.accepted = true) ∨ id = reviewer.run.runId)
  /-- A task that is done or cancelled has no live run. -/
  closed : ∀ row ∈ (final (step fingerprint) s₀ ops).records, ∀ task,
    Table.lookup Task.taskId (final (step fingerprint) s₀ ops).tasks row.record.run.taskId = some task →
    IsClosed task → row.record.run.status.isA2aTerminal = true
  /-- A run that has ended is written again only by the final cancellation, which leaves the run. -/
  ended : ∀ t ∈ history (step fingerprint) s₀ ops, ∀ id old,
    Table.lookup A2aRow.runId t.pre.records id = some old →
    old.record.run.status.isA2aTerminal = true →
    ∃ new, Table.lookup A2aRow.runId t.post.records id = some new ∧ new.record.run = old.record.run ∧
      (new = old ∨ ∃ update, t.input = .update update ∧ update.runId = id ∧
        update.action = .finalizeCancellation)
  /-- Every live run can be failed. -/
  canFail : ∀ row ∈ (final (step fingerprint) s₀ ops).records,
    row.record.run.status.isA2aTerminal = false → row.record.version < u64Max →
    ∀ update code, update.validate = .ok () → update.action = .fail code → update.runId = row.runId →
    update.expectedVersion = row.record.version → row.record.binding.updatedAt ≤ update.timestamp →
    (∀ event ∈ (final (step fingerprint) s₀ ops).events,
      event.idempotencyKey ≠ update.idempotencyKey) →
    ∃ outcome s' new, step fingerprint (final (step fingerprint) s₀ ops) (.update update) =
      .ok (outcome, s') ∧ Table.lookup A2aRow.runId s'.records row.runId = some new ∧
      new.record.run.status = .failed

/-- A remote task is done only after independent verification, for every sequence of calls from a
database without remote runs. -/
theorem a2a_safe (s₀ : A2aStore) (hrecords : s₀.records = []) (hcommands : s₀.commands = [])
    (ops : List A2aOp) : A2aSafe fingerprint s₀ ops := by
  have hinv : HistoryInv fingerprint (history (step fingerprint) s₀ ops)
      (final (step fingerprint) s₀ ops) := history_inv hrecords hcommands ops
  constructor
  · intro row hrow task htask hdone
    obtain ⟨t, ht, receipt, worker, reviewer, haccepted, hid, hverified, hworker, hreviewer⟩ :=
      hinv.done row hrow task htask hdone
    exact ⟨t, ht, receipt, worker, reviewer, hverified, haccepted, hid, hinv.neverRequested hworker,
      hinv.neverRequested hreviewer⟩
  · intro t ht id new hnew hafter hbefore
    exact succeeded_of_step (accepts_of_mem ht) hnew hafter hbefore
  · intro row hrow task htask hclosed
    obtain ⟨current, hrowInv⟩ := hinv.inv.rows row hrow
    obtain rfl : current = task := some.inj (hrowInv.loads.taskFound.symm.trans htask)
    exact hrowInv.closed hclosed
  · intro t ht id old hold hterminal
    obtain ⟨new, hnew, hkept, hended⟩ := kept_of_step (accepts_of_mem ht) hold
    exact ⟨new, hnew, (hkept.ended hterminal).1, hended hterminal⟩
  · intro row hrow hlive hroom update code hvalid haction hrun hversion hlater hunused
    exact fail_accepted hinv.inv hrow hlive hvalid haction hrun hversion hroom hlater hunused

/-- The start of a run of one task by a peer of its own. -/
def startOf (runId : Nat) (role peer : String) : A2aRunStart where
  task := ⟨Uuid.fromU128 9, Uuid.fromU128 1, "remote".toList, [], .open⟩
  run := ⟨Uuid.fromU128 runId, Uuid.fromU128 1, Uuid.fromU128 9, "mock".toList, role.toList, "a2a".toList,
    List.replicate 40 'a', .preparing⟩
  peerId := peer.toList
  externalTaskId := peer.toList
  transport := "grpc".toList
  protocolVersion := "1".toList
  workspace := ⟨'/' :: peer.toList, peer.toList, List.replicate 40 'a', "token".toList⟩
  timestamp := 0
  idempotencyKey := peer.toList

def updateOf (runId version : Nat) (key : String) (action : A2aRunAction) : A2aRunUpdate where
  runId := Uuid.fromU128 runId
  expectedVersion := version
  timestamp := 1
  idempotencyKey := key.toList
  action := action

/-- A worker and a reviewer report their artifacts, and the receipt accepts the worker's. -/
def verifiedOps : List A2aOp :=
  [.start (startOf 2 "worker" "first"),
   .start (startOf 3 "reviewer" "second"),
   .update (updateOf 2 1 "a" .start),
   .update (updateOf 3 1 "b" .start),
   .update (updateOf 2 2 "c"
     (.observe .completed [⟨Uuid.fromU128 4, List.replicate 64 'a', 1, "text".toList⟩])),
   .update (updateOf 3 2 "d"
     (.observe .completed [⟨Uuid.fromU128 5, List.replicate 64 'b', 1, "text".toList⟩])),
   .update (updateOf 2 3 "e" (.verify ⟨Uuid.fromU128 3, 3, List.replicate 64 'a', List.replicate 64 'b',
     List.replicate 64 'c', true⟩))]

/-- The verified sample task is done, and its run is safe. -/
theorem verified_task_safe :
    (final (step fun _ => ⟨0⟩) ⟨[], [], [], [], [], []⟩ verifiedOps).tasks.map Task.status = [.done] ∧
      A2aSafe (fun _ => ⟨0⟩) ⟨[], [], [], [], [], []⟩ verifiedOps :=
  ⟨by decide +kernel, a2a_safe ⟨[], [], [], [], [], []⟩ rfl rfl verifiedOps⟩

/-- The same two runs, with a receipt that rejects the worker's artifact. -/
def rejectedUpdate : A2aRunUpdate :=
  updateOf 2 3 "e" (.verify ⟨Uuid.fromU128 3, 3, List.replicate 64 'a', List.replicate 64 'b',
    List.replicate 64 'c', false⟩)

/-- The reviewer's run succeeds in the step of a receipt that is not accepted. -/
theorem rejected_reviewer_succeeds :
    ¬ ∀ t ∈ history (step fun _ => ⟨0⟩) ⟨[], [], [], [], [], []⟩
        (verifiedOps.dropLast ++ [.update rejectedUpdate]), ∀ id new,
      lookup A2aRow.runId t.post.records id = some new → new.record.run.status = .succeeded →
      (∀ old, lookup A2aRow.runId t.pre.records id = some old → old.record.run.status ≠ .succeeded) →
      ∃ receipt worker reviewer, Verified (fun _ => ⟨0⟩) t receipt worker reviewer ∧
        receipt.accepted = true := by
  intro hclaim
  have hlast : ((history (step fun _ => ⟨0⟩) ⟨[], [], [], [], [], []⟩
      (verifiedOps.dropLast ++ [.update rejectedUpdate])).any fun t =>
        t.input = .update rejectedUpdate ∧
        ((lookup A2aRow.runId t.post.records (Uuid.fromU128 3)).any fun row =>
          row.record.run.status = .succeeded) = true ∧
        ((lookup A2aRow.runId t.pre.records (Uuid.fromU128 3)).all fun row =>
          row.record.run.status ≠ .succeeded) = true) = true := by
    decide +kernel
  obtain ⟨t, ht, hstep⟩ := any_eq_true.1 hlast
  obtain ⟨hinput, hafter, hbefore⟩ := of_decide_eq_true hstep
  obtain ⟨new, hnew, hsucceeded⟩ := (Option.any_eq_true _ _).1 hafter
  obtain ⟨receipt, worker, reviewer, hverified, haccepted⟩ := hclaim t ht _ new hnew
    (of_decide_eq_true hsucceeded) fun old hold => by simpa [hold] using hbefore
  obtain ⟨update, ⟨hcommitted, -⟩, haction, -⟩ := hverified.committed
  cases hinput.symm.trans hcommitted
  cases haction
  cases haccepted

/-! ## Verifying a pair -/

/-- An accepted receipt about a worker's and a reviewer's run that meets every condition of
`verify_pair`, in a call that is valid, new and current. -/
structure Qualifies (fingerprint : A2aDocument → Sha256Digest) (s : A2aStore) (update : A2aRunUpdate)
    (receipt : VerificationReceipt) (worker reviewer : A2aRunRecord) : Prop where
  action : update.action = .verify receipt ∧ receipt.accepted = true
  valid : update.validate = .ok ()
  unused : ∀ event ∈ s.events, event.idempotencyKey ≠ update.idempotencyKey
  workerLoads : s.loadRecord fingerprint update.runId = .ok (some worker)
  reviewerLoads : s.loadRecord fingerprint receipt.reviewerRunId = .ok (some reviewer)
  workerVersion : worker.version = update.expectedVersion ∧ worker.version < u64Max
  reviewerVersion : reviewer.version = receipt.reviewerExpectedVersion ∧ reviewer.version < u64Max
  current : worker.binding.updatedAt ≤ update.timestamp
  pair : verifiable worker reviewer receipt update.timestamp = true
  alone : s.hasOtherLiveRuns fingerprint worker.task.taskId [worker.run.runId, reviewer.run.runId] =
    .ok false

section

variable {receipt : VerificationReceipt} {worker : A2aRunRecord}

theorem validate_verifiedReviewer (hvalid : record.validate = .ok ())
    (hreceipt : receipt.validate = .ok ()) (htimestamp : validateTimestamp timestamp = .ok ())
    (hlater : record.binding.updatedAt ≤ timestamp)
    (htask : task.projectId = record.run.projectId ∧ task.taskId = record.run.taskId) :
    (verifiedReviewer record receipt task timestamp).validate = .ok () := by
  simp only [A2aRunRecord.validate, eq_ok] at hvalid ⊢
  obtain ⟨⟨hschema, _, _, _, hbinding⟩, hfields, hkey, hcreated, _, horder, hworkspace, hartifacts, -⟩ :=
    hvalid
  exact ⟨⟨hschema, Nat.succ_ne_zero _, htask.1, htask.2, hbinding⟩, hfields, hkey, hcreated, htimestamp,
    horder.trans hlater, hworkspace, hartifacts, hreceipt, fun _ => rfl⟩

theorem transitionRun_verified {run : Run} (h : run.status = .running) :
    transitionRun run .succeeded (some .verifier) = .ok { run with status := .succeeded } := by
  rw [transitionRun, mapError_eq_ok, Run.transitioned_eq_ok, h]
  exact ⟨rfl, fun _ => rfl, rfl⟩

theorem canTransitionTo_done {status : TaskStatus} :
    status.canTransitionTo .done = true ↔ status = .inProgress := by
  cases status <;> simp [TaskStatus.canTransitionTo]

theorem committed_verifiedWorker (haccepted : receipt.accepted = true) :
    committed (verifiedWorker record receipt task) timestamp =
      verifiedReviewer record receipt task timestamp := by
  simp only [committed, verifiedWorker, verifiedReviewer, haccepted, if_true]

section

variable (h : Qualifies fingerprint s update receipt worker reviewer) (hinv : Inv fingerprint s)
include h hinv

/-- A qualifying receipt makes a task done that is in progress. -/
theorem Qualifies.accepted (hprogress : worker.task.status = .inProgress) :
    ∃ outcome s', s.step fingerprint (.update update) = .ok (outcome, s') ∧
      lookup Task.taskId s'.tasks worker.task.taskId = some { worker.task with status := .done } := by
  have hpair := independent_of_verifiable h.pair
  have hvalid := h.valid
  simp only [A2aRunUpdate.validate, h.action.1, eq_ok] at hvalid
  obtain ⟨-, -, htimestamp, hreceipt⟩ := hvalid
  obtain ⟨row, task, hloads, -, rfl⟩ := loadRecord_eq_some.1 h.workerLoads
  obtain ⟨other, task', hother, -, rfl⟩ := loadRecord_eq_some.1 h.reviewerLoads
  -- The two runs are of one task, so both records carry it.
  obtain rfl : task = task' := some.inj (hloads.taskFound.symm.trans (hpair.task ▸ hother.taskFound))
  have hlater : (loaded other task).binding.updatedAt ≤ update.timestamp := by
    have hverifiable := h.pair
    simp only [verifiable, Bool.and_eq_true, decide_eq_true_eq] at hverifiable
    exact hverifiable.1.1.2
  have hworker := validate_task hloads.valid hloads.same
  have hreviewer := validate_task hother.valid hother.same
  let done : Task := { task with status := .done }
  have hverified : (verifiedReviewer (loaded other task) receipt done update.timestamp).validate =
      .ok () :=
    validate_verifiedReviewer hreviewer hreceipt htimestamp hlater (validate_identity hreviewer)
  have hdone : transitionTask task .done = .ok done := by
    rw [transitionTask, mapError_eq_ok, Task.transitioned_eq_ok, canTransitionTo_done]
    exact ⟨hprogress, rfl⟩
  have hact : s.applyAction fingerprint (loaded row task) update.timestamp update.action =
      .ok (verifiedWorker (loaded row task) receipt done,
        some (verifiedReviewer (loaded other task) receipt done update.timestamp)) := by
    rw [h.action.1]
    simp only [applyAction, verifyPair, verifiedTask, verifiedWorker, h.action.2, if_true, eq_ok, checkedSucc_eq_some]
    exact ⟨_, _, ⟨_, h.reviewerLoads, _, rfl, h.reviewerVersion.1, h.pair, _, h.alone, rfl, _,
      transitionRun_verified hpair.running.1, _, transitionRun_verified hpair.running.2, done,
      hdone, _, ⟨h.reviewerVersion.2, rfl⟩, hverified, rfl, rfl⟩, rfl, rfl⟩
  have hcommitted := validate_verifiedReviewer hworker hreceipt htimestamp h.current
    (show done.projectId = _ ∧ done.taskId = _ from validate_identity hworker)
  rw [← committed_verifiedWorker h.action.2] at hcommitted
  obtain ⟨outcome, s', hstep, htasks, -⟩ := update_accepted hinv h.valid h.unused h.workerLoads
    ⟨h.workerVersion.1, h.current, by rw [hpair.running.1]; rfl⟩ hact ⟨rfl, h.workerVersion.2⟩ hcommitted
    (by
      rintro _ ⟨⟩
      exact ⟨hpair.runs.symm, other, hother.found, rfl⟩)
  refine ⟨outcome, s', hstep, ?_⟩
  rw [htasks]
  exact lookup_upsert_self _ done

/-- A qualifying receipt is committed only when the task is in progress. -/
theorem Qualifies.inProgress (hstep : s.step fingerprint (.update update) = .ok (outcome, s')) :
    worker.task.status = .inProgress := by
  simp only [step, updateA2aRun, eq_ok] at hstep
  obtain ⟨-, _, hfound, hstep⟩ := hstep
  obtain rfl := Except.ok.inj ((duplicate_of_unused hinv h.unused _).symm.trans hfound)
  simp only [eq_ok] at hstep
  obtain ⟨_, hload, _, rfl, -, -, -, _, _, hact, -⟩ := hstep
  obtain rfl := some.inj (Except.ok.inj (h.workerLoads.symm.trans hload))
  rw [h.action.1] at hact
  simp only [applyAction, verifyPair, eq_ok] at hact
  obtain ⟨_, _, ⟨_, -, _, -, -, -, _, -, -, _, -, _, -, _, htask, -⟩, -⟩ := hact
  rw [verifiedTask, if_pos h.action.2] at htask
  exact canTransitionTo_done.1 (transitionTask_eq_ok htask).2.1

end

/-- In every state that calls reach from a database without remote runs, a qualifying pair is verified
and its task done exactly when the task is not blocked: the failure or cancellation of a sibling run,
which no condition on the pair mentions, blocks the task and with it the receipt. -/
theorem verify_done_iff {ops : List A2aOp} (hrecords : s₀.records = []) (hcommands : s₀.commands = [])
    (h : Qualifies fingerprint (final (step fingerprint) s₀ ops) update receipt worker reviewer) :
    (∃ outcome s', step fingerprint (final (step fingerprint) s₀ ops) (.update update) =
        .ok (outcome, s') ∧
      Table.lookup Task.taskId s'.tasks worker.task.taskId =
        some { worker.task with status := .done }) ↔ worker.task.status ≠ .blocked := by
  have hinv : Inv fingerprint (final (step fingerprint) s₀ ops) := (history_inv hrecords hcommands ops).inv
  constructor
  · rintro ⟨outcome, s', hstep, -⟩ hblocked
    cases hblocked.symm.trans (h.inProgress hinv hstep)
  · intro hfree
    refine h.accepted hinv ?_
    obtain ⟨row, task, hloads, -, rfl⟩ := loadRecord_eq_some.1 h.workerLoads
    obtain ⟨task', hrowInv⟩ := hinv.rows row (mem_of_lookup hloads.found)
    obtain rfl : task' = task := some.inj (hrowInv.loads.taskFound.symm.trans hloads.taskFound)
    have hrunning : row.record.run.status = .running := (independent_of_verifiable h.pair).running.1
    have hlive : ¬ IsClosed task' := fun hclosed => by
      have hterminal := hrowInv.closed hclosed
      rw [hrunning] at hterminal
      cases hterminal
    have htaken := hrowInv.taken
    unfold IsClosed at hlive
    cases hstatus : task'.status <;> simp_all [loaded]

end

def sampleReceipt : VerificationReceipt :=
  ⟨Uuid.fromU128 3, 3, List.replicate 64 'a', List.replicate 64 'b', List.replicate 64 'c', true⟩

/-- A run of the samples that its peer has completed. -/
def completedRecord (runId : Nat) (role peer : String) (hash : Char) (status : TaskStatus) :
    A2aRunRecord :=
  let start := startOf runId role peer
  let record := preparedRecord start { start.task with status }
  { record with
    run := { start.run with status := .running }
    binding := { record.binding with
      updatedAt := 1
      lastRemoteState := .completed
      artifacts := [⟨Uuid.fromU128 (runId + 2), List.replicate 64 hash, 1, "text".toList⟩] }
    version := 3 }

/-- What it is for the receipt of the samples to qualify after the calls. -/
abbrev SampleQualifies (ops : List A2aOp) (status : TaskStatus) : Prop :=
  Qualifies (fun _ => ⟨0⟩) (final (step fun _ => ⟨0⟩) ⟨[], [], [], [], [], []⟩ ops)
    (updateOf 2 3 "e" (.verify sampleReceipt)) sampleReceipt
    (completedRecord 2 "worker" "first" 'a' status) (completedRecord 3 "reviewer" "second" 'b' status)

/-- The task of the sample pair becomes done. -/
theorem completed_pair_done :
    SampleQualifies verifiedOps.dropLast .inProgress ∧
    ∃ outcome s', step (fun _ => ⟨0⟩) (final (step fun _ => ⟨0⟩) ⟨[], [], [], [], [], []⟩
        verifiedOps.dropLast) (.update (updateOf 2 3 "e" (.verify sampleReceipt))) = .ok (outcome, s') ∧
      Table.lookup Task.taskId s'.tasks (Uuid.fromU128 9) =
        some { (startOf 2 "worker" "first").task with status := .done } :=
  have h : SampleQualifies verifiedOps.dropLast .inProgress := by constructor <;> decide +kernel
  ⟨h, (verify_done_iff rfl rfl h).2 (by decide)⟩

/-- A third run of the task, which failed. -/
def failedSiblingOps : List A2aOp :=
  .start (startOf 6 "worker" "third") :: verifiedOps.dropLast ++
    [.update (updateOf 6 1 "f" (.fail "lost".toList))]

/-- The failure of a third run blocked the task, so the receipt about the pair is refused. -/
theorem failed_sibling_refuses :
    SampleQualifies failedSiblingOps .blocked ∧
    step (fun _ => ⟨0⟩) (final (step fun _ => ⟨0⟩) ⟨[], [], [], [], [], []⟩ failedSiblingOps)
      (.update (updateOf 2 3 "e" (.verify sampleReceipt))) = .error .a2aInvalidTransition :=
  ⟨by constructor <;> decide +kernel, by decide +kernel⟩

end Vibemux.A2aStore
