import Vibemux.Store.Proofs.CallProofs
import Vibemux.Store.Proofs.ReceiptProofs

/-!
# What a workflow keeps

A workflow is never removed, and what it was admitted with stays: its base commit, its mode, its digests
and suites. Only the phase, the version, the tasks, the budgets and their times change.
-/

namespace Vibemux

/-- The record with everything that may change after its admission blanked out. -/
def WorkflowRecord.admitted (record : WorkflowRecord) : WorkflowRecord :=
  { record with
    phase := .prepared
    version := 0
    tasks := []
    budget := ⟨0, 0, 0, 0⟩
    blockedReason := none
    updatedAtMs := 0 }

namespace Store

open Checked List Table WorkflowRecord

variable {s s' s₁ : Store} {digests : StoreDigests} {stored : WorkflowRow} {next : WorkflowRecord}
  {workflowId : Uuid} {version sequence : Nat} {timestamp : Timestamp} {commit : WorkflowCommit}

/-- Every workflow is still there, as it was admitted. -/
def WorkflowsKept (s s' : Store) : Prop :=
  ∀ id row, lookup WorkflowRow.workflowId s.workflows id = some row →
    ∃ row', lookup WorkflowRow.workflowId s'.workflows id = some row' ∧
      row'.record.admitted = row.record.admitted

theorem WorkflowsKept.of_eq (h : s'.workflows = s.workflows) : WorkflowsKept s s' :=
  fun _ row hrow => ⟨row, by rw [h]; exact hrow, rfl⟩

theorem WorkflowsKept.trans (h : WorkflowsKept s s₁) (h' : WorkflowsKept s₁ s') :
    WorkflowsKept s s' := by
  intro id row hrow
  obtain ⟨mid, hmid, hsame⟩ := h id row hrow
  obtain ⟨last, hlast, hsame'⟩ := h' id mid hmid
  exact ⟨last, hlast, hsame'.trans hsame⟩

theorem WorkflowsKept.of_writes {tables : List StoreTable} (h : Writes tables s s')
    (htables : StoreTable.workflows ∉ tables) : WorkflowsKept s s' :=
  .of_eq (h .workflows htables)

/-! ## The operations that write a workflow -/

theorem insertWorkflow_kept {row : WorkflowRow} (h : s.insertWorkflow row = .ok s') :
    WorkflowsKept s s' := by
  obtain ⟨-, rfl⟩ := insertWorkflow_eq_ok.1 h
  exact fun _ found hfound => ⟨found, lookup_append_of_isSome hfound [row], rfl⟩

/-- The row that an update writes, and the others. -/
theorem lookup_updated {row : WorkflowRow} {id : Uuid}
    (hrow : lookup WorkflowRow.workflowId s.workflows next.workflowId = some row) :
    lookup WorkflowRow.workflowId (put WorkflowRow.workflowId s.workflows
      { row with record := next, updatedSequence := sequence }) id =
        if id = next.workflowId then some { row with record := next, updatedSequence := sequence }
        else lookup WorkflowRow.workflowId s.workflows id := by
  split_ifs with hid
  · subst hid
    exact lookup_put_self hrow
  · exact lookup_put_of_ne hid

/-- Writing a record that is as it was admitted keeps the workflows. -/
theorem WorkflowsKept.of_written {row : WorkflowRow}
    (hrow : lookup WorkflowRow.workflowId s.workflows next.workflowId = some row)
    (hwritten : s'.workflows = put WorkflowRow.workflowId s.workflows
      { row with record := next, updatedSequence := sequence })
    (hsame : next.admitted = row.record.admitted) : WorkflowsKept s s' := by
  intro id found hfound
  rw [hwritten, lookup_updated hrow]
  split_ifs with hid
  · subst hid
    obtain rfl := Option.some.inj (hrow.symm.trans hfound)
    exact ⟨_, rfl, hsame⟩
  · exact ⟨found, hfound, rfl⟩

theorem updateWorkflow_kept (h : s.updateWorkflow next version sequence = .ok s')
    (hsame : ∀ row, lookup WorkflowRow.workflowId s.workflows next.workflowId = some row →
      next.admitted = row.record.admitted) : WorkflowsKept s s' := by
  obtain ⟨-, row, hrow, -, rfl⟩ := updateWorkflow_eq_ok.1 h
  exact .of_written hrow rfl (hsame row hrow)

theorem Updated.kept (h : Updated s s' stored next)
    (hsame : next.admitted = stored.record.admitted) : WorkflowsKept s s' := by
  obtain ⟨sequence, hwritten⟩ := h.written
  have hloaded := h.loaded
  rw [← h.sameId] at hloaded
  exact .of_written hloaded hwritten hsame

/-- A transaction that loads a workflow and writes its next record. -/
theorem update_kept (hload : s.loadExistingWorkflow workflowId = .ok stored)
    (hwrites : s₁.workflows = s.workflows) (h : s₁.updateWorkflow next version sequence = .ok s')
    (hsame : next.admitted = stored.record.admitted) : WorkflowsKept s s' := by
  have hid : next.admitted.workflowId = stored.record.admitted.workflowId := by rw [hsame]
  exact (Updated.of_updateWorkflow hload h hid hwrites).kept hsame

theorem insertPrepared_kept {record : WorkflowRecord} {contracts : List ContractArtifact}
    {fingerprint : Sha256Digest}
    (h : s.insertPrepared digests record contracts fingerprint = .ok (commit, s')) :
    WorkflowsKept s s' := by
  simp only [insertPrepared, eq_ok] at h
  obtain ⟨_, association, -, _, _, happend, _, hcontracts, s₃, hinsert, _, hassociate, -, rfl⟩ := h
  refine ((WorkflowsKept.of_writes (append_writes happend) (by decide)).trans
    (.of_writes (insertContracts_writes hcontracts) (by decide))).trans
    ((insertWorkflow_kept hinsert).trans ?_)
  cases association with
  | none =>
    cases hassociate
    exact .of_eq rfl
  | some association => exact .of_writes (associatePreparedCompiler_writes hassociate) (by decide)

theorem workflowStep_kept {op : WorkflowOp} {response : WorkflowResponse}
    (h : s.workflowStep digests op = .ok (response, s')) : WorkflowsKept s s' := by
  cases op <;>
    simp only [workflowStep, eq_ok] at h
  case bindContractAuthority =>
    obtain ⟨_, hbind, -, rfl⟩ := h
    exact .of_writes (bindWorkflowContractAuthority_writes hbind) (by decide)
  case prepare =>
    obtain ⟨_, _, hprepare, -, rfl⟩ := h
    rcases prepareWorkflow_eq_ok hprepare with rfl | ⟨_, hinsert⟩
    · exact .of_eq rfl
    · exact insertPrepared_kept hinsert
  case transition =>
    obtain ⟨_, _, htransition, -, rfl⟩ := h
    simp only [transitionWorkflow, eq_ok, withPhase_eq_ok] at htransition
    obtain ⟨-, stored, hload, -, -, _, ⟨-, -, rfl⟩, _, _, happend, _, hupdate, -, rfl⟩ := htransition
    exact update_kept hload (append_writes happend .workflows (by decide)) hupdate rfl
  case addContractGeneration =>
    obtain ⟨_, _, hadd, -, rfl⟩ := h
    simp only [addContractGeneration, eq_ok, taskMut_eq_ok, bumped_eq_ok] at hadd
    obtain ⟨stored, hload, -, -, _, -, _, -, -, _, ⟨-, rfl⟩, _, ⟨-, rfl⟩, _, _, happend, _, hcontract,
      _, hupdate, -, rfl⟩ := hadd
    exact update_kept hload ((insertContractIfAbsent_writes hcontract .workflows (by decide)).trans
      (append_writes happend .workflows (by decide))) hupdate rfl

theorem receiptStep_kept {op : ReceiptOp} {response : ReceiptResponse}
    (h : s.receiptStep digests op = .ok (response, s')) : WorkflowsKept s s' := by
  cases op <;>
    simp only [receiptStep, eq_ok] at h
  case record workflowId receipt fence timestamp =>
    obtain ⟨_, _, hrecord, -, rfl⟩ := h
    rcases recordWorkflowReceipt_eq_ok hrecord with rfl | ⟨_, _, stored, next, hnew⟩
    · exact .of_eq rfl
    · rcases hnew.workflows with ⟨-, hsame⟩ | ⟨-, _, hbumped, hupdated⟩
      · exact .of_eq hsame
      · refine hupdated.kept ?_
        obtain ⟨-, rfl⟩ := bumped_eq_ok.1 hbumped
        rcases checkReceipt_eq_ok hnew.checked with rfl | ⟨_, _, -, rfl⟩
        · rfl
        · rfl
  case acceptCandidate workflowId expectedVersion taskKey digest timestamp =>
    obtain ⟨_, _, haccept, -, rfl⟩ := h
    simp only [acceptWorkflowCandidate, eq_ok, taskMut_eq_ok, bumped_eq_ok] at haccept
    obtain ⟨-, stored, hload, -, -, _, -, _, -, -, _, ⟨-, rfl⟩, _, ⟨-, rfl⟩, _, _, happend, _, hupdate,
      -, rfl⟩ := haccept
    exact update_kept hload (append_writes happend .workflows (by decide)) hupdate rfl
  case acceptWorkflow workflowId expectedVersion timestamp =>
    obtain ⟨_, _, haccept, -, rfl⟩ := h
    simp only [acceptWorkflow, eq_ok, withPhase_eq_ok] at haccept
    obtain ⟨-, stored, hload, -, _, -, -, -, _, -, -, _, ⟨-, -, rfl⟩, _, _, happend, _, hupdate, -,
      rfl⟩ := haccept
    exact update_kept hload (append_writes happend .workflows (by decide)) hupdate rfl

theorem admitWorkflowAttempt_kept {admission : WorkflowAttemptAdmission} {taskId runId : Uuid}
    {commit : WorkflowAttemptCommit}
    (h : s.admitWorkflowAttempt digests admission taskId runId = .ok (commit, s')) :
    WorkflowsKept s s' := by
  rcases admitWorkflowAttempt_eq_ok h with ⟨_, _, -, hadmit⟩ | ⟨_, _, _, _, _, hnew⟩
  · exact .of_writes (admitDispatchIn_writes hadmit) (by decide)
  · obtain ⟨charged, hcharged, hbumped⟩ := hnew.charge
    obtain ⟨tasks, rfl⟩ := charged_eq_ok hcharged
    obtain ⟨-, rfl⟩ := bumped_eq_ok.1 hbumped
    exact hnew.updated.kept rfl

theorem reserveModelCallIn_kept {admission : ModelCallAdmission} {now : Timestamp}
    {record : ModelCallRecord} (h : s.reserveModelCallIn digests admission now = .ok (record, s')) :
    WorkflowsKept s s' := by
  rcases reserveModelCallIn_eq_ok h with ⟨-, -, rfl⟩ | ⟨_, hnew⟩
  · exact .of_eq rfl
  · rcases hnew.charged with ⟨-, hsame⟩ | ⟨_, _, _, -, hcharged⟩
    · exact .of_eq hsame
    · obtain ⟨_, rfl⟩ := hcharged.next
      exact hcharged.updated.kept rfl

theorem callStep_kept {op : CallOp} {response : CallResponse}
    (h : s.callStep digests op = .ok (response, s')) : WorkflowsKept s s' := by
  cases op <;>
    simp only [callStep, submitModelCall, finishModelCall, eq_ok] at h
  case reserve admission now =>
    obtain ⟨_, _, hreserve, -, rfl⟩ := h
    exact reserveModelCallIn_kept hreserve
  case submit callId now =>
    obtain ⟨_, _, ⟨_, -, -, _, -, _, hpersist, -, rfl⟩, -, rfl⟩ := h
    exact .of_writes (persistCall_writes hpersist) (by decide)
  case finish callId receipt errorCode =>
    obtain ⟨_, _, ⟨_, -, _, -, h⟩, -, rfl⟩ := h
    split at h
    · simp only [eq_ok] at h
      obtain ⟨-, -, rfl⟩ := h
      exact .of_eq rfl
    · simp only [eq_ok] at h
      obtain ⟨_, -, -, _, hpersist, -, rfl⟩ := h
      exact .of_writes (persistCall_writes hpersist) (by decide)
  case recover =>
    obtain ⟨_, _, hrecover, -, rfl⟩ := h
    exact .of_writes (recoverCalls_writes hrecover) (by decide)

/-! ## Supervisors, controllers and contract edits -/

theorem claimed_admitted {record : WorkflowRecord} {action : SupervisorTool}
    (h : record.claimed action = .ok next) : next.admitted = record.admitted := by
  unfold claimed at h
  split at h
  · obtain ⟨-, rfl⟩ := taskMut_eq_ok.1 h
    rfl
  · simp only [eq_ok] at h
    obtain ⟨-, rfl⟩ := h
    rfl
  · simp only [eq_ok] at h
    obtain ⟨-, rfl⟩ := h
    rfl
  · cases h
    rfl

theorem changed_admitted {record : WorkflowRecord} {change : RecordChange}
    (h : record.changed change = .ok next) : next.admitted = record.admitted := by
  have hrepair : ∀ malformed, (record.chargeRepair malformed).admitted = record.admitted := by
    intro malformed
    unfold chargeRepair
    split <;> rfl
  cases change <;>
    simp only [changed, eq_ok, bumped_eq_ok] at h
  case proposal count accepted timestamp =>
    obtain ⟨-, rfl⟩ := h
    exact hrepair !accepted
  case rejectRound malformed =>
    obtain ⟨-, rfl⟩ := h
    exact hrepair malformed
  case claimAction action =>
    obtain ⟨-, claimed, hclaimed, -, rfl⟩ := h
    have hsame := claimed_admitted hclaimed
    exact hsame
  case reserveSubmission taskKey timestamp =>
    obtain ⟨-, turn, hturn, -, rfl⟩ := h
    obtain ⟨tasks, rfl⟩ := chargeTurn_eq_ok hturn
    rfl

theorem retireWorkflow_kept {editId : Uuid} {nowMs : Nat} {phases : List WorkflowPhase}
    {record : WorkflowRecord} (h : retireWorkflow editId nowMs phases record s = .ok s')
    (hsame : ∀ row, lookup WorkflowRow.workflowId s.workflows record.workflowId = some row →
      record.admitted = row.record.admitted) : WorkflowsKept s s' := by
  induction phases generalizing record s with
  | nil =>
    cases h
    exact .of_eq rfl
  | cons phase rest ih =>
    simp only [retireWorkflow, eq_ok, withPhase_eq_ok] at h
    obtain ⟨_, ⟨-, -, rfl⟩, _, s₁, happend, s₂, hupdate, hrest⟩ := h
    have htable : s₁.workflows = s.workflows := append_writes happend .workflows (by decide)
    have hfirst : WorkflowsKept s₁ s₂ := updateWorkflow_kept hupdate (by rw [htable]; exact hsame)
    refine (WorkflowsKept.of_eq htable).trans (hfirst.trans (ih hrest fun row hrow => ?_))
    -- the row under the identifier is the one just written
    obtain ⟨-, old, hold, -, rfl⟩ := updateWorkflow_eq_ok.1 hupdate
    rw [lookup_updated hold, if_pos rfl] at hrow
    rw [← Option.some.inj hrow]

theorem prepareContractEdit_kept {edit : ContractEditAdmission}
    (h : s.prepareContractEdit digests edit = .ok s') : WorkflowsKept s s' := by
  simp only [prepareContractEdit, eq_ok] at h
  obtain ⟨-, stored, hload, -, -, -, -, -, -, _, -, -, _, hretire, _, _, happend, _, hcontracts, _, -,
    hinsert⟩ := h
  have hid := loadExistingWorkflow_id hload
  have hretired := retireWorkflow_kept hretire fun row hrow => by
    have hfound := (loadExistingWorkflow_eq_ok.1 hload).1
    rw [hid] at hrow
    rw [Option.some.inj (hfound.symm.trans hrow)]
  exact hretired.trans <| (WorkflowsKept.of_writes (append_writes happend) (by decide)).trans <|
    (WorkflowsKept.of_writes (insertContracts_writes hcontracts) (by decide)).trans
      (insertWorkflow_kept hinsert)

theorem supervisorStep_kept {op : SupervisorOp} (h : s.supervisorStep digests op = .ok s') :
    WorkflowsKept s s' := by
  cases op <;>
    simp only [supervisorStep, Store.changeRecord, reserveSupervisorRound, admitSupervisorMessage,
      eq_ok] at h
  case save write => exact .of_writes (saveSupervisor_writes h) (by decide)
  case changeRecord workflowId change key write =>
    obtain ⟨_, ⟨stored, hload, _, hchanged, _, _, happend, hupdate⟩, hsave⟩ := h
    exact (update_kept hload (append_writes happend .workflows (by decide)) hupdate
      (changed_admitted hchanged)).trans (.of_writes (saveSupervisor_writes hsave) (by decide))
  case reserveRound admission now write =>
    obtain ⟨_, _, hreserve, hsave⟩ := h
    exact (reserveModelCallIn_kept hreserve).trans
      (.of_writes (saveSupervisor_writes hsave) (by decide))
  case admitMessage envelope timestamp =>
    obtain ⟨_, _, ⟨_, -, -, hadmit⟩, rfl⟩ := h
    exact .of_writes (admitWorkflowMessage_writes hadmit) (by decide)
  case editContract edit => exact prepareContractEdit_kept h

/-- Every operation keeps the workflows as they were admitted. -/
theorem Stepped.workflowsKept {op : StoreOp} {response : StoreResponse}
    (h : Stepped digests s s' op response) : WorkflowsKept s s' := by
  have hwrites := h.writes
  cases h with
  | workflow hgroup => exact workflowStep_kept hgroup
  | attempt hgroup => exact admitWorkflowAttempt_kept hgroup
  | receipt hgroup => exact receiptStep_kept hgroup
  | call hgroup => exact callStep_kept hgroup
  | supervisor hgroup => exact supervisorStep_kept hgroup
  | _ => exact .of_writes hwrites (by simp [StoreOp.written])

end Store

end Vibemux
