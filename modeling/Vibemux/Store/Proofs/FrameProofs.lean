import Vibemux.Store.Operations
import Vibemux.Store.Proofs.MessageProofs

/-!
# The tables each operation writes

Every operation is a chain of row functions, so it writes the tables they write. A property of other
tables is kept by it.
-/

namespace Vibemux

open Checked

variable {op : StoreOp} {response : StoreResponse} {runId taskId : Uuid}

/-- The tables a group of operations writes. -/
def StoreOp.written : StoreOp → List StoreTable
  | .harness _ => [.events, .tasks, .runs, .detected, .dispatches]
  | .workflow _ => [.events, .workflows, .contracts, .authorities, .callOwners]
  | .lease _ => [.events, .slots, .leases]
  | .admitAttempt _ _ _ => [.events, .tasks, .runs, .dispatches, .attempts, .workflows]
  | .receipt _ => [.events, .receipts, .workflows]
  | .call _ => [.events, .workflows, .callOwners, .calls]
  | .message _ => [.events, .messages]
  | .supervisor _ =>
    [.events, .executions, .actions, .callOwners, .calls, .workflows, .contracts, .messages]

namespace Store

variable {s s' : Store} {digests : StoreDigests} {commit : WorkflowCommit} {workflowId : Uuid}
  {expectedVersion : Nat} {timestamp : Timestamp} {record : WorkflowRecord}
  {contracts : List ContractArtifact}

/-- The admission of a dispatch leaves what the registry detected. -/
theorem admitDispatchIn_detected {fingerprint : DispatchFingerprint} {harness harness' : HarnessStore}
    {admission : HarnessDispatchAdmission} {commit : HarnessDispatchCommit}
    (h : harness.admitDispatchIn fingerprint admission taskId runId = .ok (commit, harness')) :
    harness'.detected = harness.detected := by
  simp only [HarnessStore.admitDispatchIn, eq_ok] at h
  obtain ⟨-, -, -, loaded, -, h⟩ := h
  cases loaded with
  | some stored =>
    simp only [eq_ok] at h
    obtain ⟨-, -, rfl⟩ := h
    rfl
  | none =>
    simp only [eq_ok] at h
    obtain ⟨-, -, _, _, -, _, _, -, -, -, rfl⟩ := h
    rfl

theorem admitDispatchIn_writes {admission : HarnessDispatchAdmission}
    {commit : HarnessDispatchCommit}
    (h : s.admitDispatchIn digests admission taskId runId = .ok (commit, s')) :
    Writes [.events, .tasks, .runs, .dispatches] s s' := by
  simp only [admitDispatchIn, eq_ok] at h
  obtain ⟨_, harness, hadmit, -, rfl⟩ := h
  intro table htable
  cases table with
  | events | tasks | runs | dispatches => exact absurd (by decide) htable
  | detected => exact admitDispatchIn_detected hadmit
  | _ => rfl

/-! ## What the operations write -/

/-- What an operation on dispatches writes. -/
theorem harnessStep_writes {op : HarnessOp} {response : HarnessResponse}
    (h : s.harnessStep digests op = .ok (response, s')) :
    Writes [.events, .tasks, .runs, .detected, .dispatches] s s' := by
  cases op <;>
    simp only [harnessStep, admitDecidedDispatch, commitHarnessSnapshot, Store.peripheral, eq_ok] at h
  case dispatch op =>
    obtain ⟨_, harness, -, -, rfl⟩ := h
    intro table htable
    cases table with
    | events | tasks | runs | detected | dispatches => exact absurd (by decide) htable
    | _ => rfl
  case admitDecidedDispatch admission taskId runId keys =>
    obtain ⟨_, _, ⟨_, s₁, hadmit, _, happend, -, rfl⟩, -, rfl⟩ := h
    exact ((admitDispatchIn_writes hadmit).append (appendAll_writes happend)).mono (by decide)
  case commitHarnessSnapshot detected key =>
    obtain ⟨_, h, -, rfl⟩ := h
    split at h
    · cases h
      exact .refl _ _
    · simp only [eq_ok] at h
      obtain ⟨_, s₁, happend, rfl⟩ := h
      obtain ⟨events, -, rfl⟩ := append_eq_ok.1 happend
      intro table htable
      cases table with
      | events | tasks | runs | detected | dispatches => exact absurd (by decide) htable
      | _ => rfl
  case peripheral write =>
    obtain ⟨_, ⟨_, happend, rfl⟩, -, rfl⟩ := h
    intro table htable
    have hevents := appendAll_writes happend table
    cases table with
    | events | tasks | runs | detected | dispatches => exact absurd (by decide) htable
    | _ => exact hevents (by decide)

theorem associatePreparedCompiler_writes {association : PreparedCompilerAssociation}
    (h : s.associatePreparedCompiler association = .ok s') : Writes [.events, .callOwners] s s' := by
  simp only [associatePreparedCompiler, eq_ok] at h
  obtain ⟨_, -, -, _, _, happend, rfl⟩ := h
  obtain ⟨events, -, rfl⟩ := append_eq_ok.1 happend
  intro table htable
  cases table with
  | events | callOwners => exact absurd (by decide) htable
  | _ => rfl

theorem insertPrepared_writes {fingerprint : Sha256Digest}
    (h : s.insertPrepared digests record contracts fingerprint = .ok (commit, s')) :
    Writes [.events, .workflows, .contracts, .authorities, .callOwners] s s' := by
  simp only [insertPrepared, eq_ok] at h
  obtain ⟨_, association, -, _, _, happend, _, hcontracts, s₃, hinsert, s₄, hassociate, -, rfl⟩ := h
  have hlast : Writes [.events, .callOwners] s₃ s₄ := by
    cases association with
    | none =>
      cases hassociate
      exact .refl _ _
    | some association => exact associatePreparedCompiler_writes hassociate
  exact ((append_writes happend).append <| (insertContracts_writes hcontracts).append <|
    (insertWorkflow_writes hinsert).append hlast).mono (by decide)

theorem bindWorkflowContractAuthority_writes {contractId : Sha256Digest} {spec : TaskSpec}
    (h : s.bindWorkflowContractAuthority digests contractId spec = .ok s') :
    Writes [.events, .authorities] s s' := by
  simp only [bindWorkflowContractAuthority, eq_ok] at h
  obtain ⟨-, authority, -, contract, -, -, h⟩ := h
  cases hfound : s.loadContractAuthority contractId with
  | some existing =>
    simp only [hfound, eq_ok] at h
    obtain ⟨-, rfl⟩ := h
    exact .refl _ _
  | none =>
    simp only [hfound, eq_ok] at h
    obtain ⟨_, s₁, happend, rfl⟩ := h
    obtain ⟨events, -, rfl⟩ := append_eq_ok.1 happend
    intro table htable
    cases table with
    | events | authorities => exact absurd (by decide) htable
    | _ => rfl

section

variable (h : s.prepareWorkflow digests record contracts = .ok (commit, s'))
include h

/-- An admission is a repeated one, which leaves the store, or inserts the workflow. -/
theorem prepareWorkflow_eq_ok :
    s' = s ∨ ∃ fingerprint, s.insertPrepared digests record contracts fingerprint = .ok (commit, s') := by
  simp only [prepareWorkflow, eq_ok] at h
  obtain ⟨-, -, -, fingerprint, -, found, -, h⟩ := h
  cases found with
  | some existing =>
    simp only [eq_ok] at h
    obtain ⟨-, -, rfl⟩ := h
    exact .inl rfl
  | none => exact .inr ⟨fingerprint, h⟩

theorem prepareWorkflow_writes :
    Writes [.events, .workflows, .contracts, .authorities, .callOwners] s s' := by
  rcases prepareWorkflow_eq_ok h with rfl | ⟨fingerprint, hinsert⟩
  · exact .refl _ _
  · exact insertPrepared_writes hinsert

end

theorem transitionWorkflow_writes {phase : WorkflowPhase} {reasonCode : Option (List Char)}
    (h : s.transitionWorkflow workflowId expectedVersion phase reasonCode timestamp =
      .ok (commit, s')) : Writes [.events, .workflows] s s' := by
  simp only [transitionWorkflow, eq_ok] at h
  obtain ⟨-, _, -, -, -, _, -, _, _, happend, _, hupdate, -, rfl⟩ := h
  exact (append_writes happend).append (updateWorkflow_writes hupdate)

theorem addContractGeneration_writes {artifact : ContractArtifact}
    (h : s.addContractGeneration workflowId expectedVersion artifact timestamp = .ok (commit, s')) :
    Writes [.events, .workflows, .contracts, .authorities] s s' := by
  simp only [addContractGeneration, eq_ok] at h
  obtain ⟨_, -, -, -, _, -, _, -, -, _, -, _, -, _, _, happend, _, hcontract, _, hupdate,
    -, rfl⟩ := h
  exact ((append_writes happend).append <| (insertContractIfAbsent_writes hcontract).append
    (updateWorkflow_writes hupdate)).mono (by decide)

/-- What an operation on workflows writes. -/
theorem workflowStep_writes {op : WorkflowOp} {response : WorkflowResponse}
    (h : s.workflowStep digests op = .ok (response, s')) :
    Writes [.events, .workflows, .contracts, .authorities, .callOwners] s s' := by
  cases op <;>
    simp only [workflowStep, eq_ok] at h
  case bindContractAuthority =>
    obtain ⟨_, hbind, -, rfl⟩ := h
    exact (bindWorkflowContractAuthority_writes hbind).mono (by decide)
  case prepare =>
    obtain ⟨_, _, hprepare, -, rfl⟩ := h
    exact prepareWorkflow_writes hprepare
  case transition =>
    obtain ⟨_, _, htransition, -, rfl⟩ := h
    exact (transitionWorkflow_writes htransition).mono (by decide)
  case addContractGeneration =>
    obtain ⟨_, _, hadd, -, rfl⟩ := h
    exact (addContractGeneration_writes hadd).mono (by decide)

theorem changeWorkflowLease_writes {leaseId : Uuid} {event : LeaseEvent} {heartbeatMs : Nat}
    {reasonCode : List Char} {commit : LeaseCommit}
    (h : s.changeWorkflowLease leaseId event heartbeatMs reasonCode timestamp = .ok (commit, s')) :
    Writes [.events, .leases] s s' := by
  simp only [changeWorkflowLease, bind_eq_ok] at h
  obtain ⟨_, -, _, -, _, -, _, -, h⟩ := h
  split at h
  · cases h
    exact .refl _ _
  · simp only [eq_ok] at h
    obtain ⟨_, _, happend, _, hupdate, -, rfl⟩ := h
    exact (append_writes happend).append (updateLease_writes hupdate)

/-- What every change of a lease keeps, the recovery of leases keeps. -/
theorem recoverLeases_invariant (P : Store → Prop)
    (hchange : ∀ {s s' : Store} {leaseId event heartbeatMs reasonCode timestamp commit},
      s.changeWorkflowLease leaseId event heartbeatMs reasonCode timestamp = .ok (commit, s') →
        P s → P s') {leases : List LeaseRecord} {recovery : WorkflowRecovery} (h : P s) :
    P (recoverLeases timestamp leases recovery s).2 := by
  induction leases generalizing s recovery with
  | nil => exact h
  | cons lease rest ih =>
    simp only [recoverLeases]
    split
    · split
      · exact h
      · rename_i hchanged
        exact ih (hchange hchanged h)
    · split
      · split
        · exact h
        · rename_i hchanged
          exact ih (hchange hchanged h)
      · exact ih h

theorem upsertWorkflowSlot_writes {slot : SlotFacts} {event : Option Event}
    (h : s.upsertWorkflowSlot digests slot = .ok (event, s')) : Writes [.events, .slots] s s' := by
  simp only [upsertWorkflowSlot, eq_ok] at h
  obtain ⟨-, h⟩ := h
  split at h
  · cases h
    exact .refl _ _
  · simp only [eq_ok] at h
    obtain ⟨_, s₁, happend, -, rfl⟩ := h
    obtain ⟨events, -, rfl⟩ := append_eq_ok.1 happend
    intro table htable
    cases table with
    | events | slots => exact absurd (by decide) htable
    | _ => rfl

/-- What an operation on leases writes. -/
theorem leaseStep_writes {op : LeaseOp} {response : LeaseResponse}
    (h : s.leaseStep digests op = .ok (response, s')) : Writes [.events, .slots, .leases] s s' := by
  cases op
  case recover timestamp =>
    cases h
    exact recoverLeases_invariant (Writes [.events, .slots, .leases] s)
      (fun hchange h => h.trans ((changeWorkflowLease_writes hchange).mono (by decide))) (.refl _ _)
  all_goals simp only [leaseStep, acquireWorkflowLease, eq_ok] at h
  case upsertSlot slot =>
    obtain ⟨_, _, hupsert, -, rfl⟩ := h
    exact (upsertWorkflowSlot_writes hupsert).mono (by decide)
  case acquire request =>
    obtain ⟨_, _, h, -, rfl⟩ := h
    cases hfound : s.loadLease request.leaseId with
    | some existing =>
      simp only [hfound, eq_ok] at h
      obtain ⟨-, -, rfl⟩ := h
      exact .refl _ _
    | none =>
      simp only [hfound, insertAcquired, eq_ok] at h
      obtain ⟨_, -, -, _, -, -, _, -, -, -, _, -, _, _, happend, _, hbump, _, hinsert, -, rfl⟩ := h
      exact (append_writes happend).append <|
        (bumpSlotGeneration_writes hbump).append (insertLease_writes hinsert)
  case change leaseId event heartbeatMs reasonCode timestamp =>
    obtain ⟨_, _, hchange, -, rfl⟩ := h
    exact (changeWorkflowLease_writes hchange).mono (by decide)

theorem admitWorkflowAttempt_writes {admission : WorkflowAttemptAdmission}
    {commit : WorkflowAttemptCommit}
    (h : s.admitWorkflowAttempt digests admission taskId runId = .ok (commit, s')) :
    Writes [.events, .tasks, .runs, .dispatches, .attempts, .workflows] s s' := by
  simp only [admitWorkflowAttempt, eq_ok] at h
  obtain ⟨stored, -, contract, -, -, -, authority, -, -, -, h⟩ := h
  cases hprevious : s.loadAttempt admission.dispatch.requestId with
  | some existing =>
    simp only [hprevious, eq_ok] at h
    obtain ⟨-, _, s₁, hadmit, -, rfl⟩ := h
    exact (admitDispatchIn_writes hadmit).mono (by decide)
  | none =>
    simp only [hprevious, insertAttempt, eq_ok] at h
    obtain ⟨-, -, -, _, -, _, -, -, _, -, _, -, _, _, hadmit, -, _, _, happend, _, hupdate,
      -, rfl⟩ := h
    refine ((admitDispatchIn_writes hadmit).mono (by decide)).trans <|
      ((append_writes happend).mono (by decide)).trans fun table htable => ?_
    have hlast := updateWorkflow_writes hupdate table
    cases table with
    | attempts | workflows => exact absurd (by decide) htable
    | _ => exact hlast (by decide)

theorem acceptWorkflowCandidate_writes {taskKey : SpecIdentifier} {digest : Sha256Digest}
    (h : s.acceptWorkflowCandidate digests workflowId expectedVersion taskKey digest timestamp =
      .ok (commit, s')) : Writes [.events, .workflows] s s' := by
  simp only [acceptWorkflowCandidate, eq_ok] at h
  obtain ⟨-, _, -, -, -, _, -, _, -, -, _, -, _, -, _, _, happend, _, hupdate, -, rfl⟩ := h
  exact (append_writes happend).append (updateWorkflow_writes hupdate)

theorem acceptWorkflow_writes
    (h : s.acceptWorkflow digests workflowId expectedVersion timestamp = .ok (commit, s')) :
    Writes [.events, .workflows] s s' := by
  simp only [acceptWorkflow, eq_ok] at h
  obtain ⟨-, _, -, -, _, -, -, -, _, -, -, _, -, _, _, happend, _, hupdate, -, rfl⟩ := h
  exact (append_writes happend).append (updateWorkflow_writes hupdate)

/-- What an operation on receipts writes. -/
theorem receiptStep_writes {op : ReceiptOp} {response : ReceiptResponse}
    (h : s.receiptStep digests op = .ok (response, s')) :
    Writes [.events, .receipts, .workflows] s s' := by
  cases op <;>
    simp only [receiptStep, recordWorkflowReceipt, eq_ok] at h
  case record workflowId receipt fence timestamp =>
    obtain ⟨_, _, ⟨-, digest, -, h⟩, -, rfl⟩ := h
    cases hfound : s.loadReceipt receipt.receiptId with
    | some existing =>
      simp only [hfound, eq_ok] at h
      obtain ⟨-, -, rfl⟩ := h
      exact .refl _ _
    | none =>
      simp only [hfound, insertRecorded, eq_ok] at h
      obtain ⟨_, -, _, -, _, -, _, -, _, _, happend, s₂, hinsert, s₃, hupdate,
        -, rfl⟩ := h
      have hlast : Writes [.workflows] s₂ s₃ := by
        unfold updateChanged at hupdate
        split at hupdate
        · cases hupdate
          exact .refl _ _
        · exact updateWorkflow_writes hupdate
      exact (append_writes happend).append ((insertReceipt_writes hinsert).append hlast)
  case acceptCandidate workflowId expectedVersion taskKey digest timestamp =>
    obtain ⟨_, _, haccept, -, rfl⟩ := h
    exact (acceptWorkflowCandidate_writes haccept).mono (by decide)
  case acceptWorkflow workflowId expectedVersion timestamp =>
    obtain ⟨_, _, haccept, -, rfl⟩ := h
    exact (acceptWorkflow_writes haccept).mono (by decide)

section

variable {admission : ModelCallAdmission} {now : Timestamp}

theorem chargeCall_writes {sequence : Nat}
    (h : s.chargeCall admission now sequence = .ok s') : Writes [.workflows] s s' := by
  unfold chargeCall at h
  split at h
  · simp only [chargeModelRequest, eq_ok] at h
    obtain ⟨_, -, -, -, _, -, hupdate⟩ := h
    exact updateWorkflow_writes hupdate
  · cases h
    exact .refl _ _

theorem insertCall_writes {record : ModelCallRecord}
    (h : s.insertCall admission now = .ok (record, s')) :
    Writes [.events, .workflows, .callOwners, .calls] s s' := by
  simp only [insertCall, eq_ok] at h
  obtain ⟨-, _, -, -, _, -, _, _, happend, _, hcharge, -, rfl⟩ := h
  refine ((append_writes happend).mono (by decide)).trans fun table htable => ?_
  have hlast := chargeCall_writes hcharge table
  cases table with
  | workflows | callOwners | calls => exact absurd (by decide) htable
  | _ => exact hlast (by decide)

theorem reserveModelCallIn_writes {record : ModelCallRecord}
    (h : s.reserveModelCallIn digests admission now = .ok (record, s')) :
    Writes [.events, .workflows, .callOwners, .calls] s s' := by
  simp only [reserveModelCallIn, eq_ok] at h
  obtain ⟨-, -, compilerWorkflow, -, found, -, h⟩ := h
  cases found with
  | some existing =>
    simp only [eq_ok] at h
    obtain ⟨-, -, rfl⟩ := h
    exact .refl _ _
  | none =>
    simp only [eq_ok] at h
    exact insertCall_writes h.2

end

theorem recoverCalls_writes {ids : List Uuid} {recovered recovered' : Nat}
    (h : recoverCalls ids recovered s = .ok (recovered', s')) : Writes [.events, .calls] s s' := by
  induction ids generalizing s recovered with
  | nil =>
    cases h
    exact .refl _ _
  | cons callId rest ih =>
    simp only [recoverCalls, bind_eq_ok] at h
    obtain ⟨record, -, h⟩ := h
    split at h
    · simp only [bind_eq_ok] at h
      obtain ⟨s₁, hpersist, _, -, h⟩ := h
      exact (persistCall_writes hpersist).trans (ih h)
    · exact ih h

/-- What an operation on model calls writes. -/
theorem callStep_writes {op : CallOp} {response : CallResponse}
    (h : s.callStep digests op = .ok (response, s')) :
    Writes [.events, .workflows, .callOwners, .calls] s s' := by
  cases op <;>
    simp only [callStep, submitModelCall, finishModelCall, eq_ok] at h
  case reserve admission now =>
    obtain ⟨_, _, hreserve, -, rfl⟩ := h
    exact reserveModelCallIn_writes hreserve
  case submit callId now =>
    obtain ⟨_, _, ⟨_, -, -, _, -, s₁, hpersist, -, rfl⟩, -, rfl⟩ := h
    exact (persistCall_writes hpersist).mono (by decide)
  case finish callId receipt errorCode =>
    obtain ⟨_, _, ⟨_, -, _, -, h⟩, -, rfl⟩ := h
    split at h
    · simp only [eq_ok] at h
      obtain ⟨-, -, rfl⟩ := h
      exact .refl _ _
    · simp only [eq_ok] at h
      obtain ⟨_, -, -, s₁, hpersist, -, rfl⟩ := h
      exact (persistCall_writes hpersist).mono (by decide)
  case recover =>
    obtain ⟨_, _, hrecover, -, rfl⟩ := h
    exact (recoverCalls_writes hrecover).mono (by decide)

/-! ### Supervisors, controllers and contract edits -/

theorem saveSupervisor_writes {write : SupervisorWrite} (h : s.saveSupervisor write = .ok s') :
    Writes [.events, .executions, .actions] s s' := by
  simp only [saveSupervisor, eq_ok] at h
  obtain ⟨_, happend, rfl⟩ := h
  intro table htable
  have hevents := appendAll_writes happend table
  cases table with
  | events | executions | actions => exact absurd (by decide) htable
  | _ => exact hevents (by decide)

theorem changeRecord_writes {change : RecordChange} {key : List Char}
    (h : s.changeRecord workflowId change key = .ok s') : Writes [.events, .workflows] s s' := by
  simp only [changeRecord, eq_ok] at h
  obtain ⟨_, -, _, -, _, _, happend, hupdate⟩ := h
  exact (append_writes happend).append (updateWorkflow_writes hupdate)

theorem retireWorkflow_writes {editId : Uuid} {nowMs : Nat} {phases : List WorkflowPhase}
    (h : retireWorkflow editId nowMs phases record s = .ok s') : Writes [.events, .workflows] s s' := by
  induction phases generalizing record s with
  | nil =>
    cases h
    exact .refl _ _
  | cons phase rest ih =>
    simp only [retireWorkflow, eq_ok] at h
    obtain ⟨_, -, _, _, happend, _, hupdate, hrest⟩ := h
    exact ((append_writes happend).append (updateWorkflow_writes hupdate)).trans (ih hrest)

theorem prepareContractEdit_writes {edit : ContractEditAdmission}
    (h : s.prepareContractEdit digests edit = .ok s') :
    Writes [.events, .workflows, .contracts] s s' := by
  simp only [prepareContractEdit, eq_ok] at h
  obtain ⟨-, _, -, -, -, -, -, -, -, _, -, -, _, hretire, _, _, happend, _, hcontracts, _, -,
    hinsert⟩ := h
  exact ((retireWorkflow_writes hretire).append <| (append_writes happend).append <|
    (insertContracts_writes hcontracts).append (insertWorkflow_writes hinsert)).mono (by decide)

/-- What an operation of a supervisor writes. -/
theorem supervisorStep_writes {op : SupervisorOp} (h : s.supervisorStep digests op = .ok s') :
    Writes [.events, .executions, .actions, .callOwners, .calls, .workflows, .contracts, .messages]
      s s' := by
  cases op <;>
    simp only [supervisorStep, reserveSupervisorRound, admitSupervisorMessage, eq_ok] at h
  case save write => exact (saveSupervisor_writes h).mono (by decide)
  case changeRecord workflowId change key write =>
    obtain ⟨_, hchange, hsave⟩ := h
    exact ((changeRecord_writes hchange).append (saveSupervisor_writes hsave)).mono (by decide)
  case reserveRound admission now write =>
    obtain ⟨_, _, hreserve, hsave⟩ := h
    exact ((reserveModelCallIn_writes hreserve).append (saveSupervisor_writes hsave)).mono (by decide)
  case admitMessage envelope timestamp =>
    obtain ⟨_, _, ⟨_, -, -, hadmit⟩, rfl⟩ := h
    exact (admitWorkflowMessage_writes hadmit).mono (by decide)
  case editContract edit => exact (prepareContractEdit_writes h).mono (by decide)

/-! ## One step of the store -/

/-- A step of the store is a step of one group of operations. -/
inductive Stepped (digests : StoreDigests) (s s' : Store) : StoreOp → StoreResponse → Prop where
  | harness {op : HarnessOp} {response : HarnessResponse}
      (h : s.harnessStep digests op = .ok (response, s')) :
      Stepped digests s s' (.harness op) (.harness response)
  | workflow {op : WorkflowOp} {response : WorkflowResponse}
      (h : s.workflowStep digests op = .ok (response, s')) :
      Stepped digests s s' (.workflow op) (.workflow response)
  | lease {op : LeaseOp} {response : LeaseResponse}
      (h : s.leaseStep digests op = .ok (response, s')) :
      Stepped digests s s' (.lease op) (.lease response)
  | attempt {admission : WorkflowAttemptAdmission} {taskId runId : Uuid}
      {commit : WorkflowAttemptCommit}
      (h : s.admitWorkflowAttempt digests admission taskId runId = .ok (commit, s')) :
      Stepped digests s s' (.admitAttempt admission taskId runId) (.attempt commit)
  | receipt {op : ReceiptOp} {response : ReceiptResponse}
      (h : s.receiptStep digests op = .ok (response, s')) :
      Stepped digests s s' (.receipt op) (.receipt response)
  | call {op : CallOp} {response : CallResponse}
      (h : s.callStep digests op = .ok (response, s')) :
      Stepped digests s s' (.call op) (.call response)
  | message {op : MessageOp} {response : MessageResponse}
      (h : s.messageStep digests op = .ok (response, s')) :
      Stepped digests s s' (.message op) (.message response)
  | supervisor {op : SupervisorOp} (h : s.supervisorStep digests op = .ok s') :
      Stepped digests s s' (.supervisor op) .supervisor

/-- Every accepted operation belongs to one group. -/
theorem storeStep_stepped (h : storeStep digests s op = .ok (response, s')) :
    Stepped digests s s' op response := by
  cases op <;> simp only [storeStep, eq_ok] at h
  case supervisor op =>
    obtain ⟨_, hstep, rfl, rfl⟩ := h
    exact .supervisor hstep
  all_goals obtain ⟨_, _, hstep, rfl, rfl⟩ := h
  · exact .harness hstep
  · exact .workflow hstep
  · exact .lease hstep
  · exact .attempt hstep
  · exact .receipt hstep
  · exact .call hstep
  · exact .message hstep

theorem Stepped.writes (h : Stepped digests s s' op response) : Writes op.written s s' := by
  cases h with
  | harness h => exact harnessStep_writes h
  | workflow h => exact workflowStep_writes h
  | lease h => exact leaseStep_writes h
  | attempt h => exact admitWorkflowAttempt_writes h
  | receipt h => exact receiptStep_writes h
  | call h => exact callStep_writes h
  | message h => exact messageStep_writes h
  | supervisor h => exact supervisorStep_writes h

end Store

end Vibemux
