import Vibemux.Store.Proofs.FrameProofs

/-!
# What the operations on model calls do

A call is reserved once, with one charge to its owner and one to the budget of its workflow. It moves
from `reserved` to `submitted` and then to a settled state, or is settled at once.
-/

namespace Vibemux.Store

open Checked ModelCallRecord Table

variable {s s' : Store} {digests : StoreDigests} {callId : Uuid} {admission : ModelCallAdmission}
  {record next : ModelCallRecord} {errorCode : Option SpecIdentifier}
  {receipt : Option ModelCallReceipt}

theorem loadCall_eq_ok {found : Option ModelCallRecord} (h : s.loadCall callId = .ok found) :
    lookup ModelCallRecord.callId s.calls callId = found := by
  unfold loadCall at h
  cases hrow : lookup ModelCallRecord.callId s.calls callId with
  | none =>
    rw [hrow, Option.mapM_none, return_eq_ok] at h
    exact h
  | some record =>
    rw [hrow, Option.mapM_some] at h
    simp only [map_eq_ok, eq_ok] at h
    obtain ⟨_, ⟨-, rfl⟩, rfl⟩ := h
    rfl

theorem loadExistingCall_eq_ok (h : s.loadExistingCall callId = .ok record) :
    lookup ModelCallRecord.callId s.calls callId = some record := by
  simp only [loadExistingCall, eq_ok] at h
  obtain ⟨found, hload, rfl⟩ := h
  exact loadCall_eq_ok hload

/-! ## Reservations -/

/-- One request was charged to a workflow that admits work. -/
structure RequestCharged (s s' : Store) (workflowId : Uuid) (stored : WorkflowRow)
    (next : WorkflowRecord) : Prop where
  updated : Updated s s' stored next
  sameId : stored.workflowId = workflowId
  admitsWork : stored.record.phase.admitsWork = true
  remaining : 1 ≤ stored.record.budget.modelRequestsRemaining
  next : ∃ nowMs, { stored.record with
    version := stored.record.version + 1
    updatedAtMs := max nowMs stored.record.updatedAtMs
    budget := { stored.record.budget with
      modelRequestsRemaining := stored.record.budget.modelRequestsRemaining - 1 } } = next

theorem chargeModelRequest_eq_ok (s₁ : Store) {workflowId : Uuid} {deadlineUnixMs nowMs sequence : Nat}
    (htable : s₁.workflows = s.workflows)
    (h : s₁.chargeModelRequest workflowId deadlineUnixMs nowMs sequence = .ok s') :
    ∃ stored next, RequestCharged s s' workflowId stored next := by
  simp only [chargeModelRequest, eq_ok, WorkflowRecord.bumped_eq_ok] at h
  obtain ⟨stored, hload, ⟨hwork, -⟩, hremaining, _, ⟨-, rfl⟩, hupdate⟩ := h
  have hload' : s.loadExistingWorkflow workflowId = .ok stored := by
    rw [loadExistingWorkflow_eq_ok] at hload ⊢
    rwa [htable] at hload
  exact ⟨stored, _, Updated.of_updateWorkflow hload' hupdate rfl htable,
    loadExistingWorkflow_id hload', hwork, hremaining, nowMs, rfl⟩

/-- The row a reservation charges: the stored one, which agrees with the admission, or a new one. -/
structure OwnerOf (s : Store) (admission : ModelCallAdmission) (owner : CallOwner) : Prop where
  ownerKey : owner.ownerKey = admission.ownerKey
  workflowId : owner.workflowId = admission.workflowId
  maxCalls : owner.maxCalls = admission.maxCalls
  found : Table.lookup CallOwner.ownerKey s.callOwners admission.ownerKey = some owner ∨
    (Table.lookup CallOwner.ownerKey s.callOwners admission.ownerKey = none ∧ owner.callsUsed = 0)

theorem callOwner_eq_ok {owner : CallOwner} (h : s.callOwner admission = .ok owner) :
    OwnerOf s admission owner := by
  unfold callOwner at h
  cases hfound : lookup CallOwner.ownerKey s.callOwners admission.ownerKey with
  | some stored =>
    simp only [hfound, eq_ok] at h
    obtain ⟨⟨hworkflow, hmax, -⟩, rfl⟩ := h
    exact ⟨key_of_lookup hfound, hworkflow, hmax, .inl hfound⟩
  | none =>
    simp only [hfound, eq_ok] at h
    obtain ⟨-, rfl⟩ := h
    exact ⟨rfl, rfl, rfl, .inr ⟨hfound, rfl⟩⟩

/-- A new reservation: one row, one charge to its owner, and one to its workflow when it has one. -/
structure NewCall (s s' : Store) (admission : ModelCallAdmission) (record : ModelCallRecord)
    (owner : CallOwner) : Prop where
  fresh : Table.lookup ModelCallRecord.callId s.calls admission.callId = none
  row : record = ⟨admission.callId, admission, .reserved, owner.callsUsed + 1, none, none⟩
  ownerOf : OwnerOf s admission owner
  limit : owner.callsUsed + 1 ≤ owner.maxCalls
  calls : s'.calls = s.calls ++ [record]
  callOwners : s'.callOwners = Table.upsert CallOwner.ownerKey s.callOwners
    { owner with callsUsed := owner.callsUsed + 1 }
  charged : (admission.workflowId = none ∧ s'.workflows = s.workflows) ∨ ∃ workflowId stored next,
    admission.workflowId = some workflowId ∧ RequestCharged s s' workflowId stored next

theorem insertCall_eq_ok {now : Timestamp}
    (hfresh : lookup ModelCallRecord.callId s.calls admission.callId = none)
    (h : s.insertCall admission now = .ok (record, s')) :
    ∃ owner, NewCall s s' admission record owner := by
  simp only [insertCall, reserve, eq_ok] at h
  obtain ⟨-, owner, howner, hlimit, _, ⟨-, -, rfl⟩, _, _, happend, s₂, hcharge, rfl,
    rfl⟩ := h
  obtain ⟨events, -, rfl⟩ := append_eq_ok.1 happend
  have hownerOf := callOwner_eq_ok howner
  have hwrites := chargeCall_writes hcharge
  have hcalls : s₂.calls = s.calls := hwrites .calls (by decide)
  have howners : s₂.callOwners = s.callOwners := hwrites .callOwners (by decide)
  refine ⟨owner, hfresh, rfl, hownerOf, hownerOf.maxCalls ▸ hlimit, by rw [hcalls],
    by rw [howners], ?_⟩
  unfold chargeCall at hcharge
  cases hworkflow : admission.workflowId with
  | none =>
    simp only [hworkflow, Except.ok.injEq] at hcharge
    subst hcharge
    exact .inl ⟨rfl, rfl⟩
  | some workflowId =>
    simp only [hworkflow] at hcharge
    obtain ⟨stored, next, hcharged⟩ := chargeModelRequest_eq_ok (s := s)
      { s with events } rfl hcharge
    exact .inr ⟨workflowId, stored, next, rfl,
      { hcharged with updated := ⟨hcharged.updated.loaded, hcharged.updated.valid,
        hcharged.updated.sameId, hcharged.updated.written⟩ }⟩

/-- A reservation that is repeated leaves the store; one with a new identifier is a new call. -/
theorem reserveModelCallIn_eq_ok {now : Timestamp}
    (h : s.reserveModelCallIn digests admission now = .ok (record, s')) :
    (lookup ModelCallRecord.callId s.calls admission.callId = some record ∧
      record.admission = admission ∧ s' = s) ∨ ∃ owner, NewCall s s' admission record owner := by
  simp only [reserveModelCallIn, eq_ok] at h
  obtain ⟨-, -, compilerWorkflow, -, found, hload, h⟩ := h
  have hfound := loadCall_eq_ok hload
  cases found with
  | some existing =>
    simp only [eq_ok] at h
    obtain ⟨hsame, rfl, rfl⟩ := h
    exact .inl ⟨hfound, hsame, rfl⟩
  | none =>
    simp only [eq_ok] at h
    exact .inr (insertCall_eq_ok hfound h.2)

/-! ## Moves -/

/-- A stored call that moved on: it was submitted, or it was settled. -/
structure Advanced (old new : ModelCallRecord) : Prop where
  callId : new.callId = old.callId
  admission : new.admission = old.admission
  callsUsed : new.callsUsed = old.callsUsed
  unsettled : old.isSettled = false
  state : (old.state = .reserved ∧ new.state = .submitted) ∨ new.isSettled = true

theorem Advanced.trans {old mid new : ModelCallRecord} (h : Advanced old mid) (h' : Advanced mid new) :
    Advanced old new := by
  have hsubmitted : mid.state = .submitted := by
    rcases h.state with ⟨-, hstate⟩ | hsettled
    · exact hstate
    · exact absurd (hsettled.symm.trans h'.unsettled) (by decide)
  refine ⟨h'.callId.trans h.callId, h'.admission.trans h.admission, h'.callsUsed.trans h.callsUsed,
    h.unsettled, .inr ?_⟩
  rcases h'.state with ⟨hreserved, -⟩ | hsettled
  · exact absurd (hreserved.symm.trans hsubmitted) (by decide)
  · exact hsettled

theorem isSettled_eq_false :
    record.isSettled = false ↔ record.state = .reserved ∨ record.state = .submitted := by
  unfold ModelCallRecord.isSettled
  cases record.state <;> decide

theorem markSubmitted_eq_ok (h : record.markSubmitted = .ok next) :
    Advanced record next := by
  simp only [markSubmitted, eq_ok] at h
  obtain ⟨hreserved, rfl⟩ := h
  exact ⟨rfl, rfl, rfl, isSettled_eq_false.2 (.inl hreserved), .inl ⟨hreserved, rfl⟩⟩

theorem finishState_settled {state : ModelCallState}
    (h : finishState receipt errorCode = some state) :
    state ≠ .reserved ∧ state ≠ .submitted := by
  unfold finishState at h
  split at h
  · split_ifs at h
    cases h
    decide
  · split at h <;> split_ifs at h <;> cases h <;> decide

theorem finish_eq_ok (h : record.finish receipt errorCode = .ok next) :
    Advanced record next := by
  unfold finish at h
  split_ifs at h with hreserved
  · simp only [eq_ok] at h
    obtain ⟨-, rfl⟩ := h
    exact ⟨rfl, rfl, rfl, isSettled_eq_false.2 (.inl hreserved), .inr rfl⟩
  · simp only [eq_ok] at h
    obtain ⟨hsubmitted, h⟩ := h
    have hfinish : ∃ state, finishState receipt errorCode = some state ∧
        { record with receipt, errorCode, state } = next := by
      cases receipt with
      | none => simpa only [bind_eq_ok, require_eq_ok, return_eq_ok] using h
      | some receipt =>
        simp only [eq_ok] at h
        exact h.2
    obtain ⟨state, hstate, rfl⟩ := hfinish
    obtain ⟨hreserved', hsubmitted'⟩ := finishState_settled hstate
    exact ⟨rfl, rfl, rfl, isSettled_eq_false.2 (.inr hsubmitted), .inr (by
      simp [ModelCallRecord.isSettled, hreserved', hsubmitted'])⟩

theorem recoverAfterRestart_eq_some (h : record.recoverAfterRestart = some next) :
    record.state = .submitted ∧ next.state = .unknown ∧ Advanced record next := by
  unfold recoverAfterRestart at h
  split_ifs at h with hsubmitted
  cases h
  exact ⟨hsubmitted, rfl, rfl, rfl, rfl, isSettled_eq_false.2 (.inr hsubmitted), .inr rfl⟩

/-! ## Changes of the tables -/

/-- What one write does to the calls and to their owners. -/
inductive CallChange (s s' : Store) : Prop where
  | same (hcalls : s'.calls = s.calls) (howners : s'.callOwners = s.callOwners)
  | reserved {admission : ModelCallAdmission} {record : ModelCallRecord} {owner : CallOwner}
      (hnew : NewCall s s' admission record owner)
  | advanced {old new : ModelCallRecord}
      (hfound : Table.lookup ModelCallRecord.callId s.calls old.callId = some old)
      (hadvanced : Advanced old new)
      (hcalls : s'.calls = Table.put ModelCallRecord.callId s.calls new)
      (howners : s'.callOwners = s.callOwners)
  | associated {owner : CallOwner} {workflowId : Uuid}
      (hfound : Table.lookup CallOwner.ownerKey s.callOwners owner.ownerKey = some owner)
      (hcalls : s'.calls = s.calls)
      (howners : s'.callOwners = Table.put CallOwner.ownerKey s.callOwners
        { owner with workflowId := some workflowId })

/-- The changes of one operation, in their order. -/
abbrev CallChanges : Store → Store → Prop := Relation.ReflTransGen CallChange

theorem persistCall_change {old new : ModelCallRecord} (hload : s.loadExistingCall callId = .ok old)
    (hadvanced : Advanced old new) (h : s.persistCall new = .ok s') : CallChange s s' := by
  have hfound := loadExistingCall_eq_ok hload
  simp only [persistCall, eq_ok] at h
  obtain ⟨sequence, s₁, happend, rfl⟩ := h
  obtain ⟨events, -, rfl⟩ := append_eq_ok.1 happend
  exact .advanced (key_of_lookup hfound ▸ hfound) hadvanced rfl rfl

theorem recoverCalls_changes {ids : List Uuid} {recovered recovered' : Nat}
    (h : recoverCalls ids recovered s = .ok (recovered', s')) : CallChanges s s' := by
  induction ids generalizing recovered s with
  | nil =>
    cases h
    exact .refl
  | cons callId rest ih =>
    simp only [recoverCalls, bind_eq_ok] at h
    obtain ⟨record, hload, h⟩ := h
    cases hrecover : record.recoverAfterRestart with
    | none =>
      rw [hrecover] at h
      exact ih h
    | some next =>
      simp only [hrecover, bind_eq_ok] at h
      obtain ⟨s₁, hpersist, _, -, h⟩ := h
      have hadvanced := (recoverAfterRestart_eq_some hrecover).2.2
      exact .head (persistCall_change hload hadvanced hpersist) (ih h)

theorem associatePreparedCompiler_change {association : PreparedCompilerAssociation}
    (h : s.associatePreparedCompiler association = .ok s') : CallChange s s' := by
  simp only [associatePreparedCompiler, eq_ok] at h
  obtain ⟨_, hfound, -, _, _, happend, rfl⟩ := h
  obtain ⟨events, -, rfl⟩ := append_eq_ok.1 happend
  exact .associated (key_of_lookup hfound ▸ hfound) rfl rfl

theorem CallChange.of_writes {tables : List StoreTable} (h : Writes tables s s')
    (hcalls : StoreTable.calls ∉ tables) (howners : StoreTable.callOwners ∉ tables) :
    CallChange s s' := .same (h .calls hcalls) (h .callOwners howners)

/-- A new call, or none: what reserving does to the calls and their owners. -/
theorem reserveModelCallIn_changes {now : Timestamp}
    (h : s.reserveModelCallIn digests admission now = .ok (record, s')) : CallChanges s s' := by
  rcases reserveModelCallIn_eq_ok h with ⟨-, -, rfl⟩ | ⟨owner, hnew⟩
  · exact .refl
  · exact .single (.reserved hnew)

/-- What an operation on model calls changes. -/
theorem callStep_changes {op : CallOp} {response : CallResponse}
    (h : s.callStep digests op = .ok (response, s')) : CallChanges s s' := by
  cases op <;>
    simp only [callStep, reserveModelCall, submitModelCall, eq_ok, finishModelCall,
      recoverModelCalls] at h
  case reserve admission now =>
    obtain ⟨record, s₁, hreserve, -, rfl⟩ := h
    exact reserveModelCallIn_changes hreserve
  case submit callId now =>
    obtain ⟨_, _, ⟨record, hload, -, next, hnext, s₁, hpersist, -, rfl⟩, -, rfl⟩ := h
    exact .single (persistCall_change hload (markSubmitted_eq_ok hnext) hpersist)
  case finish callId receipt errorCode =>
    obtain ⟨_, _, ⟨_, hload, _, -, h⟩, -, rfl⟩ := h
    split_ifs at h
    · simp only [eq_ok] at h
      obtain ⟨-, -, rfl⟩ := h
      exact .refl
    · simp only [eq_ok] at h
      obtain ⟨_, hnext, -, s₁, hpersist, -, rfl⟩ := h
      exact .single (persistCall_change hload (finish_eq_ok hnext) hpersist)
  case recover =>
    obtain ⟨count, s₁, hrecover, -, rfl⟩ := h
    exact recoverCalls_changes hrecover

theorem associateCharged_changes {association : Option PreparedCompilerAssociation}
    (h : s.associateCharged association = .ok s') : CallChanges s s' := by
  cases association with
  | none =>
    cases h
    exact .refl
  | some association => exact .single (associatePreparedCompiler_change h)

theorem prepareWorkflow_changes {record : WorkflowRecord} {contracts : List ContractArtifact}
    {commit : WorkflowCommit} (h : s.prepareWorkflow digests record contracts = .ok (commit, s')) :
    CallChanges s s' := by
  rcases prepareWorkflow_eq_ok h with rfl | ⟨fingerprint, hinsert⟩
  · exact .refl
  · simp only [insertPrepared, eq_ok] at hinsert
    obtain ⟨_, _, -, _, _, happend, _, hcontracts, _, hrow, _, hassociate, -,
      rfl⟩ := hinsert
    exact .head (.of_writes (append_writes happend) (by decide) (by decide)) <|
      .head (.of_writes (insertContracts_writes hcontracts) (by decide) (by decide)) <|
      .head (.of_writes (insertWorkflow_writes hrow) (by decide) (by decide)) <|
      associateCharged_changes hassociate

/-- What an operation on workflows changes of the calls. -/
theorem workflowStep_changes {op : WorkflowOp} {response : WorkflowResponse}
    (h : s.workflowStep digests op = .ok (response, s')) : CallChanges s s' := by
  cases op <;>
    simp only [workflowStep, eq_ok] at h
  case bindContractAuthority =>
    obtain ⟨_, hbind, -, rfl⟩ := h
    exact .single (.of_writes (bindWorkflowContractAuthority_writes hbind) (by decide) (by decide))
  case prepare =>
    obtain ⟨_, _, hprepare, -, rfl⟩ := h
    exact prepareWorkflow_changes hprepare
  case transition =>
    obtain ⟨_, _, htransition, -, rfl⟩ := h
    exact .single (.of_writes (transitionWorkflow_writes htransition) (by decide) (by decide))
  case addContractGeneration =>
    obtain ⟨_, _, hadd, -, rfl⟩ := h
    exact .single (.of_writes (addContractGeneration_writes hadd) (by decide) (by decide))

/-- Of the operations of supervisors, controllers and contract edits, only the reservation of a round
writes the calls. -/
theorem supervisorStep_changes {op : SupervisorOp} (h : s.supervisorStep digests op = .ok s') :
    CallChanges s s' := by
  cases op <;>
    simp only [supervisorStep, reserveSupervisorRound, admitSupervisorMessage, eq_ok] at h
  case save write =>
    exact .single (.of_writes (saveSupervisor_writes h) (by decide) (by decide))
  case changeRecord workflowId change key write =>
    obtain ⟨_, hchange, hsave⟩ := h
    exact .head (.of_writes (changeRecord_writes hchange) (by decide) (by decide)) <|
      .single (.of_writes (saveSupervisor_writes hsave) (by decide) (by decide))
  case reserveRound admission now write =>
    obtain ⟨_, _, hreserve, hsave⟩ := h
    exact (reserveModelCallIn_changes hreserve).tail
      (.of_writes (saveSupervisor_writes hsave) (by decide) (by decide))
  case admitMessage envelope timestamp =>
    obtain ⟨_, _, ⟨_, -, -, hadmit⟩, rfl⟩ := h
    exact .single (.of_writes (admitWorkflowMessage_writes hadmit) (by decide) (by decide))
  case editContract edit =>
    exact .single (.of_writes (prepareContractEdit_writes h) (by decide) (by decide))

/-- Every operation changes the calls and their owners by such writes alone. -/
theorem Stepped.callChanges {op : StoreOp} {response : StoreResponse}
    (h : Stepped digests s s' op response) : CallChanges s s' := by
  have hwrites := h.writes
  cases h with
  | workflow hgroup => exact workflowStep_changes hgroup
  | call hgroup => exact callStep_changes hgroup
  | supervisor hgroup => exact supervisorStep_changes hgroup
  | _ => exact .single (.of_writes hwrites (by simp [StoreOp.written]) (by simp [StoreOp.written]))

end Vibemux.Store
