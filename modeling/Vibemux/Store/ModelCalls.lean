import Vibemux.Store.WorkflowTables

/-!
# Reservations of model calls

A call is charged to the account of its owner when it is reserved, and to the budget of its workflow when
it has one; no charge is refunded. A call of the compiler is charged when its workflow is prepared.
-/

namespace Vibemux

open Checked SortDedup Text

/-- `COMPILER_OWNER_PREFIX`. -/
def compilerOwnerPrefix : List Char := "compiler_".toList

/-- The value of a hexadecimal text. -/
def hexValue (text : List Char) : Nat :=
  text.foldl (fun n c => 16 * n + (if c.isDigit then c.toNat - 48 else c.toNat - 87)) 0

/-- `Uuid::simple`. -/
def Uuid.simple (id : Uuid) : List Char := hexDigits 32 id.bits.toNat

/-- The key of the events of a model call. -/
def modelCallKey (callId : Uuid) (state : ModelCallState) : List Char :=
  "model_call:".toList ++ callId.hyphenated ++ ':' :: state.asStr

/-- The workflow a compiler call was made for. An owner outside the compiler's names has none, and one
inside must have the whole shape of a compiler call. -/
def compilerWorkflowId (compilerCall : Uuid → Sha256Digest → Uuid) (admission : ModelCallAdmission) :
    Except StoreError (Option Uuid) :=
  let suffix := admission.ownerKey.text.drop compilerOwnerPrefix.length
  -- An identifier has no capital letters, so its hexadecimal digits are lowercase.
  if compilerOwnerPrefix.isPrefixOf admission.ownerKey.text = false ∨ suffix.length ≠ 32 ∨
      (suffix.all fun c => c.isDigit || ('a' ≤ c && c ≤ 'f')) = false then .ok none
  else do
    let workflowId := Uuid.fromU128 (hexValue suffix)
    ensure (workflowId.isNil = false ∧ suffix = workflowId.simple ∧ admission.workflowId = none ∧
      admission.identity.role = .compiler ∧ admission.maxCalls = 1 ∧
      admission.callId = compilerCall workflowId admission.identity.requestFingerprint)
      (.workflow "model_call_compiler_association_invalid")
    return some workflowId

/-- What `associate_prepared_compiler` writes after the workflow's row. -/
structure PreparedCompilerAssociation where
  workflowId : Uuid
  call : ModelCallRecord
deriving DecidableEq

namespace Store

variable (s : Store)

def loadCall (callId : Uuid) : Except StoreError (Option ModelCallRecord) :=
  (Table.lookup ModelCallRecord.callId s.calls callId).mapM fun record => do
    record.validate.mapError fun error => .workflow error.code
    return record

def loadExistingCall (callId : Uuid) : Except StoreError ModelCallRecord := do
  require (← s.loadCall callId) (.workflow "model_call_unknown")

/-- Charges the compiler's call of a workflow that is being prepared. Every settled reservation is
charged; pending work must settle first. -/
def chargeCompilerForPrepare (digests : StoreDigests) (record : WorkflowRecord) :
    Except StoreError (WorkflowRecord × Option PreparedCompilerAssociation) :=
  let ownerKey := compilerOwnerPrefix ++ record.workflowId.simple
  match s.callOwners.find? fun owner => owner.ownerKey.text = ownerKey with
  | none => .ok (record, none)
  | some owner => do
    ensure (owner.workflowId = none ∧ owner.maxCalls = 1 ∧ owner.callsUsed = 1)
      (.workflow "model_call_compiler_association_invalid")
    let rows := s.calls.filter fun call => call.admission.ownerKey.text = ownerKey
    let row ← require (if rows.length = 1 then rows.head? else none)
      (.workflow "model_call_compiler_association_invalid")
    let call ← require (← s.loadCall row.callId) (.workflow "model_call_compiler_association_invalid")
    let workflowId ← compilerWorkflowId digests.compilerCall call.admission
    ensure (workflowId = some record.workflowId ∧ call.callsUsed = owner.callsUsed ∧
      call.admission.deadlineUnixMs = owner.deadlineUnixMs)
      (.workflow "model_call_compiler_association_invalid")
    ensure (call.isSettled = true) (.workflow "model_call_compiler_pending")
    ensure (owner.callsUsed ≤ record.budget.modelRequestsRemaining)
      (.workflow "model_call_limit_exceeded")
    let charged := { record with
      budget := { record.budget with
        modelRequestsRemaining := record.budget.modelRequestsRemaining - owner.callsUsed } }
    return (charged, some ⟨record.workflowId, call⟩)

/-- Gives the owner row its workflow, once. -/
def associatePreparedCompiler (association : PreparedCompilerAssociation) :
    Except StoreError Store := do
  let call := association.call
  let owner ← require (Table.lookup CallOwner.ownerKey s.callOwners call.admission.ownerKey)
    (.workflow "model_call_compiler_association_invalid")
  ensure (owner.workflowId = none ∧ owner.maxCalls = 1 ∧ owner.callsUsed = 1 ∧
    owner.deadlineUnixMs = call.admission.deadlineUnixMs)
    (.workflow "model_call_compiler_association_invalid")
  let s := { s with
    callOwners := Table.put CallOwner.ownerKey s.callOwners
      { owner with workflowId := some association.workflowId } }
  let (_, s) ← s.append ("workflow_compiler_call:".toList ++ association.workflowId.hyphenated ++
    ':' :: call.callId.hyphenated)
  return s

/-- `persist`. -/
def persistCall (record : ModelCallRecord) : Except StoreError Store := do
  let (_, s) ← s.append (modelCallKey record.callId record.state)
  return { s with calls := Table.put ModelCallRecord.callId s.calls record }

/-- The owner's row that a reservation charges: the stored one, which must agree with the admission,
or a new one. -/
def callOwner (admission : ModelCallAdmission) : Except StoreError CallOwner :=
  match Table.lookup CallOwner.ownerKey s.callOwners admission.ownerKey with
  | some owner => do
    ensure (owner.workflowId = admission.workflowId ∧ owner.maxCalls = admission.maxCalls ∧
      owner.deadlineUnixMs = admission.deadlineUnixMs)
      (.workflow "model_call_budget_identity_mismatch")
    return owner
  | none => do
    -- The foreign key of the owner's row.
    ensure ((admission.workflowId.all fun id =>
      (Table.lookup WorkflowRow.workflowId s.workflows id).isSome) = true) .database
    return ⟨admission.ownerKey, admission.workflowId, admission.maxCalls, admission.deadlineUnixMs, 0⟩

/-- Charges one model request to a workflow that admits work. -/
def chargeModelRequest (workflowId : Uuid) (deadlineUnixMs nowMs sequence : Nat) :
    Except StoreError Store := do
  let stored ← s.loadExistingWorkflow workflowId
  let workflow := stored.record
  ensure (workflow.phase.admitsWork = true ∧ deadlineUnixMs ≤ workflow.budget.deadlineUnixMs)
    (.workflow "store_workflow_not_running")
  ensure (1 ≤ workflow.budget.modelRequestsRemaining) (.workflow "model_call_limit_exceeded")
  let charged := { workflow with
    budget := { workflow.budget with
      modelRequestsRemaining := workflow.budget.modelRequestsRemaining - 1 } }
  let next ← (charged.bumped nowMs).mapError recordError
  s.updateWorkflow next workflow.version sequence

/-- The charge to the workflow of a reservation that has one. -/
def chargeCall (admission : ModelCallAdmission) (now : Timestamp) (sequence : Nat) :
    Except StoreError Store :=
  match admission.workflowId with
  | some workflowId => s.chargeModelRequest workflowId admission.deadlineUnixMs (millis now) sequence
  | none => .ok s

/-- The part of `reserve_model_call_in` that writes a new reservation. -/
def insertCall (admission : ModelCallAdmission) (now : Timestamp) :
    Except StoreError (ModelCallRecord × Store) := do
  ensure (millis now < admission.deadlineUnixMs) (.workflow "model_call_deadline_exceeded")
  let owner ← s.callOwner admission
  ensure (owner.callsUsed + 1 ≤ admission.maxCalls) (.workflow "model_call_limit_exceeded")
  let record ← (ModelCallRecord.reserve admission (owner.callsUsed + 1)).mapError
    fun error => .workflow error.code
  let (sequence, s) ← s.append (modelCallKey record.callId .reserved)
  let s ← s.chargeCall admission now sequence
  return (record, { s with
    callOwners := Table.upsert CallOwner.ownerKey s.callOwners
      { owner with callsUsed := owner.callsUsed + 1 }
    calls := s.calls ++ [record] })

/-- A compiler call must come before the workflow it is made for. -/
def checkUnprepared : Option Uuid → Except StoreError Unit
  | none => .ok ()
  | some workflowId => do
    let prepared ← s.loadWorkflow workflowId
    ensure (prepared = none) (.workflow "model_call_compiler_workflow_prepared")

/-- `reserve_model_call_in`, at the time `now`. -/
def reserveModelCallIn (digests : StoreDigests) (admission : ModelCallAdmission) (now : Timestamp) :
    Except StoreError (ModelCallRecord × Store) := do
  admission.validate.mapError fun error => .workflow error.code
  ensure (admission.callId.isNil = false ∧ (admission.workflowId.any Uuid.isNil) = false)
    (.workflow "model_call_admission_invalid")
  let compilerWorkflow ← compilerWorkflowId digests.compilerCall admission
  match ← s.loadCall admission.callId with
  | some record =>
    ensure (record.admission = admission) (.workflow "model_call_identity_mismatch")
    return (record, s)
  | none =>
    s.checkUnprepared compilerWorkflow
    s.insertCall admission now

def reserveModelCall (digests : StoreDigests) (admission : ModelCallAdmission) (now : Timestamp) :
    Except StoreError (ModelCallRecord × Store) := s.reserveModelCallIn digests admission now

def submitModelCall (callId : Uuid) (now : Timestamp) : Except StoreError (ModelCallRecord × Store) := do
  let record ← s.loadExistingCall callId
  ensure (millis now < record.admission.deadlineUnixMs) (.workflow "model_call_deadline_exceeded")
  let record ← record.markSubmitted.mapError fun error => .workflow error.code
  let s ← s.persistCall record
  return (record, s)

/-- A repeated finish of a settled call is answered from the row. -/
def finishModelCall (callId : Uuid) (receipt : Option ModelCallReceipt)
    (errorCode : Option (List Char)) : Except StoreError (ModelCallRecord × Store) := do
  let record ← s.loadExistingCall callId
  let error ← (errorCode.mapM SpecIdentifier.new).mapError
    fun _ => .workflow "model_call_finish_invalid"
  if record.isSettled then
    ensure (record.receipt = receipt ∧ record.errorCode = error) (.workflow "model_call_finish_conflict")
    return (record, s)
  else
    let record ← (record.finish receipt error).mapError fun error => .workflow error.code
    record.validate.mapError fun error => .workflow error.code
    let s ← s.persistCall record
    return (record, s)

/-- The recovery loop over the remaining calls, with the number recovered so far. -/
def recoverCalls : List Uuid → Nat → Store → Except StoreError (Nat × Store)
  | [], recovered, s => .ok (recovered, s)
  | callId :: rest, recovered, s => do
    let record ← s.loadExistingCall callId
    match record.recoverAfterRestart with
    | some record =>
      let s ← s.persistCall record
      let recovered ← require (checkedSucc u32Max recovered) (.workflow "model_call_limit_exceeded")
      recoverCalls rest recovered s
    | none => recoverCalls rest recovered s

/-- `recover_model_calls`: the submitted calls in the order of their identifiers. The source reads
them in pages inside one transaction. -/
def recoverModelCalls : Except StoreError (Nat × Store) :=
  let submitted := s.calls.filter fun call => call.state = .submitted
  let ids := (submitted.map ModelCallRecord.callId).insertionSort fun a b => a.bits.toNat ≤ b.bits.toNat
  recoverCalls ids 0 s

end Store

/-- The operations on model calls. -/
inductive CallOp where
  | reserve (admission : ModelCallAdmission) (now : Timestamp)
  | submit (callId : Uuid) (now : Timestamp)
  | finish (callId : Uuid) (receipt : Option ModelCallReceipt) (errorCode : Option (List Char))
  | recover
deriving DecidableEq

/-- What an operation on model calls returns. -/
inductive CallResponse where
  | record (record : ModelCallRecord)
  | recovered (count : Nat)

def Store.callStep (s : Store) (digests : StoreDigests) :
    CallOp → Except StoreError (CallResponse × Store)
  | .reserve admission now => do
    let (record, s) ← s.reserveModelCall digests admission now
    return (.record record, s)
  | .submit callId now => do
    let (record, s) ← s.submitModelCall callId now
    return (.record record, s)
  | .finish callId receipt errorCode => do
    let (record, s) ← s.finishModelCall callId receipt errorCode
    return (.record record, s)
  | .recover => do
    let (count, s) ← s.recoverModelCalls
    return (.recovered count, s)

end Vibemux
