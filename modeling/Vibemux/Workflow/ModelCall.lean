import Vibemux.Workflow.Receipts

/-!
# Model calls

A call is reserved, submitted at most once and then finished; a submitted call whose outcome was lost
becomes `unknown` and is never submitted again. Texts are not kept.
-/

namespace Vibemux

open Checked Text

/-- `MAX_MODEL_CALLS_PER_OWNER`. -/
def maxModelCallsPerOwner : Nat := 64

def maxAliasBytes : Nat := 128

def maxOutputTokens : Nat := 16384

def minTimeoutMs : Nat := 1000

def maxTimeoutMs : Nat := 600000

def GatewayProtocol.adapterSupported : GatewayProtocol → Bool
  | openaiResponses => false
  | _ => true

/-- The states of a model call. -/
inductive ModelCallState where
  | reserved
  | submitted
  | completed
  /-- Upstream completed, but its output was rejected before use. -/
  | rejected
  | blocked
  | unknown
deriving DecidableEq

/-- `state_key`. -/
def ModelCallState.asStr : ModelCallState → List Char
  | reserved => "reserved".toList
  | submitted => "submitted".toList
  | completed => "completed".toList
  | rejected => "rejected".toList
  | blocked => "blocked".toList
  | unknown => "unknown".toList

/-- Identity of a single role-bound request; prompts are represented by a digest. -/
structure ModelCallIdentity where
  requestSha256 : Sha256Digest
  requestFingerprint : Sha256Digest
  configSha256 : Sha256Digest
  observationDigest : Option Sha256Digest
  role : RouteRole
  requestedAlias : List Char
  protocol : GatewayProtocol
  maxOutputTokens : Nat
  timeoutMs : Nat
deriving DecidableEq

/-- The request for a model call. -/
structure ModelCallAdmission where
  callId : Uuid
  ownerKey : SpecIdentifier
  workflowId : Option Uuid
  identity : ModelCallIdentity
  deadlineUnixMs : Nat
  maxCalls : Nat
deriving DecidableEq

/-- What a model call refuses. -/
inductive ModelCallError where
  | invalidAdmission
  | identityMismatch
  | callLimitExceeded
  | notReservable
  | notSubmitted
  | invalidFinish
  | receiptMismatch
deriving DecidableEq

def ModelCallError.code : ModelCallError → String
  | invalidAdmission => "model_call_admission_invalid"
  | identityMismatch => "model_call_identity_mismatch"
  | callLimitExceeded => "model_call_limit_exceeded"
  | notReservable => "model_call_not_reservable"
  | notSubmitted => "model_call_not_submitted"
  | invalidFinish => "model_call_finish_invalid"
  | receiptMismatch => "model_call_receipt_mismatch"

def ModelCallAdmission.validate (self : ModelCallAdmission) : Except ModelCallError Unit :=
  ensure (self.deadlineUnixMs ≠ 0 ∧ 1 ≤ self.maxCalls ∧ self.maxCalls ≤ maxModelCallsPerOwner ∧
    self.identity.protocol.adapterSupported = true ∧ self.identity.requestedAlias ≠ [] ∧
    byteLen self.identity.requestedAlias ≤ maxAliasBytes ∧
    (self.identity.requestedAlias.any fun c => isWhitespace c || isControl c) = false ∧
    self.identity.maxOutputTokens ≠ 0 ∧ self.identity.maxOutputTokens ≤ maxOutputTokens ∧
    minTimeoutMs ≤ self.identity.timeoutMs ∧ self.identity.timeoutMs ≤ maxTimeoutMs)
    .invalidAdmission

/-- The stored state of one call. -/
structure ModelCallRecord where
  callId : Uuid
  admission : ModelCallAdmission
  state : ModelCallState
  callsUsed : Nat
  receipt : Option ModelCallReceipt
  errorCode : Option SpecIdentifier
deriving DecidableEq

/-- The codes under which a completed response is rejected before use. -/
def isRejectionCode (code : SpecIdentifier) : Bool :=
  code.text == "model_call_response_too_large".toList || code.text == "gateway_result_invalid".toList

/-- Whether a receipt shows a completed response. -/
def ModelCallReceipt.isCompleted (receipt : ModelCallReceipt) : Bool :=
  receipt.outcome == .completed && receipt.responseSha256.isSome

namespace ModelCallRecord

def validateReceipt (self : ModelCallRecord) (receipt : ModelCallReceipt) :
    Except ModelCallError Unit :=
  let identity := self.admission.identity
  ensure (receipt.callId = self.callId ∧ receipt.role = identity.role ∧
    receipt.requestedAlias = identity.requestedAlias ∧ receipt.protocol = identity.protocol ∧
    receipt.requestSha256 = identity.requestSha256 ∧
    (identity.observationDigest.all fun digest => receipt.routeGeneration == digest) = true ∧
    receipt.attempt = self.callsUsed) .receiptMismatch

/-- Whether the receipt and the error code are those of the state. -/
def evidenceFits (self : ModelCallRecord) : Bool :=
  match self.state with
  | .reserved | .submitted => self.receipt.isNone && self.errorCode.isNone
  | .completed => self.errorCode.isNone && self.receipt.any ModelCallReceipt.isCompleted
  | .rejected =>
    self.errorCode.any isRejectionCode && self.receipt.any ModelCallReceipt.isCompleted
  | .blocked => self.errorCode.isSome && self.receipt.all fun receipt =>
    receipt.outcome == .blocked || receipt.outcome == .failedBeforeOutput
  | .unknown =>
    self.errorCode.isSome && self.receipt.all fun receipt => receipt.outcome == .failedAfterOutput

def validate (self : ModelCallRecord) : Except ModelCallError Unit := do
  self.admission.validate
  ensure (self.callId = self.admission.callId ∧ self.callId.isNil = false) .identityMismatch
  ensure (self.callsUsed ≠ 0 ∧ self.callsUsed ≤ self.admission.maxCalls) .callLimitExceeded
  ensure (self.evidenceFits = true) .invalidFinish
  match self.receipt with
  | some receipt => self.validateReceipt receipt
  | none => return ()

/-- `reserved`. -/
def reserve (admission : ModelCallAdmission) (callsUsed : Nat) :
    Except ModelCallError ModelCallRecord := do
  admission.validate
  ensure (callsUsed ≠ 0 ∧ callsUsed ≤ admission.maxCalls) .callLimitExceeded
  return ⟨admission.callId, admission, .reserved, callsUsed, none, none⟩

def markSubmitted (self : ModelCallRecord) : Except ModelCallError ModelCallRecord := do
  ensure (self.state = .reserved) .notReservable
  return { self with state := .submitted }

/-- The state a submitted call ends in, by its evidence. -/
def finishState (receipt : Option ModelCallReceipt) (errorCode : Option SpecIdentifier) :
    Option ModelCallState :=
  match receipt with
  | none => if errorCode.isSome then some .unknown else none
  | some receipt =>
    match receipt.outcome with
    | .completed =>
      if errorCode.any isRejectionCode && receipt.responseSha256.isSome then some .rejected
      else if errorCode.isNone && receipt.responseSha256.isSome then some .completed
      else none
    | .blocked | .failedBeforeOutput => if errorCode.isSome then some .blocked else none
    | .failedAfterOutput => if errorCode.isSome then some .unknown else none

/-- Finishes an attempt from content-free evidence. -/
def finish (self : ModelCallRecord) (receipt : Option ModelCallReceipt)
    (errorCode : Option SpecIdentifier) : Except ModelCallError ModelCallRecord :=
  if self.state = .reserved then do
    ensure (receipt = none ∧ errorCode.isSome = true) .invalidFinish
    return { self with errorCode, state := .blocked }
  else do
    ensure (self.state = .submitted) .notSubmitted
    match receipt with
    | some receipt => self.validateReceipt receipt
    | none => pure ()
    let state ← require (finishState receipt errorCode) .invalidFinish
    return { self with receipt, errorCode, state }

/-- The code recovery writes for a lost outcome. -/
def outcomeUnknownCode : SpecIdentifier := ⟨"model_call_outcome_unknown".toList, by decide⟩

/-- The record after a restart, or `none` when recovery leaves it alone. -/
def recoverAfterRestart (self : ModelCallRecord) : Option ModelCallRecord :=
  if self.state = .submitted then
    some { self with state := .unknown, errorCode := some outcomeUnknownCode }
  else none

/-- A call that has ended keeps its state. -/
def isSettled (self : ModelCallRecord) : Bool := self.state != .reserved && self.state != .submitted

end ModelCallRecord

end Vibemux
