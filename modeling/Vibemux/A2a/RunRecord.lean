import Vibemux.Store.Events

/-!
# Records of remote runs

A run that a remote peer executes is a run of a task with a binding to the peer and a workspace of its
own. What a peer reports is an observation; a run succeeds only on the receipt of a local verifier.
-/

namespace Vibemux

open Checked Text

def a2aRecordSchemaVersion : Nat := 1

def maxA2aArtifacts : Nat := 16

def maxA2aRunsPerTask : Nat := 32

def maxA2aArtifactBytes : Nat := 16 * 1024 * 1024

/-- The state of a task as its remote agent reports it. -/
inductive A2aRemoteState where
  | submitted
  | working
  | inputRequired
  | completed
  | failed
  | cancelled
deriving DecidableEq

def A2aRemoteState.canTransitionTo (self next : A2aRemoteState) : Bool :=
  self == next ||
    match self, next with
    | .submitted, .working | .submitted, .inputRequired | .submitted, .completed | .submitted, .failed
    | .submitted, .cancelled => true
    | .working, .inputRequired | .working, .completed | .working, .failed | .working, .cancelled => true
    | .inputRequired, .working | .inputRequired, .completed | .inputRequired, .failed
    | .inputRequired, .cancelled => true
    | _, _ => false

/-- How far the cancellation of a remote run got. -/
inductive A2aCancellationState where
  | none
  | requested
  | confirmed
deriving DecidableEq

/-! ## Checks of single fields -/

def validIdentifier (value : List Char) (maximum : Nat) : Bool :=
  value ≠ [] && byteLen value ≤ maximum &&
    value.all fun c => c.isAlphanum || c ∈ ['_', '.', '/', ':', '-']

def validLabel (value : List Char) (maximum : Nat) : Bool :=
  trim value ≠ [] && byteLen value ≤ maximum && !value.any isControl

/-- The text of a digest: 64 lowercase hexadecimal digits. -/
def validateSha256 (digest : List Char) : Except A2aStateError Unit :=
  ensure (byteLen digest = 64 ∧ (digest.all fun c => c.isDigit || ('a' ≤ c && c ≤ 'f')) = true)
    .invalidInput

/-- The instants of the years 1970 to 9999, in UTC. -/
def validateTimestamp (timestamp : Timestamp) : Except A2aStateError Unit :=
  ensure (0 ≤ timestamp ∧ timestamp < 253402300800 * 1000000000) .invalidInput

def validateIdempotencyKey (key : List Char) : Except A2aStateError Unit :=
  ensure (validIdentifier key 256 = true) .invalidInput

def validateBindingFields (peer external transport protocol : List Char) : Except A2aStateError Unit :=
  ensure (validIdentifier peer 128 = true ∧ validIdentifier external 256 = true ∧
    transport ∈ ["http_json".toList, "json_rpc".toList, "grpc".toList] ∧
    validIdentifier protocol 32 = true) .invalidInput

/-! ## Records -/

/-- An artifact of a remote run, by its digest. -/
structure ArtifactReference where
  artifactId : Uuid
  sha256 : List Char
  sizeBytes : Nat
  mediaType : List Char
deriving DecidableEq

def ArtifactReference.validate (self : ArtifactReference) : Except A2aStateError Unit := do
  validateSha256 self.sha256
  ensure (self.sizeBytes ≤ maxA2aArtifactBytes ∧ validLabel self.mediaType 128 = true) .invalidInput

def validateArtifacts (artifacts : List ArtifactReference) : Except A2aStateError Unit := do
  ensure (artifacts.length ≤ maxA2aArtifacts) .invalidInput
  forEach ArtifactReference.validate artifacts
  ensure (artifacts.map ArtifactReference.artifactId).Nodup .invalidInput

/-- The worktree a run was given. -/
structure RunWorkspace where
  path : List Char
  branch : List Char
  baseCommit : List Char
  ownershipToken : List Char
deriving DecidableEq

/-- Whether a path starts at a root, of POSIX, of a share or of a drive. -/
def isAbsolutePath : List Char → Bool
  | '/' :: _ => true
  | '\\' :: '\\' :: _ => true
  | drive :: ':' :: separator :: _ => drive.utf8Size = 1 && (separator == '/' || separator == '\\')
  | _ => false

def RunWorkspace.validate (self : RunWorkspace) : Except A2aStateError Unit :=
  ensure (isAbsolutePath self.path = true ∧ validLabel self.path 4096 = true ∧
    validIdentifier self.branch 128 = true ∧ self.branch.head? ≠ some '-' ∧
    contains self.branch "..".toList = false ∧ (".lock".toList.isSuffixOf self.branch) = false ∧
    validIdentifier self.ownershipToken 128 = true ∧
    (byteLen self.baseCommit = 40 ∨ byteLen self.baseCommit = 64) ∧
    self.baseCommit.all isAsciiHexdigit = true) .invalidInput

/-- The path in the form in which two workspaces are compared. -/
def RunWorkspace.pathKey (self : RunWorkspace) : List Char :=
  toAsciiLowercase (trimEndMatches (· == '/')
    (self.path.map fun c => if c = '\\' then '/' else c))

/-- The branch in the form in which two workspaces are compared. -/
def RunWorkspace.branchKey (self : RunWorkspace) : List Char := toAsciiLowercase self.branch

/-- The receipt of the local verifier about a worker's and a reviewer's run. -/
structure VerificationReceipt where
  reviewerRunId : Uuid
  reviewerExpectedVersion : Nat
  artifactSha256 : List Char
  reviewSha256 : List Char
  verificationSha256 : List Char
  accepted : Bool
deriving DecidableEq

def VerificationReceipt.validate (self : VerificationReceipt) : Except A2aStateError Unit := do
  ensure (self.reviewerExpectedVersion ≠ 0) .invalidInput
  validateSha256 self.artifactSha256
  validateSha256 self.reviewSha256
  validateSha256 self.verificationSha256

/-- The check of the receipt of a binding that has one. -/
def validateVerification : Option VerificationReceipt → Except A2aStateError Unit
  | some receipt => receipt.validate
  | none => .ok ()

/-- Which remote task a run stands for. -/
structure A2aBinding where
  projectId : Uuid
  taskId : Uuid
  runId : Uuid
  peerId : List Char
  externalTaskId : List Char
  transport : List Char
  protocolVersion : List Char
  createdAt : Timestamp
  updatedAt : Timestamp
  idempotencyKey : List Char
  lastRemoteState : A2aRemoteState
  cancellationState : A2aCancellationState
  artifacts : List ArtifactReference
  verification : Option VerificationReceipt
deriving DecidableEq

/-- A remote run with its entities. -/
structure A2aRunRecord where
  schemaVersion : Nat
  task : Task
  run : Run
  binding : A2aBinding
  workspace : RunWorkspace
  version : Nat
deriving DecidableEq

def A2aRunRecord.validate (self : A2aRunRecord) : Except A2aStateError Unit := do
  ensure (self.schemaVersion = a2aRecordSchemaVersion ∧ self.version ≠ 0 ∧
    self.task.projectId = self.run.projectId ∧ self.task.taskId = self.run.taskId ∧
    self.binding.projectId = self.run.projectId ∧ self.binding.taskId = self.run.taskId ∧
    self.binding.runId = self.run.runId ∧ self.workspace.baseCommit = self.run.baseCommit)
    .identityMismatch
  validateBindingFields self.binding.peerId self.binding.externalTaskId self.binding.transport
    self.binding.protocolVersion
  validateIdempotencyKey self.binding.idempotencyKey
  validateTimestamp self.binding.createdAt
  validateTimestamp self.binding.updatedAt
  ensure (self.binding.createdAt ≤ self.binding.updatedAt) .invalidInput
  self.workspace.validate
  validateArtifacts self.binding.artifacts
  validateVerification self.binding.verification
  ensure (self.run.status = .succeeded → self.binding.verification.isSome = true) .invalidState

/-! ## Requests -/

/-- The request that starts a remote run. -/
structure A2aRunStart where
  task : Task
  run : Run
  peerId : List Char
  externalTaskId : List Char
  transport : List Char
  protocolVersion : List Char
  workspace : RunWorkspace
  timestamp : Timestamp
  idempotencyKey : List Char
deriving DecidableEq

def A2aRunStart.validate (self : A2aRunStart) : Except A2aStateError Unit := do
  ensure (self.run.status = .preparing ∧ self.task.description = [] ∧
    self.run.role ∈ ["worker".toList, "reviewer".toList, "verifier".toList] ∧
    self.task.projectId = self.run.projectId ∧ self.task.taskId = self.run.taskId ∧
    self.workspace.baseCommit = self.run.baseCommit) .invalidInput
  validateBindingFields self.peerId self.externalTaskId self.transport self.protocolVersion
  validateIdempotencyKey self.idempotencyKey
  validateTimestamp self.timestamp
  self.workspace.validate

/-- What an update does to a run. -/
inductive A2aRunAction where
  | start
  | observe (state : A2aRemoteState) (artifacts : List ArtifactReference)
  | requestCancellation
  | confirmCancellation
  /-- The owner's word after every run of the task has stopped. -/
  | finalizeCancellation
  | fail (code : List Char)
  | verify (receipt : VerificationReceipt)
deriving DecidableEq

/-- An action with the version it expects. -/
structure A2aRunUpdate where
  runId : Uuid
  expectedVersion : Nat
  timestamp : Timestamp
  idempotencyKey : List Char
  action : A2aRunAction
deriving DecidableEq

def A2aRunAction.validate : A2aRunAction → Except A2aStateError Unit
  | observe _ artifacts => validateArtifacts artifacts
  | fail code => ensure (validIdentifier code 128 = true) .invalidInput
  | verify receipt => receipt.validate
  | _ => .ok ()

def A2aRunUpdate.validate (self : A2aRunUpdate) : Except A2aStateError Unit := do
  ensure (self.expectedVersion ≠ 0) .invalidInput
  validateIdempotencyKey self.idempotencyKey
  validateTimestamp self.timestamp
  self.action.validate

end Vibemux
