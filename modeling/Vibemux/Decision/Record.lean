import Vibemux.Store.HarnessDispatch

/-!
# Decision records

The record of a routing decision, and the rules by which a dispatch request may use it. A record is
made once, may be consumed once, and says for which harness, prompt and configuration.
-/

namespace Vibemux.Decision

open Checked

/-- `DECISION_RECORD_SCHEMA_VERSION`. -/
def decisionRecordSchemaVersion : Nat := 1

/-- `DECISION_TTL`: fifteen minutes, in nanoseconds. -/
def decisionTtl : Int := 15 * 60 * 1000000000

/-- The option that every question carries. -/
def escalateOption : List Char := "escalate".toList

/-- What a decision is about. -/
inductive DecisionKind where
  | harnessRoute
deriving DecidableEq

/-- Whether a decision was reached. -/
inductive DecisionStatus where
  | resolved
  | escalated
deriving DecidableEq

/-- Who made a decision. -/
inductive DecisionSource where
  | singleOption
  | external
  | localRule
  | projectDefault
  /-- Nothing applied; the decision escalated. -/
  | none
deriving DecidableEq

/-- The size of a prompt, in steps. -/
inductive PromptSizeBucket where
  | tiny
  | small
  | medium
  | large
deriving DecidableEq

/-- What became of the external decider. -/
inductive ExternalStatus where
  | singleOption
  | notRequested
  | disabled
  | failed
  | rejected
  | belowThreshold
  | accepted
deriving DecidableEq

/-- A validated answer of the backend; probabilities are in millionths. -/
structure ValidatedAnswer where
  model : List Char
  choice : List Char
  probabilities : List (List Char × Nat)
  reportedConfidenceMillionths : Nat
  normalizedPeakMillionths : Nat
  gatedConfidenceMillionths : Nat
deriving DecidableEq

/-- What the external backend said, apart from what was applied. The error is its code. -/
structure ExternalEvidence where
  status : ExternalStatus
  /-- Whether the one backend there is was called. -/
  backend : Bool
  error : Option String
  answer : Option ValidatedAnswer
deriving DecidableEq

/-- The request that used a decision. -/
structure DecisionConsumption where
  requestId : Uuid
  consumedAt : Timestamp
deriving DecidableEq

/-- A decision as it is stored. -/
structure DecisionRecord where
  schemaVersion : Nat
  decisionId : Uuid
  kind : DecisionKind
  status : DecisionStatus
  chosenHarness : Option AgentKind
  source : DecisionSource
  /-- The index of the local rule that applied. -/
  ruleIndex : Option Nat
  options : List (List Char)
  labels : List (List Char)
  promptSize : PromptSizeBucket
  promptSha256 : Sha256Digest
  promptBytes : Nat
  projectDefault : Option AgentKind
  thresholdMillionths : Nat
  dispatchConfigSha256 : Sha256Digest
  decisionConfigSha256 : Sha256Digest
  external : ExternalEvidence
  createdAt : Timestamp
  expiresAt : Timestamp
  consumption : Option DecisionConsumption
deriving DecidableEq

/-- How a request relates to a decision: it is the first to use it, or the one that used it. -/
inductive DispatchBinding where
  | fresh (harness : AgentKind)
  | replay (harness : AgentKind)
deriving DecidableEq

def DispatchBinding.harness : DispatchBinding → AgentKind
  | fresh harness | replay harness => harness

namespace DecisionRecord

variable (record : DecisionRecord)

/-- Internal consistency, checked before every write and after every read. -/
def isConsistent : Bool :=
  record.schemaVersion = decisionRecordSchemaVersion &&
    record.expiresAt = record.createdAt + decisionTtl &&
    (match record.status with
      | .resolved => record.chosenHarness.any fun harness => harness.commandName ∈ record.options
      | .escalated => record.chosenHarness.isNone && record.consumption.isNone) &&
    (record.source = .localRule : Bool) = record.ruleIndex.isSome &&
    escalateOption ∈ record.options

def validate : Except DecisionError Unit := ensure (record.isConsistent = true) .internal

/-- A clock behind the creation counts as expired too. -/
def isExpired (now : Timestamp) : Bool := now < record.createdAt || record.expiresAt ≤ now

/-- The harness that the decision names, unless it escalated. -/
def decidedHarness : Except DecisionError AgentKind :=
  match record.status with
  | .escalated => .error .escalated
  | .resolved => require record.chosenHarness .internal

/-- Whether a request may dispatch a prompt under this decision with the pinned configuration. -/
def checkDispatchable (requestId : Uuid) (prompt : PromptDigest) (configSha256 : Sha256Digest)
    (now : Timestamp) : Except DecisionError DispatchBinding := do
  record.validate
  ensure ((record.consumption.all fun consumption => consumption.requestId = requestId) = true)
    .alreadyConsumed
  let harness ← record.decidedHarness
  ensure (record.promptSha256 = prompt.sha256 ∧ record.promptBytes = prompt.byteCount) .promptMismatch
  -- A replay passes after expiry or a new pin; the admission's own fingerprint decides then.
  if record.consumption.isSome then return .replay harness
  else
    ensure (record.isExpired now = false) .expired
    ensure (record.dispatchConfigSha256 = configSha256) .configChanged
    return .fresh harness

def markConsumed (requestId : Uuid) (consumedAt : Timestamp) : Except DecisionError DecisionRecord := do
  ensure (record.status = .resolved) .escalated
  ensure (record.consumption = none) .alreadyConsumed
  return { record with consumption := some ⟨requestId, consumedAt⟩ }

end DecisionRecord

end Vibemux.Decision
