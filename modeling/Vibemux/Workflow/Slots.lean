import Vibemux.Harness.Attempt
import Vibemux.Lib.OrderedMap
import Vibemux.Workflow.Record

/-!
# Agent slots

A detected executable is not a coding worker. Each capability of a slot carries evidence with a
level, a class and an expiry, and a slot is eligible only when nothing speaks against it.
-/

namespace Vibemux

open SortDedup

/-- How well a capability is known. -/
inductive EvidenceLevel where
  | declared
  | installationDetected
  | versionVerified
  | handshakeVerified
  | authenticatedTurnVerified
  | writeModeCertified
deriving DecidableEq, Ord

/-- A capability with its evidence. -/
structure CapabilityEvidence where
  level : EvidenceLevel
  class_ : EvidenceClass
  evidenceRef : List Char
  checkedAtMs : Nat
  expiresAtMs : Nat
deriving DecidableEq

/-- How a slot is driven. -/
inductive InterfaceMode where
  | structured
  | nativeTui
deriving DecidableEq

/-- Readiness and liveness are distinct states, not one "busy" flag. -/
inductive SlotHealth where
  | idle
  | busy
  | waitingForInput
  | waitingForPermission
  | unresponsive
  | exited
  | quotaUnknown
  | cooldown
deriving DecidableEq, Ord

/-- What is left of a slot's budget. -/
inductive SlotBudget where
  | unknown
  | remaining (count : Nat)
  | exhausted
deriving DecidableEq

/-- What was observed of a slot. -/
structure SlotFacts where
  slotId : SpecIdentifier
  harness : AgentKind
  interfaceMode : InterfaceMode
  /-- In the order of the capabilities. -/
  capabilities : List (SlotCapability × CapabilityEvidence)
  health : SlotHealth
  routeRole : Option SpecIdentifier
  cooldownUntilMs : Option Nat
  /-- Generation of the slot's active or quarantined lease, if any. -/
  leasedGeneration : Option Nat
  budget : SlotBudget
deriving DecidableEq

/-- What an attempt asks of a slot. -/
structure EligibilityRequest where
  required : List (SlotCapability × EvidenceLevel)
  class_ : EvidenceClass
  interfaceMode : InterfaceMode
  nowMs : Nat
  excludedSlots : List SpecIdentifier
  /-- Operator opt-in to schedule on slots whose quota is unknown. -/
  allowUnknownQuota : Bool

/-- Why a slot is not eligible. -/
inductive Ineligibility where
  | missingCapability (capability : SlotCapability)
  | evidenceTooWeak (capability : SlotCapability)
  | evidenceWrongClass (capability : SlotCapability)
  | evidenceExpired (capability : SlotCapability)
  | interfaceMismatch
  | unhealthy (health : SlotHealth)
  | coolingDown
  | leased
  | excluded
  | quotaExhausted
  | quotaUnknownNotAllowed
deriving DecidableEq, Ord

/-- The reason, when `found`. -/
def reasonIf (found : Prop) [Decidable found] (reason : Ineligibility) : List Ineligibility :=
  if found then [reason] else []

/-- What speaks against the evidence for one required capability. -/
def capabilityIneligibility (slot : SlotFacts) (request : EligibilityRequest)
    (capability : SlotCapability) (minimum : EvidenceLevel) : List Ineligibility :=
  match OrderedMap.get slot.capabilities capability with
  | none => [.missingCapability capability]
  | some evidence =>
    reasonIf (compare evidence.level minimum = .lt) (.evidenceTooWeak capability) ++
      reasonIf (evidence.class_ ≠ request.class_) (.evidenceWrongClass capability) ++
      reasonIf (evidence.expiresAtMs ≤ request.nowMs) (.evidenceExpired capability)

def healthIneligibility (health : SlotHealth) (request : EligibilityRequest) :
    List Ineligibility :=
  match health with
  | .idle => []
  | .quotaUnknown => reasonIf (request.allowUnknownQuota = false) .quotaUnknownNotAllowed
  | .cooldown => [.coolingDown]
  | other => [.unhealthy other]

def budgetIneligibility (budget : SlotBudget) (request : EligibilityRequest) :
    List Ineligibility :=
  match budget with
  | .exhausted | .remaining 0 => [.quotaExhausted]
  | .unknown => reasonIf (request.allowUnknownQuota = false) .quotaUnknownNotAllowed
  | .remaining _ => []

def ineligibility (slot : SlotFacts) (request : EligibilityRequest) : List Ineligibility :=
  sortDedup <|
    (request.required.flatMap fun entry => capabilityIneligibility slot request entry.1 entry.2) ++
    reasonIf (slot.interfaceMode ≠ request.interfaceMode) .interfaceMismatch ++
    healthIneligibility slot.health request ++
    reasonIf ((slot.cooldownUntilMs.any fun limit => decide (request.nowMs < limit)) = true ∧
      slot.health ≠ .cooldown) .coolingDown ++
    reasonIf (slot.leasedGeneration.isSome = true) .leased ++
    reasonIf (slot.slotId ∈ request.excludedSlots) .excluded ++
    budgetIneligibility slot.budget request

/-- The eligible slots of `evaluate_eligibility`, in the order of their identifiers. -/
def eligibleSlots (slots : List SlotFacts) (request : EligibilityRequest) : List SpecIdentifier :=
  sort ((slots.filter fun slot => ineligibility slot request = []).map SlotFacts.slotId)

end Vibemux
