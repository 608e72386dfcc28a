import Vibemux.Workflow.Receipts

/-!
# Supervised communication

Typed envelopes and their delivery states. Delivery is at least once: a repeated delivery or
acknowledgement gives the state it gave before.
-/

namespace Vibemux

open Checked

def maxMessageBodyBytes : Nat := 4096

namespace Participant

/-- The name under which messages to a participant are numbered. -/
def label : Participant → List Char
  | operator => "operator".toList
  | supervisor => "supervisor".toList
  | broker => "broker".toList
  | worker taskKey _ => "worker:".toList ++ taskKey.text

end Participant

/-- A message with its participants. -/
structure MessageEnvelope where
  messageId : Uuid
  workflowId : Uuid
  sender : Participant
  recipient : Participant
  kind : MessageKind
  correlationId : Uuid
  replyTo : Option Uuid
  depth : Nat
  contractId : Sha256Digest
  contractVersion : Nat
  sourceRefs : List SourceFileRef
  bodySha256 : Sha256Digest
  bodyBytes : Nat
  createdAtMs : Nat
  expiresAtMs : Nat
  audience : List Participant
  escalated : Bool
deriving DecidableEq

/-- The states of a message. -/
inductive MessageState where
  | admitted
  | delivered
  | acknowledged
  | rejected
  | expired
deriving DecidableEq

def MessageState.asStr : MessageState → List Char
  | admitted => "admitted".toList
  | delivered => "delivered".toList
  | acknowledged => "acknowledged".toList
  | rejected => "rejected".toList
  | expired => "expired".toList

/-- What moves a message. -/
inductive DeliveryEvent where
  | deliver (nowMs : Nat)
  | acknowledge (actor : Participant)
  | expire (nowMs : Nat)
deriving DecidableEq

/-- What the delivery machine refuses. -/
inductive DeliveryError where
  | expired
  | notRecipient
  | notDelivered
  | terminal
  | notExpired
deriving DecidableEq

def DeliveryError.code : DeliveryError → String
  | expired => "message_expired"
  | notRecipient => "message_ack_not_recipient"
  | notDelivered => "message_not_delivered"
  | terminal => "message_terminal"
  | notExpired => "message_not_expired"

/-- `transition`: the next delivery state. -/
def MessageEnvelope.transition (envelope : MessageEnvelope) (state : MessageState)
    (event : DeliveryEvent) : Except DeliveryError MessageState :=
  match state, event with
  | .admitted, .deliver nowMs | .delivered, .deliver nowMs => do
    ensure (nowMs < envelope.expiresAtMs) .expired
    return .delivered
  | .delivered, .acknowledge actor | .acknowledged, .acknowledge actor => do
    ensure (actor = envelope.recipient) .notRecipient
    return .acknowledged
  | .admitted, .acknowledge _ => .error .notDelivered
  | .admitted, .expire nowMs | .delivered, .expire nowMs => do
    ensure (envelope.expiresAtMs ≤ nowMs) .notExpired
    return .expired
  | .expired, .expire _ => .ok .expired
  | _, _ => .error .terminal

/-- `MessageRecord`: the stored state of one message. -/
structure MessageRecord where
  schemaVersion : Nat
  envelope : MessageEnvelope
  recipientLabel : List Char
  recipientSequence : Nat
  state : MessageState
  fingerprint : Sha256Digest
  deliveredInAttempt : Option Uuid
  acknowledgedInAttempt : Option Uuid
  updatedAtMs : Nat
deriving DecidableEq

def MessageRecord.messageId (record : MessageRecord) : Uuid := record.envelope.messageId

end Vibemux
