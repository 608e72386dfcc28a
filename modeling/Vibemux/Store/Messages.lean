import Vibemux.Store.WorkflowTables

/-!
# Messages

A message is admitted with the next sequence of its recipient, bound to one attempt when it is
delivered, and acknowledged in that attempt. Repeating a change that already happened writes nothing.
-/

namespace Vibemux

open Checked

/-- A stored change of a message. -/
structure MessageCommit where
  message : MessageRecord
  event : Option Event
deriving DecidableEq

/-- The changes of a stored message. -/
inductive MessageChange where
  | deliver (attempt : Uuid)
  | acknowledge (actor : Participant) (attempt : Uuid)
  | expire
deriving DecidableEq

/-- The event of the delivery machine that a change stands for. -/
def MessageChange.event (nowMs : Nat) : MessageChange → DeliveryEvent
  | deliver _ => .deliver nowMs
  | acknowledge actor _ => .acknowledge actor
  | expire => .expire nowMs

/-- The key of the events of a message. -/
def messageKey (messageId : Uuid) (change : List Char) : List Char :=
  "workflow_message:".toList ++ messageId.hyphenated ++ ':' :: change

/-- `message_fingerprint`: the times of an envelope enter as its lifetime only. -/
def messageFingerprint (digests : StoreDigests) (envelope : MessageEnvelope) : Sha256Digest :=
  digests.message { envelope with
    createdAtMs := 0
    expiresAtMs := envelope.expiresAtMs - envelope.createdAtMs }

/-- The record after a change to the state `state`. A message keeps the attempt it was delivered in,
and is acknowledged in that attempt. -/
def MessageRecord.changed (message : MessageRecord) (state : MessageState) :
    MessageChange → Except StoreError MessageRecord
  | .deliver attempt => do
    ensure ((message.deliveredInAttempt.all fun previous => previous = attempt) = true)
      (.workflow "store_workflow_message_redelivery")
    return { message with state, deliveredInAttempt := some attempt }
  | .acknowledge _ attempt => do
    ensure (message.deliveredInAttempt = some attempt ∧
      (message.acknowledgedInAttempt.all fun previous => previous = attempt) = true)
      (.workflow "store_workflow_message_attempt_mismatch")
    return { message with
      state
      acknowledgedInAttempt := some (message.acknowledgedInAttempt.getD attempt) }
  | .expire => .ok { message with state }

namespace Store

variable (s : Store)

def loadMessage (messageId : Uuid) : Option MessageRecord :=
  Table.lookup MessageRecord.messageId s.messages messageId

def messagesFor (workflowId : Uuid) : List MessageRecord :=
  s.messages.filter fun message => message.envelope.workflowId = workflowId

/-- The messages of a workflow to one recipient. -/
def messagesTo (workflowId : Uuid) (recipient : List Char) : List MessageRecord :=
  (s.messagesFor workflowId).filter fun message => message.recipientLabel = recipient

def nextRecipientSequence (workflowId : Uuid) (recipient : List Char) : Except StoreError Nat :=
  let current := ((s.messagesTo workflowId recipient).map MessageRecord.recipientSequence).max?.getD 0
  require (checkedSucc u64Max current) (.workflow "store_workflow_projection_mismatch")

/-- The identifier of a message is unique, and so is its sequence for the recipient. -/
def insertMessage (message : MessageRecord) : Except StoreError Store := do
  ensure (s.loadMessage message.messageId = none ∧
    ((s.messagesTo message.envelope.workflowId message.recipientLabel).all fun other =>
      other.recipientSequence ≠ message.recipientSequence) = true) .database
  return { s with messages := s.messages ++ [message] }

/-- Compare-and-set on the state the transaction loaded. -/
def updateMessage (message : MessageRecord) (previousState : MessageState) :
    Except StoreError Store := do
  ensure ((s.loadMessage message.messageId).any fun old => old.state = previousState)
    (.workflow "store_workflow_version_conflict")
  return { s with messages := Table.put MessageRecord.messageId s.messages message }

/-- The part of an admission that writes a new message. -/
def insertAdmitted (envelope : MessageEnvelope) (fingerprint : Sha256Digest) (timestamp : Timestamp) :
    Except StoreError (MessageCommit × Store) := do
  let recipientLabel := envelope.recipient.label
  let recipientSequence ← s.nextRecipientSequence envelope.workflowId recipientLabel
  let message : MessageRecord := ⟨workflowStoreRecordSchemaVersion, envelope, recipientLabel, recipientSequence,
    .admitted, fingerprint, none, none, millis timestamp⟩
  let (_, s) ← s.append (messageKey envelope.messageId MessageState.admitted.asStr)
  let s ← s.insertMessage message
  return (⟨message, some ⟨messageKey envelope.messageId MessageState.admitted.asStr⟩⟩, s)

/-- Admits an envelope the broker validated. A repeated identifier with the same content is a
no-op. -/
def admitWorkflowMessage (digests : StoreDigests) (envelope : MessageEnvelope)
    (timestamp : Timestamp) : Except StoreError (MessageCommit × Store) :=
  let fingerprint := messageFingerprint digests envelope
  match s.loadMessage envelope.messageId with
  | some existing => do
    ensure (existing.fingerprint = fingerprint) (.workflow "store_workflow_message_conflict")
    return (⟨existing, none⟩, s)
  | none => do
    let stored ← s.loadExistingWorkflow envelope.workflowId
    ensure (stored.record.phase.isTerminal = false) (.workflow "store_workflow_not_running")
    s.insertAdmitted envelope fingerprint timestamp

/-- Whether the dispatch of an attempt lets a message change in it. A repeated delivery is also
answered after the attempt has completed. -/
def messagePhaseAllows (message : MessageRecord) (attemptId : Uuid) (acknowledge : Bool)
    (phase : DispatchPhase) : Bool :=
  if acknowledge then phase == .completed
  else phase == .admitted || phase == .running ||
    (phase == .completed && message.deliveredInAttempt == some attemptId)

/-- `check_message_attempt`: the attempt a message is delivered or acknowledged in. -/
def checkMessageAttempt (digests : StoreDigests) (message : MessageRecord) (attemptId : Uuid)
    (acknowledge : Bool) : Except StoreError Unit :=
  match message.envelope.recipient with
  | .supervisor =>
    ensure (attemptId = digests.supervisorInbox message.messageId)
      (.workflow "store_workflow_message_attempt_mismatch")
  | .worker taskKey sessionId => do
    let attempt ← require (s.loadAttempt attemptId) (.workflow "store_workflow_unknown_attempt")
    ensure (attempt.workflowId = message.envelope.workflowId ∧ attempt.taskKey = taskKey ∧
      attempt.sessionId = sessionId ∧ attempt.contractId = message.envelope.contractId ∧
      attempt.purpose ≠ .review) (.workflow "store_workflow_message_attempt_mismatch")
    let phase ← require (s.dispatchPhase attemptId) (.workflow "store_workflow_projection_mismatch")
    ensure (messagePhaseAllows message attemptId acknowledge phase = true)
      (.workflow "store_workflow_message_attempt_unsettled")
  | .operator | .broker => workflowError "store_workflow_message_attempt_mismatch"

/-- The check of the attempt that a change names. -/
def checkChangeAttempt (digests : StoreDigests) (message : MessageRecord) :
    MessageChange → Except StoreError Unit
  | .deliver attempt => s.checkMessageAttempt digests message attempt false
  | .acknowledge _ attempt => s.checkMessageAttempt digests message attempt true
  | .expire => .ok ()

def changeWorkflowMessageIn (digests : StoreDigests) (messageId : Uuid) (change : MessageChange)
    (timestamp : Timestamp) : Except StoreError (MessageCommit × Store) := do
  let message ← require (s.loadMessage messageId) (.workflow "store_workflow_unknown_message")
  let state ← (message.envelope.transition message.state (change.event (millis timestamp))).mapError
    fun error => .workflow error.code
  s.checkChangeAttempt digests message change
  let next ← message.changed state change
  if next = message then return (⟨message, none⟩, s)
  else
    let next := { next with updatedAtMs := max (millis timestamp) message.updatedAtMs }
    let (_, s) ← s.append (messageKey messageId state.asStr)
    let s ← s.updateMessage next message.state
    return (⟨next, some ⟨messageKey messageId state.asStr⟩⟩, s)

/-- Delivery, acknowledgement and expiry. -/
def changeWorkflowMessage (digests : StoreDigests) (messageId : Uuid) (change : MessageChange)
    (timestamp : Timestamp) : Except StoreError (MessageCommit × Store) :=
  s.changeWorkflowMessageIn digests messageId change timestamp

/-- Delivers pending messages of a recipient together, or none of them. -/
def deliverWorkflowMessages (digests : StoreDigests) (workflowId attempt : Uuid)
    (timestamp : Timestamp) : List Uuid → Store → Except StoreError (List MessageCommit × Store)
  | [], s => .ok ([], s)
  | messageId :: rest, s => do
    let message ← require (s.loadMessage messageId) (.workflow "store_workflow_unknown_message")
    ensure (message.envelope.workflowId = workflowId)
      (.workflow "store_workflow_message_attempt_mismatch")
    let (commit, s) ← s.changeWorkflowMessageIn digests messageId (.deliver attempt) timestamp
    let (commits, s) ← deliverWorkflowMessages digests workflowId attempt timestamp rest s
    return (commit :: commits, s)

/-- Records a refused draft: its event, once. -/
def recordWorkflowMessageRejection (workflowId messageId : Uuid) : Except StoreError Store := do
  let _ ← s.loadExistingWorkflow workflowId
  if hasKey s.events (messageKey messageId MessageState.rejected.asStr) then return s
  else
    let (_, s) ← s.append (messageKey messageId MessageState.rejected.asStr)
    return s

end Store

/-- The operations on messages. -/
inductive MessageOp where
  | accept (envelope : MessageEnvelope) (timestamp : Timestamp)
  | change (messageId : Uuid) (change : MessageChange) (timestamp : Timestamp)
  | deliver (workflowId : Uuid) (messageIds : List Uuid) (attempt : Uuid) (timestamp : Timestamp)
  | recordRejection (workflowId messageId : Uuid)
deriving DecidableEq

/-- What an operation on messages returns. -/
inductive MessageResponse where
  | done
  | commit (commit : MessageCommit)
  | commits (commits : List MessageCommit)

def Store.messageStep (s : Store) (digests : StoreDigests) :
    MessageOp → Except StoreError (MessageResponse × Store)
  | .accept envelope timestamp => do
    let (commit, s) ← s.admitWorkflowMessage digests envelope timestamp
    return (.commit commit, s)
  | .change messageId change timestamp => do
    let (commit, s) ← s.changeWorkflowMessage digests messageId change timestamp
    return (.commit commit, s)
  | .deliver workflowId messageIds attempt timestamp => do
    let (commits, s) ← Store.deliverWorkflowMessages digests workflowId attempt timestamp messageIds s
    return (.commits commits, s)
  | .recordRejection workflowId messageId => do
    return (.done, ← s.recordWorkflowMessageRejection workflowId messageId)

end Vibemux
