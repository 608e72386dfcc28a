import Vibemux.Store.Messages
import Vibemux.Store.Proofs.RowProofs

/-!
# What the operations on messages do

A message row is inserted by an admission and replaced by a change of its own state; nothing else
writes the table of messages.
-/

namespace Vibemux.Store

open Checked

variable {s s' : Store} {digests : StoreDigests} {timestamp : Timestamp} {commit : MessageCommit}
  {messageId : Uuid} {change : MessageChange}
  {attempt workflowId : Uuid} {commits : List MessageCommit} {message : MessageRecord}

/-! ## Admissions -/

/-- A message that an admission inserts, with the next sequence of its recipient. -/
structure NewMessage (s s' : Store) (message : MessageRecord) : Prop where
  fresh : s.loadMessage message.messageId = none
  label : message.recipientLabel = message.envelope.recipient.label
  sequence : message.recipientSequence = ((s.messagesTo message.envelope.workflowId
    message.recipientLabel).map MessageRecord.recipientSequence).max?.getD 0 + 1
  state : message.state = .admitted
  undelivered : message.deliveredInAttempt = none
  unacknowledged : message.acknowledgedInAttempt = none
  messages : s'.messages = s.messages ++ [message]

theorem insertMessage_writes (h : s.insertMessage message = .ok s') :
    Writes [.messages] s s' := by
  simp only [insertMessage, eq_ok] at h
  obtain ⟨-, rfl⟩ := h
  intro table htable
  cases table with
  | messages => exact absurd (by decide) htable
  | _ => rfl

section

variable {envelope : MessageEnvelope} {fingerprint : Sha256Digest}
  (h : s.insertAdmitted envelope fingerprint timestamp = .ok (commit, s'))
include h

theorem insertAdmitted_writes : Writes [.events, .messages] s s' := by
  simp only [insertAdmitted, eq_ok] at h
  obtain ⟨_, -, _, _, happend, _, hinsert, -, rfl⟩ := h
  exact (append_writes happend).append (insertMessage_writes hinsert)

theorem insertAdmitted_eq_ok : NewMessage s s' commit.message ∧ commit.message.envelope = envelope ∧
      commit.message.fingerprint = fingerprint := by
  simp only [insertAdmitted, nextRecipientSequence, eq_ok, checkedSucc_eq_some] at h
  obtain ⟨_, ⟨-, rfl⟩, _, s₁, happend, _, hinsert, rfl, rfl⟩ := h
  have hmessages : s₁.messages = s.messages := append_writes happend .messages (by decide)
  simp only [insertMessage, eq_ok, loadMessage, hmessages] at hinsert
  obtain ⟨⟨hfresh, -⟩, rfl⟩ := hinsert
  exact ⟨⟨hfresh, rfl, rfl, rfl, rfl, rfl, rfl⟩, rfl, rfl⟩

end

/-! ## Changes -/

/-- A message that a change moved on: what was checked, and the row it left. -/
structure MessageMoved (digests : StoreDigests) (s s' : Store) (change : MessageChange) (nowMs : Nat)
    (old new : MessageRecord) : Prop where
  found : s.loadMessage old.messageId = some old
  transition : old.envelope.transition old.state (change.event nowMs) = .ok new.state
  checked : s.checkChangeAttempt digests old change = .ok ()
  changed : ∃ next, old.changed new.state change = .ok next ∧ next ≠ old ∧
    { next with updatedAtMs := max nowMs old.updatedAtMs } = new
  messages : s'.messages = Table.put MessageRecord.messageId s.messages new

theorem changed_envelope {next : MessageRecord} {state : MessageState}
    (h : message.changed state change = .ok next) :
    next.envelope = message.envelope ∧ next.recipientLabel = message.recipientLabel ∧
      next.recipientSequence = message.recipientSequence ∧ next.state = state := by
  cases change <;>
    simp only [MessageRecord.changed, eq_ok, Except.ok.injEq] at h
  case deliver =>
    obtain ⟨-, rfl⟩ := h
    exact ⟨rfl, rfl, rfl, rfl⟩
  case acknowledge =>
    obtain ⟨-, rfl⟩ := h
    exact ⟨rfl, rfl, rfl, rfl⟩
  case expire =>
    subst h
    exact ⟨rfl, rfl, rfl, rfl⟩

theorem updateMessage_writes {previousState : MessageState}
    (h : s.updateMessage message previousState = .ok s') : Writes [.messages] s s' := by
  simp only [updateMessage, eq_ok] at h
  obtain ⟨-, rfl⟩ := h
  intro table htable
  cases table with
  | messages => exact absurd (by decide) htable
  | _ => rfl

section

variable (h : s.changeWorkflowMessageIn digests messageId change timestamp = .ok (commit, s'))
include h

/-- A change leaves the store, or moves the message on. -/
theorem changeWorkflowMessageIn_eq_ok : ∃ old, s.loadMessage messageId = some old ∧
      ((s' = s ∧ old.changed old.state change = .ok old) ∨
        ∃ new, MessageMoved digests s s' change (millis timestamp) old new) := by
  simp only [changeWorkflowMessageIn, eq_ok] at h
  obtain ⟨old, hfound, _, htransition, hchecked, next, hnext, h⟩ := h
  have hid : old.messageId = messageId := Table.key_of_lookup hfound
  obtain ⟨henvelope, -, -, hstate⟩ := changed_envelope hnext
  refine ⟨old, hfound, ?_⟩
  split_ifs at h with hsame
  · simp only [returnPair_eq_ok] at h
    obtain ⟨-, rfl⟩ := h
    subst hsame
    subst hstate
    exact .inl ⟨rfl, hnext⟩
  · simp only [eq_ok] at h
    obtain ⟨_, _, happend, _, hupdate, -, rfl⟩ := h
    obtain ⟨events, -, rfl⟩ := append_eq_ok.1 happend
    simp only [updateMessage, eq_ok] at hupdate
    obtain ⟨-, rfl⟩ := hupdate
    subst hstate
    exact .inr ⟨{ next with updatedAtMs := max (millis timestamp) old.updatedAtMs },
      hid ▸ hfound, htransition, hchecked, ⟨next, hnext, hsame, rfl⟩, rfl⟩

theorem changeWorkflowMessageIn_writes : Writes [.events, .messages] s s' := by
  simp only [changeWorkflowMessageIn, eq_ok] at h
  obtain ⟨old, -, state, -, -, next, -, h⟩ := h
  split_ifs at h
  · cases h
    exact .refl _ _
  · simp only [eq_ok] at h
    obtain ⟨_, _, happend, _, hupdate, -, rfl⟩ := h
    exact (append_writes happend).append (updateMessage_writes hupdate)

end

theorem deliverWorkflowMessages_cons {messageId : Uuid} {rest : List Uuid}
    (h : deliverWorkflowMessages digests workflowId attempt timestamp (messageId :: rest) s = .ok (commits, s')) :
    ∃ commit s₁ others,
      s.changeWorkflowMessageIn digests messageId (.deliver attempt) timestamp = .ok (commit, s₁) ∧
        deliverWorkflowMessages digests workflowId attempt timestamp rest s₁ = .ok (others, s') := by
  simp only [deliverWorkflowMessages, eq_ok] at h
  obtain ⟨_, -, -, commit, s₁, hchange, others, _, hrest, -, rfl⟩ := h
  exact ⟨commit, s₁, others, hchange, hrest⟩

theorem deliverWorkflowMessages_writes {messageIds : List Uuid}
    (h : deliverWorkflowMessages digests workflowId attempt timestamp messageIds s = .ok (commits, s'))
    : Writes [.events, .messages] s s' := by
  induction messageIds generalizing s commits with
  | nil =>
    cases h
    exact .refl _ _
  | cons messageId rest ih =>
    obtain ⟨_, _, _, hchange, hrest⟩ := deliverWorkflowMessages_cons h
    exact (changeWorkflowMessageIn_writes hchange).trans (ih hrest)

theorem recordWorkflowMessageRejection_writes {messageId : Uuid}
    (h : s.recordWorkflowMessageRejection workflowId messageId = .ok s') :
    Writes [.events] s s' := by
  simp only [recordWorkflowMessageRejection, bind_eq_ok] at h
  obtain ⟨_, -, h⟩ := h
  split_ifs at h
  · cases h
    exact .refl _ _
  · simp only [eq_ok] at h
    obtain ⟨_, _, happend, rfl⟩ := h
    exact append_writes happend

/-- An admission writes the messages and the log. -/
theorem admitWorkflowMessage_writes {envelope : MessageEnvelope}
    (h : s.admitWorkflowMessage digests envelope timestamp = .ok (commit, s')) :
    Writes [.events, .messages] s s' := by
  simp only [admitWorkflowMessage] at h
  cases hfound : s.loadMessage envelope.messageId with
  | some existing =>
    simp only [hfound, eq_ok] at h
    obtain ⟨-, -, rfl⟩ := h
    exact .refl _ _
  | none =>
    simp only [hfound, eq_ok] at h
    obtain ⟨_, -, -, hinsert⟩ := h
    exact insertAdmitted_writes hinsert

/-- Every operation on messages writes them and the log alone. -/
theorem messageStep_writes {op : MessageOp} {response : MessageResponse}
    (h : s.messageStep digests op = .ok (response, s')) :
    Writes [.events, .messages] s s' := by
  cases op <;>
    simp only [messageStep, changeWorkflowMessage, eq_ok] at h
  case accept envelope timestamp =>
    obtain ⟨_, _, hadmit, -, rfl⟩ := h
    exact admitWorkflowMessage_writes hadmit
  case change messageId change timestamp =>
    obtain ⟨_, _, hchange, -, rfl⟩ := h
    exact changeWorkflowMessageIn_writes hchange
  case deliver workflowId messageIds attempt timestamp =>
    obtain ⟨_, _, hdeliver, -, rfl⟩ := h
    exact deliverWorkflowMessages_writes hdeliver
  case recordRejection workflowId messageId =>
    obtain ⟨_, hrecord, -, rfl⟩ := h
    exact (recordWorkflowMessageRejection_writes hrecord).mono (by decide)

end Vibemux.Store
