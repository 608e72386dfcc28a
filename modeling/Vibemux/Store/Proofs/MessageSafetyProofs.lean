import Vibemux.Store.Proofs.FrameProofs

/-!
# The discipline of message delivery

`MessageInv` says how the row of a message stands to its state, and that the messages to one recipient
are numbered without gaps. An operation keeps the rows, moves them along `MovedBy`, or appends one.
-/

namespace Vibemux.Store

open Checked Machine Table List Option MessageRecord

variable {s s' : Store} {digests : StoreDigests} {attempt : Uuid} {nowMs : Nat}
  {old new : MessageRecord} {change : MessageChange} {message : MessageRecord} {messageId : Uuid}
  {timestamp : Timestamp} {op : StoreOp} {actor : Participant} {ids : List Uuid}
  {taskKey : SpecIdentifier}

/-! ## Rows -/

/-- How the attempts of a message stand to its state. -/
def WellBound (message : MessageRecord) : Prop :=
  match message.state with
  | .admitted => message.deliveredInAttempt = none ∧ message.acknowledgedInAttempt = none
  | .delivered => message.deliveredInAttempt.isSome = true ∧ message.acknowledgedInAttempt = none
  | .acknowledged => message.deliveredInAttempt.isSome = true ∧
    message.acknowledgedInAttempt = message.deliveredInAttempt
  | .expired => message.acknowledgedInAttempt = none
  | .rejected => False

/-- The edges of a message's life, each with what was checked on it in the store `s`. -/
inductive MovedBy (digests : StoreDigests) (s : Store) (nowMs : Nat) (old new : MessageRecord) :
    MessageChange → Prop where
  | delivered {attempt : Uuid} (hstate : old.state = .admitted)
      (htime : nowMs < old.envelope.expiresAtMs) (hfree : old.deliveredInAttempt = none)
      (hchecked : s.checkMessageAttempt digests old attempt false = .ok ())
      (hnew : { old with
        state := .delivered
        deliveredInAttempt := some attempt
        updatedAtMs := max nowMs old.updatedAtMs } = new) : MovedBy digests s nowMs old new (.deliver attempt)
  | acknowledged {attempt : Uuid} (hstate : old.state = .delivered)
      (hattempt : old.deliveredInAttempt = some attempt)
      (hchecked : s.checkMessageAttempt digests old attempt true = .ok ())
      (hnew : { old with
        state := .acknowledged
        acknowledgedInAttempt := some attempt
        updatedAtMs := max nowMs old.updatedAtMs } = new) :
      MovedBy digests s nowMs old new (.acknowledge old.envelope.recipient attempt)
  | expired (hstate : old.state = .admitted ∨ old.state = .delivered)
      (htime : old.envelope.expiresAtMs ≤ nowMs)
      (hnew : { old with
        state := .expired
        updatedAtMs := max nowMs old.updatedAtMs } = new) : MovedBy digests s nowMs old new .expire

/-- A delivery changes the row only when the message was waiting: a repeated one gives the row back. -/
theorem MessageMoved.delivered (hbound : WellBound old)
    (h : MessageMoved digests s s' (.deliver attempt) nowMs old new) :
    MovedBy digests s nowMs old new (.deliver attempt) := by
  obtain ⟨next, hchanged, hne, hnew⟩ := h.changed
  have htransition := h.transition
  simp only [MessageRecord.changed, eq_ok] at hchanged
  obtain ⟨hall, rfl⟩ := hchanged
  cases hstate : old.state with
  | admitted =>
    simp only [hstate, MessageChange.event, MessageEnvelope.transition, eq_ok] at htransition
    obtain ⟨htime, hdelivered⟩ := htransition
    simp only [WellBound, hstate] at hbound
    exact .delivered hstate htime hbound.1 h.checked (by rw [hdelivered, ← hnew])
  | delivered =>
    simp only [hstate, MessageChange.event, MessageEnvelope.transition, eq_ok] at htransition
    simp only [WellBound, hstate] at hbound
    obtain ⟨previous, hprevious⟩ := isSome_iff_exists.1 hbound.1
    rw [hprevious, all_some, decide_eq_true_eq] at hall
    refine absurd ?_ hne
    rw [← htransition.2, ← hall, ← hprevious, ← hstate]
  | acknowledged | rejected | expired =>
    simp [hstate, MessageChange.event, MessageEnvelope.transition] at htransition

theorem MessageMoved.acknowledged (hbound : WellBound old)
    (h : MessageMoved digests s s' (.acknowledge actor attempt) nowMs old new) :
    MovedBy digests s nowMs old new (.acknowledge actor attempt) := by
  obtain ⟨next, hchanged, hne, hnew⟩ := h.changed
  have htransition := h.transition
  simp only [MessageRecord.changed, eq_ok] at hchanged
  obtain ⟨⟨hattempt, hall⟩, rfl⟩ := hchanged
  cases hstate : old.state with
  | delivered =>
    simp only [hstate, MessageChange.event, MessageEnvelope.transition, eq_ok] at htransition
    obtain ⟨rfl, hacknowledged⟩ := htransition
    simp only [WellBound, hstate] at hbound
    refine .acknowledged hstate hattempt h.checked ?_
    rw [← hnew, hacknowledged, hbound.2, getD_none]
  | acknowledged =>
    simp only [hstate, MessageChange.event, MessageEnvelope.transition, eq_ok] at htransition
    simp only [WellBound, hstate] at hbound
    have hack : old.acknowledgedInAttempt = some attempt := hbound.2.trans hattempt
    refine absurd ?_ hne
    rw [← htransition.2, hack, getD_some, ← hack, ← hstate]
  | admitted | rejected | expired =>
    simp [hstate, MessageChange.event, MessageEnvelope.transition] at htransition

theorem MessageMoved.expired (h : MessageMoved digests s s' .expire nowMs old new) :
    MovedBy digests s nowMs old new .expire := by
  obtain ⟨next, hchanged, hne, hnew⟩ := h.changed
  have htransition := h.transition
  simp only [MessageRecord.changed, Except.ok.injEq] at hchanged
  subst hchanged
  cases hstate : old.state with
  | admitted | delivered =>
    simp only [hstate, MessageChange.event, MessageEnvelope.transition, eq_ok] at htransition
    obtain ⟨htime, hexpired⟩ := htransition
    exact .expired (by simp [hstate]) htime (by rw [hexpired, ← hnew])
  | expired =>
    simp only [hstate, MessageChange.event, MessageEnvelope.transition, Except.ok.injEq] at htransition
    refine absurd ?_ hne
    rw [← htransition, ← hstate]
  | acknowledged | rejected =>
    simp [hstate, MessageChange.event, MessageEnvelope.transition] at htransition

theorem MessageMoved.movedBy (hbound : WellBound old)
    (h : MessageMoved digests s s' change nowMs old new) :
    MovedBy digests s nowMs old new change := by
  cases change with
  | deliver attempt => exact h.delivered hbound
  | acknowledge actor attempt => exact h.acknowledged hbound
  | expire => exact h.expired

/-- What an edge leaves of the row. -/
theorem MovedBy.same (h : MovedBy digests s nowMs old new change) :
    new.envelope = old.envelope ∧ new.recipientLabel = old.recipientLabel ∧
      new.recipientSequence = old.recipientSequence := by
  cases h with
  | delivered _ _ _ _ hnew => exact hnew ▸ ⟨rfl, rfl, rfl⟩
  | acknowledged _ _ _ hnew => exact hnew ▸ ⟨rfl, rfl, rfl⟩
  | expired _ _ hnew => exact hnew ▸ ⟨rfl, rfl, rfl⟩

theorem MovedBy.wellBound (hbound : WellBound old) (h : MovedBy digests s nowMs old new change) :
    WellBound new := by
  cases h with
  | delivered hstate _ _ _ hnew =>
    simp only [WellBound, hstate] at hbound
    exact hnew ▸ ⟨rfl, hbound.2⟩
  | acknowledged _ hattempt _ hnew => exact hnew ▸ ⟨by rw [hattempt]; rfl, hattempt.symm⟩
  | expired hstate _ hnew =>
    have hack : old.acknowledgedInAttempt = none := by
      rcases hstate with hstate | hstate
      · simp only [WellBound, hstate] at hbound
        exact hbound.2
      · simp only [WellBound, hstate] at hbound
        exact hbound.2
    exact hnew ▸ hack

/-- A message keeps the attempt it is bound to. -/
theorem MovedBy.keepsAttempt (h : MovedBy digests s nowMs old new change)
    (hattempt : old.deliveredInAttempt = some attempt) : new.deliveredInAttempt = some attempt := by
  cases h with
  | delivered _ _ hfree _ _ => cases hfree.symm.trans hattempt
  | acknowledged _ _ _ hnew => exact hnew ▸ hattempt
  | expired _ _ hnew => exact hnew ▸ hattempt

/-- No edge leaves an acknowledged or expired message. -/
theorem MovedBy.unsettled (h : MovedBy digests s nowMs old new change) :
    ¬(old.state = .acknowledged ∨ old.state = .expired) := by
  cases h with
  | delivered hstate => simp [hstate]
  | acknowledged hstate => simp [hstate]
  | expired hstate => rcases hstate with hstate | hstate <;> simp [hstate]

theorem checkMessageAttempt_congr {acknowledge : Bool} (hattempts : s'.attempts = s.attempts)
    (hdispatches : s'.dispatches = s.dispatches) :
    s'.checkMessageAttempt digests message attempt acknowledge =
      s.checkMessageAttempt digests message attempt acknowledge := by
  unfold checkMessageAttempt loadAttempt dispatchPhase dispatchRecord
  rw [hattempts, hdispatches]

/-- The checks of an edge read the attempts and the dispatches alone. -/
theorem MovedBy.congr (h : MovedBy digests s' nowMs old new change)
    (hattempts : s'.attempts = s.attempts) (hdispatches : s'.dispatches = s.dispatches) :
    MovedBy digests s nowMs old new change := by
  cases h with
  | delivered hstate htime hfree hchecked hnew =>
    rw [checkMessageAttempt_congr hattempts hdispatches] at hchecked
    exact .delivered hstate htime hfree hchecked hnew
  | acknowledged hstate hattempt hchecked hnew =>
    rw [checkMessageAttempt_congr hattempts hdispatches] at hchecked
    exact .acknowledged hstate hattempt hchecked hnew
  | expired hstate htime hnew => exact .expired hstate htime hnew

/-! ## Operations -/

/-- The rows of the messages after a change of the messages `ids`: each is kept, or named and moved
along one edge. -/
def RowsMoved (digests : StoreDigests) (s s' : Store) (ids : List Uuid) (change : MessageChange)
    (nowMs : Nat) : Prop :=
  List.Forall₂ (fun old new => new = old ∨ old.messageId ∈ ids ∧ MovedBy digests s nowMs old new change)
    s.messages s'.messages

/-- The identifiers of the messages are unique and every row is well bound. -/
structure MessageRowsInv (s : Store) : Prop where
  unique : Table.Unique MessageRecord.messageId s.messages
  bound : ∀ message ∈ s.messages, WellBound message

section RowsMoved

variable {ids : List Uuid} {change : MessageChange} {nowMs : Nat}

theorem RowsMoved.refl (s : Store) : RowsMoved digests s s ids change nowMs :=
  forall₂_same.2 fun _ _ => .inl rfl

theorem RowsMoved.mono {ids' : List Uuid} (hsub : ids ⊆ ids')
    (h : RowsMoved digests s s' ids change nowMs) : RowsMoved digests s s' ids' change nowMs :=
  List.Forall₂.imp (fun _ _ hrow => hrow.imp_right fun hmoved => ⟨hsub hmoved.1, hmoved.2⟩) h

theorem MessageMoved.rowsMoved (hinv : MessageRowsInv s)
    (h : MessageMoved digests s s' change nowMs old new) :
    RowsMoved digests s s' [old.messageId] change nowMs := by
  have hmoved := h.movedBy (hinv.bound old (mem_of_lookup h.found))
  have hid : new.messageId = old.messageId := congrArg MessageEnvelope.messageId hmoved.same.1
  unfold RowsMoved
  rw [h.messages, put, forall₂_map_right_iff, forall₂_same]
  intro row hrow
  split_ifs with hkey
  · have hrowOld : row = old := by
      have hfound := hinv.unique.lookup_eq hrow
      rw [hkey, hid] at hfound
      exact some.inj (hfound.symm.trans h.found)
    subst hrowOld
    exact .inr ⟨mem_singleton_self _, hmoved⟩
  · exact .inl rfl

theorem RowsMoved.column {τ : Type} {f : MessageRecord → τ}
    (hf : ∀ old new, MovedBy digests s nowMs old new change → f new = f old)
    (h : RowsMoved digests s s' ids change nowMs) : s'.messages.map f = s.messages.map f := by
  refine map_of_forall₂ (fun old new hrow => ?_) h
  rcases hrow with rfl | ⟨-, hmoved⟩
  · rfl
  · exact hf old new hmoved

theorem RowsMoved.inv (hinv : MessageRowsInv s) (h : RowsMoved digests s s' ids change nowMs) :
    MessageRowsInv s' := by
  have hids : s'.messages.map messageId = s.messages.map messageId :=
    h.column fun _ _ hmoved => congrArg MessageEnvelope.messageId hmoved.same.1
  constructor
  · unfold Table.Unique
    rw [hids]
    exact hinv.unique
  · intro new hnew
    obtain ⟨old, hold, hrow⟩ := mem_of_forall₂ h hnew
    rcases hrow with rfl | ⟨-, hmoved⟩
    · exact hinv.bound new hold
    · exact hmoved.wellBound (hinv.bound old hold)

theorem RowsMoved.messagesTo (h : RowsMoved digests s s' ids change nowMs) (workflowId : Uuid)
    (label : List Char) :
    (s'.messagesTo workflowId label).map recipientSequence =
      (s.messagesTo workflowId label).map recipientSequence := by
  have hsame : ∀ old new : MessageRecord,
      (new = old ∨ old.messageId ∈ ids ∧ MovedBy digests s nowMs old new change) →
        new.envelope = old.envelope ∧ new.recipientLabel = old.recipientLabel ∧
          new.recipientSequence = old.recipientSequence := by
    rintro old new (rfl | ⟨-, hmoved⟩)
    · exact ⟨rfl, rfl, rfl⟩
    · exact hmoved.same
  refine map_of_forall₂ (fun old new hrow => (hsame old new hrow).2.2)
    (filter_of_forall₂ (fun old new hrow => ?_) (filter_of_forall₂ (fun old new hrow => ?_) h))
  · rw [(hsame old new hrow).2.1]
  · rw [(hsame old new hrow).1]

theorem changeWorkflowMessageIn_rowsMoved {commit : MessageCommit} (hinv : MessageRowsInv s)
    (h : s.changeWorkflowMessageIn digests messageId change timestamp = .ok (commit, s')) :
    RowsMoved digests s s' [messageId] change (millis timestamp) := by
  obtain ⟨old, hfound, ⟨rfl, -⟩ | ⟨_, hmoved⟩⟩ := changeWorkflowMessageIn_eq_ok h
  · exact .refl s'
  · have hid : old.messageId = messageId := key_of_lookup hfound
    exact hid ▸ hmoved.rowsMoved hinv

end RowsMoved

/-- Deliveries one after another move each row at most once: a delivered row has left `admitted`. -/
theorem RowsMoved.trans_deliver {s₁ : Store}
    (h : RowsMoved digests s s₁ ids (.deliver attempt) nowMs)
    (h' : RowsMoved digests s₁ s' ids (.deliver attempt) nowMs)
    (hattempts : s₁.attempts = s.attempts) (hdispatches : s₁.dispatches = s.dispatches) :
    RowsMoved digests s s' ids (.deliver attempt) nowMs := by
  refine forall₂_trans (fun old mid new hold hmid => ?_) h h'
  rcases hmid with rfl | ⟨hmem, hmid⟩
  · exact hold
  · have hmid' := hmid.congr hattempts hdispatches
    rcases hold with rfl | ⟨-, hold⟩
    · exact .inr ⟨hmem, hmid'⟩
    · cases hold with
      | delivered _ _ _ _ hnew =>
        cases hmid' with
        | delivered hstate _ _ _ _ =>
          subst hnew
          cases hstate

theorem deliverWorkflowMessages_rowsMoved {workflowId attempt : Uuid} {messageIds : List Uuid}
    {commits : List MessageCommit} (hinv : MessageRowsInv s)
    (h : deliverWorkflowMessages digests workflowId attempt timestamp messageIds s =
      .ok (commits, s')) :
    RowsMoved digests s s' messageIds (.deliver attempt) (millis timestamp) := by
  induction messageIds generalizing s commits with
  | nil =>
    cases h
    exact .refl s'
  | cons messageId rest ih =>
    obtain ⟨_, _, _, hchange, hrest⟩ := deliverWorkflowMessages_cons h
    have hfirst := changeWorkflowMessageIn_rowsMoved hinv hchange
    have hwrites := changeWorkflowMessageIn_writes hchange
    exact (hfirst.mono (by simp)).trans_deliver
      ((ih (hfirst.inv hinv) hrest).mono (subset_cons_self _ _))
      (hwrites .attempts (by decide)) (hwrites .dispatches (by decide))

/-- The messages an operation names, and the change it makes to them. -/
inductive Applies : StoreOp → List Uuid → MessageChange → Nat → Prop where
  | change {messageId : Uuid} {change : MessageChange} {timestamp : Timestamp} :
      Applies (.message (.change messageId change timestamp)) [messageId] change (millis timestamp)
  | deliver {workflowId attempt : Uuid} {messageIds : List Uuid} {timestamp : Timestamp} :
      Applies (.message (.deliver workflowId messageIds attempt timestamp)) messageIds
        (.deliver attempt) (millis timestamp)

/-- Only the change of one message acknowledges. -/
theorem Applies.acknowledge {attempt messageId : Uuid}
    (h : Applies op ids (.acknowledge actor attempt) nowMs) (hmem : messageId ∈ ids) :
    ∃ timestamp, op = .message (.change messageId (.acknowledge actor attempt) timestamp) := by
  cases h with
  | @change _ _ timestamp =>
    obtain rfl := mem_singleton.1 hmem
    exact ⟨timestamp, rfl⟩

/-- What an operation does to the table of messages. -/
inductive MessageEffect (digests : StoreDigests) (s s' : Store) (op : StoreOp) : Prop where
  | same (hmessages : s'.messages = s.messages)
  | inserted {message : MessageRecord} (hnew : NewMessage s s' message)
  | moved {ids : List Uuid} {change : MessageChange} {nowMs : Nat}
      (happlies : Applies op ids change nowMs) (hmoved : RowsMoved digests s s' ids change nowMs)

/-- An admission inserts its message, or finds it and leaves the table. -/
theorem admitWorkflowMessage_effect {envelope : MessageEnvelope} {timestamp : Timestamp}
    {commit : MessageCommit} (h : s.admitWorkflowMessage digests envelope timestamp = .ok (commit, s')) :
    MessageEffect digests s s' op := by
  unfold admitWorkflowMessage at h
  split at h
  · simp only [eq_ok] at h
    obtain ⟨-, -, rfl⟩ := h
    exact .same rfl
  · simp only [eq_ok] at h
    obtain ⟨_, -, -, hinsert⟩ := h
    exact .inserted (insertAdmitted_eq_ok hinsert).1

/-- What an operation on messages does to the rows. -/
theorem messageStep_effect {op : MessageOp} {response : MessageResponse} (hinv : MessageRowsInv s)
    (h : s.messageStep digests op = .ok (response, s')) :
    MessageEffect digests s s' (.message op) := by
  cases op <;>
    simp only [messageStep, changeWorkflowMessage, eq_ok] at h
  case accept envelope timestamp =>
    obtain ⟨commit, _, haccept, -, rfl⟩ := h
    exact admitWorkflowMessage_effect haccept
  case change messageId change timestamp =>
    obtain ⟨_, _, hchange, -, rfl⟩ := h
    exact .moved .change (changeWorkflowMessageIn_rowsMoved hinv hchange)
  case deliver workflowId messageIds attempt timestamp =>
    obtain ⟨_, _, hdeliver, -, rfl⟩ := h
    exact .moved .deliver (deliverWorkflowMessages_rowsMoved hinv hdeliver)
  case recordRejection workflowId messageId =>
    obtain ⟨_, hrecord, -, rfl⟩ := h
    exact .same (recordWorkflowMessageRejection_writes hrecord .messages (by decide))

/-- Supervisors, controllers and contract edits admit messages and change none. -/
theorem supervisorStep_effect {op : SupervisorOp} (h : s.supervisorStep digests op = .ok s') :
    MessageEffect digests s s' (.supervisor op) := by
  cases op <;>
    simp only [supervisorStep, reserveSupervisorRound, admitSupervisorMessage, eq_ok] at h
  case save write => exact .same (saveSupervisor_writes h .messages (by decide))
  case changeRecord workflowId change key write =>
    obtain ⟨_, hchange, hsave⟩ := h
    exact .same ((saveSupervisor_writes hsave .messages (by decide)).trans
      (changeRecord_writes hchange .messages (by decide)))
  case reserveRound admission now write =>
    obtain ⟨_, _, hreserve, hsave⟩ := h
    exact .same ((saveSupervisor_writes hsave .messages (by decide)).trans
      (reserveModelCallIn_writes hreserve .messages (by decide)))
  case admitMessage envelope timestamp =>
    obtain ⟨_, _, ⟨_, -, -, hadmit⟩, rfl⟩ := h
    exact admitWorkflowMessage_effect hadmit
  case editContract edit => exact .same (prepareContractEdit_writes h .messages (by decide))

theorem Stepped.messageEffect {response : StoreResponse} (hinv : MessageRowsInv s)
    (h : Stepped digests s s' op response) : MessageEffect digests s s' op := by
  have hwrites := h.writes
  cases h with
  | message hmessage => exact messageStep_effect hinv hmessage
  | supervisor hsupervisor => exact supervisorStep_effect hsupervisor
  | _ => exact .same (hwrites .messages (by simp [StoreOp.written]))

/-! ## The invariant -/

/-- The messages are well bound, carry the label of their recipient, and are numbered `1..n` for each
recipient in the order of their admission. -/
structure MessageInv (s : Store) : Prop extends MessageRowsInv s where
  labelled : ∀ message ∈ s.messages, message.recipientLabel = message.envelope.recipient.label
  numbered : ∀ workflowId label, ∃ n,
    (s.messagesTo workflowId label).map MessageRecord.recipientSequence = List.range' 1 n

theorem messageInv_empty (projectId : Uuid) : MessageInv (.empty projectId) where
  unique := nodup_nil
  bound := by simp [Store.empty]
  labelled := by simp [Store.empty]
  numbered _ _ := ⟨0, rfl⟩

theorem max_range'_one (n : Nat) : (range' 1 n).max?.getD 0 = n := by
  cases n with
  | zero => rfl
  | succ n =>
    have hmax : (range' 1 (n + 1)).max? = some (n + 1) := by
      rw [max?_eq_some_iff]
      refine ⟨mem_range'_1.2 (by omega), fun m hm => ?_⟩
      have := (mem_range'_1.1 hm).2
      omega
    rw [hmax, getD_some]

/-- The messages to a recipient after an admission. -/
theorem NewMessage.messagesTo (h : NewMessage s s' message) (workflowId : Uuid) (label : List Char) :
    s'.messagesTo workflowId label = s.messagesTo workflowId label ++
      if message.envelope.workflowId = workflowId ∧ message.recipientLabel = label then [message]
      else [] := by
  unfold Store.messagesTo messagesFor
  rw [h.messages, filter_append, filter_append]
  by_cases hworkflow : message.envelope.workflowId = workflowId
  · by_cases hlabel : message.recipientLabel = label <;> simp [hworkflow, hlabel]
  · simp [hworkflow]

theorem NewMessage.inv (hinv : MessageInv s) (h : NewMessage s s' message) :
    MessageInv s' := by
  refine ⟨⟨?_, ?_⟩, ?_, fun workflowId label => ?_⟩
  · rw [h.messages]
    exact hinv.unique.append h.fresh
  · rw [h.messages]
    refine forall_mem_snoc hinv.bound ?_
    simp only [WellBound, h.state]
    exact ⟨h.undelivered, h.unacknowledged⟩
  · rw [h.messages]
    exact forall_mem_snoc hinv.labelled h.label
  · obtain ⟨n, hn⟩ := hinv.numbered workflowId label
    rw [h.messagesTo]
    split_ifs with hsame
    · obtain ⟨rfl, rfl⟩ := hsame
      refine ⟨n + 1, ?_⟩
      rw [map_append, hn, map_singleton, h.sequence, hn, max_range'_one,
        range'_1_concat, Nat.add_comm 1 n]
    · exact ⟨n, by rw [append_nil, hn]⟩

theorem RowsMoved.messageInv (hinv : MessageInv s) (h : RowsMoved digests s s' ids change nowMs) :
    MessageInv s' := by
  refine ⟨h.inv hinv.toMessageRowsInv, fun new hnew => ?_, fun workflowId label => ?_⟩
  · obtain ⟨old, hold, hrow⟩ := mem_of_forall₂ h hnew
    rcases hrow with rfl | ⟨-, hmoved⟩
    · exact hinv.labelled new hold
    · rw [hmoved.same.2.1, hmoved.same.1]
      exact hinv.labelled old hold
  · rw [h.messagesTo]
    exact hinv.numbered workflowId label

/-- One step keeps the messages consistent. -/
theorem MessageEffect.inv (hinv : MessageInv s) (h : MessageEffect digests s s' op) :
    MessageInv s' := by
  cases h with
  | same hmessages =>
    refine ⟨⟨?_, ?_⟩, ?_, ?_⟩
    · exact hmessages ▸ hinv.unique
    · exact hmessages ▸ hinv.bound
    · exact hmessages ▸ hinv.labelled
    · unfold Store.messagesTo messagesFor
      rw [hmessages]
      exact hinv.numbered
  | inserted hnew => exact hnew.inv hinv
  | moved _ hmoved => exact hmoved.messageInv hinv

/-- The messages after every run. -/
theorem messageInv_final (digests : StoreDigests) (projectId : Uuid) (ops : List StoreOp) :
    MessageInv (final (storeStep digests) (.empty projectId) ops) :=
  final_invariant MessageInv (messageInv_empty projectId)
    (fun _ _ _ _ hinv h => ((storeStep_stepped h).messageEffect hinv.toMessageRowsInv).inv hinv) ops

/-! ## One message -/

/-- An operation keeps the row of a message, or names the message and moves its row along one edge. -/
theorem MessageEffect.row {old : MessageRecord} (h : MessageEffect digests s s' op)
    (hold : s.loadMessage messageId = some old) :
    ∃ new, s'.loadMessage messageId = some new ∧ (new = old ∨ ∃ ids change nowMs,
      Applies op ids change nowMs ∧ messageId ∈ ids ∧ MovedBy digests s nowMs old new change) := by
  cases h with
  | same hmessages =>
    unfold loadMessage at hold ⊢
    rw [hmessages]
    exact ⟨old, hold, .inl rfl⟩
  | inserted hnew =>
    unfold loadMessage at hold ⊢
    rw [hnew.messages]
    exact ⟨old, lookup_append_of_isSome hold _, .inl rfl⟩
  | @moved ids change nowMs happlies hmoved =>
    have hid : old.messageId = messageId := key_of_lookup hold
    have hkey : ∀ a b : MessageRecord,
        (b = a ∨ a.messageId ∈ ids ∧ MovedBy digests s nowMs a b change) →
          b.messageId = a.messageId := by
      rintro a b (rfl | ⟨-, hrow⟩)
      · rfl
      · exact congrArg MessageEnvelope.messageId hrow.same.1
    obtain ⟨new, hnew, hrow⟩ := lookup_of_forall₂ hkey hmoved hold
    refine ⟨new, hnew, hrow.imp_right fun hrow => ?_⟩
    exact ⟨ids, change, nowMs, happlies, hid ▸ hrow.1, hrow.2⟩

/-- The message is bound to the attempt, by its delivery or its acknowledgement. -/
def BoundTo (s : Store) (messageId attempt : Uuid) : Prop :=
  ∃ message, s.loadMessage messageId = some message ∧
    (message.deliveredInAttempt = some attempt ∨ message.acknowledgedInAttempt = some attempt)

/-- A message is acknowledged in no attempt but the one it was delivered in. -/
theorem WellBound.delivered_of_acknowledged (h : WellBound message)
    (hack : message.acknowledgedInAttempt = some attempt) :
    message.deliveredInAttempt = some attempt := by
  unfold WellBound at h
  split at h
  · exact absurd (h.2.symm.trans hack) (by simp)
  · exact absurd (h.2.symm.trans hack) (by simp)
  · exact h.2.symm.trans hack
  · exact absurd (h.symm.trans hack) (by simp)
  · exact h.elim

/-- The bindings of a store are those of every later one. -/
def BindingsKept (s s' : Store) : Prop :=
  ∀ messageId old attempt, s.loadMessage messageId = some old →
    old.deliveredInAttempt = some attempt →
      ∃ new, s'.loadMessage messageId = some new ∧ new.deliveredInAttempt = some attempt

theorem MessageEffect.bindingsKept (h : MessageEffect digests s s' op) :
    BindingsKept s s' := by
  intro messageId old attempt hold hattempt
  obtain ⟨new, hnew, rfl | ⟨_, _, _, -, -, hmoved⟩⟩ := h.row hold
  · exact ⟨new, hnew, hattempt⟩
  · exact ⟨new, hnew, hmoved.keepsAttempt hattempt⟩

/-- A binding of a message lasts. -/
theorem bindingsKept_final (ops : List StoreOp) (hinv : MessageInv s) :
    BindingsKept s (final (storeStep digests) s ops) := by
  refine (final_invariant (fun s' => MessageInv s' ∧ BindingsKept s s')
    ⟨hinv, fun _ old _ hold hattempt => ⟨old, hold, hattempt⟩⟩ ?_ ops).2
  rintro s₁ op response s₂ ⟨hinv₁, hkept⟩ h
  have heffect := (storeStep_stepped h).messageEffect hinv₁.toMessageRowsInv
  refine ⟨heffect.inv hinv₁, fun messageId old attempt hold hattempt => ?_⟩
  obtain ⟨mid, hmid, hmidAttempt⟩ := hkept messageId old attempt hold hattempt
  exact heffect.bindingsKept messageId mid attempt hmid hmidAttempt

/-- The checks that an accepted attempt of a worker passed. -/
theorem checkMessageAttempt_worker {acknowledge : Bool} {sessionId : Uuid}
    (hrecipient : message.envelope.recipient = .worker taskKey sessionId)
    (h : s.checkMessageAttempt digests message attempt acknowledge = .ok ()) :
    ∃ record phase, s.loadAttempt attempt = some record ∧ s.dispatchPhase attempt = some phase ∧
      record.workflowId = message.envelope.workflowId ∧ record.taskKey = taskKey ∧
      record.sessionId = sessionId ∧ record.contractId = message.envelope.contractId ∧
      record.purpose ≠ .review ∧ messagePhaseAllows message attempt acknowledge phase = true := by
  simp only [checkMessageAttempt, hrecipient, eq_ok]
    at h
  obtain ⟨record, hrecord, ⟨hworkflow, htask, hsession, hcontract, hpurpose⟩, phase, hphase, hallows⟩ := h
  exact ⟨record, phase, hrecord, hphase, hworkflow, htask, hsession, hcontract, hpurpose, hallows⟩

/-- The attempt of a worker that a message may be bound to, in the store that binds it. -/
structure WorkerAttempt (s : Store) (envelope : MessageEnvelope) (taskKey : SpecIdentifier)
    (sessionId attempt : Uuid) (phases : List DispatchPhase) : Prop where
  record : ∃ record, s.loadAttempt attempt = some record ∧
    record.workflowId = envelope.workflowId ∧ record.taskKey = taskKey ∧
    record.sessionId = sessionId ∧ record.contractId = envelope.contractId ∧ record.purpose ≠ .review
  dispatch : ∃ phase ∈ phases, s.dispatchPhase attempt = some phase

theorem MovedBy.workerAttempt_delivered {attempt sessionId : Uuid}
    (h : MovedBy digests s nowMs old new (.deliver attempt))
    (hrecipient : old.envelope.recipient = .worker taskKey sessionId) :
    WorkerAttempt s old.envelope taskKey sessionId attempt [.admitted, .running] := by
  cases h with
  | delivered _ _ hfree hchecked _ =>
    obtain ⟨record, phase, hrecord, hphase, hworkflow, htask, hsession, hcontract, hpurpose, hallows⟩ :=
      checkMessageAttempt_worker hrecipient hchecked
    refine ⟨⟨record, hrecord, hworkflow, htask, hsession, hcontract, hpurpose⟩, phase, ?_, hphase⟩
    -- a completed dispatch is allowed for a message already bound to the attempt alone
    simpa [messagePhaseAllows, hfree] using hallows

theorem MovedBy.workerAttempt_acknowledged {attempt sessionId : Uuid}
    (h : MovedBy digests s nowMs old new (.acknowledge actor attempt))
    (hrecipient : old.envelope.recipient = .worker taskKey sessionId) :
    WorkerAttempt s old.envelope taskKey sessionId attempt [.completed] := by
  cases h with
  | acknowledged _ _ hchecked _ =>
    obtain ⟨record, phase, hrecord, hphase, hworkflow, htask, hsession, hcontract, hpurpose, hallows⟩ :=
      checkMessageAttempt_worker hrecipient hchecked
    refine ⟨⟨record, hrecord, hworkflow, htask, hsession, hcontract, hpurpose⟩, phase, ?_, hphase⟩
    simpa [messagePhaseAllows] using hallows

/-- A delivery to the attempt a message is bound to, or an acknowledgement in the attempt it was
acknowledged in, writes nothing. -/
theorem changeWorkflowMessageIn_repeated {commit : MessageCommit} {old : MessageRecord}
    (hinv : MessageRowsInv s)
    (h : s.changeWorkflowMessageIn digests messageId change timestamp = .ok (commit, s'))
    (hold : s.loadMessage messageId = some old) (happlied : match change with
      | .deliver attempt => old.deliveredInAttempt = some attempt
      | .acknowledge _ attempt => old.acknowledgedInAttempt = some attempt
      | .expire => False) : s' = s := by
  obtain ⟨row, hrow, ⟨hsame, -⟩ | ⟨_, hmoved⟩⟩ := changeWorkflowMessageIn_eq_ok h
  · exact hsame
  · obtain rfl := some.inj (hrow.symm.trans hold)
    have hbound := hinv.bound row (mem_of_lookup hold)
    cases hmoved.movedBy hbound with
    | delivered _ _ hfree _ _ => cases hfree.symm.trans happlied
    | acknowledged hstate _ _ _ =>
      simp only [WellBound, hstate] at hbound
      cases hbound.2.symm.trans happlied
    | expired => exact happlied.elim

theorem deliverWorkflowMessages_repeated {workflowId attempt : Uuid} {messageIds : List Uuid}
    {commits : List MessageCommit} (hinv : MessageRowsInv s)
    (h : deliverWorkflowMessages digests workflowId attempt timestamp messageIds s = .ok (commits, s'))
    (happlied : ∀ messageId ∈ messageIds, ∃ message, s.loadMessage messageId = some message ∧
      message.deliveredInAttempt = some attempt) : s' = s := by
  induction messageIds generalizing commits with
  | nil =>
    cases h
    rfl
  | cons messageId rest ih =>
    obtain ⟨_, _, _, hchange, hrest⟩ := deliverWorkflowMessages_cons h
    obtain ⟨message, hmessage, hattempt⟩ := happlied messageId mem_cons_self
    obtain rfl := changeWorkflowMessageIn_repeated hinv hchange hmessage hattempt
    exact ih hrest fun id hid => happlied id (mem_cons_of_mem messageId hid)

theorem MessageEffect.entered {new : MessageRecord} (h : MessageEffect digests s s' op)
    (hfree : s.loadMessage messageId = none) (hnew : s'.loadMessage messageId = some new) :
    new.state = .admitted := by
  unfold loadMessage at hfree hnew
  cases h with
  | same hmessages =>
    rw [hmessages, hfree] at hnew
    cases hnew
  | @inserted message hinserted =>
    rw [hinserted.messages, Table.lookup_append, hfree, none_or] at hnew
    obtain rfl := List.mem_singleton.1 (Table.mem_of_lookup hnew)
    exact hinserted.state
  | moved _ hmoved =>
    obtain ⟨old, hold, hrow⟩ := mem_of_forall₂ hmoved (Table.mem_of_lookup hnew)
    have hid : new.messageId = messageId := key_of_lookup hnew
    have hsame : old.messageId = new.messageId := by
      rcases hrow with rfl | ⟨-, hrow⟩
      · rfl
      · exact congrArg MessageEnvelope.messageId hrow.same.1.symm
    exact absurd (hsame.trans hid) (lookup_eq_none.1 hfree old hold)

/-- What a run of the store from its first state guarantees about messages. -/
structure MessagesDisciplined (digests : StoreDigests) (projectId : Uuid) (ops : List StoreOp) :
    Prop where
  /-- The messages to a recipient carry the sequences `1..n`, in the order of their admission. -/
  numbered : ∀ workflowId recipient, ∃ n,
    ((final (storeStep digests) (.empty projectId) ops).messagesTo workflowId recipient).map
      MessageRecord.recipientSequence = List.range' 1 n
  labelled : ∀ message ∈ (final (storeStep digests) (.empty projectId) ops).messages,
    message.recipientLabel = message.envelope.recipient.label
  /-- A message enters as admitted, and its row stays with its envelope and its sequence. -/
  entered : ∀ t ∈ history (storeStep digests) (.empty projectId) ops, ∀ messageId new,
    t.pre.loadMessage messageId = none → t.post.loadMessage messageId = some new →
      new.state = .admitted
  kept : ∀ t ∈ history (storeStep digests) (.empty projectId) ops, ∀ messageId old,
    t.pre.loadMessage messageId = some old → ∃ new, t.post.loadMessage messageId = some new ∧
      new.envelope = old.envelope ∧ new.recipientLabel = old.recipientLabel ∧
      new.recipientSequence = old.recipientSequence
  boundOnce : ∀ t ∈ history (storeStep digests) (.empty projectId) ops,
    ∀ t' ∈ history (storeStep digests) (.empty projectId) ops, ∀ messageId attempt attempt',
      BoundTo t.post messageId attempt → BoundTo t'.post messageId attempt' → attempt = attempt'
  delivered : ∀ t ∈ history (storeStep digests) (.empty projectId) ops, ∀ messageId old new,
    t.pre.loadMessage messageId = some old → t.post.loadMessage messageId = some new →
      old.state ≠ .delivered → new.state = .delivered →
        ∃ ids attempt nowMs, Applies t.input ids (.deliver attempt) nowMs ∧ messageId ∈ ids ∧
          new.deliveredInAttempt = some attempt ∧ nowMs < old.envelope.expiresAtMs ∧
          ∀ taskKey sessionId, old.envelope.recipient = .worker taskKey sessionId →
            WorkerAttempt t.pre old.envelope taskKey sessionId attempt [.admitted, .running]
  acknowledged : ∀ t ∈ history (storeStep digests) (.empty projectId) ops, ∀ messageId old new,
    t.pre.loadMessage messageId = some old → t.post.loadMessage messageId = some new →
      old.state ≠ .acknowledged → new.state = .acknowledged →
        ∃ attempt timestamp,
          t.input = .message (.change messageId
            (.acknowledge old.envelope.recipient attempt) timestamp) ∧
          old.deliveredInAttempt = some attempt ∧ new.acknowledgedInAttempt = some attempt ∧
          ∀ taskKey sessionId, old.envelope.recipient = .worker taskKey sessionId →
            WorkerAttempt t.pre old.envelope taskKey sessionId attempt [.completed]
  /-- An acknowledged or expired message stays as it is. -/
  settled : ∀ t ∈ history (storeStep digests) (.empty projectId) ops, ∀ messageId old,
    t.pre.loadMessage messageId = some old → old.state = .acknowledged ∨ old.state = .expired →
      t.post.loadMessage messageId = some old
  /-- Repeating a delivery or an acknowledgement that was applied writes nothing. -/
  repeatedDelivery : ∀ t ∈ history (storeStep digests) (.empty projectId) ops,
    ∀ ids attempt nowMs, Applies t.input ids (.deliver attempt) nowMs →
      (∀ messageId ∈ ids, ∃ message, t.pre.loadMessage messageId = some message ∧
        message.deliveredInAttempt = some attempt) → t.post = t.pre
  repeatedAcknowledgement : ∀ t ∈ history (storeStep digests) (.empty projectId) ops,
    ∀ messageId actor attempt timestamp message,
      t.input = .message (.change messageId (.acknowledge actor attempt) timestamp) →
      t.pre.loadMessage messageId = some message →
      message.acknowledgedInAttempt = some attempt → t.post = t.pre

theorem boundTo_final {ops : List StoreOp} {t : Transition Store StoreOp StoreResponse}
    {projectId messageId attempt : Uuid}
    (ht : t ∈ history (storeStep digests) (.empty projectId) ops)
    (h : BoundTo t.post messageId attempt) :
    ∃ message, (final (storeStep digests) (.empty projectId) ops).loadMessage messageId = some message ∧
      message.deliveredInAttempt = some attempt := by
  obtain ⟨l₁, l₂, hsplit⟩ := append_of_mem ht
  obtain ⟨earlier, later, -, hpre, hacc, -, hfinal⟩ := history_split hsplit
  have hinvPre : MessageInv t.pre := hpre ▸ messageInv_final digests projectId earlier
  have hinv : MessageInv t.post :=
    ((storeStep_stepped hacc).messageEffect hinvPre.toMessageRowsInv).inv hinvPre
  obtain ⟨message, hmessage, hattempt⟩ := h
  have hbound := hinv.bound message (mem_of_lookup hmessage)
  rw [← hfinal]
  exact bindingsKept_final later hinv messageId message attempt hmessage
    (hattempt.elim id hbound.delivered_of_acknowledged)

/-- Every run of the store handles its messages by the rules. -/
theorem messages_disciplined (digests : StoreDigests) (projectId : Uuid) (ops : List StoreOp) :
    MessagesDisciplined digests projectId ops := by
  have hinv := messageInv_final digests projectId ops
  have hpre : ∀ t ∈ history (storeStep digests) (.empty projectId) ops, MessageInv t.pre := by
    intro t ht
    obtain ⟨earlier, hearlier⟩ := pre_of_mem ht
    exact hearlier ▸ messageInv_final digests projectId earlier
  have heffect : ∀ t ∈ history (storeStep digests) (.empty projectId) ops,
      MessageEffect digests t.pre t.post t.input := fun t ht =>
    (storeStep_stepped (accepts_of_mem ht)).messageEffect (hpre t ht).toMessageRowsInv
  refine ⟨hinv.numbered, hinv.labelled, ?_, ?_, ?_, ?_, ?_, ?_, ?_, ?_⟩
  · exact fun t ht messageId new hfree hnew => (heffect t ht).entered hfree hnew
  · intro t ht messageId old hold
    obtain ⟨new, hnew, rfl | ⟨_, _, _, -, -, hmoved⟩⟩ := (heffect t ht).row hold
    · exact ⟨new, hnew, rfl, rfl, rfl⟩
    · exact ⟨new, hnew, hmoved.same⟩
  · intro t ht t' ht' messageId attempt attempt' h h'
    obtain ⟨message, hmessage, hattempt⟩ := boundTo_final ht h
    obtain ⟨message', hmessage', hattempt'⟩ := boundTo_final ht' h'
    obtain rfl := some.inj (hmessage.symm.trans hmessage')
    exact some.inj (hattempt.symm.trans hattempt')
  · intro t ht messageId old new hold hnew hbefore hafter
    obtain ⟨row, hrow, hstep⟩ := (heffect t ht).row hold
    obtain rfl := some.inj (hrow.symm.trans hnew)
    rcases hstep with rfl | ⟨ids, change, nowMs, happlies, hmem, hmoved⟩
    · exact absurd hafter hbefore
    · cases id hmoved with
      | @delivered attempt _ htime _ _ hrecord =>
        exact ⟨ids, attempt, nowMs, happlies, hmem, hrecord ▸ rfl, htime,
          fun _ _ hrecipient => hmoved.workerAttempt_delivered hrecipient⟩
      | acknowledged _ _ _ hrecord => cases (congrArg state hrecord).trans hafter
      | expired _ _ hrecord => cases (congrArg state hrecord).trans hafter
  · intro t ht messageId old new hold hnew hbefore hafter
    obtain ⟨row, hrow, hstep⟩ := (heffect t ht).row hold
    obtain rfl := some.inj (hrow.symm.trans hnew)
    rcases hstep with rfl | ⟨ids, change, nowMs, happlies, hmem, hmoved⟩
    · exact absurd hafter hbefore
    · cases id hmoved with
      | delivered _ _ _ _ hrecord => cases (congrArg state hrecord).trans hafter
      | @acknowledged attempt _ hattempt _ hrecord =>
        obtain ⟨timestamp, hinput⟩ := happlies.acknowledge hmem
        exact ⟨attempt, timestamp, hinput, hattempt, hrecord ▸ rfl,
          fun _ _ hrecipient => hmoved.workerAttempt_acknowledged hrecipient⟩
      | expired _ _ hrecord => cases (congrArg state hrecord).trans hafter
  · intro t ht messageId old hold hsettled
    obtain ⟨_, hnew, rfl | ⟨_, _, _, -, -, hmoved⟩⟩ := (heffect t ht).row hold
    · exact hnew
    · exact absurd hsettled hmoved.unsettled
  · intro t ht ids attempt nowMs happlies happlied
    have hacc : storeStep digests t.pre t.input = .ok (t.response, t.post) := accepts_of_mem ht
    generalize t.input = op at happlies hacc
    cases happlies with
    | @change messageId change timestamp =>
      simp only [storeStep, messageStep, changeWorkflowMessage, eq_ok] at hacc
      obtain ⟨_, _, ⟨_, _, hchange, -, rfl⟩, -, hpost⟩ := hacc
      obtain ⟨message, hmessage, hattempt⟩ := happlied messageId (mem_singleton_self _)
      rw [← hpost]
      exact changeWorkflowMessageIn_repeated (hpre t ht).toMessageRowsInv hchange hmessage hattempt
    | deliver =>
      simp only [storeStep, messageStep, eq_ok] at hacc
      obtain ⟨_, _, ⟨_, _, hdeliver, -, rfl⟩, -, hpost⟩ := hacc
      rw [← hpost]
      exact deliverWorkflowMessages_repeated (hpre t ht).toMessageRowsInv hdeliver happlied
  · intro t ht messageId actor attempt timestamp message hinput hmessage hack
    have hacc : storeStep digests t.pre (.message (.change messageId (.acknowledge actor attempt)
        timestamp)) = .ok (t.response, t.post) := hinput ▸ accepts_of_mem ht
    simp only [storeStep, messageStep, changeWorkflowMessage, eq_ok] at hacc
    obtain ⟨_, _, ⟨_, _, hchange, -, rfl⟩, -, hpost⟩ := hacc
    rw [← hpost]
    exact changeWorkflowMessageIn_repeated (hpre t ht).toMessageRowsInv hchange hmessage hack

end Vibemux.Store
