import Vibemux.Decision.Record
import Vibemux.Lib.History

/-!
# Decisions and the dispatches they authorize

The table of decisions beside the tables of harness dispatch. A decision is consumed in the transaction
that admits the dispatch it authorizes, so the two are committed together or not at all.
-/

namespace Vibemux

open Checked Text Decision

/-- A decision in its table. -/
structure DecisionRow where
  record : Decision.DecisionRecord
  createdSequence : Nat
  updatedSequence : Nat
deriving DecidableEq

/-- The primary key of the table. -/
def DecisionRow.decisionId (row : DecisionRow) : Uuid := row.record.decisionId

/-- The unique column `consumed_request_id`. -/
def DecisionRow.consumedRequestId (row : DecisionRow) : Option Uuid :=
  row.record.consumption.map DecisionConsumption.requestId

/-- The dispatches with their decisions. -/
structure DecisionStore extends HarnessStore where
  decisions : List DecisionRow
deriving DecidableEq

/-- A recorded decision. -/
structure DecisionCommit where
  decision : DecisionRow
  event : Option Event
deriving DecidableEq

/-- A dispatch under a decision. -/
structure DecidedDispatchCommit where
  dispatch : HarnessDispatchCommit
  decision : DecisionRow
  /-- `none` when the same request is repeated. -/
  consumedEvent : Option Event
deriving DecidableEq

/-- `decision_events::idempotency_key`. -/
def decisionKey (decisionId : Uuid) (suffix : String) : List Char :=
  "decision:".toList ++ decisionId.hyphenated ++ ':' :: suffix.toList

namespace DecisionStore

variable (fingerprint : Uuid → Uuid → AgentKind → NativeProtocol → Sha256Digest → Sha256Digest →
  Sha256Digest) (s : DecisionStore)

/-- `load`: the row of a decision, checked against itself. -/
def loadDecision (decisionId : Uuid) : Except StoreError (Option DecisionRow) :=
  match Table.lookup DecisionRow.decisionId s.decisions decisionId with
  | none => .ok none
  | some row => do
    ensure (row.record.isConsistent = true ∧ row.createdSequence ≤ row.updatedSequence)
      .decisionProjectionMismatch
    return some row

def recordDecision (record : Decision.DecisionRecord) : Except StoreError (DecisionCommit × DecisionStore) := do
  record.validate.mapError .decision
  ensure (record.consumption = none) (.decision .invalidRequest)
  match ← s.loadDecision record.decisionId with
  | some stored =>
    ensure (stored.record = record) .decisionConflict
    return (⟨stored, none⟩, s)
  | none =>
    let key := decisionKey record.decisionId "recorded"
    let (sequence, events) ← insertEvent s.events key
    let row : DecisionRow := ⟨record, sequence, sequence⟩
    -- `created_sequence` is a unique column.
    ensure ((s.decisions.all fun other => other.createdSequence ≠ sequence) = true) .database
    return (⟨row, some ⟨key⟩⟩, { s with events, decisions := s.decisions ++ [row] })

/-- Consumes a decision by the dispatch that was just admitted. -/
def consumeDecision (stored : DecisionRow) (admission : HarnessDispatchAdmission) :
    Except StoreError ((DecisionRow × Event) × DecisionStore) := do
  let record ← (stored.record.markConsumed admission.requestId admission.timestamp).mapError .decision
  let key := decisionKey stored.decisionId "consumed"
  let (sequence, events) ← insertEvent s.events key
  let row : DecisionRow := { stored with record, updatedSequence := sequence }
  -- Compare-and-set on the row that the transaction loaded.
  ensure ((Table.lookup DecisionRow.decisionId s.decisions stored.decisionId).any (fun other =>
    other.record.consumption.isNone && other.updatedSequence = stored.updatedSequence) = true)
    .decisionConflict
  ensure ((s.decisions.all fun other =>
    other.decisionId = row.decisionId || other.consumedRequestId ≠ row.consumedRequestId) = true)
    .database
  return ((row, ⟨key⟩),
    { s with events, decisions := Table.put DecisionRow.decisionId s.decisions row })

/-- `admit_decided_dispatch`, with the identifiers of the new task and run. -/
def admitDecidedDispatch (decisionId : Uuid) (admission : HarnessDispatchAdmission)
    (taskId runId : Uuid) : Except StoreError (DecidedDispatchCommit × DecisionStore) := do
  let stored ← require (← s.loadDecision decisionId) (.decision .notFound)
  let binding ← (stored.record.checkDispatchable admission.requestId admission.prompt
    admission.configSha256 admission.timestamp).mapError .decision
  ensure (binding.harness = admission.harness) (.decision .harnessMismatch)
  let (dispatch, harnessStore) ← s.toHarnessStore.admitDispatchIn fingerprint admission taskId runId
  let s' : DecisionStore := { s with toHarnessStore := harnessStore }
  match binding with
  | .replay _ =>
    -- The admission was committed with the consumption, so a repeat must find it.
    ensure (dispatch.event = none) .decisionProjectionMismatch
    return (⟨dispatch, stored, none⟩, s')
  | .fresh _ =>
    -- The request was admitted earlier, without this decision.
    ensure (dispatch.event.isSome = true) (.harnessDispatch .conflict)
    let ((row, event), s') ← s'.consumeDecision stored admission
    return (⟨dispatch, row, some event⟩, s')

/-- The operations on decisions and dispatches. -/
inductive DecisionOp where
  | record (record : Decision.DecisionRecord)
  | decided (decisionId : Uuid) (admission : HarnessDispatchAdmission) (taskId runId : Uuid)
  /-- A plain admission, a claim, a finish, a cancellation or the recovery of dispatches. -/
  | dispatch (op : HarnessStore.DispatchOp)
deriving DecidableEq

/-- What an operation on decisions returns. -/
inductive DecisionResponse where
  | recorded (commit : DecisionCommit)
  | decided (commit : DecidedDispatchCommit)
  | dispatch (response : HarnessStore.DispatchResponse)
deriving DecidableEq

/-- One operation. -/
def step (s : DecisionStore) : DecisionOp → Except StoreError (DecisionResponse × DecisionStore)
  | .record record => do
    let (commit, s') ← s.recordDecision record
    return (.recorded commit, s')
  | .decided decisionId admission taskId runId => do
    let (commit, s') ← s.admitDecidedDispatch fingerprint decisionId admission taskId runId
    return (.decided commit, s')
  | .dispatch op => do
    let (response, harnessStore) ← s.toHarnessStore.dispatchStep fingerprint op
    return (.dispatch response, { s with toHarnessStore := harnessStore })

end DecisionStore

end Vibemux
