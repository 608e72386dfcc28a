import Vibemux.Harness.Attempt
import Vibemux.Lib.Table

/-!
# The event log

Every change appends one event; a key that is already in the log makes the insert fail, and with it the
whole transaction. Keys are texts, because some operations take the key from their caller.
-/

namespace Vibemux

open Checked Text

/-- An instant, in nanoseconds since the epoch. -/
abbrev Timestamp := Int

/-- `millis`: the milliseconds of an instant as a `u64`, or zero when they do not fit. -/
def millis (timestamp : Timestamp) : Nat :=
  let value := timestamp.tdiv 1000000
  if 0 ≤ value ∧ value ≤ u64Max then value.toNat else 0

/-- What a decision refuses. -/
inductive DecisionError where
  | invalidRequest
  | notFound
  | escalated
  | expired
  | alreadyConsumed
  | harnessMismatch
  | promptMismatch
  | configChanged
  | internal
deriving DecidableEq

/-- What the records of remote runs refuse. -/
inductive A2aStateError where
  | invalidInput
  | identityMismatch
  | invalidState
deriving DecidableEq

/-- What the store fails with. -/
inductive StoreError where
  | a2aBoundProjection
  | a2aState (error : A2aStateError)
  | a2aBindingConflict
  | a2aCapacity
  | a2aIdempotencyConflict
  | a2aInvalidTransition
  | a2aNotFound
  | a2aProjectionMismatch
  | a2aVerificationRejected
  | a2aVersionConflict
  /-- A stored document does not decode. -/
  | json
  | decision (error : DecisionError)
  | decisionConflict
  | decisionProjectionMismatch
  | harnessDispatch (error : DispatchError)
  | harnessDispatchProjectionMismatch
  | harnessDispatchVersionConflict
  | harnessDispatchBoundProjection
  | workflow (code : String)
  /-- A constraint of the schema refused the statement. -/
  | database
  | event
  | invalidHarnessState (code : String)
deriving DecidableEq

/-- `MAX_IDEMPOTENCY_KEY_BYTES`. -/
def maxIdempotencyKeyBytes : Nat := 256

/-- A committed event. Its sequence is its position in the log, counted from one. -/
structure Event where
  idempotencyKey : List Char
deriving DecidableEq

/-- Whether an event with this key is in the log. -/
def hasKey (events : List Event) (key : List Char) : Bool :=
  events.any fun e => e.idempotencyKey == key

/-- `insert_event`: the new event's sequence and the longer log. -/
def insertEvent (events : List Event) (key : List Char) :
    Except StoreError (Nat × List Event) := do
  ensure (key ≠ [] ∧ byteLen key ≤ maxIdempotencyKeyBytes) .event
  ensure (hasKey events key = false) .database
  return (events.length + 1, events ++ [⟨key⟩])

end Vibemux
