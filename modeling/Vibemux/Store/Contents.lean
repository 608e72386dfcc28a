import Vibemux.Store.Events
import Vibemux.Workflow.CanonicalJson

/-!
# The index of stored contents

The daemon may keep texts by their digest. The store indexes them, and marks those that are deleted.
-/

namespace Vibemux

open Checked Text

/-- The kinds of stored texts. -/
inductive ContentKind where
  | request
  | renderedPrompt
  | transcript
  | bundle
  | messageBody
  | candidateFile
  | report
deriving DecidableEq

def ContentKind.asStr : ContentKind → String
  | request => "request"
  | renderedPrompt => "rendered_prompt"
  | transcript => "transcript"
  | bundle => "bundle"
  | messageBody => "message_body"
  | candidateFile => "candidate_file"
  | report => "report"

/-- Whether a text is still stored. -/
inductive ContentState where
  | present
  | deleted
deriving DecidableEq

/-- A stored text in the index. -/
structure ContentEntry where
  contentSha256 : Sha256Digest
  workflowId : Option Uuid
  kind : ContentKind
  byteCount : UInt64
  state : ContentState
  retainUntilMs : UInt64
  updatedAtMs : UInt64
deriving DecidableEq

def contentKey (digest : Sha256Digest) (rest : List Char) : List Char :=
  "workflow_content:".toList ++ digest.toHex ++ rest

def contentPresentKey (entry : ContentEntry) : List Char :=
  contentKey entry.contentSha256 (":present:".toList ++ decimal entry.updatedAtMs.toNat)

def contentDeletedKey (digest : Sha256Digest) : List Char := contentKey digest ":deleted".toList

/-- `MAX_EVENT_PAYLOAD_BYTES`. -/
def maxEventPayloadBytes : Nat := 64 * 1024

/-- The JSON payload of the event of a deletion, the one payload of these events that a caller can make
too long. -/
def contentDeletedPayload (entry : ContentEntry) (reasonCode : String) : List Char :=
  '{' :: "\"content_sha256\":\"".toList ++ entry.contentSha256.toHex ++ "\",\"kind\":".toList ++
    writeString entry.kind.asStr ++ ",\"reason_code\":".toList ++ writeString reasonCode ++
    ",\"workflow_id\":".toList ++
    (match entry.workflowId with
      | some workflowId => '"' :: workflowId.hyphenated ++ ['"']
      | none => "null".toList) ++ ['}']

/-- The index with its events. -/
structure ContentStore where
  events : List Event
  contents : List ContentEntry

/-- The operations on the index. -/
inductive ContentOp where
  | record (entry : ContentEntry)
  | delete (digest : Sha256Digest) (reasonCode : String) (timestamp : Timestamp)

namespace ContentStore

variable (s : ContentStore)

def loadContent (digest : Sha256Digest) : Option ContentEntry :=
  Table.lookup ContentEntry.contentSha256 s.contents digest

/-- `append` and `upsert_content`; the column of the count is a signed one. -/
def appendContent (key : List Char) (entry : ContentEntry) : Except StoreError ContentStore := do
  let (_, events) ← insertEvent s.events key
  ensure (entry.byteCount < 2 ^ 63) .database
  return ⟨events, Table.upsert ContentEntry.contentSha256 s.contents entry⟩

def recordWorkflowContent (entry : ContentEntry) :
    Except StoreError (Option Event × ContentStore) := do
  ensure (entry.state = .present) (.workflow "store_workflow_content_invalid")
  if ((s.loadContent entry.contentSha256).any fun existing => existing.state = .present) = true then
    return (none, s)
  else
    let s ← s.appendContent (contentPresentKey entry) entry
    return (some ⟨contentPresentKey entry⟩, s)

/-- Marks a content as deleted. The reason goes into the event, whose payload has to fit. -/
def deleteWorkflowContent (digest : Sha256Digest) (reasonCode : String) (timestamp : Timestamp) :
    Except StoreError (Option ContentEntry × ContentStore) :=
  match s.loadContent digest with
  | none => return (none, s)
  | some existing =>
    if existing.state = .deleted then
      return (some existing, s)
    else do
      let next := { existing with
        state := .deleted
        updatedAtMs := max (.ofNat (millis timestamp)) existing.updatedAtMs }
      ensure (byteLen (contentDeletedPayload existing reasonCode) ≤ maxEventPayloadBytes) .event
      let s ← s.appendContent (contentDeletedKey digest) next
      return (some next, s)

def contentStep : ContentOp → Except StoreError ((Option Event ⊕ Option ContentEntry) × ContentStore)
  | .record entry => do
    let (event, s) ← s.recordWorkflowContent entry
    return (.inl event, s)
  | .delete digest reasonCode timestamp => do
    let (entry, s) ← s.deleteWorkflowContent digest reasonCode timestamp
    return (.inr entry, s)

end ContentStore

end Vibemux
