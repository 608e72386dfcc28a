import Vibemux.Lib.History
import Vibemux.Store.Acceptance
import Vibemux.Store.Supervisors

/-!
# The store as a state machine

Every operation of the store that writes a table of this model, as one step. Those on contents, prompt
policies, remote runs, plain tasks and runs, decisions and recovery are one step `peripheral`, and those
of supervisors, controllers and contract edits are kept as what they write. An operation that
fails leaves the database as it was; restart recovery commits lease by lease, so its step carries its
error in the response.
-/

namespace Vibemux

open Checked

/-- What an operation on a table outside this model may write inside it: its events, and the
projections of tasks and runs. -/
structure PeripheralWrite where
  /-- Some operations take their event from the caller. -/
  keys : List (List Char)
  tasks : List Task
  runs : List Run
deriving DecidableEq

namespace Store

/-- The database after its schema is created. -/
def empty (projectId : Uuid) : Store where
  projectId := projectId
  events := []
  tasks := []
  runs := []
  detected := []
  dispatches := []
  executions := []
  actions := []
  callOwners := []
  calls := []
  workflows := []
  contracts := []
  authorities := []
  slots := []
  leases := []
  attempts := []
  receipts := []
  messages := []

variable (s : Store)

/-- `commit_harness_snapshot`, with the harnesses its registry marks as detected. A repeated key
writes nothing. -/
def commitHarnessSnapshot (detected : List AgentKind) (key : List Char) : Except StoreError Store := do
  if hasKey s.events key then return s
  else
    let (_, s) ← s.append key
    return { s with detected }

/-- Any operation on contents, prompt policies, A2A runs, plain tasks and runs, decisions, recovery
plans, checkpoints or the rows of a controller. -/
def peripheral (write : PeripheralWrite) : Except StoreError Store := do
  let s ← appendAll write.keys s
  return { s with tasks := write.tasks, runs := write.runs }

/-- `admit_decided_dispatch`: an admission that a decision authorized, with the keys of the events
about the decision. What the decision refuses is not modelled. -/
def admitDecidedDispatch (digests : StoreDigests) (admission : HarnessDispatchAdmission)
    (taskId runId : Uuid) (keys : List (List Char)) :
    Except StoreError (HarnessDispatchCommit × Store) := do
  let (commit, s) ← s.admitDispatchIn digests admission taskId runId
  let s ← appendAll keys s
  return (commit, s)

end Store

/-- The operations on dispatches and on what their admission reads. -/
inductive HarnessOp where
  | dispatch (op : HarnessStore.DispatchOp)
  | admitDecidedDispatch (admission : HarnessDispatchAdmission) (taskId runId : Uuid)
      (keys : List (List Char))
  | commitHarnessSnapshot (detected : List AgentKind) (key : List Char)
  | peripheral (write : PeripheralWrite)
deriving DecidableEq

/-- What an operation on dispatches returns. -/
inductive HarnessResponse where
  | done
  | dispatch (response : HarnessStore.DispatchResponse)

def Store.harnessStep (s : Store) (digests : StoreDigests) :
    HarnessOp → Except StoreError (HarnessResponse × Store)
  | .dispatch op => do
    let (response, harness) ← s.toHarnessStore.dispatchStep digests.dispatch op
    return (.dispatch response, { s with toHarnessStore := harness })
  | .admitDecidedDispatch admission taskId runId keys => do
    let (commit, s) ← s.admitDecidedDispatch digests admission taskId runId keys
    return (.dispatch (.commit commit), s)
  | .commitHarnessSnapshot detected key => do
    return (.done, ← s.commitHarnessSnapshot detected key)
  | .peripheral write => do
    return (.done, ← s.peripheral write)

/-- The operations of the store. Identifiers that an operation mints are arguments. -/
inductive StoreOp where
  | harness (op : HarnessOp)
  | workflow (op : WorkflowOp)
  | lease (op : LeaseOp)
  | admitAttempt (admission : WorkflowAttemptAdmission) (taskId runId : Uuid)
  | receipt (op : ReceiptOp)
  | call (op : CallOp)
  | message (op : MessageOp)
  | supervisor (op : SupervisorOp)
deriving DecidableEq

/-- What an operation returns. -/
inductive StoreResponse where
  | harness (response : HarnessResponse)
  | workflow (response : WorkflowResponse)
  | lease (response : LeaseResponse)
  | attempt (commit : WorkflowAttemptCommit)
  | receipt (response : ReceiptResponse)
  | call (response : CallResponse)
  | message (response : MessageResponse)
  | supervisor

/-- One operation of the store. -/
def storeStep (digests : StoreDigests) (s : Store) : StoreOp → Except StoreError (StoreResponse × Store)
  | .harness op => do
    let (response, s) ← s.harnessStep digests op
    return (.harness response, s)
  | .workflow op => do
    let (response, s) ← s.workflowStep digests op
    return (.workflow response, s)
  | .lease op => do
    let (response, s) ← s.leaseStep digests op
    return (.lease response, s)
  | .admitAttempt admission taskId runId => do
    let (commit, s) ← s.admitWorkflowAttempt digests admission taskId runId
    return (.attempt commit, s)
  | .receipt op => do
    let (response, s) ← s.receiptStep digests op
    return (.receipt response, s)
  | .call op => do
    let (response, s) ← s.callStep digests op
    return (.call response, s)
  | .message op => do
    let (response, s) ← s.messageStep digests op
    return (.message response, s)
  | .supervisor op => do
    return (.supervisor, ← s.supervisorStep digests op)

end Vibemux
