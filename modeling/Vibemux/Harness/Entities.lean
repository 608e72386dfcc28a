import Vibemux.Basic
import Vibemux.Lib.Text

/-!
# Tasks and runs

The canonical task and run records. Their statuses move only along the listed edges, and a run
becomes `succeeded` only on the word of a completion authority.
-/

namespace Vibemux

open Checked Text

/-- `MAX_TITLE_BYTES`. -/
def maxTitleBytes : Nat := 512

/-- `MAX_DESCRIPTION_BYTES`. -/
def maxDescriptionBytes : Nat := 64 * 1024

/-- `MAX_NAME_BYTES`. -/
def maxNameBytes : Nat := 128

/-- `MAX_BASE_COMMIT_BYTES`. -/
def maxBaseCommitBytes : Nat := 128

/-- The states of a task entity. -/
inductive TaskStatus where
  | «open»
  | inProgress
  | blocked
  | done
  | cancelled
deriving DecidableEq

/-- The states of a run entity. -/
inductive RunStatus where
  | preparing
  | running
  | stopped
  | failed
  | succeeded
  | stale
deriving DecidableEq

/-- Who may complete a run. -/
inductive RunCompletionAuthority where
  | structuredAdapter
  | verifier
  | user
deriving DecidableEq

/-- What the entities refuse. -/
inductive DomainError where
  | invalidRequiredField (field : String) (maxBytes : Nat)
  | fieldTooLarge (field : String) (maxBytes : Nat)
  | invalidTaskTransition (source target : TaskStatus)
  | invalidRunTransition (source target : RunStatus)
  | completionAuthorityRequired
  | invalidBaseCommit
deriving DecidableEq

def TaskStatus.canTransitionTo : TaskStatus → TaskStatus → Bool
  | .open, .inProgress | .open, .cancelled => true
  | .inProgress, .blocked | .inProgress, .done | .inProgress, .cancelled => true
  | .blocked, .inProgress | .blocked, .cancelled => true
  | _, _ => false

def RunStatus.canTransitionTo : RunStatus → RunStatus → Bool
  | .preparing, .running | .preparing, .failed => true
  | .running, .stopped | .running, .failed | .running, .succeeded | .running, .stale => true
  | .stale, .stopped | .stale, .failed => true
  | _, _ => false

def validateRequired (field : String) (value : List Char) (maxBytes : Nat) :
    Except DomainError Unit :=
  ensure (trim value ≠ [] ∧ byteLen value ≤ maxBytes) (.invalidRequiredField field maxBytes)

def validateOptional (field : String) (value : List Char) (maxBytes : Nat) :
    Except DomainError Unit :=
  ensure (byteLen value ≤ maxBytes) (.fieldTooLarge field maxBytes)

/-- `u8::is_ascii_hexdigit`. -/
def isAsciiHexdigit (c : Char) : Bool :=
  c.isDigit || ('a' ≤ c && c ≤ 'f') || ('A' ≤ c && c ≤ 'F')

def validateBaseCommit (value : List Char) : Except DomainError Unit :=
  ensure (7 ≤ byteLen value ∧ byteLen value ≤ maxBaseCommitBytes ∧ value.all isAsciiHexdigit)
    .invalidBaseCommit

/-- The task entity. -/
structure Task where
  taskId : Uuid
  projectId : Uuid
  title : List Char
  description : List Char
  status : TaskStatus
deriving DecidableEq

/-- `Task::new`; the caller passes the identifier that the source mints. -/
def Task.new (taskId projectId : Uuid) (title description : List Char) : Except DomainError Task := do
  validateRequired "title" title maxTitleBytes
  validateOptional "description" description maxDescriptionBytes
  return { taskId, projectId, title, description, status := .open }

def Task.transitioned (task : Task) (target : TaskStatus) : Except DomainError Task := do
  ensure (task.status.canTransitionTo target) (.invalidTaskTransition task.status target)
  return { task with status := target }

/-- The run entity. -/
structure Run where
  runId : Uuid
  projectId : Uuid
  taskId : Uuid
  harness : List Char
  role : List Char
  protocol : List Char
  baseCommit : List Char
  status : RunStatus
deriving DecidableEq

/-- `Run::new`; the caller passes the identifier that the source mints. -/
def Run.new (runId projectId taskId : Uuid) (harness role protocol baseCommit : List Char) :
    Except DomainError Run := do
  validateRequired "harness" harness maxNameBytes
  validateRequired "role" role maxNameBytes
  validateRequired "protocol" protocol maxNameBytes
  validateBaseCommit baseCommit
  return { runId, projectId, taskId, harness, role, protocol, baseCommit, status := .preparing }

def Run.transitioned (run : Run) (target : RunStatus) (authority : Option RunCompletionAuthority) :
    Except DomainError Run := do
  ensure (run.status.canTransitionTo target) (.invalidRunTransition run.status target)
  ensure (target = .succeeded → authority.isSome) .completionAuthorityRequired
  return { run with status := target }

theorem Task.transitioned_eq_ok {task task' : Task} {target : TaskStatus} :
    task.transitioned target = .ok task' ↔
      task.status.canTransitionTo target ∧ { task with status := target } = task' := by
  simp [Task.transitioned]

theorem Run.transitioned_eq_ok {run run' : Run} {target : RunStatus}
    {authority : Option RunCompletionAuthority} :
    run.transitioned target authority = .ok run' ↔
      run.status.canTransitionTo target ∧ (target = .succeeded → authority.isSome) ∧
        { run with status := target } = run' := by
  simp [Run.transitioned]

end Vibemux
