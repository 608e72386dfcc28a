import Vibemux.Compiler.TaskSpec

/-!
# The workflow aggregate

A workflow is one record: its phase, its tasks with their progress, and what is left of its budgets. It
is written only with the next version, and only when it passes `validate` again.
-/

namespace Vibemux

open Checked Text SortDedup

/-- `WORKFLOW_RECORD_SCHEMA_VERSION`. -/
def workflowRecordSchemaVersion : Nat := 1

/-- `MAX_WORKFLOW_TASKS`. -/
def maxWorkflowTasks : Nat := 8

/-- What kind of run gave the evidence. -/
inductive EvidenceClass where
  | fixture
  | live
deriving DecidableEq

/-- The phases of a workflow. -/
inductive WorkflowPhase where
  | prepared
  | running
  | paused
  | integrating
  | accepted
  | failed
  | cancelRequested
  | cancelled
  | blocked
deriving DecidableEq

namespace WorkflowPhase

def asStr : WorkflowPhase → List Char
  | prepared => "prepared".toList
  | running => "running".toList
  | paused => "paused".toList
  | integrating => "integrating".toList
  | accepted => "accepted".toList
  | failed => "failed".toList
  | cancelRequested => "cancel_requested".toList
  | cancelled => "cancelled".toList
  | blocked => "blocked".toList

def isTerminal : WorkflowPhase → Bool
  | accepted | failed | cancelled => true
  | _ => false

/-- Whether new work may be admitted and results promoted. -/
def admitsWork : WorkflowPhase → Bool
  | running | integrating => true
  | _ => false

/-- The edges of the phases. `accepted` is reached from `integrating` only. -/
def canTransitionTo : WorkflowPhase → WorkflowPhase → Bool
  | prepared, running | prepared, cancelled | prepared, blocked => true
  | running, paused | running, integrating | running, failed | running, cancelRequested
  | running, blocked => true
  | paused, running | paused, cancelRequested => true
  | blocked, running | blocked, cancelRequested | blocked, failed => true
  | integrating, accepted | integrating, failed | integrating, cancelRequested
  | integrating, running => true
  | cancelRequested, cancelled => true
  | _, _ => false

end WorkflowPhase

/-- How far a task got. -/
inductive TaskProgress where
  | pending
  | running
  | candidateCollected
  | accepted
  | failed
  | blocked
deriving DecidableEq

/-- A task of a workflow. -/
structure WorkflowTask where
  taskKey : SpecIdentifier
  contractId : Sha256Digest
  contractVersion : Nat
  requiredSuites : List SpecIdentifier
  progress : TaskProgress
  turnsUsed : Nat
  repairsUsed : Nat
  maxTurns : Nat
  maxRepairs : Nat
  acceptedCandidate : Option Sha256Digest
  failureCode : Option (List Char)
deriving DecidableEq

/-- The allowances that remain; restarts and repairs never reset them. -/
structure LoopBudget where
  decisionsRemaining : Nat
  malformedRepairsRemaining : Nat
  modelRequestsRemaining : Nat
  deadlineUnixMs : Nat
deriving DecidableEq

/-- Whether texts are kept. -/
inductive ContentStoreMode where
  /-- Metadata only. -/
  | disabled
  | enabled (retentionDays : Nat)
deriving DecidableEq

/-- A workflow as it is stored. -/
structure WorkflowRecord where
  schemaVersion : Nat
  workflowId : Uuid
  requestKey : List Char
  workflowKey : SpecIdentifier
  mode : WorkflowMode
  phase : WorkflowPhase
  version : Nat
  evidenceClass : EvidenceClass
  baseCommit : List Char
  policyDigest : Sha256Digest
  verifierDigest : Sha256Digest
  integrationSuites : List SpecIdentifier
  tasks : List WorkflowTask
  budget : LoopBudget
  contentStore : ContentStoreMode
  /-- Reason code of the latest `blocked` or `failed` transition. -/
  blockedReason : Option (List Char)
  createdAtMs : Nat
  updatedAtMs : Nat
deriving DecidableEq

/-- What a workflow record refuses. -/
inductive WorkflowRecordError where
  | invalid
  | invalidTransition
  | unknownTask
  | taskBudgetExhausted
deriving DecidableEq

def WorkflowRecordError.code : WorkflowRecordError → String
  | invalid => "workflow_record_invalid"
  | invalidTransition => "workflow_invalid_transition"
  | unknownTask => "workflow_unknown_task"
  | taskBudgetExhausted => "workflow_task_budget_exhausted"

namespace WorkflowRecord

variable (self : WorkflowRecord)

def validate : Except WorkflowRecordError Unit :=
  let keys := self.tasks.map WorkflowTask.taskKey
  ensure (self.schemaVersion = workflowRecordSchemaVersion ∧ self.workflowId.isNil = false ∧
    0 < self.version ∧ self.requestKey ≠ [] ∧ byteLen self.requestKey ≤ 128 ∧
    (self.requestKey.all fun c => c.isAlphanum || c == '_' || c == '-') = true ∧
    isFullCommit self.baseCommit = true ∧ self.tasks ≠ [] ∧
    self.tasks.length ≤ maxWorkflowTasks ∧ (sortDedup keys).length = keys.length ∧
    (self.tasks.all fun task => task.turnsUsed ≤ task.maxTurns && task.repairsUsed ≤ task.maxRepairs)
      = true) .invalid

def task (taskKey : SpecIdentifier) : Option WorkflowTask :=
  self.tasks.find? fun task => task.taskKey = taskKey

/-- Replaces the first task with the key. -/
def replaceTask (taskKey : SpecIdentifier) (change : WorkflowTask → WorkflowTask) :
    List WorkflowTask → List WorkflowTask
  | [] => []
  | task :: rest =>
    if task.taskKey = taskKey then change task :: rest else task :: replaceTask taskKey change rest

/-- `task_mut`, with the change made through it. -/
def taskMut (taskKey : SpecIdentifier) (change : WorkflowTask → WorkflowTask) :
    Except WorkflowRecordError WorkflowRecord := do
  let _ ← require (self.task taskKey) .unknownTask
  return { self with tasks := replaceTask taskKey change self.tasks }

/-- The next version, with the time of the change. -/
def bumped (nowMs : Nat) : Except WorkflowRecordError WorkflowRecord := do
  let version ← require (checkedSucc u64Max self.version) .invalid
  return { self with version, updatedAtMs := max nowMs self.updatedAtMs }

/-- The next version in the phase `phase`, or why the edge is refused. -/
def withPhase (phase : WorkflowPhase) (nowMs : Nat) : Except WorkflowRecordError WorkflowRecord := do
  ensure (self.phase.canTransitionTo phase = true) .invalidTransition
  { self with phase }.bumped nowMs

/-- Charges one turn, and one repair when `repair`, to a task. -/
def chargeTurn (taskKey : SpecIdentifier) (repair : Bool) :
    Except WorkflowRecordError WorkflowRecord := do
  let task ← require (self.task taskKey) .unknownTask
  ensure (task.turnsUsed < task.maxTurns ∧ (repair = true → task.repairsUsed < task.maxRepairs))
    .taskBudgetExhausted
  self.taskMut taskKey fun task =>
    { task with
      turnsUsed := task.turnsUsed + 1
      repairsUsed := if repair then task.repairsUsed + 1 else task.repairsUsed }

end WorkflowRecord

end Vibemux
